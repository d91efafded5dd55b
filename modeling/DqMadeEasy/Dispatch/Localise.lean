import DqMadeEasy.Dispatch.JoinPair
import DqMadeEasy.Logic.FileTree

/-!
# Localisation of a source

The engine downloads the objects below a storage URI to a fresh temporary directory and reads the
files there. The objects are listed by their common prefix, page by page, and the rest of a key
after the prefix is the path of its file.
-/

namespace DqMadeEasy

namespace Dispatch

namespace Localise

open Worker FileTree

/-! ### Paths -/

/-- The components of a relative `Path`, which drops empty ones and single dots. -/
def parts (t : Text) : List Text := (Text.splitOn '/' t).filter fun p => p ≠ [] ∧ p ≠ ['.']

/-- `Path(t).name`. -/
def pathName (t : Text) : Text := (parts t).getLastD []

/-- `t.lstrip("/")`. -/
def lstripSlashes (t : Text) : Text := t.dropWhile (· == '/')

/-- How the local disk reads the names of a path, when it takes the given ones. -/
def naming (takes : Text → Bool) : Naming Text where
  isParent name := name == ".."
  allowed name := takes name && (name != [] && name != ['.'])

/-- A temporary directory that was just created: nothing is below it, and its own path names it. -/
structure TempDir where
  /-- The names that the disk takes. -/
  takes : Text → Bool
  base : List Text
  disk : Disk Text
  fresh : ∀ names ≠ [], disk (base ++ names) = none
  named : ∀ name ∈ base, (naming takes).isParent name = false ∧ (naming takes).allowed name = true

/-! ### The listing -/

/-- The objects of a bucket, by their keys, and the answers of `list_objects_v2` along the
continuation tokens for a prefix: every key with the prefix is on some page. -/
structure Listing (keyPrefix : Text) where
  objects : List Text
  pages : List (List Text)
  listed : ∀ key, key ∈ pages.flatten ↔ key ∈ objects ∧ keyPrefix <+: key

/-- The key of a listed object; a blank key and one that ends with a slash are skipped. -/
def keptKey (raw : Text) : Option Text :=
  let key := Text.strip raw
  if key = [] ∨ key.getLast? = some '/' then none else some key

def listKeys : List Text → List (List Text) → List Text
  | keys, [] => keys
  | keys, contents :: pages => listKeys (keys ++ contents.filterMap keptKey) pages

/-! ### The download -/

def localParts (normalizedPrefix key : Text) : List Text :=
  let rel :=
    if normalizedPrefix.isPrefixOf key then lstripSlashes (key.drop normalizedPrefix.length) else []
  if rel = [] then parts (pathName key) else parts rel

/-- The disk and the files that were written, each with its object. -/
structure Progress where
  disk : Disk Text
  written : List (Text × List Text)

/-- `mkdir` and `download_file` for one key. -/
def downloadFile (tempDir : TempDir) (objects : List Text) (normalizedPrefix : Text)
    (progress : Progress) (key : Text) : Except PyError Progress :=
  if key ∈ objects then
    match writeFile (naming tempDir.takes) progress.disk tempDir.base
        (localParts normalizedPrefix key) with
    | some (disk, path) => .ok ⟨disk, progress.written ++ [(key, path)]⟩
    | none => .error (.builtin "OSError" "mkdir or the local file failed")
  else .error (.builtin "ClientError" "Not Found")

/-- What the download returns: the files, and the path to read them from. -/
structure Localised where
  written : List (Text × List Text)
  localPath : List Text

/-- `_download_s3a_prefix_to_tempdir`, given how a prefix is listed. -/
def downloadS3aPrefixToTempdir (tempDir : TempDir) (list : (keyPrefix : Text) → Listing keyPrefix)
    (uri : Text) : Except PyError Localised := do
  let (bucket, keyPrefix) ← JoinPair.parseS3aUri uri
  let normalizedPrefix := lstripSlashes keyPrefix
  if normalizedPrefix = [] then
    executionError ("Refusing to download entire bucket for URI '" ++ uri ++
      "' (empty key prefix)") "GX_WORKER_INVALID_SOURCE_LOCATION"
  else
    let listing := list normalizedPrefix
    let keys := listKeys [] listing.pages
    if keys = [] then
      executionError ("No objects found for s3a://" ++ bucket ++ ['/'] ++ normalizedPrefix)
        "GX_WORKER_MISSING_SOURCE_LOCATION"
    else do
      let progress ← keys.foldlM (downloadFile tempDir listing.objects normalizedPrefix)
        ⟨tempDir.disk, []⟩
      if keys = [normalizedPrefix] then
        return ⟨progress.written, tempDir.base ++ parts (pathName normalizedPrefix)⟩
      else return ⟨progress.written, tempDir.base⟩

/-! ### The dataset -/

def directoryOf (keyPrefix : Text) : Text :=
  if keyPrefix.getLast? = some '/' then keyPrefix else keyPrefix ++ ['/']

def InDataset (listing : Listing keyPrefix) (key : Text) : Prop :=
  key ∈ listing.objects ∧ (key = keyPrefix ∨ directoryOf keyPrefix <+: key)

def relativeKey (keyPrefix key : Text) : List Text :=
  if key = keyPrefix then [(Text.splitOn '/' key).getLastD []]
  else Text.splitOn '/' (key.drop (directoryOf keyPrefix).length)

def datasetPaths (listing : Listing keyPrefix) : Set (List Text) :=
  {path | ∃ key, InDataset listing key ∧ relativeKey keyPrefix key = path}

/-- The files are those of the dataset, each at its relative key, and none replaced another. -/
structure Reads (tempDir : TempDir) {keyPrefix : Text} (listing : Listing keyPrefix)
    (localised : Localised) : Prop where
  written : ∀ key path, (key, path) ∈ localised.written ↔
    InDataset listing key ∧ path = tempDir.base ++ relativeKey keyPrefix key
  alone : ∀ key key' path, (key, path) ∈ localised.written → (key', path) ∈ localised.written →
    key = key'

/-- The source is missing when the dataset has no objects, and is read otherwise. -/
def ReadsDataset (tempDir : TempDir) {keyPrefix : Text} (listing : Listing keyPrefix)
    (outcome : Except PyError Localised) : Prop :=
  (∃ localised, outcome = .ok localised ∧ Reads tempDir listing localised) ∨
    ((∀ key, ¬ InDataset listing key) ∧ ∃ message,
      outcome = executionError message "GX_WORKER_MISSING_SOURCE_LOCATION")

/-- The keys of the bucket that the string operations of the download tell apart. -/
structure Separable (tempDir : TempDir) {keyPrefix : Text} (listing : Listing keyPrefix) : Prop where
  /-- A key with the same beginning is skipped unless it names an object of the dataset. -/
  siblings : ∀ raw ∈ listing.objects, keyPrefix <+: raw → ∀ key, keptKey raw = some key →
    InDataset listing key
  /-- No key of the dataset has white space around it or ends with a slash. -/
  kept : ∀ key, InDataset listing key → keptKey key = some key
  /-- The relative keys are paths of files with room for each other. -/
  roomy : Roomy (naming tempDir.takes) (datasetPaths listing)
  /-- No two objects have one relative key. -/
  apart : ∀ key key', InDataset listing key → InDataset listing key' →
    relativeKey keyPrefix key = relativeKey keyPrefix key' → key = key'

/-! ### Splitting at slashes -/

theorem lstripSlashes_of_pieces {t : Text} (h : ∀ piece ∈ Text.splitOn '/' t, piece ≠ []) :
    lstripSlashes t = t ∧ t ≠ [] := by
  cases t with
  | nil => exact absurd rfl (h [] (by simp [Text.splitOn]))
  | cons c cs =>
    have hc : c ≠ '/' := by
      rintro rfl
      exact h [] (by simp [Text.splitOn]) rfl
    exact ⟨by simp [lstripSlashes, hc], by simp⟩

theorem parts_of_pieces {t : Text}
    (h : ∀ piece ∈ Text.splitOn '/' t, piece ≠ [] ∧ piece ≠ ['.']) :
    parts t = Text.splitOn '/' t :=
  List.filter_eq_self.mpr fun piece hpiece => decide_eq_true (h piece hpiece)

theorem pathName_of_last {t : Text} (h : (Text.splitOn '/' t).getLastD [] ≠ [])
    (hdot : (Text.splitOn '/' t).getLastD [] ≠ ['.']) :
    pathName t = (Text.splitOn '/' t).getLastD [] := by
  obtain ⟨front, last, hsplit⟩ :=
    List.eq_nil_or_concat (Text.splitOn '/' t) |>.resolve_left (Text.splitOn_ne_nil _ _)
  have hlast : (Text.splitOn '/' t).getLastD [] = last := by rw [hsplit]; simp
  rw [hlast] at h hdot ⊢
  rw [pathName, parts, hsplit, List.concat_eq_append, List.filter_append]
  simp [h, hdot]

/-- For an object whose relative key is made of names, the file is at the relative key. -/
theorem localParts_eq {keyPrefix key : Text} {takes : Text → Bool}
    (hbelow : key = keyPrefix ∨ directoryOf keyPrefix <+: key)
    (hnames : ∀ name ∈ relativeKey keyPrefix key, (naming takes).allowed name = true) :
    localParts keyPrefix key = relativeKey keyPrefix key := by
  have hplain : ∀ name ∈ relativeKey keyPrefix key, name ≠ [] ∧ name ≠ ['.'] := by
    intro name hname
    have := hnames name hname
    simp only [naming, Bool.and_eq_true, bne_iff_ne] at this
    exact this.2
  by_cases hsame : key = keyPrefix
  · subst hsame
    simp only [relativeKey, if_true, List.mem_singleton, forall_eq] at hplain ⊢
    have hself : key.isPrefixOf key = true := List.isPrefixOf_iff_prefix.mpr (List.prefix_refl _)
    have hname := pathName_of_last hplain.1 hplain.2
    have hpiece : (Text.splitOn '/' key).getLastD [] ∈ Text.splitOn '/' key := by
      rw [List.getLastD_eq_getLast?, List.getLast?_eq_getLast_of_ne_nil (Text.splitOn_ne_nil _ _)]
      exact List.getLast_mem _
    have hsplit := Text.splitOn_of_not_mem (Text.not_mem_of_mem_splitOn hpiece)
    rw [localParts, hself, if_pos rfl, List.drop_length]
    rw [show lstripSlashes [] = [] from rfl, if_pos rfl, hname, parts_of_pieces, hsplit]
    rw [hsplit]
    simpa using hplain
  · rw [relativeKey, if_neg hsame] at hplain ⊢
    obtain ⟨rest, rfl⟩ := hbelow.resolve_left hsame
    rw [List.drop_left] at hplain ⊢
    obtain ⟨hstrip, hne⟩ := lstripSlashes_of_pieces fun piece hpiece => (hplain piece hpiece).1
    have hprefix : keyPrefix.isPrefixOf (directoryOf keyPrefix ++ rest) = true := by
      rw [List.isPrefixOf_iff_prefix, directoryOf]
      split
      · exact List.prefix_append _ _
      · rw [List.append_assoc]
        exact List.prefix_append _ _
    have hrel : lstripSlashes ((directoryOf keyPrefix ++ rest).drop keyPrefix.length) = rest := by
      rw [directoryOf]
      split
      · rw [List.drop_left, hstrip]
      · rw [List.append_assoc, List.drop_left]
        exact hstrip
    rw [localParts, hprefix, if_pos rfl, hrel, if_neg hne, parts_of_pieces hplain]

/-! ### The listing loop -/

theorem listKeys_eq (keys : List Text) (pages : List (List Text)) :
    listKeys keys pages = keys ++ pages.flatten.filterMap keptKey := by
  induction pages generalizing keys with
  | nil => simp [listKeys]
  | cons contents pages ih =>
    rw [listKeys, ih, List.flatten_cons, List.filterMap_append, List.append_assoc]

theorem keptKey_of_keptKey {raw key : Text} (h : keptKey raw = some key) :
    keptKey key = some key := by
  have hkey : Text.strip raw = key ∧ ¬ (Text.strip raw = [] ∨ (Text.strip raw).getLast? = some '/')
      := by
    unfold keptKey at h
    dsimp only at h
    split at h
    · cases h
    · next hkeeps => exact ⟨Option.some.inj h, hkeeps⟩
  obtain ⟨rfl, hkeeps⟩ := hkey
  rw [keptKey, Text.strip_strip]
  exact if_neg hkeeps

variable {tempDir : TempDir} {keyPrefix : Text} {listing : Listing keyPrefix}

theorem mem_listKeys {key : Text} :
    key ∈ listKeys [] listing.pages ↔
      ∃ raw ∈ listing.objects, keyPrefix <+: raw ∧ keptKey raw = some key := by
  rw [listKeys_eq, List.nil_append, List.mem_filterMap]
  constructor
  · rintro ⟨raw, hraw, hkey⟩
    obtain ⟨hobject, hprefix⟩ := (listing.listed raw).mp hraw
    exact ⟨raw, hobject, hprefix, hkey⟩
  · rintro ⟨raw, hobject, hprefix, hkey⟩
    exact ⟨raw, (listing.listed raw).mpr ⟨hobject, hprefix⟩, hkey⟩

theorem InDataset.hasPrefix {key : Text} (h : InDataset listing key) : keyPrefix <+: key := by
  rcases h.2 with rfl | hbelow
  · exact List.prefix_refl _
  · refine List.IsPrefix.trans ?_ hbelow
    rw [directoryOf]
    split
    · exact List.prefix_refl _
    · exact List.prefix_append _ _

/-! ### The download loop -/

/-- One turn of the loop. -/
theorem downloadFile_ok {objects : List Text} {progress progress' : Progress} {key : Text}
    (h : downloadFile tempDir objects keyPrefix progress key = .ok progress') :
    key ∈ objects ∧ ∃ path, progress'.written = progress.written ++ [(key, path)] ∧
      writeFile (naming tempDir.takes) progress.disk tempDir.base (localParts keyPrefix key) =
        some (progress'.disk, path) := by
  unfold downloadFile at h
  split at h
  · next hkey =>
    split at h
    · next disk path hwrite =>
      cases h
      exact ⟨hkey, path, rfl, hwrite⟩
    · cases h
  · cases h

/-- What is known of a written file at the end. -/
structure WrittenFile (tempDir : TempDir) (keyPrefix : Text) (disk : Disk Text) (key : Text)
    (path : List Text) : Prop where
  file : disk path = some .file
  named : Named (naming tempDir.takes) tempDir.base path
  below : (∀ name ∈ localParts keyPrefix key, (naming tempDir.takes).isParent name = false) →
    path = tempDir.base ++ localParts keyPrefix key ∧
      ∀ passed, passed <+: localParts keyPrefix key → passed ≠ [] →
        passed ≠ localParts keyPrefix key → disk (tempDir.base ++ passed) = some .directory

theorem WrittenFile.grows {disk disk' : Disk Text} {key : Text} {path : List Text}
    (h : WrittenFile tempDir keyPrefix disk key path) (hgrows : Grows disk disk') :
    WrittenFile tempDir keyPrefix disk' key path where
  file := hgrows _ _ h.file
  named := h.named
  below hplain := ⟨(h.below hplain).1, fun passed hpassed hne hproper =>
    hgrows _ _ ((h.below hplain).2 passed hpassed hne hproper)⟩

/-- The whole loop: every key was an object and has its file, and there are no other files. -/
theorem downloads_ok {objects keys : List Text} {progress progress' : Progress}
    (h : keys.foldlM (downloadFile tempDir objects keyPrefix) progress = .ok progress') :
    ∃ files : List (Text × List Text), progress'.written = progress.written ++ files ∧
      files.map Prod.fst = keys ∧ Grows progress.disk progress'.disk ∧
      ∀ key path, (key, path) ∈ files → key ∈ objects ∧
        WrittenFile tempDir keyPrefix progress'.disk key path := by
  induction keys generalizing progress with
  | nil =>
    cases h
    exact ⟨[], (List.append_nil _).symm, rfl, .refl _, fun _ _ h => absurd h List.not_mem_nil⟩
  | cons key keys ih =>
    rw [List.foldlM_cons] at h
    obtain ⟨next, hnext, hrest⟩ := ok_of_bind h
    obtain ⟨hobject, path, hwritten, hwrite⟩ := downloadFile_ok hnext
    obtain ⟨hgrows, hfile, hnamed⟩ := writeFile_eq_some hwrite
    obtain ⟨files, hfiles, hkeys, hgrowsRest, hall⟩ := ih hrest
    refine ⟨(key, path) :: files, ?_, by rw [List.map_cons, hkeys], hgrows.trans hgrowsRest, ?_⟩
    · rw [hfiles, hwritten, List.append_assoc]
      rfl
    · intro other otherPath hmem
      rcases List.mem_cons.mp hmem with heq | hmem
      · cases heq
        exact ⟨hobject, .grows ⟨hfile, hnamed, fun hplain => writeFile_below hplain hwrite⟩
          hgrowsRest⟩
      · exact hall other otherPath hmem

theorem Separable.localParts (h : Separable tempDir listing) {key : Text}
    (hkey : InDataset listing key) : localParts keyPrefix key = relativeKey keyPrefix key :=
  localParts_eq hkey.2 fun name hname => (h.roomy.plain _ ⟨key, hkey, rfl⟩ name hname).2

/-- Objects of a separable dataset are downloaded, each to its relative key. -/
theorem Separable.downloads (h : Separable tempDir listing) {keys : List Text}
    (hkeys : ∀ key ∈ keys, InDataset listing key) {progress : Progress}
    (htidy : FileTree.Tidy tempDir.base (datasetPaths listing) progress.disk) :
    ∃ progress', keys.foldlM (downloadFile tempDir listing.objects keyPrefix) progress =
        .ok progress' ∧
      progress'.written = progress.written ++
        keys.map fun key => (key, tempDir.base ++ relativeKey keyPrefix key) := by
  induction keys generalizing progress with
  | nil => exact ⟨progress, rfl, (List.append_nil _).symm⟩
  | cons key keys ih =>
    have hkey := hkeys key List.mem_cons_self
    have hpath : relativeKey keyPrefix key ∈ datasetPaths listing := ⟨key, hkey, rfl⟩
    obtain ⟨disk, hwrite, hnext⟩ := htidy.writeFile h.roomy hpath
    have hrest : FileTree.Tidy tempDir.base (datasetPaths listing) (Progress.mk disk
        (progress.written ++ [(key, tempDir.base ++ relativeKey keyPrefix key)])).disk := hnext
    obtain ⟨progress', hrun, hwritten⟩ := ih
      (fun other hother => hkeys other (List.mem_cons_of_mem _ hother)) hrest
    refine ⟨progress', ?_, ?_⟩
    · rw [List.foldlM_cons, downloadFile, if_pos hkey.1, h.localParts hkey, hwrite]
      exact hrun
    · rw [hwritten, List.append_assoc]
      rfl

theorem tidy_tempDir (paths : Set (List Text)) : FileTree.Tidy tempDir.base paths tempDir.disk := by
  constructor
  · intro names hne hentry
    rw [tempDir.fresh names hne] at hentry
    cases hentry
  · intro names hne hentry
    rw [tempDir.fresh names hne] at hentry
    cases hentry

/-! ### The law -/

section Law

variable {list : (keyPrefix : Text) → Listing keyPrefix} {uri bucket rest : Text}

theorem download_of_nil (huri : JoinPair.parseS3aUri uri = .ok (bucket, rest))
    (hne : lstripSlashes rest ≠ [])
    (hkeys : listKeys [] (list (lstripSlashes rest)).pages = []) :
    downloadS3aPrefixToTempdir tempDir list uri =
      executionError ("No objects found for s3a://" ++ bucket ++ ['/'] ++
        lstripSlashes rest) "GX_WORKER_MISSING_SOURCE_LOCATION" := by
  rw [downloadS3aPrefixToTempdir, huri, ok_bind]
  simp only [if_neg hne, hkeys, if_true]

/-- No download fails like a missing source. -/
theorem download_error_ne {objects keys : List Text} {progress : Progress}
    {finish : Progress → Localised} {message : Text} :
    (keys.foldlM (downloadFile tempDir objects keyPrefix) progress).map finish ≠
      executionError message "GX_WORKER_MISSING_SOURCE_LOCATION" := by
  induction keys generalizing progress with
  | nil => exact fun h => by cases h
  | cons key keys ih =>
    rw [List.foldlM_cons]
    cases hnext : downloadFile tempDir objects keyPrefix progress key with
    | ok next => exact ih
    | error exc =>
      have hexc : exc.failure = none := by
        unfold downloadFile at hnext
        split at hnext
        · split at hnext
          · cases hnext
          · cases hnext
            rfl
        · cases hnext
          rfl
      intro h
      have hsame : exc = PyError.execution (String.ofList message)
        "GX_WORKER_MISSING_SOURCE_LOCATION" none none := Except.error.inj h
      rw [hsame] at hexc
      cases hexc

/-- The download of listed keys. -/
theorem download_of_keys (huri : JoinPair.parseS3aUri uri = .ok (bucket, rest))
    (hne : lstripSlashes rest ≠ [])
    (hkeys : listKeys [] (list (lstripSlashes rest)).pages ≠ []) :
    downloadS3aPrefixToTempdir tempDir list uri =
      ((listKeys [] (list (lstripSlashes rest)).pages).foldlM
        (downloadFile tempDir (list (lstripSlashes rest)).objects (lstripSlashes rest))
        ⟨tempDir.disk, []⟩).map fun progress =>
          if listKeys [] (list (lstripSlashes rest)).pages = [lstripSlashes rest] then
            ⟨progress.written, tempDir.base ++ parts (pathName (lstripSlashes rest))⟩
          else ⟨progress.written, tempDir.base⟩ := by
  rw [downloadS3aPrefixToTempdir, huri, ok_bind]
  simp only [if_neg hne, if_neg hkeys]
  cases (listKeys [] (list (lstripSlashes rest)).pages).foldlM
    (downloadFile tempDir (list (lstripSlashes rest)).objects (lstripSlashes rest))
    ⟨tempDir.disk, []⟩ with
  | error exc => rfl
  | ok progress =>
    rw [ok_bind, Except.map]
    split <;> rfl

/-- A separable dataset is read. -/
theorem Separable.readsDataset (h : Separable tempDir (list (lstripSlashes rest)))
    (huri : JoinPair.parseS3aUri uri = .ok (bucket, rest)) (hne : lstripSlashes rest ≠ []) :
    ReadsDataset tempDir (list (lstripSlashes rest))
      (downloadS3aPrefixToTempdir tempDir list uri) := by
  have hmem : ∀ key, key ∈ listKeys [] (list (lstripSlashes rest)).pages ↔
      InDataset (list (lstripSlashes rest)) key := by
    intro key
    rw [mem_listKeys]
    constructor
    · rintro ⟨raw, hobject, hprefix, hkey⟩
      exact h.siblings raw hobject hprefix key hkey
    · intro hkey
      exact ⟨key, hkey.1, hkey.hasPrefix, h.kept key hkey⟩
  by_cases hkeys : listKeys [] (list (lstripSlashes rest)).pages = []
  · refine .inr ⟨fun key hkey => ?_, _, download_of_nil huri hne hkeys⟩
    rw [← hmem, hkeys] at hkey
    exact absurd hkey List.not_mem_nil
  · have htidy : FileTree.Tidy tempDir.base (datasetPaths (list (lstripSlashes rest)))
        (Progress.mk tempDir.disk []).disk := tidy_tempDir _
    obtain ⟨progress, hrun, hwritten⟩ := h.downloads (fun key hkey => (hmem key).mp hkey) htidy
    have hfile : ∀ key path, (key, path) ∈ progress.written ↔
        InDataset (list (lstripSlashes rest)) key ∧
          path = tempDir.base ++ relativeKey (lstripSlashes rest) key := by
      intro key path
      rw [hwritten, List.nil_append, List.mem_map]
      constructor
      · rintro ⟨other, hother, heq⟩
        cases heq
        exact ⟨(hmem key).mp hother, rfl⟩
      · rintro ⟨hkey, rfl⟩
        exact ⟨key, (hmem key).mpr hkey, rfl⟩
    have hlocalised : ∃ localised, downloadS3aPrefixToTempdir tempDir list uri = .ok localised ∧
        localised.written = progress.written := by
      rw [download_of_keys huri hne hkeys, hrun]
      exact ⟨_, rfl, by split <;> rfl⟩
    obtain ⟨localised, hok, hsame⟩ := hlocalised
    refine .inl ⟨localised, hok, ?_, ?_⟩
    · rw [hsame]
      exact hfile
    · rw [hsame]
      intro key key' path hkey hkey'
      obtain ⟨hdataset, rfl⟩ := (hfile key path).mp hkey
      obtain ⟨hdataset', hpath⟩ := (hfile key' _).mp hkey'
      exact h.apart key key' hdataset hdataset' (List.append_cancel_left hpath)

/-- A dataset that is read is separable: what was written tells the objects apart. -/
theorem Reads.separable {localised : Localised} {progress : Progress}
    (h : Reads tempDir (list keyPrefix) localised) (hsame : localised.written = progress.written)
    (hrun : (listKeys [] (list keyPrefix).pages).foldlM
      (downloadFile tempDir (list keyPrefix).objects keyPrefix) ⟨tempDir.disk, []⟩ =
        .ok progress) : Separable tempDir (list keyPrefix) := by
  obtain ⟨files, hfiles, hkeys, -, hall⟩ := downloads_ok hrun
  rw [List.nil_append] at hfiles
  rw [← hsame] at hfiles
  have hwritten : ∀ key path, (key, path) ∈ files ↔
      InDataset (list keyPrefix) key ∧ path = tempDir.base ++ relativeKey keyPrefix key := by
    rw [← hfiles]
    exact h.written
  have hfile : ∀ key, InDataset (list keyPrefix) key →
      WrittenFile tempDir keyPrefix progress.disk key
        (tempDir.base ++ relativeKey keyPrefix key) :=
    fun key hkey => (hall key _ ((hwritten key _).mpr ⟨hkey, rfl⟩)).2
  have hplain : ∀ key, InDataset (list keyPrefix) key → ∀ name ∈ relativeKey keyPrefix key,
      (naming tempDir.takes).isParent name = false ∧ (naming tempDir.takes).allowed name = true := by
    intro key hkey name hname
    exact ((hfile key hkey).named name (List.mem_append_right _ hname)).elim
      (tempDir.named name) id
  have hparts : ∀ key, InDataset (list keyPrefix) key →
      localParts keyPrefix key = relativeKey keyPrefix key :=
    fun key hkey => localParts_eq hkey.2 fun name hname => (hplain key hkey name hname).2
  constructor
  · intro raw hobject hprefix key hkey
    have hlisted : key ∈ files.map Prod.fst := by
      rw [hkeys]
      exact mem_listKeys.mpr ⟨raw, hobject, hprefix, hkey⟩
    obtain ⟨⟨other, path⟩, hmem, rfl⟩ := List.mem_map.mp hlisted
    exact ((hwritten other path).mp hmem).1
  · intro key hkey
    have hlisted : key ∈ listKeys [] (list keyPrefix).pages := by
      rw [← hkeys]
      exact List.mem_map_of_mem ((hwritten key _).mpr ⟨hkey, rfl⟩)
    obtain ⟨raw, -, -, hraw⟩ := mem_listKeys.mp hlisted
    exact keptKey_of_keptKey hraw
  · constructor
    · rintro path ⟨key, hkey, rfl⟩
      rw [relativeKey]
      split
      · exact List.cons_ne_nil _ _
      · exact Text.splitOn_ne_nil _ _
    · rintro path ⟨key, hkey, rfl⟩
      exact hplain key hkey
    · rintro path ⟨key, hkey, rfl⟩ other ⟨key', hkey', rfl⟩ hprefix
      have hbelow := (hfile key' hkey').below (by
        rw [hparts key' hkey']
        exact fun name hname => (hplain key' hkey' name hname).1)
      rw [hparts key' hkey'] at hbelow
      refine eq_of_prefix (hfile key hkey).file hbelow.2 ?_ hprefix
      rw [relativeKey]
      split
      · exact List.cons_ne_nil _ _
      · exact Text.splitOn_ne_nil _ _
  · intro key key' hkey hkey' hpaths
    exact h.alone key key' _ ((h.written key _).mpr ⟨hkey, rfl⟩)
      ((h.written key' _).mpr ⟨hkey', by rw [hpaths]⟩)

/-- The download reads exactly the dataset if and only if the keys of the bucket are separable. -/
theorem localisation_reads_dataset_iff (tempDir : TempDir)
    (list : (keyPrefix : Text) → Listing keyPrefix)
    (huri : JoinPair.parseS3aUri uri = .ok (bucket, rest)) (hne : lstripSlashes rest ≠ []) :
    ReadsDataset tempDir (list (lstripSlashes rest))
        (downloadS3aPrefixToTempdir tempDir list uri) ↔
      Separable tempDir (list (lstripSlashes rest)) := by
  refine ⟨?_, fun h => h.readsDataset huri hne⟩
  rintro (⟨localised, hok, hreads⟩ | ⟨hempty, message, herror⟩)
  · by_cases hkeys : listKeys [] (list (lstripSlashes rest)).pages = []
    · rw [download_of_nil huri hne hkeys] at hok
      cases hok
    · rw [download_of_keys huri hne hkeys] at hok
      obtain ⟨progress, hrun, hlocalised⟩ := ok_of_map hok
      refine hreads.separable ?_ hrun
      rw [← hlocalised]
      split <;> rfl
  · have hkeys : listKeys [] (list (lstripSlashes rest)).pages = [] := by
      by_contra hkeys
      rw [download_of_keys huri hne hkeys] at herror
      exact download_error_ne herror
    constructor
    · intro raw hobject hprefix key hkey
      have hmem := mem_listKeys.mpr ⟨raw, hobject, hprefix, hkey⟩
      rw [hkeys] at hmem
      exact absurd hmem List.not_mem_nil
    · exact fun key hkey => absurd hkey (hempty key)
    · exact ⟨fun _ ⟨key, hkey, _⟩ => absurd hkey (hempty key),
        fun _ ⟨key, hkey, _⟩ => absurd hkey (hempty key),
        fun _ ⟨key, hkey, _⟩ => absurd hkey (hempty key)⟩
    · exact fun key _ hkey => absurd hkey (hempty key)

end Law

section Example

def onePage (objects : List Text) (keyPrefix : Text) : Listing keyPrefix where
  objects := objects
  pages := [objects.filter keyPrefix.isPrefixOf]
  listed key := by simp

/-- A new temporary directory. -/
def sampleTempDir : TempDir where
  takes _ := true
  base := ["tmp", "dq-gx-source"]
  disk path :=
    if path.isPrefixOf ["tmp", "dq-gx-source"] then some .directory else none
  fresh names hne := by
    cases names with
    | nil => exact absurd rfl hne
    | cons name names => simp [List.isPrefixOf]
  named := by decide

def ordersUri : Text := "s3a://lake/orders"

def orders : List Text := ["orders/a", "orders/b"].map String.toList

/-- The files of orders, and those of a dataset whose name starts alike. -/
def ordersAndOld : List Text := ["orders/a", "orders/b", "orders_old/a"].map String.toList

theorem localisation_reads_orders :
    ReadsDataset sampleTempDir (onePage orders "orders")
      (downloadS3aPrefixToTempdir sampleTempDir (onePage orders) ordersUri) := by
  have hparse : JoinPair.parseS3aUri ordersUri = .ok ("lake", "orders") := rfl
  have hstrip : lstripSlashes "orders" = "orders" := rfl
  have hiff := localisation_reads_dataset_iff sampleTempDir (onePage orders) hparse
    (by rw [hstrip]; decide)
  rw [hstrip] at hiff
  refine hiff.mpr ?_
  have hdataset : ∀ key ∈ orders, InDataset (onePage orders "orders") key :=
    fun key hkey => ⟨hkey, .inr (by
      rcases List.mem_pair.mp hkey with rfl | rfl
      · exact ⟨['a'], rfl⟩
      · exact ⟨['b'], rfl⟩)⟩
  have hkept : ∀ key ∈ orders, keptKey key = some key := by decide +kernel
  have hplain : ∀ key ∈ orders, ∀ name ∈ relativeKey "orders" key,
      (naming sampleTempDir.takes).isParent name = false ∧
        (naming sampleTempDir.takes).allowed name = true := by decide +kernel
  have hfree : ∀ key ∈ orders, ∀ key' ∈ orders,
      relativeKey "orders" key <+: relativeKey "orders" key' → key = key' := by
    decide +kernel
  have horders : ∀ key, InDataset (onePage orders "orders") key → key ∈ orders :=
    fun key hkey => hkey.1
  constructor
  · intro raw hraw _ key hkey
    rw [hkept raw hraw, Option.some.injEq] at hkey
    exact hkey ▸ hdataset raw hraw
  · exact fun key hkey => hkept key (horders key hkey)
  · constructor
    · rintro path ⟨key, hkey, rfl⟩
      rw [relativeKey]
      split
      · exact List.cons_ne_nil _ _
      · exact Text.splitOn_ne_nil _ _
    · rintro path ⟨key, hkey, rfl⟩
      exact hplain key (horders key hkey)
    · rintro path ⟨key, hkey, rfl⟩ other ⟨key', hkey', rfl⟩ hprefix
      rw [hfree key (horders key hkey) key' (horders key' hkey') hprefix]
  · intro key key' hkey hkey' hsame
    exact hfree key (horders key hkey) key' (horders key' hkey') (hsame ▸ List.prefix_refl _)

/-- The file of a sibling prefix is downloaded with the dataset. -/
theorem localisation_reads_sibling :
    (downloadS3aPrefixToTempdir sampleTempDir (onePage ordersAndOld) ordersUri).map
        (fun localised => localised.written.map fun file => file.1) =
      .ok (["orders/a", "orders/b", "orders_old/a"].map String.toList) ∧
    ¬ ReadsDataset sampleTempDir (onePage ordersAndOld "orders".toList)
      (downloadS3aPrefixToTempdir sampleTempDir (onePage ordersAndOld) ordersUri) := by
  have hrun : ∃ localised,
      downloadS3aPrefixToTempdir sampleTempDir (onePage ordersAndOld) ordersUri = .ok localised ∧
      localised.written.map (fun file => file.1) =
        ["orders/a", "orders/b", "orders_old/a"].map String.toList := ⟨_, rfl, rfl⟩
  obtain ⟨localised, hok, hkeys⟩ := hrun
  rw [hok]
  refine ⟨congrArg Except.ok hkeys, ?_⟩
  rintro (⟨other, hsame, hreads⟩ | ⟨-, message, hsame⟩)
  · cases hsame
    have hmem : "orders_old/a".toList ∈ localised.written.map fun file => file.1 := by
      rw [hkeys]
      decide
    obtain ⟨⟨key, path⟩, hfile, hkey⟩ := List.mem_map.mp hmem
    have hbelow := ((hreads.written key path).mp hfile).1.2
    rw [show key = "orders_old/a".toList from hkey] at hbelow
    revert hbelow
    decide +kernel
  · cases hsame

end Example

end Localise

end Dispatch

end DqMadeEasy
