import DqMadeEasy.Dispatch.Localise
import DqMadeEasy.Logic.Grouping
import DqMadeEasy.Logic.Sweep
import DqMadeEasy.Runs.ResultEvent

/-!
# Uploading a dataset

A worker writes a dataset to a local directory and uploads it below a prefix of a bucket, after it
deleted what the prefix lists. The listing is by the characters of the keys, so it also holds the
objects of every sibling whose name begins with that of the dataset.
-/

namespace DqMadeEasy

namespace Materialization

open Dispatch.Localise Runs Worker

/-! ### Locations -/

def normalizeS3Uri (uri : Text) : Text :=
  let raw := Text.strip uri
  if "s3://".toList.isPrefixOf raw then "s3a://" ++ raw.drop 5 else raw

def parseS3aUri (uri : Text) : Except PyError (Text × Text) :=
  let uri := normalizeS3Uri uri
  if "s3a://".toList.isPrefixOf uri then
    let remainder := uri.drop 6
    .ok (remainder.takeWhile (· ≠ '/'), (remainder.dropWhile (· ≠ '/')).drop 1)
  else
    .error (.mk .exception "builtins" "RuntimeError"
      ("Unsupported output_uri scheme: " ++ uri) none none)

/-! ### The bucket -/

section Bucket

variable {Content : Type}

/-- The objects of a bucket by their keys. -/
abbrev Bucket (Content : Type) := List (Text × Content)

/-- How a service splits its listings: the sizes of the pages, request by request, and the tokens
that a listing is continued with, which are texts without white space around them. -/
structure S3Paging where
  pageSize : ℕ → ℕ
  pageSize_pos : ∀ request, 0 < pageSize request
  tokenOf : Text → Text
  keyOf : Text → Option Text
  keyOf_tokenOf : ∀ key, keyOf (tokenOf key) = some key
  nonBlank_tokenOf : ∀ key, nonBlank (tokenOf key) = some (tokenOf key)

/-- The answer of `list_objects_v2`. -/
structure ListResponse where
  contents : List Text
  isTruncated : Bool
  nextContinuationToken : Option Text

def hasPrefix (keyPrefix key : Text) : Bool := decide (keyPrefix <+: key)

/-- `list_objects_v2`: the keys with the prefix after the last one of the page before. -/
def listObjectsV2 (paging : S3Paging) (request : ℕ) (bucket : Bucket Content) (keyPrefix : Text)
    (continuationToken : Option Text) : ListResponse :=
  let remaining :=
    Sweep.remaining (hasPrefix keyPrefix) (continuationToken.bind paging.keyOf) bucket
  let contents := remaining.take (paging.pageSize request)
  { contents := contents
    isTruncated := decide (paging.pageSize request < remaining.length)
    nextContinuationToken := contents.getLast?.map paging.tokenOf }

def deleteObjects (keys : List Text) (bucket : Bucket Content) : Bucket Content :=
  Drain.eraseKeys keys bucket

/-- The deletion of what a page shows; an empty key is left out. -/
def deleteContents (contents : List Text) (bucket : Bucket Content) : Bucket Content :=
  if contents = [] then bucket else deleteObjects (contents.filter fun key => key ≠ []) bucket

/-- The loop that deletes what a prefix lists, with fuel. -/
def deleteListed (paging : S3Paging) (keyPrefix : Text) :
    ℕ → ℕ → Option Text → Bucket Content → Option (Bucket Content)
  | 0, _, _, _ => none
  | fuel + 1, request, continuationToken, bucket =>
    let response := listObjectsV2 paging request bucket keyPrefix continuationToken
    let bucket := deleteContents response.contents bucket
    if response.isTruncated then
      deleteListed paging keyPrefix fuel (request + 1)
        (nonBlank (response.nextContinuationToken.getD [])) bucket
    else some bucket

/-! ### The upload -/

/-- A file below the local directory, with the names of its path from there. -/
structure LocalFile (Content : Type) where
  path : List Text
  content : Content

namespace LocalFile

/-- `path.relative_to(base).as_posix()`. -/
def relative (file : LocalFile Content) : Text := Text.join ['/'] file.path

def visible (file : LocalFile Content) : Bool := file.path.all fun part => part.head? ≠ some '.'

def key (normalizedPrefix : Text) (file : LocalFile Content) : Text :=
  if normalizedPrefix = [] then file.relative else normalizedPrefix ++ '/' :: file.relative

end LocalFile

/-- `_upload_directory_to_s3`, with fuel for its loop. The files come in any order; a directory that
does not exist has none to list. -/
def uploadDirectoryToS3 (paging : S3Paging) (localDir : Option (List (LocalFile Content)))
    (keyPrefix : Text) (fuel : ℕ) (bucket : Bucket Content) :
    Option (Except PyError (Bucket Content)) :=
  match localDir with
  | none => some (.error (.builtin "RuntimeError" "Local output directory does not exist"))
  | some files =>
    let normalizedPrefix := lstripSlashes keyPrefix
    (deleteListed paging normalizedPrefix fuel 0 none bucket).map fun bucket =>
      .ok (Assoc.assignAll (LocalFile.key normalizedPrefix) LocalFile.content
        (files.filter LocalFile.visible) bucket)

/-! ### The law -/

def Below (target key : Text) : Prop := target ++ ['/'] <+: key

/-- The upload replaced its directory and nothing else: objects that are not below the target are
unchanged, and the keys below it are those of the visible files. -/
structure Replaces (target : Text) (files : List (LocalFile Content))
    (bucket bucket' : Bucket Content) : Prop where
  frame : ∀ key, ¬Below target key → Assoc.find? bucket' key = Assoc.find? bucket key
  keys_iff : ∀ key, Below target key → (key ∈ Assoc.keys bucket' ↔
    ∃ file ∈ files, file.visible = true ∧ key = target ++ '/' :: file.relative)

variable {paging : S3Paging} {keyPrefix : Text} {bucket : Bucket Content}

theorem deleteContents_eq {contents : List Text} (h : ∀ key ∈ contents, key ≠ [])
    (bucket : Bucket Content) : deleteContents contents bucket = Drain.eraseKeys contents bucket := by
  have hall : contents.filter (fun key => key ≠ []) = contents :=
    List.filter_eq_self.mpr fun key hkey => decide_eq_true (h key hkey)
  rw [deleteContents, hall]
  split
  · rename_i hnone
    rw [hnone]
    exact (List.filter_eq_self.mpr fun _ _ => rfl).symm
  · rfl

theorem ne_nil_of_hasPrefix (hfolder : keyPrefix ≠ []) {key : Text}
    (h : hasPrefix keyPrefix key = true) : key ≠ [] := by
  rw [hasPrefix, decide_eq_true_eq] at h
  rintro rfl
  exact hfolder (List.prefix_nil.mp h)

/-- What the loop deletes is what begins with the prefix. -/
theorem deleteListed_eq (hfolder : keyPrefix ≠ []) {fuel request : ℕ}
    {continuationToken : Option Text}
    (hahead : Sweep.Ahead (hasPrefix keyPrefix) (continuationToken.bind paging.keyOf) bucket)
    (hfuel : bucket.countP (fun entry => hasPrefix keyPrefix entry.1) < fuel) :
    deleteListed paging keyPrefix fuel request continuationToken bucket =
      some (bucket.filter fun entry => !hasPrefix keyPrefix entry.1) := by
  induction fuel generalizing request continuationToken bucket with
  | zero => omega
  | succ fuel ih =>
    have hkeys : ∀ key ∈ (Sweep.remaining (hasPrefix keyPrefix)
        (continuationToken.bind paging.keyOf) bucket).take (paging.pageSize request), key ≠ [] :=
      fun key hkey => ne_nil_of_hasPrefix hfolder (Sweep.kind_of_mem_page hkey)
    rw [deleteListed]
    simp only [listObjectsV2, deleteContents_eq hkeys]
    by_cases hmore : paging.pageSize request < (Sweep.remaining (hasPrefix keyPrefix)
        (continuationToken.bind paging.keyOf) bucket).length
    · obtain ⟨last, hlast, hnext⟩ :=
        Sweep.ahead_next_page hahead (paging.pageSize_pos request) hmore
      have hfewer := Sweep.countP_next_page hahead (paging.pageSize_pos request) hmore
      rw [if_pos (decide_eq_true hmore), hlast, Option.map_some, Option.getD_some,
        paging.nonBlank_tokenOf, ih (by rwa [Option.bind_some, paging.keyOf_tokenOf]) (by omega)]
      exact congrArg some (Sweep.filter_eraseKeys fun _ => Sweep.kind_of_mem_page)
    · rw [if_neg (by simpa using hmore), Sweep.eraseKeys_last_page hahead (by omega)]

/-- An object that does not begin with the prefix stays, and one that does is gone. -/
theorem find?_filter_hasPrefix (key : Text) :
    Assoc.find? (bucket.filter fun entry => !hasPrefix keyPrefix entry.1) key =
      if hasPrefix keyPrefix key then none else Assoc.find? bucket key := by
  induction bucket with
  | nil => simp
  | cons entry bucket ih =>
    obtain ⟨k, v⟩ := entry
    by_cases hk : hasPrefix keyPrefix k = true
    · rw [List.filter_cons_of_neg (by simp [hk]), ih, Assoc.find?_cons]
      grind
    · rw [List.filter_cons_of_pos (by simp [hk]), Assoc.find?_cons, ih, Assoc.find?_cons]
      grind

theorem LocalFile.below_key (hfolder : keyPrefix ≠ []) (file : LocalFile Content) :
    Below keyPrefix (file.key keyPrefix) := by
  rw [Below, LocalFile.key, if_neg hfolder]
  exact ⟨file.relative, by simp⟩

def uploaded (keyPrefix : Text) (files : List (LocalFile Content)) (bucket : Bucket Content) :
    Bucket Content :=
  Assoc.assignAll (LocalFile.key keyPrefix) LocalFile.content (files.filter LocalFile.visible)
    (bucket.filter fun entry => !hasPrefix keyPrefix entry.1)

/-- The loop ends within as many pages as there are objects, and one more. -/
theorem uploadDirectoryToS3_eq (hfolder : lstripSlashes keyPrefix ≠ []) {fuel : ℕ}
    (hfuel : bucket.length < fuel) (paging : S3Paging) (files : List (LocalFile Content)) :
    uploadDirectoryToS3 paging (some files) keyPrefix fuel bucket =
      some (.ok (uploaded (lstripSlashes keyPrefix) files bucket)) := by
  have hcount : bucket.countP (fun entry => hasPrefix (lstripSlashes keyPrefix) entry.1) < fuel :=
    List.countP_le_length.trans_lt hfuel
  rw [uploadDirectoryToS3, deleteListed_eq hfolder (Sweep.ahead_none _ bucket) hcount]
  rfl

/-- The uploaded objects besides those that were there. -/
theorem find?_assignAll {files : List (LocalFile Content)} {key : Text}
    (h : ∀ file ∈ files, file.key keyPrefix ≠ key) :
    Assoc.find? (Assoc.assignAll (LocalFile.key keyPrefix) LocalFile.content files bucket) key =
      Assoc.find? bucket key := by
  induction files using List.reverseRecOn with
  | nil => rfl
  | append_singleton files file ih =>
    rw [Assoc.assignAll_append, Assoc.find?_update, if_neg (h file (by simp))]
    exact ih fun other hother => h other (List.mem_append_left _ hother)

theorem mem_keys_assignAll {files : List (LocalFile Content)} {key : Text} :
    key ∈ Assoc.keys (Assoc.assignAll (LocalFile.key keyPrefix) LocalFile.content files bucket) ↔
      (∃ file ∈ files, file.key keyPrefix = key) ∨ key ∈ Assoc.keys bucket := by
  induction files using List.reverseRecOn with
  | nil => simp [Assoc.assignAll]
  | append_singleton files file ih =>
    rw [Assoc.assignAll_append, Assoc.mem_keys_update, ih]
    grind

theorem find?_uploaded_of_not_below (hfolder : keyPrefix ≠ []) {key : Text}
    (h : ¬Below keyPrefix key) (files : List (LocalFile Content)) :
    Assoc.find? (uploaded keyPrefix files bucket) key =
      if hasPrefix keyPrefix key then none else Assoc.find? bucket key := by
  rw [uploaded, find?_assignAll, find?_filter_hasPrefix]
  rintro file - rfl
  exact h (file.below_key hfolder)

theorem not_replaces_of_beside (hfolder : keyPrefix ≠ []) {key : Text}
    (hkey : key ∈ Assoc.keys bucket) (hlisted : hasPrefix keyPrefix key = true)
    (hbeside : ¬Below keyPrefix key) (files : List (LocalFile Content)) :
    ¬Replaces keyPrefix files bucket (uploaded keyPrefix files bucket) := by
  intro hreplaces
  have hframe := hreplaces.frame key hbeside
  rw [find?_uploaded_of_not_below hfolder hbeside, if_pos hlisted] at hframe
  exact Assoc.find?_eq_none_iff.mp hframe.symm hkey

theorem mem_keys_uploaded_of_below (hfolder : keyPrefix ≠ []) {key : Text} (h : Below keyPrefix key)
    (files : List (LocalFile Content)) :
    key ∈ Assoc.keys (uploaded keyPrefix files bucket) ↔
      ∃ file ∈ files, file.visible = true ∧ key = keyPrefix ++ '/' :: file.relative := by
  have hlisted : hasPrefix keyPrefix key = true :=
    decide_eq_true ((List.prefix_append keyPrefix ['/']).trans h)
  have hgone : key ∉ Assoc.keys (bucket.filter fun entry => !hasPrefix keyPrefix entry.1) := by
    rw [← Assoc.find?_eq_none_iff, find?_filter_hasPrefix, if_pos hlisted]
  rw [uploaded, mem_keys_assignAll, or_iff_left hgone]
  simp only [List.mem_filter, LocalFile.key, if_neg hfolder, and_assoc, eq_comm]

/-- The upload replaces its directory and nothing else exactly where every object whose key begins
with the target is below the target, however the listing is split into pages. -/
theorem replaces_iff (hfolder : lstripSlashes keyPrefix ≠ []) (paging : S3Paging)
    (files : List (LocalFile Content)) (bucket : Bucket Content) :
    (∃ bucket', (∀ fuel, bucket.length < fuel →
        uploadDirectoryToS3 paging (some files) keyPrefix fuel bucket = some (.ok bucket')) ∧
      Replaces (lstripSlashes keyPrefix) files bucket bucket') ↔
    ∀ key ∈ Assoc.keys bucket, lstripSlashes keyPrefix <+: key →
      Below (lstripSlashes keyPrefix) key := by
  constructor
  · rintro ⟨bucket', hupload, hreplaces⟩ key hkey hlisted
    have hresult := hupload _ (Nat.lt_succ_self _)
    rw [uploadDirectoryToS3_eq hfolder (Nat.lt_succ_self _)] at hresult
    obtain rfl := Except.ok.inj (Option.some.inj hresult)
    by_contra hbeside
    exact not_replaces_of_beside hfolder hkey (decide_eq_true hlisted) hbeside files hreplaces
  · intro hbelow
    refine ⟨_, fun fuel hfuel => uploadDirectoryToS3_eq hfolder hfuel paging files, ?_, ?_⟩
    · intro key hbeside
      rw [find?_uploaded_of_not_below hfolder hbeside]
      split
      · rename_i hlisted
        rw [hasPrefix, decide_eq_true_eq] at hlisted
        exact (Assoc.find?_eq_none_iff.mpr fun hkey => hbeside (hbelow key hkey hlisted)).symm
      · rfl
    · exact fun key h => mem_keys_uploaded_of_below hfolder h files

end Bucket

/-! ### Two versions of a dataset -/

section Samples

/-- A service that lists one object at a time, and puts a key between two letters as a token. -/
def oneByOne : S3Paging where
  pageSize _ := 1
  pageSize_pos _ := Nat.one_pos
  tokenOf key := 't' :: key ++ ['t']
  keyOf token := some token.tail.dropLast
  keyOf_tokenOf key := by simp
  nonBlank_tokenOf key := by
    have hstrip : Text.strip ('t' :: key ++ ['t']) = 't' :: key ++ ['t'] := by
      apply Text.strip_eq_self
      · intro c hc
        rw [← Option.some.inj hc]
        decide
      · intro c hc
        rw [List.getLast?_concat] at hc
        rw [← Option.some.inj hc]
        decide
    rw [nonBlank, hstrip]
    exact if_neg (List.cons_ne_nil _ _)

def tenthVersion : Bucket ℕ := [("data/v10/part-0", 10)]

def firstVersion : List (LocalFile ℕ) := [⟨["part-0"], 1⟩]

/-- Writing the first version deletes the tenth one. -/
theorem first_version_deletes_tenth :
    parseS3aUri "s3a://bucket/data/v1" = .ok ("bucket", "data/v1") ∧
    ∃ bucket', (∀ fuel, 1 < fuel → uploadDirectoryToS3 oneByOne (some firstVersion)
        "data/v1" fuel tenthVersion = some (.ok bucket')) ∧
      Assoc.find? bucket' "data/v10/part-0" = none ∧
      ¬Replaces "data/v1" firstVersion tenthVersion bucket' := by
  have hfolder : lstripSlashes "data/v1" ≠ [] := by decide
  refine ⟨by rfl, _, fun fuel hfuel => uploadDirectoryToS3_eq hfolder hfuel oneByOne firstVersion,
    by decide, ?_⟩
  have hbeside : ¬Below "data/v1" "data/v10/part-0" := by
    rw [Below]
    decide
  exact not_replaces_of_beside hfolder List.mem_cons_self (by decide) hbeside firstVersion

/-- The upload of the first version next to the second one. -/
theorem replaces_iff_sample : ∃ bucket', (∀ fuel, 1 < fuel →
      uploadDirectoryToS3 oneByOne (some firstVersion) "data/v1" fuel
        [("data/v2/part-0", 2)] = some (.ok bucket')) ∧
    Replaces "data/v1" firstVersion [("data/v2/part-0", 2)] bucket' := by
  have hfolder : lstripSlashes "data/v1" ≠ [] := by decide
  refine (replaces_iff hfolder oneByOne firstVersion [("data/v2/part-0", 2)]).mpr ?_
  intro key hkey hlisted
  rw [List.mem_singleton.mp hkey] at hlisted
  exact absurd hlisted (by decide)

end Samples

end Materialization

end DqMadeEasy
