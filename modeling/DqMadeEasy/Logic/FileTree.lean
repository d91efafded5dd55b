import Mathlib.Logic.Function.Basic
import Mathlib.Data.List.Infix

/-!
# Writing files into a directory tree

A disk maps paths to directories and files. Writing a file enters the directories of its path one
after the other, creating those that are missing, and creates or replaces the file. Files whose
paths lie below one directory, with no path a beginning of another, can all be written, in any
order and any number of times; and whatever was written tells where it was.
-/

namespace DqMadeEasy

namespace FileTree

/-- What a path names. -/
inductive Entry where
  | directory
  | file
  deriving DecidableEq

/-- The entries of a disk by their paths from the root. -/
abbrev Disk (Name : Type) := List Name → Option Entry

variable {Name : Type} [DecidableEq Name]

/-- How the names of a path are read: which one leads to the parent directory, and which ones the
disk takes. -/
structure Naming (Name : Type) where
  isParent : Name → Bool
  allowed : Name → Bool

variable (naming : Naming Name)

/-- Enter a directory by its name, and create it if there is nothing of the name. -/
def enter (disk : Disk Name) (directory : List Name) (name : Name) :
    Option (Disk Name × List Name) :=
  if naming.isParent name then some (disk, directory.dropLast)
  else if naming.allowed name then
    match disk (directory ++ [name]) with
    | some .directory => some (disk, directory ++ [name])
    | some .file => none
    | none => some (Function.update disk (directory ++ [name]) (some .directory),
        directory ++ [name])
  else none

/-- Create or replace a file in a directory. -/
def create (disk : Disk Name) (directory : List Name) (name : Name) :
    Option (Disk Name × List Name) :=
  if naming.isParent name then none
  else if naming.allowed name then
    match disk (directory ++ [name]) with
    | some .directory => none
    | _ => some (Function.update disk (directory ++ [name]) (some .file), directory ++ [name])
  else none

/-- Write a file by its path from a directory. The result is the path from the root. -/
def writeFile : Disk Name → List Name → List Name → Option (Disk Name × List Name)
  | _, _, [] => none
  | disk, directory, [name] => create naming disk directory name
  | disk, directory, name :: next :: rest =>
    (enter naming disk directory name).bind fun entered =>
      writeFile entered.1 entered.2 (next :: rest)

variable {naming} {disk disk' : Disk Name} {directory path : List Name} {name : Name}

/-! ### What is kept -/

def Grows (disk disk' : Disk Name) : Prop := ∀ path entry, disk path = some entry →
  disk' path = some entry

omit [DecidableEq Name] in
theorem Grows.refl (disk : Disk Name) : Grows disk disk := fun _ _ h => h

omit [DecidableEq Name] in
theorem Grows.trans {disk'' : Disk Name} (h : Grows disk disk') (h' : Grows disk' disk'') :
    Grows disk disk'' := fun path entry hentry => h' path entry (h path entry hentry)

theorem grows_update {entry : Entry} (h : disk path = none ∨ disk path = some entry) :
    Grows disk (Function.update disk path (some entry)) := by
  intro other known hknown
  by_cases hsame : other = path
  · subst hsame
    rw [Function.update_self]
    rcases h with h | h
    · rw [h] at hknown
      cases hknown
    · rw [← h, hknown]
  · rwa [Function.update_of_ne hsame]

/-- What entering a directory does. -/
theorem enter_eq_some {entered : List Name}
    (h : enter naming disk directory name = some (disk', entered)) :
    (naming.isParent name = true ∧ disk' = disk ∧ entered = directory.dropLast) ∨
      (naming.isParent name = false ∧ naming.allowed name = true ∧
        entered = directory ++ [name] ∧ Grows disk disk' ∧ disk' entered = some .directory) := by
  unfold enter at h
  split at h
  · next hparent =>
    cases h
    exact .inl ⟨hparent, rfl, rfl⟩
  next hparent =>
  split at h
  · next hallowed =>
    refine .inr ⟨Bool.not_eq_true _ |>.mp hparent, hallowed, ?_⟩
    split at h
    · next hentry =>
      cases h
      exact ⟨rfl, .refl _, hentry⟩
    · cases h
    · next hentry =>
      cases h
      exact ⟨rfl, grows_update (.inl hentry), Function.update_self ..⟩
  · cases h

/-- What creating a file does. -/
theorem create_eq_some (h : create naming disk directory name = some (disk', path)) :
    naming.isParent name = false ∧ naming.allowed name = true ∧ path = directory ++ [name] ∧
      Grows disk disk' ∧ disk' path = some .file := by
  unfold create at h
  split at h
  · cases h
  next hparent =>
  split at h
  · next hallowed =>
    refine ⟨Bool.not_eq_true _ |>.mp hparent, hallowed, ?_⟩
    split at h
    · cases h
    · next hentry =>
      cases h
      refine ⟨rfl, grows_update ?_, Function.update_self ..⟩
      cases hfound : disk (directory ++ [name]) with
      | none => exact .inl rfl
      | some entry =>
        cases entry with
        | directory => exact absurd hfound hentry
        | file => exact .inr rfl
  · cases h

/-- A path of the disk has the names of the directory or such that the disk takes. -/
def Named (naming : Naming Name) (directory path : List Name) : Prop :=
  ∀ name ∈ path, name ∈ directory ∨ (naming.isParent name = false ∧ naming.allowed name = true)

variable {names : List Name}

/-- What writing a file does, whatever its path is. -/
theorem writeFile_eq_some (h : writeFile naming disk directory names = some (disk', path)) :
    Grows disk disk' ∧ disk' path = some .file ∧ Named naming directory path := by
  induction names generalizing disk directory with
  | nil => cases h
  | cons name names ih =>
    cases names with
    | nil =>
      obtain ⟨hparent, hallowed, rfl, hgrows, hfile⟩ := create_eq_some h
      refine ⟨hgrows, hfile, fun other hother => ?_⟩
      rcases List.mem_append.mp hother with hother | hother
      · exact .inl hother
      · rw [List.mem_singleton.mp hother]
        exact .inr ⟨hparent, hallowed⟩
    | cons next rest =>
      obtain ⟨⟨between, entered⟩, henter, hrest⟩ := Option.bind_eq_some_iff.mp h
      obtain ⟨hgrows, hfile, hnamed⟩ := ih hrest
      rcases enter_eq_some henter with ⟨-, rfl, rfl⟩ | ⟨hparent, hallowed, rfl, henters, -⟩
      · exact ⟨hgrows, hfile, fun other hother =>
          (hnamed other hother).imp_left fun hmem => List.mem_of_mem_dropLast hmem⟩
      · refine ⟨henters.trans hgrows, hfile, fun other hother => ?_⟩
        rcases hnamed other hother with hmem | hgood
        · rcases List.mem_append.mp hmem with hmem | hmem
          · exact .inl hmem
          · rw [List.mem_singleton.mp hmem]
            exact .inr ⟨hparent, hallowed⟩
        · exact .inr hgood

/-- A path without steps to a parent leads below the directory, and passes directories only. -/
theorem writeFile_below (hplain : ∀ name ∈ names, naming.isParent name = false)
    (h : writeFile naming disk directory names = some (disk', path)) :
    path = directory ++ names ∧
      ∀ passed, passed <+: names → passed ≠ [] → passed ≠ names →
        disk' (directory ++ passed) = some .directory := by
  induction names generalizing disk directory with
  | nil => cases h
  | cons name names ih =>
    cases names with
    | nil =>
      obtain ⟨-, -, rfl, -, -⟩ := create_eq_some h
      refine ⟨rfl, fun passed hpassed hne hproper => ?_⟩
      rcases List.prefix_cons_iff.mp hpassed with hnil | ⟨rest, rfl, hrest⟩
      · exact absurd hnil hne
      · rw [List.prefix_nil.mp hrest] at hproper
        exact absurd rfl hproper
    | cons next rest =>
      obtain ⟨⟨between, entered⟩, henter, hrest⟩ := Option.bind_eq_some_iff.mp h
      have hname := hplain name List.mem_cons_self
      rcases enter_eq_some henter with ⟨hparent, -, -⟩ | ⟨-, -, rfl, -, hdirectory⟩
      · rw [hname] at hparent
        cases hparent
      obtain ⟨rfl, hpassed⟩ :=
        ih (fun other hother => hplain other (List.mem_cons_of_mem _ hother)) hrest
      refine ⟨by rw [List.append_assoc]; rfl, fun passed hprefix hne hproper => ?_⟩
      rcases List.prefix_cons_iff.mp hprefix with hnil | ⟨tail, rfl, htail⟩
      · exact absurd hnil hne
      · by_cases hempty : tail = []
        · subst hempty
          exact (writeFile_eq_some hrest).1 _ _ hdirectory
        · have hdir := hpassed tail htail hempty fun hsame => hproper (by rw [hsame])
          rwa [List.append_assoc] at hdir

/-! ### Files with room for each other -/

/-- Paths below a directory with room for each other: none is a beginning of another, and all their
names are plain ones that the disk takes. -/
structure Roomy (naming : Naming Name) (paths : Set (List Name)) : Prop where
  ne_nil : ∀ path ∈ paths, path ≠ []
  plain : ∀ path ∈ paths, ∀ name ∈ path, naming.isParent name = false ∧ naming.allowed name = true
  free : ∀ path ∈ paths, ∀ other ∈ paths, path <+: other → path = other

/-- Below the directory there are only files of these paths and directories on the way to them. -/
structure Tidy (directory : List Name) (paths : Set (List Name)) (disk : Disk Name) : Prop where
  file : ∀ names ≠ [], disk (directory ++ names) = some .file → names ∈ paths
  directory : ∀ names ≠ [], disk (directory ++ names) = some .directory →
    ∃ path ∈ paths, names <+: path ∧ names ≠ path

variable {paths : Set (List Name)}

theorem Tidy.update_file (h : Tidy directory paths disk) (hmem : names ∈ paths) :
    Tidy directory paths (Function.update disk (directory ++ names) (some .file)) := by
  constructor
  · intro other hother hentry
    by_cases hsame : other = names
    · exact hsame ▸ hmem
    · rw [Function.update_of_ne (fun h => hsame (List.append_cancel_left h))] at hentry
      exact h.file other hother hentry
  · intro other hother hentry
    by_cases hsame : other = names
    · rw [hsame, Function.update_self] at hentry
      cases hentry
    · rw [Function.update_of_ne (fun h => hsame (List.append_cancel_left h))] at hentry
      exact h.directory other hother hentry

/-- A directory on the way to a file. -/
theorem Tidy.update_directory (h : Tidy directory paths disk) {path : List Name}
    (hmem : path ∈ paths) (hway : names <+: path) (hproper : names ≠ path) :
    Tidy directory paths (Function.update disk (directory ++ names) (some .directory)) := by
  constructor
  · intro other hother hentry
    by_cases hsame : other = names
    · rw [hsame, Function.update_self] at hentry
      cases hentry
    · rw [Function.update_of_ne (fun h => hsame (List.append_cancel_left h))] at hentry
      exact h.file other hother hentry
  · intro other hother hentry
    by_cases hsame : other = names
    · exact ⟨path, hmem, hsame ▸ hway, hsame ▸ hproper⟩
    · rw [Function.update_of_ne (fun h => hsame (List.append_cancel_left h))] at hentry
      exact h.directory other hother hentry

/-- From any directory on the way, the rest of the path can be written. -/
theorem Tidy.writeRest (hroomy : Roomy naming paths) {passed rest : List Name}
    (hmem : passed ++ rest ∈ paths) (hrest : rest ≠ []) (h : Tidy directory paths disk) :
    ∃ disk', writeFile naming disk (directory ++ passed) rest =
      some (disk', directory ++ (passed ++ rest)) ∧ Tidy directory paths disk' := by
  induction rest generalizing disk passed with
  | nil => exact absurd rfl hrest
  | cons name rest ih =>
    obtain ⟨hparent, hallowed⟩ := hroomy.plain _ hmem name (by simp)
    have hnames : directory ++ passed ++ [name] = directory ++ (passed ++ [name]) :=
      List.append_assoc ..
    cases rest with
    | nil =>
      refine ⟨Function.update disk (directory ++ (passed ++ [name])) (some .file), ?_,
        h.update_file hmem⟩
      rw [writeFile, create, hparent, hallowed, hnames]
      simp only [Bool.false_eq_true, if_false, if_true]
      split
      · next hdirectory =>
        obtain ⟨path, hpath, hway, hproper⟩ := h.directory _ (by simp) hdirectory
        exact absurd (hroomy.free _ hmem path hpath hway) hproper
      · rfl
    | cons next rest =>
      have hassoc : passed ++ name :: next :: rest = passed ++ [name] ++ next :: rest := by simp
      have hproper : passed ++ [name] ≠ passed ++ name :: next :: rest := by simp
      have hway : passed ++ [name] <+: passed ++ name :: next :: rest :=
        ⟨next :: rest, by simp⟩
      have henter : ∃ between, enter naming disk (directory ++ passed) name =
          some (between, directory ++ (passed ++ [name])) ∧ Tidy directory paths between := by
        rw [enter, hparent, hallowed, hnames]
        simp only [Bool.false_eq_true, if_false, if_true]
        split
        · exact ⟨disk, rfl, h⟩
        · next hfile =>
          have hother := h.file _ (by simp) hfile
          exact absurd (hroomy.free _ hother _ hmem hway) hproper
        · exact ⟨_, rfl, h.update_directory hmem hway hproper⟩
      obtain ⟨between, henter, hbetween⟩ := henter
      rw [hassoc] at hmem
      obtain ⟨disk', hwrite, htidy⟩ := ih hmem (List.cons_ne_nil _ _) hbetween
      refine ⟨disk', ?_, htidy⟩
      rw [writeFile, henter, Option.bind_some, hwrite, hassoc]

theorem Tidy.writeFile (hroomy : Roomy naming paths) (hmem : names ∈ paths)
    (h : Tidy directory paths disk) :
    ∃ disk', FileTree.writeFile naming disk directory names = some (disk', directory ++ names) ∧
      Tidy directory paths disk' := by
  have hmem' : [] ++ names ∈ paths := hmem
  have hwrite := h.writeRest hroomy hmem' (hroomy.ne_nil names hmem)
  simpa using hwrite

omit [DecidableEq Name] in
/-- Two files that were written are not one below the other. -/
theorem eq_of_prefix {other : List Name} (hfile : disk (directory ++ path) = some .file)
    (hpassed : ∀ passed, passed <+: other → passed ≠ [] → passed ≠ other →
      disk (directory ++ passed) = some .directory)
    (hne : path ≠ []) (hbelow : path <+: other) : path = other := by
  by_contra hproper
  have hdirectory := hpassed path hbelow hne hproper
  rw [hfile] at hdirectory
  cases hdirectory

end FileTree

end DqMadeEasy
