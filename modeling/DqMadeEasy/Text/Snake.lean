import DqMadeEasy.Text.Keys

/-!
# Snake case

`_to_snake` separates the words of a key by underscores and turns it into small letters. Capitals
and small letters are those of the ASCII range in the patterns, and those of the runtime in the last
step. An ASCII key is its own snake case exactly when it has no capital.
-/

namespace DqMadeEasy

/-- The substitution of `(.)([A-Z][a-z]+)` by `\1_\2`. The flag says that the scan is in the small
letters that end a match. -/
def separateWords : Bool → Text → Text
  | _, [] => []
  | true, c :: d :: e :: rest =>
    if c.isLower then c :: separateWords true (d :: e :: rest)
    else if c ≠ '\n' ∧ d.isUpper ∧ e.isLower then c :: '_' :: d :: e :: separateWords true rest
    else c :: separateWords false (d :: e :: rest)
  | false, c :: d :: e :: rest =>
    if c ≠ '\n' ∧ d.isUpper ∧ e.isLower then c :: '_' :: d :: e :: separateWords true rest
    else c :: separateWords false (d :: e :: rest)
  | _, c :: rest => c :: rest

/-- The substitution of `([a-z0-9])([A-Z])` by `\1_\2`. -/
def separateCapitals : Text → Text
  | c :: d :: rest =>
    if (c.isLower || c.isDigit) && d.isUpper then c :: '_' :: d :: separateCapitals rest
    else c :: separateCapitals (d :: rest)
  | t => t

/-- The words of a key, before they are turned into small letters. -/
def separated (key : Text) : Text :=
  separateCapitals (separateWords false
    (Text.replace "PagerDuty" "Pagerduty" key))

def toSnake [PyRuntime] (key : Text) : Text := PyRuntime.lower (separated key)

/-- `_to_snake` of an ASCII key. -/
def asciiSnake (key : Text) : Text := (separated key).map Char.toLower

/-! ### Separators -/

variable {c : Char} {t : Text}

theorem mem_separateWords {inRun : Bool} (h : c ∈ separateWords inRun t) :
    c = '_' ∨ c ∈ t := by
  fun_induction separateWords inRun t <;> grind

theorem mem_separateCapitals (h : c ∈ separateCapitals t) :
    c = '_' ∨ c ∈ t := by
  fun_induction separateCapitals t <;> grind

theorem mem_replaceFrom {old new : Text} {skip : ℕ} (h : c ∈ Text.replaceFrom old new skip t) :
    c ∈ new ∨ c ∈ t := by
  fun_induction Text.replaceFrom old new skip t <;> grind

theorem ascii_of_all (h : (t.all fun c => c.toNat < 128) = true) :
    ∀ c ∈ t, c.toNat < 128 :=
  fun c hc => of_decide_eq_true (List.all_eq_true.mp h c hc)

theorem separated_ascii (h : ∀ c ∈ t, c.toNat < 128) :
    ∀ c ∈ separated t, c.toNat < 128 := by
  intro c hc
  have hunder : '_'.toNat < 128 := by decide
  have hnew : ∀ d ∈ "Pagerduty".toList, d.toNat < 128 := ascii_of_all (by decide)
  rcases mem_separateCapitals hc with rfl | hc
  · exact hunder
  · rcases mem_separateWords hc with rfl | hc
    · exact hunder
    · rcases mem_replaceFrom hc with hc | hc
      · exact hnew c hc
      · exact h c hc

variable [PyRuntime]

theorem toSnake_ascii (h : ∀ c ∈ t, c.toNat < 128) : toSnake t = asciiSnake t :=
  PyRuntime.lower_ascii _ (separated_ascii h)

/-! ### Dictionaries with known keys -/

def asciiKeys (keys : List Text) : Bool := keys.all fun key => key.all fun c => c.toNat < 128

theorem toSnake_of_asciiKeys {keys : List Text} (hascii : asciiKeys keys = true) {key : Text}
    (hkey : key ∈ keys) : toSnake key = asciiSnake key := by
  apply toSnake_ascii
  intro c hc
  rw [asciiKeys, List.all_eq_true] at hascii
  simpa using (List.all_eq_true.mp (hascii key hkey)) c hc

theorem find?_toSnake {d : Dict} {key : Text} {value : Json}
    (hascii : asciiKeys (Assoc.keys d) = true)
    (hdistinct : ((Assoc.keys d).map asciiSnake).Nodup) (hfind : d.find? key = some value) :
    (d.renameKeys toSnake).find? (asciiSnake key) = some (value.renameKeys toSnake) := by
  have hkey : key ∈ Assoc.keys d := List.mem_map.mpr ⟨_, Assoc.mem_of_find? hfind, rfl⟩
  apply Dict.find?_renameKeys_of_unique hdistinct.of_map hfind (toSnake_of_asciiKeys hascii hkey)
  intro key' hkey' hsame
  rw [toSnake_of_asciiKeys hascii hkey'] at hsame
  exact List.inj_on_of_nodup_map hdistinct hkey' hkey hsame

theorem find?_toSnake_eq_none {d : Dict} {name : Text} {keys : List Text}
    (hascii : asciiKeys keys = true) (hkeys : ∀ key ∈ Assoc.keys d, key ∈ keys)
    (hname : name ∉ keys.map asciiSnake) : (d.renameKeys toSnake).find? name = none := by
  rw [Dict.find?, Assoc.find?_eq_none_iff, Dict.mem_keys_renameKeys]
  rintro ⟨key, hkey, hsnake⟩
  apply hname
  rw [toSnake_of_asciiKeys hascii (hkeys key hkey)] at hsnake
  exact List.mem_map.mpr ⟨key, hkeys key hkey, hsnake⟩

end DqMadeEasy
