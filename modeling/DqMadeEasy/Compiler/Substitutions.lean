import DqMadeEasy.Compiler.Normalize
import DqMadeEasy.Text.Dividers

/-!
# The substitutions of the normalisation

Every substitution puts blanks around a symbol or a word. The characters that are neither part
of a word nor of a comparison symbol divide all of them. White space divides the ones that do
not absorb it.
-/

namespace DqMadeEasy

namespace Normalize

/-! ### Symbols -/

/-- The symbol of `inequality` and its replacement. -/
def inequalitySymbol : Text → Option (Text × Text)
  | '<' :: '>' :: rest => some (['!', '='], rest)
  | _ => none

/-- A symbol together with the white space around it, replaced by a text between blanks. -/
def spaced (symbol : Text → Option (Text × Text)) : Scan.Matcher Text := fun _ t =>
  match symbol (t.dropWhile isSpace) with
  | some (w, rest) => some (' ' :: w ++ [' '], rest.dropWhile isSpace)
  | none => none

/-- A symbol without the white space around it, replaced by a text between blanks. -/
def bare (symbol : Text → Option (Text × Text)) : Scan.Matcher Text := fun _ t =>
  (symbol t).map fun (w, rest) => (' ' :: w ++ [' '], rest)

theorem inequality_eq : inequality = spaced inequalitySymbol := by
  funext before t
  rw [inequality, spaced]
  split
  · rename_i heq
    rw [heq]
    rfl
  · rename_i hne
    rw [inequalitySymbol]
    exact hne

theorem comparison_eq : comparison = spaced comparisonSymbol := rfl

/-- The characters of comparison symbols. -/
def isSymbol (c : Char) : Bool := c == '<' || c == '>' || c == '=' || c == '!'

/-- A symbol pattern reads symbol characters only. -/
structure ReadsSymbols (symbol : Text → Option (Text × Text)) : Prop where
  consumes : ∀ {t w rest}, symbol t = some (w, rest) →
    ∃ c cs, t = c :: cs ++ rest ∧ ∀ x ∈ c :: cs, isSymbol x = true
  split : ∀ {d}, isSymbol d = false → ∀ a b, symbol (a ++ d :: b) =
    (symbol a).map fun (w, rest) => (w, rest ++ d :: b)

theorem readsSymbols_inequality : ReadsSymbols inequalitySymbol where
  consumes h := by
    unfold inequalitySymbol at h
    split at h <;> cases h
    exact ⟨'<', ['>'], rfl, by decide⟩
  split hd a b := by
    simp only [isSymbol, Bool.or_eq_false_iff, beq_eq_false_iff_ne] at hd
    obtain ⟨⟨⟨h₁, h₂⟩, -⟩, -⟩ := hd
    match a with
    | [] => simp [inequalitySymbol, h₁]
    | [x] => simp [inequalitySymbol, h₂]
    | x :: y :: ys =>
      by_cases hx : x = '<'
      · subst hx
        by_cases hy : y = '>'
        · subst hy; rfl
        · simp [inequalitySymbol, hy]
      · simp [inequalitySymbol, hx]

theorem readsSymbols_comparison : ReadsSymbols comparisonSymbol where
  consumes h := by
    unfold comparisonSymbol at h
    split at h <;> cases h
    · exact ⟨'>', ['='], rfl, by decide⟩
    · exact ⟨'<', ['='], rfl, by decide⟩
    · exact ⟨'!', ['='], rfl, by decide⟩
    · exact ⟨'=', [], rfl, by decide⟩
    · exact ⟨'>', [], rfl, by decide⟩
    · exact ⟨'<', [], rfl, by decide⟩
  split hd a b := by
    simp only [isSymbol, Bool.or_eq_false_iff, beq_eq_false_iff_ne] at hd
    obtain ⟨⟨⟨h₁, h₂⟩, h₃⟩, h₄⟩ := hd
    match a with
    | [] => simp [comparisonSymbol, h₁, h₂, h₃, h₄]
    | [x] =>
      by_cases hgt : x = '>'
      · subst hgt; simp [comparisonSymbol, h₃]
      by_cases hlt : x = '<'
      · subst hlt; simp [comparisonSymbol, h₃]
      by_cases heq : x = '='
      · subst heq; simp [comparisonSymbol]
      · simp [comparisonSymbol, hgt, hlt, heq, h₃]
    | x :: y :: ys =>
      by_cases hy : y = '='
      · subst hy
        by_cases hgt : x = '>'
        · subst hgt; simp [comparisonSymbol]
        by_cases hlt : x = '<'
        · subst hlt; simp [comparisonSymbol]
        by_cases hne : x = '!'
        · subst hne; simp [comparisonSymbol]
        by_cases heq : x = '='
        · subst heq; simp [comparisonSymbol]
        · simp [comparisonSymbol, hgt, hlt, hne, heq]
      · by_cases hgt : x = '>'
        · subst hgt; simp [comparisonSymbol, hy]
        by_cases hlt : x = '<'
        · subst hlt; simp [comparisonSymbol, hy]
        by_cases heq : x = '='
        · subst heq; simp [comparisonSymbol]
        · simp [comparisonSymbol, hgt, hlt, heq, hy]

theorem ReadsSymbols.nil {symbol : Text → Option (Text × Text)} (h : ReadsSymbols symbol) :
    symbol [] = none := by
  cases hs : symbol [] with
  | none => rfl
  | some found =>
    obtain ⟨w, rest⟩ := found
    obtain ⟨c, cs, heq, -⟩ := h.consumes hs
    cases heq

theorem isSymbol_range {c : Char} (h : isSymbol c = true) : 33 ≤ c.toNat ∧ c.toNat ≤ 62 := by
  simp only [isSymbol, Bool.or_eq_true, beq_iff_eq] at h
  rcases h with ((rfl | rfl) | rfl) | rfl <;> decide

theorem isSpace_of_isSymbol {c : Char} (h : isSymbol c = true) : isSpace c = false := by
  have hrange := isSymbol_range h
  exact isSpace_eq_false_of_range (by omega) (by omega)

section Dividers

variable [PyRuntime]

def Divides (d : Char) : Prop := Text.isWord d = false ∧ isSymbol d = false

def Inert (d : Char) : Prop := Divides d ∧ isSpace d = false

theorem stopsAt_bare {symbol : Text → Option (Text × Text)} (h : ReadsSymbols symbol) :
    Scan.StopsAt Divides (bare symbol) where
  nil before := by rw [bare, h.nil]; rfl
  consumes hm := by
    obtain ⟨⟨w, rest⟩, hs, heq⟩ := Option.map_eq_some_iff.mp hm
    cases heq
    obtain ⟨c, cs, heq, -⟩ := h.consumes hs
    exact ⟨c, cs, heq⟩
  split hd before a b := by
    rw [bare, bare, h.split hd.2]
    cases symbol a <;> rfl
  fresh _ _ := rfl

theorem stopsAt_spaced {symbol : Text → Option (Text × Text)} (h : ReadsSymbols symbol) :
    Scan.StopsAt Inert (spaced symbol) where
  nil before := by rw [spaced, List.dropWhile_nil, h.nil]
  consumes := by
    intro before t replacement rest hm
    rw [spaced] at hm
    split at hm
    · rename_i w rest' hs
      cases hm
      obtain ⟨c, cs, heq, -⟩ := h.consumes hs
      have hspaces : t.takeWhile isSpace ++ t.dropWhile isSpace = t :=
        List.takeWhile_append_dropWhile
      have hafter : rest'.takeWhile isSpace ++ rest'.dropWhile isSpace = rest' :=
        List.takeWhile_append_dropWhile
      rw [heq, ← hafter] at hspaces
      cases hlead : t.takeWhile isSpace with
      | nil =>
        rw [hlead] at hspaces
        exact ⟨c, cs ++ rest'.takeWhile isSpace, by rw [← hspaces]; simp⟩
      | cons s ss =>
        rw [hlead] at hspaces
        exact ⟨s, ss ++ c :: cs ++ rest'.takeWhile isSpace, by rw [← hspaces]; simp⟩
    · cases hm
  split hd before a b := by
    rw [spaced, spaced, dropWhile_append_stop hd.2, h.split hd.1.2]
    cases symbol (a.dropWhile isSpace) with
    | none => rfl
    | some found => simp only [Option.map_some, dropWhile_append_stop hd.2]
  fresh _ _ := rfl

theorem stopsAt_spaces : Scan.StopsAt Inert spaces where
  nil _ := rfl
  consumes := by
    intro before t replacement rest hm
    rw [spaces] at hm
    split at hm
    · rename_i hspace
      cases hm
      cases t with
      | nil => cases hspace
      | cons c cs =>
        have hc : isSpace c = true := by simpa using hspace
        refine ⟨c, cs.takeWhile isSpace, ?_⟩
        rw [List.dropWhile_cons, if_pos hc, List.cons_append, List.takeWhile_append_dropWhile]
    · cases hm
  split hd before a b := by
    cases a with
    | nil => simp [spaces, hd.2]
    | cons c cs =>
      by_cases hc : isSpace c = true
      · rw [spaces, spaces, dropWhile_append_stop hd.2]
        simp [hc]
      · simp [spaces, hc]
  fresh _ _ := rfl

/-! ### Words -/

theorem isWord_of_isAlpha {c : Char} (h : c.isAlpha = true) : Text.isWord c = true := by
  have halnum : c.isAlphanum = true := by rw [Char.isAlphanum, h, Bool.true_or]
  have hrange := alphanum_range halnum
  rw [Text.isWord, PyRuntime.isAlnum_ascii c (by omega), halnum, Bool.true_or]

theorem dropWord_split {w : Text} (hw : w.all Text.isPlainCapital = true) {d : Char}
    (hd : Text.isWord d = false) (a b : Text) :
    Text.dropWord w (a ++ d :: b) = (Text.dropWord w a).map (· ++ d :: b) := by
  induction w generalizing a with
  | nil => rfl
  | cons p ps ih =>
    rw [List.all_cons, Bool.and_eq_true] at hw
    cases a with
    | nil =>
      have hmatch : Text.matchesLetter p d = false := by
        by_contra hne
        rw [Bool.not_eq_false] at hne
        have hdrop : Text.dropWord [p] [d] = some [] := by simp [Text.dropWord, hne]
        obtain ⟨u, hu, -, halpha⟩ := Text.letters_of_dropWord (by simpa using hw.1) hdrop
        rw [List.append_nil] at hu
        subst hu
        rw [isWord_of_isAlpha (halpha d List.mem_cons_self)] at hd
        cases hd
      simp [Text.dropWord, hmatch]
    | cons c cs =>
      rw [List.cons_append, Text.dropWord, Text.dropWord]
      split
      · exact ih hw.2 cs
      · rfl

theorem boundary_split {before : Option Char} {d : Char} (hd : Text.isWord d = false) (a b : Text) :
    Scan.boundary before (a ++ d :: b) = Scan.boundary before a := by
  cases a with
  | nil => simp [Scan.boundary, hd]
  | cons c cs => rfl

/-- What a match of a logical word says of the text. -/
theorem logicalWord_some {w : Text} (hw : w.all Text.isPlainCapital = true)
    {before : Option Char} {t replacement rest : Text}
    (h : logicalWord w before t = some (replacement, rest)) :
    replacement = ' ' :: w ++ [' '] ∧ Scan.boundary before t = true ∧
      Scan.boundary w.getLast? rest = true ∧
      ∃ u, t = u ++ rest ∧ u.map Char.toUpper = w ∧ ∀ c ∈ u, c.isAlpha = true := by
  obtain ⟨⟨_, rest'⟩, hword, heq⟩ := Option.map_eq_some_iff.mp h
  cases heq
  rw [Scan.word] at hword
  split at hword
  · rename_i hleft
    split at hword
    · rename_i rest hdrop
      split at hword
      · rename_i hright
        cases hword
        exact ⟨rfl, hleft, hright, Text.letters_of_dropWord hw hdrop⟩
      · cases hword
    · cases hword
  · cases hword

/-- Every character that is not part of a word divides a logical word. -/
theorem stopsAt_nonWord {w : Text} (hw : w.all Text.isPlainCapital = true) (hne : w ≠ []) :
    Scan.StopsAt (fun d => Text.isWord d = false) (logicalWord w) where
  nil before := by
    cases w with
    | nil => contradiction
    | cons p ps =>
      rw [logicalWord, Scan.word, Text.dropWord]
      split <;> rfl
  consumes hm := by
    obtain ⟨-, -, -, u, rfl, hu, -⟩ := logicalWord_some hw hm
    cases u with
    | nil => exact absurd hu.symm hne
    | cons c cs => exact ⟨c, cs, rfl⟩
  split hd before a b := by
    rw [logicalWord, logicalWord, Scan.word, Scan.word, boundary_split hd, dropWord_split hw hd]
    split
    · cases Text.dropWord w a with
      | none => rfl
      | some rest =>
        simp only [Option.map_some, boundary_split hd]
        split <;> rfl
    · rfl
  fresh hd t := by
    rw [logicalWord, logicalWord, Scan.word, Scan.word, Scan.boundary, Scan.boundary]
    simp [hd]

theorem stopsAt_logicalWord {w : Text} (hw : w.all Text.isPlainCapital = true) (hne : w ≠ []) :
    Scan.StopsAt Divides (logicalWord w) := (stopsAt_nonWord hw hne).mono fun _ h => h.1

end Dividers

end Normalize

end DqMadeEasy
