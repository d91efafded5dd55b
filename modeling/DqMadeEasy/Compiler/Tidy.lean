import DqMadeEasy.Compiler.Normalized
import DqMadeEasy.Text.Pieces

/-!
# Texts that the normalisation leaves alone

The normalised text is the join of pieces: the pieces of the original text, each one cut at the
operators and the logical words it contains. A text is its own normalisation exactly when its
white space is single blanks and each piece is an operator, a logical word in upper case, or a
text that contains neither. An expression keeps its tokens exactly when its quoted literals are
texts of this kind.
-/

namespace DqMadeEasy

namespace Normalize

variable [PyRuntime]

/-! ### White space collapsed -/

variable {w t v : Text} {symbol : Text → Option (Text × Text)} {k : Keyword}

omit [PyRuntime] in
theorem sub_spaces_run (hw : ∀ c ∈ w, isSpace c = false) (x : Text) :
    Scan.sub spaces (w ++ x) = w ++ Scan.sub spaces x := by
  have hfresh (before : Option Char) (t : Text) :
      Scan.subFrom spaces 0 before t = Scan.sub spaces t := by
    cases t with
    | nil => rfl
    | cons c cs => rw [Scan.sub, Scan.subFrom, Scan.subFrom]; rfl
  induction w with
  | nil => rfl
  | cons c cs ih =>
    have hnone : spaces none (c :: (cs ++ x)) = none := by
      simp [spaces, hw c List.mem_cons_self]
    rw [List.cons_append, Scan.sub, Scan.subFrom_none hnone, hfresh,
      ih fun d hd => hw d (List.mem_cons_of_mem _ hd), List.cons_append]

omit [PyRuntime] in
theorem sub_spaces_space {c : Char} (hc : isSpace c = true) (t : Text) :
    Scan.sub spaces (c :: t) = ' ' :: Scan.sub spaces t.lstrip := by
  have hcut : t.takeWhile isSpace ++ t.dropWhile isSpace = t := List.takeWhile_append_dropWhile
  have hm : spaces none (c :: t.takeWhile isSpace ++ t.dropWhile isSpace) =
      some ([' '], t.dropWhile isSpace) := by
    rw [List.cons_append, hcut, spaces, List.head?_cons, Option.any_some, if_pos hc,
      List.dropWhile_cons, if_pos hc]
  have h := Scan.subFrom_match hm
  rw [List.cons_append, hcut] at h
  rw [Scan.sub, h, Text.lstrip]
  cases t.dropWhile isSpace with
  | nil => rfl
  | cons d ds => rw [Scan.sub, Scan.subFrom, Scan.subFrom]; rfl

omit [PyRuntime] in
theorem rstrip_append_of_ne_nil {l x : Text} (hx : x.rdropWhile isSpace ≠ []) :
    (l ++ x).rdropWhile isSpace = l ++ x.rdropWhile isSpace := by
  rw [List.rdropWhile] at hx
  rw [List.rdropWhile, List.rdropWhile, List.reverse_append, List.dropWhile_append, if_neg,
    List.reverse_append, List.reverse_reverse]
  intro hempty
  rw [List.isEmpty_iff.mp hempty] at hx
  exact hx rfl

omit [PyRuntime] in
/-- Collapsing the white space of a text that starts with another character. -/
theorem rstrip_sub_spaces (ht : ∀ c ∈ t.head?, isSpace c = false) :
    (Scan.sub spaces t).rdropWhile isSpace = Text.join [' '] t.split := by
  induction hlen : t.length using Nat.strong_induction_on generalizing t with
  | _ n ih =>
    obtain rfl | hsolid | ⟨w, c, rest, rfl, hw, hc⟩ := Text.solid_or_space t
    · rw [Text.split_nil]
      rfl
    · have hsub := sub_spaces_run hsolid.2 []
      rw [List.append_nil] at hsub
      rw [hsub, Text.split_solid hsolid, rstrip_append fun d hd =>
        hsolid.2 d (List.mem_of_mem_getLast? hd)]
      simp [Scan.sub, Scan.subFrom, Text.join]
    · have hne : w ≠ [] := by
        rintro rfl
        rw [ht c rfl] at hc
        cases hc
      have hshort : (Text.lstrip rest).length < n := by
        have := (List.dropWhile_sublist (l := rest) isSpace).length_le
        rw [← hlen, List.length_append, List.length_cons, Text.lstrip]
        omega
      have hrest := ih _ hshort (t := (Text.lstrip rest)) (Tokenizer.head_dropWhile isSpace rest) rfl
      rw [Text.split_lstrip] at hrest
      rw [sub_spaces_run hw, sub_spaces_space hc, Text.split_append_space hc,
        Text.split_solid ⟨hne, hw⟩, rstrip_append fun d hd => hw d (List.mem_of_mem_getLast? hd),
        List.singleton_append]
      cases hpieces : Text.split rest with
      | nil =>
        rw [hpieces] at hrest
        rw [← List.singleton_append, List.rdropWhile, List.reverse_append, List.dropWhile_append]
        rw [List.rdropWhile] at hrest
        rw [List.reverse_eq_nil_iff.mp hrest]
        simp [Text.join]
        decide
      | cons v vs =>
        rw [hpieces] at hrest
        have hv : Text.Solid v := Text.solid_of_mem_split (hpieces ▸ List.mem_cons_self)
        have hsome : (Scan.sub spaces (Text.lstrip rest)).rdropWhile isSpace ≠ [] := by
          rw [hrest]
          cases v with
          | nil => exact absurd rfl hv.1
          | cons d ds => cases vs <;> simp [Text.join]
        have hjoin : Text.join [' '] (w :: v :: vs) = w ++ [' '] ++ Text.join [' '] (v :: vs) := rfl
        rw [← List.singleton_append, rstrip_append_of_ne_nil hsome, hrest, hjoin, List.append_assoc]

omit [PyRuntime] in
/-- White space collapsed and stripped: the pieces between single blanks. -/
theorem strip_sub_spaces (t : Text) :
    (Scan.sub spaces t).strip = Text.join [' '] t.split := by
  have hsolid {u : Text} (hu : ∀ c ∈ u.head?, isSpace c = false) :
      (Scan.sub spaces u).lstrip = Scan.sub spaces u := by
    cases u with
    | nil => rfl
    | cons c cs =>
      have hc := hu c rfl
      have hrun := sub_spaces_run (w := [c]) (by simpa using hc) cs
      rw [List.singleton_append] at hrun
      rw [hrun, List.singleton_append, Text.lstrip, List.dropWhile_cons, hc]
      rfl
  have hhead := Tokenizer.head_dropWhile isSpace t
  rw [← Text.split_lstrip, Text.lstrip, ← rstrip_sub_spaces hhead, Text.strip]
  congr 1
  rw [← Text.lstrip, ← Text.lstrip]
  cases t with
  | nil => rfl
  | cons c cs =>
    by_cases hc : isSpace c = true
    · have hcs := Tokenizer.head_dropWhile isSpace cs
      rw [sub_spaces_space hc]
      simp only [Text.lstrip, List.dropWhile_cons, hc, if_true]
      exact hsolid hcs
    · rw [Bool.not_eq_true] at hc
      rw [hsolid (by simpa using hc), Text.lstrip, List.dropWhile_cons, hc]
      rfl

omit [PyRuntime] in
theorem split_strip (t : Text) : Text.split t.strip = Text.split t := by
  have hspaces {u : Text} (hu : ∀ c ∈ u, isSpace c = true) (x : Text) :
      Text.split (x ++ u) = Text.split x := by
    cases u with
    | nil => rw [List.append_nil]
    | cons c cs =>
      have hcs : Text.split cs = [] := by
        induction cs with
        | nil => exact Text.split_nil
        | cons d ds ih =>
          rw [Text.split_cons_space (hu d (by simp))]
          exact ih fun e he => hu e (by
            rcases List.mem_cons.mp he with rfl | he
            · exact List.mem_cons_self
            · simp [he])
      rw [Text.split_append_space (hu c List.mem_cons_self), hcs, List.append_nil]
  have hcut : t.lstrip.rdropWhile isSpace ++ t.lstrip.rtakeWhile isSpace = t.lstrip :=
    List.rdropWhile_append_rtakeWhile
  have htake : ∀ c ∈ t.lstrip.rtakeWhile isSpace, isSpace c = true :=
    fun c hc => List.mem_rtakeWhile_imp hc
  rw [← Text.split_lstrip t, Text.strip, ← Text.lstrip]
  conv_rhs => rw [← hcut]
  rw [hspaces htake]

/-! ### Pieces cut -/

theorem divides_of_isSpace (c : Char) (hc : isSpace c = true) : Divides c := by
  constructor
  · cases halnum : PyRuntime.isAlnum c with
    | true => rw [PyRuntime.isAlnum_not_space c halnum] at hc; cases hc
    | false =>
      rw [Text.isWord, halnum, Bool.false_or, beq_eq_false_iff_ne]
      rintro rfl
      cases hc
  · cases hs : isSymbol c with
    | true => rw [isSpace_of_isSymbol hs] at hc; cases hc
    | false => rfl

/-- White space around a symbol makes no difference to the pieces. -/
theorem split_sub_spaced (h : ReadsSymbols symbol)
    (hw : ∀ {t w rest}, symbol t = some (w, rest) → Text.Solid w) (t : Text) :
    Text.split (Scan.sub (spaced symbol) t) = Text.split (Scan.sub (bare symbol) t) := by
  have hstops := stopsAt_bare h
  have hspaced (before : Option Char) (t : Text) :
      Scan.subFrom (spaced symbol) 0 before t = Scan.sub (spaced symbol) t := by
    cases t with
    | nil => rfl
    | cons c cs => rw [Scan.sub, Scan.subFrom, Scan.subFrom]; rfl
  have hbare (before : Option Char) (t : Text) :
      Scan.subFrom (bare symbol) 0 before t = Scan.sub (bare symbol) t := by
    cases t with
    | nil => rfl
    | cons c cs => rw [Scan.sub, Scan.subFrom, Scan.subFrom]; rfl
  have hlstrip (t : Text) : Text.split (Scan.sub (bare symbol) t) =
      Text.split (Scan.sub (bare symbol) t.lstrip) := by
    rw [hstops.split_sub divides_of_isSpace, hstops.split_sub divides_of_isSpace, Text.split_lstrip]
  have hpiece {w : Text} (hw : Text.Solid w) (x : Text) :
      Text.split (' ' :: w ++ [' '] ++ x) = w :: Text.split x := by
    rw [List.append_assoc, List.cons_append, List.singleton_append,
      Text.split_cons_space (by decide), Text.split_append_space (by decide), Text.split_solid hw,
      List.singleton_append]
  suffices hboth : Text.split (Scan.sub (spaced symbol) t) = Text.split (Scan.sub (bare symbol) t) ∧
      Text.start (Scan.sub (spaced symbol) t) = Text.start (Scan.sub (bare symbol) t) from hboth.1
  induction hlen : t.length using Nat.strong_induction_on generalizing t with
  | _ n ih =>
    cases t with
    | nil => exact ⟨rfl, rfl⟩
    | cons c cs =>
      have hcs := ih cs.length (by simp [← hlen]) cs rfl
      cases hs : symbol (Text.lstrip (c :: cs)) with
      | none =>
        have hm : spaced symbol none (c :: cs) = none := by
          rw [spaced, ← Text.lstrip, hs]
        have hleft : Scan.sub (spaced symbol) (c :: cs) = c :: Scan.sub (spaced symbol) cs := by
          rw [Scan.sub, Scan.subFrom_none hm, hspaced]
        by_cases hc : isSpace c = true
        · rw [hstops.sub_cons (divides_of_isSpace c hc), hleft, Text.split_cons_space hc,
            Text.split_cons_space hc]
          exact ⟨hcs.1, rfl⟩
        · rw [Text.lstrip, List.dropWhile_cons, if_neg hc] at hs
          have hm' : bare symbol none (c :: cs) = none := by rw [bare, hs]; rfl
          have hright : Scan.sub (bare symbol) (c :: cs) = c :: Scan.sub (bare symbol) cs := by
            rw [Scan.sub, Scan.subFrom_none hm', hbare]
          rw [Bool.not_eq_true] at hc
          rw [hleft, hright]
          exact ⟨Text.split_cons_congr hc hcs.1 hcs.2, rfl⟩
      | some found =>
        obtain ⟨w, rest⟩ := found
        have hm : spaced symbol none (c :: cs) = some (' ' :: w ++ [' '], rest.lstrip) := by
          rw [spaced, ← Text.lstrip, hs]
          rfl
        obtain ⟨d, consumed, heq⟩ := (stopsAt_spaced h).consumes hm
        obtain ⟨d', consumed', heq', -⟩ := h.consumes hs
        have hshort : (Text.lstrip rest).length < n := by
          rw [← hlen, heq]
          simp only [List.cons_append, List.length_cons, List.length_append]
          omega
        have hrest := (ih _ hshort rest.lstrip rfl).1
        rw [← hlstrip rest] at hrest
        have hleft : Scan.sub (spaced symbol) (c :: cs) =
            ' ' :: w ++ [' '] ++ Scan.sub (spaced symbol) rest.lstrip := by
          rw [heq] at hm ⊢
          rw [Scan.sub, Scan.subFrom_match hm, hspaced]
        have hright : Scan.sub (bare symbol) (Text.lstrip (c :: cs)) =
            ' ' :: w ++ [' '] ++ Scan.sub (bare symbol) rest := by
          have hm' : bare symbol none (Text.lstrip (c :: cs)) = some (' ' :: w ++ [' '], rest) := by
            rw [bare, hs]
            rfl
          rw [heq'] at hm' ⊢
          rw [Scan.sub, Scan.subFrom_match hm', hbare]
        constructor
        · rw [hlstrip, hleft, hright, hpiece (hw hs), hpiece (hw hs), hrest]
        · -- both texts start with a blank
          by_cases hc : isSpace c = true
          · rw [hstops.sub_cons (divides_of_isSpace c hc), hleft, Text.start, Text.start,
              List.head?_cons, Option.map_some, hc]
            rfl
          · have hsolid : Text.lstrip (c :: cs) = c :: cs := by
              rw [Text.lstrip, List.dropWhile_cons, if_neg hc]
            rw [hsolid] at hright
            rw [hleft, hright]
            rfl

/-- The five substitutions on a text whose white space does not matter. -/
def cutText (t : Text) : Text :=
  Scan.sub (logicalWord Keyword.not.text) (Scan.sub (logicalWord Keyword.or.text)
    (Scan.sub (logicalWord Keyword.and.text) (Scan.sub (bare comparisonSymbol)
      (Scan.sub (bare inequalitySymbol) t))))

omit [PyRuntime] in
theorem solid_inequality {rest : Text} (h : inequalitySymbol t = some (w, rest)) :
    Text.Solid w := by
  rw [(inequalitySymbol_some h).2]
  exact ⟨by simp, by decide⟩

omit [PyRuntime] in
def comparisonTexts : List Text := [['>', '='], ['<', '='], ['!', '='], ['='], ['>'], ['<']]

omit [PyRuntime] in
theorem comparisonSymbol_text {rest : Text} (h : comparisonSymbol t = some (w, rest)) :
    t = w ++ rest ∧ w ∈ comparisonTexts := by
  unfold comparisonSymbol at h
  split at h <;> cases h <;> exact ⟨rfl, by decide⟩

omit [PyRuntime] in
theorem solid_comparison {rest : Text} (h : comparisonSymbol t = some (w, rest)) :
    Text.Solid w := by
  have hall : ∀ w ∈ comparisonTexts, w ≠ [] ∧ ∀ c ∈ w, isSpace c = false := by decide
  exact hall w (comparisonSymbol_text h).2

omit [PyRuntime] in
theorem solid_keyword (k : Keyword) : Text.Solid k.text := by
  cases k <;> exact ⟨by decide, by decide⟩

omit [PyRuntime] in
theorem pads_bare (h : ReadsSymbols symbol)
    (hw : ∀ {t w rest}, symbol t = some (w, rest) → Text.Solid w) : Scan.Pads (bare symbol) where
  consumes hm := by
    obtain ⟨⟨w, rest⟩, hs, heq⟩ := Option.map_eq_some_iff.mp hm
    cases heq
    obtain ⟨c, cs, heq, -⟩ := h.consumes hs
    exact ⟨c, cs, heq⟩
  pads hm := by
    obtain ⟨⟨w, rest⟩, hs, heq⟩ := Option.map_eq_some_iff.mp hm
    cases heq
    exact ⟨w, hw hs, rfl⟩

theorem stopsAt_word (hk : isLogical k) :
    Scan.StopsAt Divides (logicalWord k.text) :=
  stopsAt_logicalWord (plain_text hk) (solid_keyword k).1

theorem pads_word (hk : isLogical k) : Scan.Pads (logicalWord k.text) where
  consumes hm := (stopsAt_word hk).consumes hm
  pads hm := ⟨k.text, solid_keyword k, (logicalWord_some (plain_text hk) hm).1⟩

omit [PyRuntime] in
theorem isLogical_and : isLogical .and := .inl rfl
omit [PyRuntime] in
theorem isLogical_or : isLogical .or := .inr (.inl rfl)
omit [PyRuntime] in
theorem isLogical_not : isLogical .not := .inr (.inr rfl)

theorem split_cutText (t : Text) :
    Text.split (cutText t) = (Text.split t).flatMap fun w => Text.split (cutText w) := by
  have hstep {m : Scan.Matcher Text} (hm : Scan.StopsAt Divides m) {f : Text → Text}
      (hf : ∀ t, Text.split (f t) = (Text.split t).flatMap fun w => Text.split (f w)) (t : Text) :
      Text.split (Scan.sub m (f t)) =
        (Text.split t).flatMap fun w => Text.split (Scan.sub m (f w)) := by
    rw [hm.split_sub divides_of_isSpace, hf, List.flatMap_assoc]
    exact List.flatMap_congr fun w _ => (hm.split_sub divides_of_isSpace (f w)).symm
  exact hstep (stopsAt_word isLogical_not) (hstep (stopsAt_word isLogical_or)
    (hstep (stopsAt_word isLogical_and) (hstep (stopsAt_bare readsSymbols_comparison)
      ((stopsAt_bare readsSymbols_inequality).split_sub divides_of_isSpace)))) t

theorem normalizeExpression_eq_join (t : Text) :
    normalizeExpression t = Text.join [' '] (Text.split (cutText t)) := by
  have hcongr {m : Scan.Matcher Text} (hm : Scan.StopsAt Divides m) {x y : Text}
      (hxy : Text.split x = Text.split y) : Text.split (Scan.sub m x) = Text.split (Scan.sub m y) := by
    rw [hm.split_sub divides_of_isSpace, hm.split_sub divides_of_isSpace y, hxy]
  have hinequality := split_sub_spaced readsSymbols_inequality solid_inequality t.strip
  have hcomparison := (split_sub_spaced readsSymbols_comparison solid_comparison
    (Scan.sub inequality t.strip)).trans (hcongr (stopsAt_bare readsSymbols_comparison)
      (inequality_eq ▸ hinequality))
  have hstrip : Text.split (cutText t.strip) = Text.split (cutText t) := by
    rw [split_cutText, split_cutText t, split_strip]
  rw [← hstrip, normalizeExpression_eq, substituted, strip_sub_spaces]
  exact congrArg _ (hcongr (stopsAt_word isLogical_not) (hcongr (stopsAt_word isLogical_or)
    (hcongr (stopsAt_word isLogical_and) hcomparison)))

/-! ### Pieces that are not cut -/

/-- A piece that the normalisation leaves alone: an operator, a logical word in upper case, or a
text that contains no operator and no logical word. -/
def Settled (w : Text) : Prop :=
  w ∈ comparisonTexts ∨ (∃ k, isLogical k ∧ w = k.text) ∨
    ((∀ c ∈ w, c ≠ '<' ∧ c ≠ '>' ∧ c ≠ '=') ∧
      ∀ k, isLogical k → Scan.search (Scan.word k.text) w = false)

omit [PyRuntime] in
theorem never_bare (h : ∀ a b, t = a ++ b → symbol b = none) : Scan.Never (bare symbol) none t := by
  intro a b hab _
  rw [bare, h a b hab]
  rfl

omit [PyRuntime] in
/-- A comparison symbol is found wherever one of its characters stands. -/
theorem never_comparison_iff : Scan.Never (bare comparisonSymbol) none w ↔
    ∀ c ∈ w, c ≠ '<' ∧ c ≠ '>' ∧ c ≠ '=' := by
  constructor
  · intro h c hc
    obtain ⟨a, b, rfl⟩ := List.append_of_mem hc
    have hnone := h a (c :: b) rfl (by simp)
    rw [bare, Option.map_eq_none_iff] at hnone
    refine ⟨?_, ?_, ?_⟩ <;> rintro rfl <;> unfold comparisonSymbol at hnone <;>
      split at hnone <;> simp_all
  · intro h
    refine never_bare fun a b hab => ?_
    cases hs : comparisonSymbol b with
    | none => rfl
    | some found =>
      obtain ⟨u, rest⟩ := found
      obtain ⟨rfl, hu⟩ := comparisonSymbol_text hs
      have hchar : ∀ u ∈ comparisonTexts, ∃ c ∈ u, c = '<' ∨ c = '>' ∨ c = '=' := by decide
      obtain ⟨c, hc, heq⟩ := hchar u hu
      have hfree := h c (by rw [hab]; simp [hc])
      rcases heq with rfl | rfl | rfl <;> simp at hfree

omit [PyRuntime] in
theorem never_inequality (h : ∀ c ∈ w, c ≠ '<' ∧ c ≠ '>' ∧ c ≠ '=') :
    Scan.Never (bare inequalitySymbol) none w := by
  refine never_bare fun a b hab => ?_
  cases hs : inequalitySymbol b with
  | none => rfl
  | some found =>
    obtain ⟨u, rest⟩ := found
    obtain ⟨rfl, -⟩ := inequalitySymbol_some hs
    exact absurd rfl (h '<' (by rw [hab]; simp)).1

theorem never_word_iff :
    Scan.Never (logicalWord k.text) none w ↔ Scan.search (Scan.word k.text) w = false := by
  rw [Scan.search_eq_false_iff]
  refine forall₂_congr fun a b => forall₂_congr fun _ _ => ?_
  rw [logicalWord, Option.map_eq_none_iff]

/-- In a run of letters only the whole run can be a logical word. -/
theorem whole_of_match (hk : isLogical k) {a b r rest : Text} (hv : ∀ c ∈ v, c.isAlpha = true)
    (hab : v = a ++ b)
    (hm : logicalWord k.text (if a = [] then none else a.getLast?) b = some (r, rest)) :
    v.map Char.toUpper = k.text := by
  obtain ⟨-, hleft, hright, u, rfl, hu, halpha⟩ := logicalWord_some (plain_text hk) hm
  have hrest : rest = [] := by
    cases rest with
    | nil => rfl
    | cons c cs =>
      have hc : c.isAlpha = true := hv c (by rw [hab]; simp)
      simp [Scan.boundary, getLast_text k, isWord_of_isAlpha hc] at hright
  have ha : a = [] := by
    by_contra hne
    obtain ⟨c, hc⟩ : ∃ c, a.getLast? = some c := ⟨_, List.getLast?_eq_some_getLast hne⟩
    have hcv : c.isAlpha = true := hv c (by rw [hab]; simp [List.mem_of_mem_getLast? hc])
    cases u with
    | nil => exact absurd hu.symm (solid_keyword k).1
    | cons d ds =>
      have hd := isWord_of_isAlpha (halpha d List.mem_cons_self)
      rw [if_neg hne, hc] at hleft
      simp [Scan.boundary, isWord_of_isAlpha hcv, hd] at hleft
  rw [hab, ha, hrest, List.nil_append, List.append_nil, hu]

/-- The words are cut by no substitution but their own, which gives them back. -/
theorem split_sub_word {k' : Keyword} (hk : isLogical k) (hk' : isLogical k') :
    Text.split (Scan.sub (logicalWord k.text) k'.text) = [k'.text] := by
  have halpha : ∀ c ∈ k'.text, c.isAlpha = true := by
    obtain rfl | rfl | rfl := hk' <;> decide
  have hupper : k'.text.map Char.toUpper = k'.text := by cases k' <;> decide
  rcases (pads_word hk).first none k'.text with hnever | ⟨a, b, r, rest, last, hab, hm, -, -, -⟩
  · rw [hnever.sub_eq, Text.split_solid (solid_keyword k')]
  · have hsame := whole_of_match hk halpha hab hm
    rw [hupper] at hsame
    obtain rfl := Keyword.text_injective hsame
    have hword : logicalWord k'.text none k'.text = some (' ' :: k'.text ++ [' '], []) := by
      have hhead : k'.text.head?.any Text.isWord = true := by
        cases k' <;> exact isWord_of_isAlpha (by decide)
      have hdrop : Text.dropWord k'.text k'.text = some [] := by
        cases k' <;> decide
      have hleft : Scan.boundary none k'.text = true := by simp [Scan.boundary, hhead]
      have hright : Scan.boundary k'.text.getLast? [] = true := by
        simp [Scan.boundary, getLast_text k']
      simp only [logicalWord, Scan.word, hleft, hdrop, hright, if_true, Option.map_some]
    have hsub : Scan.sub (logicalWord k'.text) k'.text = ' ' :: k'.text ++ [' '] := by
      obtain ⟨c, cs, hcs⟩ := List.exists_cons_of_ne_nil (solid_keyword k').1
      rw [hcs] at hword ⊢
      have hmatch := Scan.subFrom_match (show logicalWord (c :: cs) none (c :: cs ++ []) =
        some (' ' :: (c :: cs) ++ [' '], []) by simpa using hword)
      simpa [Scan.sub, Scan.subFrom] using hmatch
    rw [hsub, List.cons_append, Text.split_cons_space (by decide),
      Text.split_append_space (by decide), Text.split_solid (solid_keyword k'), Text.split_nil]
    rfl

theorem search_word_of_not_alpha (hk : isLogical k) (hv : ∀ c ∈ v, c.isAlpha = false) :
    Scan.search (Scan.word k.text) v = false := by
  refine never_word_iff.mp fun a b hab _ => ?_
  cases hm : logicalWord k.text (if a = [] then none else a.getLast?) b with
  | none => rfl
  | some found =>
    obtain ⟨r, rest⟩ := found
    obtain ⟨-, -, -, u, hu, hmap, halpha⟩ := logicalWord_some (plain_text hk) hm
    cases u with
    | nil => exact absurd hmap.symm (solid_keyword k).1
    | cons c cs =>
      have hc := hv c (by rw [hab, hu]; simp)
      rw [halpha c List.mem_cons_self] at hc
      cases hc

theorem split_cutText_ne_nil (hw : Text.Solid w) : Text.split (cutText w) ≠ [] :=
  (pads_word isLogical_not).split_ne_nil (stopsAt_word isLogical_not) divides_of_isSpace
    ((pads_word isLogical_or).split_ne_nil (stopsAt_word isLogical_or) divides_of_isSpace
      ((pads_word isLogical_and).split_ne_nil (stopsAt_word isLogical_and) divides_of_isSpace
        ((pads_bare readsSymbols_comparison solid_comparison).split_ne_nil
          (stopsAt_bare readsSymbols_comparison) divides_of_isSpace
          ((pads_bare readsSymbols_inequality solid_inequality).split_ne_nil
            (stopsAt_bare readsSymbols_inequality) divides_of_isSpace
            (by rw [Text.split_solid hw]; simp)))))

/-- Where each of the substitutions leaves a piece alone, so does their composition. -/
theorem split_cutText_of (hinequality : Text.split (Scan.sub (bare inequalitySymbol) w) = [w])
    (hcomparison : Text.split (Scan.sub (bare comparisonSymbol) w) = [w])
    (hword : ∀ k, isLogical k → Text.split (Scan.sub (logicalWord k.text) w) = [w]) :
    Text.split (cutText w) = [w] := by
  have hstep {m : Scan.Matcher Text} (hm : Scan.StopsAt Divides m)
      (hw : Text.split (Scan.sub m w) = [w]) {x : Text} (hx : Text.split x = [w]) :
      Text.split (Scan.sub m x) = [w] := by
    rw [hm.split_sub divides_of_isSpace, hx, List.flatMap_singleton, hw]
  exact hstep (stopsAt_word isLogical_not) (hword .not isLogical_not)
    (hstep (stopsAt_word isLogical_or) (hword .or isLogical_or)
      (hstep (stopsAt_word isLogical_and) (hword .and isLogical_and)
        (hstep (stopsAt_bare readsSymbols_comparison) hcomparison hinequality)))

theorem split_cutText_of_settled (hw : Text.Solid w) (h : Settled w) :
    Text.split (cutText w) = [w] := by
  have hnever {m : Scan.Matcher Text} (hm : Scan.Never m none w) :
      Text.split (Scan.sub m w) = [w] := by
    rw [hm.sub_eq, Text.split_solid hw]
  obtain hsymbol | ⟨k, hk, rfl⟩ | ⟨hfree, hwords⟩ := h
  · have hcut : ∀ w ∈ comparisonTexts,
        Text.split (Scan.sub (bare inequalitySymbol) w) = [w] ∧
        Text.split (Scan.sub (bare comparisonSymbol) w) = [w] ∧
        ∀ c ∈ w, c.isAlpha = false := by decide +kernel
    obtain ⟨hinequality, hcomparison, halpha⟩ := hcut w hsymbol
    exact split_cutText_of hinequality hcomparison fun k hk =>
      hnever (never_word_iff.mpr (search_word_of_not_alpha hk halpha))
  · have hfree : ∀ c ∈ k.text, c ≠ '<' ∧ c ≠ '>' ∧ c ≠ '=' := by
      obtain rfl | rfl | rfl := hk <;> decide
    exact split_cutText_of (hnever (never_inequality hfree))
      (hnever (never_comparison_iff.mpr hfree)) fun k' hk' => split_sub_word hk' hk
  · exact split_cutText_of (hnever (never_inequality hfree))
      (hnever (never_comparison_iff.mpr hfree)) fun k hk => hnever (never_word_iff.mpr (hwords k hk))

variable {u : Text} {K : Keyword → Prop}

/-- A piece that the substitutions of the operators and of some words leave alone. -/
def SettledFor (K : Keyword → Prop) (w : Text) : Prop :=
  w ∈ comparisonTexts ∨ (∃ k, isLogical k ∧ w = k.text) ∨
    ((∀ c ∈ w, c ≠ '<' ∧ c ≠ '>' ∧ c ≠ '=') ∧
      ∀ k, K k → Scan.search (Scan.word k.text) w = false)

theorem settledFor_of_comparison (hv : Text.Solid v)
    (hu : u ∈ Text.split (Scan.sub (bare comparisonSymbol) v)) : SettledFor (fun _ => False) u := by
  refine Scan.forall_mem_split_subFrom
    (P := fun read _ _ => ∀ c ∈ read, c ≠ '<' ∧ c ≠ '>' ∧ c ≠ '=') ?_ ?_ ?_ []
    hv.2 (List.forall_mem_nil _) u hu
  · exact fun hfree => .inr (.inr ⟨hfree, fun _ => False.elim⟩)
  · intro read prev c cs hfree hnone
    rw [bare, Option.map_eq_none_iff] at hnone
    rw [List.forall_mem_append, List.forall_mem_singleton]
    refine ⟨hfree, ?_, ?_, ?_⟩ <;> rintro rfl <;> unfold comparisonSymbol at hnone <;>
      split at hnone <;> simp_all
  · intro read prev t r rest hfree hm
    obtain ⟨⟨w, rest⟩, hs, heq⟩ := Option.map_eq_some_iff.mp hm
    cases heq
    obtain ⟨rfl, hw⟩ := comparisonSymbol_text hs
    obtain ⟨c, cs, rfl⟩ := List.exists_cons_of_ne_nil (solid_comparison hs).1
    exact ⟨c, cs, _, rfl, rfl, solid_comparison hs, .inr (.inr ⟨hfree, fun _ => False.elim⟩),
      .inl hw, List.forall_mem_nil _⟩

/-- The substitution of a word settles the pieces for it, and keeps what they are settled for. -/
theorem SettledFor.word (hk : isLogical k) (hK : ∀ k', K k' → isLogical k') (hv : Text.Solid v)
    (h : SettledFor K v) (hu : u ∈ Text.split (Scan.sub (logicalWord k.text) v)) :
    SettledFor (fun k' => k' = k ∨ K k') u := by
  obtain hsymbol | ⟨k', hk', rfl⟩ | ⟨hfree, hwords⟩ := h
  · have halpha : ∀ w ∈ comparisonTexts, ∀ c ∈ w, c.isAlpha = false := by decide
    rw [(never_word_iff.mpr (search_word_of_not_alpha hk (halpha v hsymbol))).sub_eq,
      Text.split_solid hv, List.mem_singleton] at hu
    exact .inl (hu ▸ hsymbol)
  · rw [split_sub_word hk hk', List.mem_singleton] at hu
    exact .inr (.inl ⟨k', hk', hu⟩)
  · have hstops {k' : Keyword} (hk' : isLogical k') :
        Scan.StopsAt (fun d => Text.isWord d = false) (logicalWord k'.text) :=
      stopsAt_nonWord (plain_text hk') (solid_keyword k').1
    -- what was read since the last match is behind no part of a word, and in front of none
    refine Scan.forall_mem_split_subFrom (P := fun read prev t =>
        (∀ c ∈ read ++ t, c ≠ '<' ∧ c ≠ '>' ∧ c ≠ '=') ∧
        (prev = read.getLast? ∨ read = [] ∧ ∀ d ∈ t.head?, Text.isWord d = false) ∧
        (∀ x y, read = x ++ y → y ≠ [] →
          logicalWord k.text (if x = [] then none else x.getLast?) (y ++ t) = none) ∧
        ∀ k', K k' → Scan.Never (logicalWord k'.text) none (read ++ t)) ?_ ?_ ?_ []
      hv.2 ⟨hfree, .inl rfl, ?_, fun k' hk' => never_word_iff.mpr (hwords k' hk')⟩ u hu
    · rintro read prev ⟨hfree, -, hread, hnever⟩
      rw [List.append_nil] at hfree
      refine .inr (.inr ⟨hfree, ?_⟩)
      rintro k' (rfl | hk')
      · exact never_word_iff.mp ((hstops hk).never_of_divided (.inl rfl) hread)
      · exact never_word_iff.mp (by simpa using hnever k' hk')
    · rintro read prev c cs ⟨hfree, hprev, hread, hnever⟩ hnone
      refine ⟨by simpa using hfree, .inl (by simp), ?_, by simpa using hnever⟩
      intro x y hxy hy
      obtain ⟨y, d, rfl⟩ := (List.eq_nil_or_concat' y).resolve_left hy
      rw [← List.append_assoc] at hxy
      obtain ⟨rfl, hd⟩ := List.append_inj' hxy rfl
      cases hd
      rw [List.append_assoc, List.singleton_append]
      by_cases hy : y = []
      · subst hy
        rw [List.append_nil] at hprev
        rcases hprev with rfl | ⟨rfl, hhead⟩
        · cases x <;> exact hnone
        · exact (hstops hk).none_at (hhead c rfl) _ cs
      · exact hread x y rfl hy
    · rintro read prev t r rest ⟨hfree, hprev, hread, hnever⟩ hm
      obtain ⟨rfl, hleft, hright, w, rfl, hw, halpha⟩ := logicalWord_some (plain_text hk) hm
      obtain ⟨c, cs, rfl⟩ : ∃ c cs, w = c :: cs := by
        refine List.exists_cons_of_ne_nil ?_
        rintro rfl
        exact (solid_keyword k).1 hw.symm
      have hc := isWord_of_isAlpha (halpha c List.mem_cons_self)
      have hlast : ∀ d ∈ read.getLast?, Text.isWord d = false := by
        intro d hd
        rcases hprev with rfl | ⟨rfl, -⟩
        · simpa [Scan.boundary, hc, Option.mem_def.mp hd] using hleft
        · cases hd
      have hhead : ∀ d ∈ rest.head?, Text.isWord d = false := by
        intro d hd
        simpa [Scan.boundary, getLast_text k, Option.mem_def.mp hd] using hright
      refine ⟨c, cs, k.text, rfl, rfl, solid_keyword k, .inr (.inr ⟨?_, ?_⟩),
        .inr (.inl ⟨k, hk, rfl⟩), ?_, .inr ⟨rfl, hhead⟩, ?_, ?_⟩
      · exact fun d hd => hfree d (List.mem_append_left _ hd)
      · rintro k' (rfl | hk')
        · exact never_word_iff.mp ((hstops hk).never_of_divided (.inr hlast) hread)
        · refine never_word_iff.mp ((hstops (hK k' hk')).never_of_divided
          (t := c :: cs ++ rest) (.inr hlast) ?_)
          intro x y hxy hy
          exact hnever k' hk' x (y ++ (c :: cs ++ rest)) (by rw [hxy, List.append_assoc]) (by simp [hy])
      · exact fun d hd => hfree d (by simp at hd; simp [hd])
      · exact fun x y hxy hy => absurd (List.append_eq_nil_iff.mp hxy.symm).2 hy
      · refine fun k' hk' => (hstops (hK k' hk')).never_of_append (a := read ++ c :: cs) hhead ?_
        rw [List.append_assoc]
        exact hnever k' hk'
    · exact fun x y hxy hy => absurd (List.append_eq_nil_iff.mp hxy.symm).2 hy

theorem settled_of_mem_cutText (hu : u ∈ Text.split (cutText t)) : Settled u := by
  have hpiece {m : Scan.Matcher Text} (hm : Scan.StopsAt Divides m) {t u : Text}
      (hu : u ∈ Text.split (Scan.sub m t)) :
      ∃ v ∈ Text.split t, u ∈ Text.split (Scan.sub m v) := by
    rw [hm.split_sub divides_of_isSpace] at hu
    exact List.mem_flatMap.mp hu
  obtain ⟨v₄, h₄, hnot⟩ := hpiece (stopsAt_word isLogical_not) hu
  obtain ⟨v₃, h₃, hor⟩ := hpiece (stopsAt_word isLogical_or) h₄
  obtain ⟨v₂, h₂, hand⟩ := hpiece (stopsAt_word isLogical_and) h₃
  obtain ⟨v₁, h₁, hcomparison⟩ := hpiece (stopsAt_bare readsSymbols_comparison) h₂
  have hsolid {t v : Text} (hv : v ∈ Text.split t) : Text.Solid v := Text.solid_of_mem_split hv
  have h := settledFor_of_comparison (hsolid h₁) hcomparison
  replace h := h.word isLogical_and (fun _ => False.elim) (hsolid h₂) hand
  replace h := h.word isLogical_or (by simp [isLogical_and]) (hsolid h₃) hor
  replace h := h.word isLogical_not (by simp [isLogical_and, isLogical_or]) (hsolid h₄) hnot
  exact h.imp_right (Or.imp_right (And.imp_right fun hwords k hk => hwords k (by
    obtain rfl | rfl | rfl := hk <;> simp)))

end Normalize

section Meaning

variable [PyRuntime]

/-- A text that is its own normalisation: its pieces stand between single blanks, and each one is
an operator, a logical word, or free of both. -/
def Tidy (t : Text) : Prop :=
  t = Text.join [' '] (Text.split t) ∧ ∀ w ∈ Text.split t, Normalize.Settled w

theorem normalizeExpression_eq_self_iff {t : Text} : normalizeExpression t = t ↔ Tidy t := by
  have hcut : ∀ w ∈ Text.split t, Text.split (Normalize.cutText w) ≠ [] := fun w hw =>
    Normalize.split_cutText_ne_nil (Text.solid_of_mem_split hw)
  rw [Normalize.normalizeExpression_eq_join, Normalize.split_cutText, Tidy]
  constructor
  · intro h
    have hpieces : (Text.split t).flatMap (fun w => Text.split (Normalize.cutText w)) =
        Text.split t := by
      conv_rhs => rw [← h]
      rw [Text.split_join]
      intro w hw
      obtain ⟨v, -, hv⟩ := List.mem_flatMap.mp hw
      exact Text.solid_of_mem_split hv
    rw [hpieces] at h
    rw [Scan.flatMap_eq_self_iff hcut] at hpieces
    exact ⟨h.symm, fun w hw =>
      Normalize.settled_of_mem_cutText (hpieces w hw ▸ List.mem_singleton_self w)⟩
  · rintro ⟨hjoin, hsettled⟩
    rw [(Scan.flatMap_eq_self_iff hcut).mpr fun w hw =>
      Normalize.split_cutText_of_settled (Text.solid_of_mem_split hw) (hsettled w hw)]
    exact hjoin.symm

/-- A normalised expression is its own normalisation. -/
theorem normalizeExpression_idempotent (t : Text) :
    normalizeExpression (normalizeExpression t) = normalizeExpression t := by
  rw [normalizeExpression_eq_self_iff, Tidy, Normalize.normalizeExpression_eq_join,
    Text.split_join fun w hw => Text.solid_of_mem_split hw]
  exact ⟨rfl, fun w hw => Normalize.settled_of_mem_cutText hw⟩

/-- The normalised text has the tokens of the original, `<>` being read as `!=`. -/
def KeepsTokens (t : Text) : Prop :=
  ∀ tokens, tokenizeExpression t = .ok tokens →
    tokenizeExpression (normalizeExpression t) = .ok (tokens.map Token.unified)

/-- The normalisation keeps the tokens of exactly the expressions whose quoted literals are
tidy. -/
theorem keepsTokens_iff (t : Text) :
    KeepsTokens t ↔ ∀ tokens, tokenizeExpression t = .ok tokens →
      ∀ s, Token.string s ∈ tokens → Tidy s := by
  refine forall₂_congr fun tokens ht => ?_
  rw [tokenize_normalizeExpression ht, Except.ok.injEq, List.map_inj_left]
  constructor
  · intro h s hs
    rw [← normalizeExpression_eq_self_iff]
    have htoken := h _ hs
    simpa [Token.mapString, Token.unified] using htoken
  · intro h token htoken
    cases token with
    | string s =>
      rw [Token.mapString, normalizeExpression_eq_self_iff.mpr (h s htoken)]
    | _ => rfl

end Meaning

section Example

local instance sampleRuntimeTidy : PyRuntime := .ascii (fun _ => .nan) (fun _ => [])

/-- A word inside a literal is taken for a connective. -/
theorem not_keepsTokens : ¬KeepsTokens "a = 'rock and roll'" := by
  intro h
  have htokens := h [.ident ['a'], .op .eq, .string "'rock and roll'"] (by decide +kernel)
  revert htokens
  decide +kernel

end Example

end DqMadeEasy
