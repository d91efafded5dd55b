import DqMadeEasy.Compiler.Parser
import DqMadeEasy.Gx.Literal
import DqMadeEasy.Logic.Fallible

/-!
# Where operands come from

Every literal operand of a parsed tree is the text of a literal token, so what holds of these
texts holds of the operands. Literal tokens begin with a quote, a minus sign, a digit, or the first
letter of a Boolean, so no literal operand spells `NULL`. A property is carried through the
tokenizer by the shape of its matches and through the parser by one sequencing rule.
-/

namespace DqMadeEasy

def startsLikeLiteral (t : Text) : Prop :=
  ∃ c cs, t = c :: cs ∧ isSpace c = false ∧ c ≠ 'N' ∧ c ≠ 'n'

def Token.Carries (P : Text → Prop) : Token → Prop
  | .string text => P text
  | .number text => P text
  | _ => True

/-- A literal operand has a property. -/
def Operand.Carries (P : Text → Prop) (operand : Operand) : Prop :=
  operand.valueType ≠ .expression → P operand.value

def Operand.WellFormed (operand : Operand) : Prop :=
  operand.valueType ≠ .expression → startsLikeLiteral operand.value

/-- The operands of a test. -/
def Test.operands : Test → List Operand
  | .compare _ operand => [operand]
  | .between _ lower upper => [lower, upper]
  | .inList _ values => values
  | .pattern _ literal => [literal]
  | _ => []

/-- The literal operands of a tree have a property. -/
def Ast.Carries (P : Text → Prop) (ast : Ast) : Prop :=
  ∀ p ∈ ast.predicates, ∀ operand ∈ p.test.operands, operand.Carries P

def Ast.WellFormed (ast : Ast) : Prop :=
  ∀ p ∈ ast.predicates, ∀ operand ∈ p.test.operands, operand.WellFormed

/-- A property of the texts of literals: the literal tokens have it, and so do the two Booleans. -/
structure LiteralProperty [PyRuntime] where
  Holds : Text → Prop
  single : ∀ {t body rest : Text},
    Tokenizer.singleQuoted t = some (body, rest) → Holds ('\'' :: body)
  double : ∀ {t body rest : Text},
    Tokenizer.doubleQuoted t = some (body, rest) → Holds ('"' :: body)
  number : ∀ {t digits rest : Text}, Tokenizer.number t = some (digits, rest) → Holds digits
  true_ : Holds "true"
  false_ : Holds "false"

namespace Tokenizer

variable [PyRuntime]

theorem isDigit_start {c : Char} (h : isDigit c = true) :
    isSpace c = false ∧ c ≠ 'N' ∧ c ≠ 'n' := by
  have hne : PyRuntime.digit c ≠ none := by
    intro hnone
    simp [isDigit, hnone] at h
  refine ⟨PyRuntime.isAlnum_not_space c (PyRuntime.digit_isAlnum c hne), ?_, ?_⟩
  · rintro rfl
    exact hne (by rw [PyRuntime.digit_ascii _ (by decide)]; decide)
  · rintro rfl
    exact hne (by rw [PyRuntime.digit_ascii _ (by decide)]; decide)

theorem unsignedNumber_start {t digits rest : Text}
    (h : unsignedNumber t = some (digits, rest)) : startsLikeLiteral digits := by
  have hhead : ∀ tail : Text, ¬(t.takeWhile isDigit).isEmpty = true →
      startsLikeLiteral (t.takeWhile isDigit ++ tail) := by
    intro tail hne
    cases htake : t.takeWhile isDigit with
    | nil => simp [htake] at hne
    | cons d ds =>
      have hd : isDigit d = true := List.mem_takeWhile_imp (htake ▸ List.mem_cons_self)
      exact ⟨d, ds ++ tail, rfl, isDigit_start hd⟩
  unfold unsignedNumber at h
  split at h
  · cases h
  · rename_i hne
    split at h
    · split at h <;> cases h
      · simpa using hhead [] hne
      · exact hhead _ hne
    · cases h
      simpa using hhead [] hne

theorem number_start {t digits rest : Text} (h : number t = some (digits, rest)) :
    startsLikeLiteral digits := by
  unfold number at h
  split at h
  · obtain ⟨⟨body, rest'⟩, -, heq⟩ := Option.map_eq_some_iff.mp h
    simp only [Prod.mk.injEq] at heq
    exact ⟨'-', body, heq.1.symm, by decide, by decide, by decide⟩
  · exact unsignedNumber_start h

theorem next_carries (L : LiteralProperty) {t rest : Text} {token : Token}
    (h : next t = some (some token, rest)) : token.Carries L.Holds := by
  cases t with
  | nil => cases h
  | cons c cs =>
    rw [next] at h
    split at h
    · cases h
    split at h
    · cases h; trivial
    split at h
    · cases h; trivial
    split at h
    · cases h; trivial
    split at h
    · cases h; trivial
    split at h
    · cases h; trivial
    split at h
    · cases h; trivial
    split at h
    · rename_i hq
      cases h
      split at hq
      · rename_i hc
        subst hc
        exact L.single hq
      · cases hq
    split at h
    · rename_i hq
      cases h
      split at hq
      · rename_i hc
        subst hc
        exact L.double hq
      · cases hq
    split at h
    · rename_i hn
      cases h
      exact L.number hn
    split at h
    · cases h; trivial
    split at h
    · cases h
      unfold identToken
      split <;> trivial
    · cases h

theorem run_carries (L : LiteralProperty) : ∀ {fuel : ℕ} {t : Text} {tokens : List Token},
    run fuel t = .ok tokens → ∀ token ∈ tokens, token.Carries L.Holds := by
  intro fuel
  induction fuel with
  | zero =>
    intro t tokens h
    unfold run at h
    split at h
    · cases h; simp
    · cases h
  | succ fuel ih =>
    intro t tokens h
    by_cases ht : t = []
    · subst ht
      rw [run_nil] at h
      cases h
      simp
    · cases hnext : next t with
      | none => rw [run_of_next_none ht hnext] at h; cases h
      | some found =>
        obtain ⟨token, rest⟩ := found
        rw [run_of_next hnext] at h
        cases hrest : run fuel rest with
        | error error => rw [hrest] at h; cases h
        | ok tokens' =>
          rw [hrest] at h
          cases h
          intro token' hmem
          rcases List.mem_append.mp hmem with hmem | hmem
          · cases token with
            | none => simp at hmem
            | some token =>
              obtain rfl := List.mem_singleton.mp hmem
              exact next_carries L hnext
          · exact ih hrest token' hmem

end Tokenizer

namespace Parser

variable [PyRuntime] {L : LiteralProperty}

/-- A successful parse has property `P` and leaves tokens that carry the property. -/
def Yields (L : LiteralProperty) {α : Type} (P : α → Prop)
    (r : Except AstParserError (α × List Token)) : Prop :=
  ∀ a rest, r = .ok (a, rest) → P a ∧ ∀ t ∈ rest, t.Carries L.Holds

variable {α : Type} {P : α → Prop} {ts : List Token} {prefixedNot : Bool}

theorem Yields.fail (text : String) :
    Yields L P (Parser.fail text : Except AstParserError (α × List Token)) := by
  intro a rest h
  cases h

theorem Yields.expected (want : String) (ts : List Token) :
    Yields L P (Parser.expected want ts : Except AstParserError (α × List Token)) := by
  cases ts <;> exact Yields.fail _

theorem Yields.ok {a : α} {rest : List Token} (ha : P a) (hrest : ∀ t ∈ rest, t.Carries L.Holds) :
    Yields L P (.ok (a, rest)) := by
  intro a' rest' h
  cases h
  exact ⟨ha, hrest⟩

theorem Yields.bind {β : Type} {Q : β → Prop} {r : Except AstParserError (α × List Token)}
    {f : α × List Token → Except AstParserError (β × List Token)} (hr : Yields L P r)
    (hf : ∀ a rest, P a → (∀ t ∈ rest, t.Carries L.Holds) → Yields L Q (f (a, rest))) :
    Yields L Q (r >>= f) := by
  cases r with
  | error error =>
    intro b rest h
    cases h
  | ok result =>
    obtain ⟨ha, hrest⟩ := hr result.1 result.2 rfl
    exact hf result.1 result.2 ha hrest

theorem Yields.expect {β : Type} {Q : β → Prop} {want : Token} {name : String}
    {f : List Token → Except AstParserError (β × List Token)} (hts : ∀ t ∈ ts, t.Carries L.Holds)
    (hf : ∀ rest, (∀ t ∈ rest, t.Carries L.Holds) → Yields L Q (f rest)) :
    Yields L Q (expect want name ts >>= f) := by
  cases ts with
  | nil => exact Yields.fail _
  | cons t rest =>
    by_cases ht : t = want
    · have hok : Parser.expect want name (t :: rest) = .ok rest := by simp [Parser.expect, ht]
      rw [hok]
      exact hf rest fun t' h => hts t' (List.mem_cons_of_mem _ h)
    · have herr : Parser.expect want name (t :: rest) = Parser.expected name (t :: rest) := by
        simp [Parser.expect, ht]
      rw [herr]
      exact Yields.fail _

theorem parseLiteral_yields (hts : ∀ t ∈ ts, t.Carries L.Holds) :
    Yields L (Operand.Carries L.Holds) (parseLiteral ts) := by
  unfold parseLiteral
  split
  · rename_i text ts
    exact Yields.ok (fun _ => hts (.number text) (by simp)) fun t h => hts t (by simp [h])
  · rename_i text ts
    exact Yields.ok (fun _ => hts (.string text) (by simp)) fun t h => hts t (by simp [h])
  · exact Yields.ok (fun _ => L.true_) fun t h => hts t (by simp [h])
  · exact Yields.ok (fun _ => L.false_) fun t h => hts t (by simp [h])
  · exact Yields.fail _
  · exact Yields.fail _

omit [PyRuntime] in
theorem mem_of_mem_collectValue {stopOnComma : Bool} {token : Token} :
    ∀ {ts : List Token} {depth : ℕ},
      token ∈ (collectValue stopOnComma depth ts).2 → token ∈ ts := by
  intro ts
  induction ts with
  | nil => intro depth h; simp [collectValue] at h
  | cons t ts ih =>
    intro depth h
    rw [collectValue] at h
    split at h
    · exact h
    · exact List.mem_cons_of_mem _ (ih h)

theorem parseValueOperand_yields {stopOnComma : Bool} (hts : ∀ t ∈ ts, t.Carries L.Holds) :
    Yields L (Operand.Carries L.Holds) (parseValueOperand stopOnComma ts) := by
  unfold parseValueOperand
  split
  · exact Yields.fail _
  · exact parseLiteral_yields hts
  · exact parseLiteral_yields hts
  · exact parseLiteral_yields hts
  · exact parseLiteral_yields hts
  · unfold parseValueExpression
    split
    · exact Yields.fail _
    · exact Yields.ok (fun h => absurd rfl h) fun t h => hts t (mem_of_mem_collectValue h)

theorem parseSegments_yields (hts : ∀ t ∈ ts, t.Carries L.Holds) :
    Yields L (fun _ => True) (parseSegments ts) := by
  fun_induction parseSegments ts with
  | case1 segment ts text rest h ih =>
    exact Yields.ok trivial (ih (fun t ht => hts t (by simp [ht])) text rest h).2
  | case2 segment ts error h ih =>
    intro a rest h
    cases h
  | case3 ts hne => exact Yields.expected _ _
  | case4 ts h₁ h₂ => exact Yields.ok trivial hts

theorem parseCasts_yields (hts : ∀ t ∈ ts, t.Carries L.Holds) :
    Yields L (fun _ => True) (parseCasts ts) := by
  fun_induction parseCasts ts with
  | case1 => exact Yields.fail _
  | case2 target ts text rest h ih =>
    exact Yields.ok trivial (ih (fun t ht => hts t (by simp [ht])) text rest h).2
  | case3 target ts error h ih =>
    intro a rest h
    cases h
  | case4 target ts text rest h ih =>
    exact Yields.ok trivial (ih (fun t ht => hts t (by simp [ht])) text rest h).2
  | case5 target ts error h ih =>
    intro a rest h
    cases h
  | case6 t ts h₁ h₂ => exact Yields.fail _
  | case7 ts h₁ h₂ h₃ h₄ => exact Yields.ok trivial hts

theorem parseCalls_yields : ∀ {ts : List Token} {depth : ℕ}, (∀ t ∈ ts, t.Carries L.Holds) →
    Yields L (fun _ => True) (parseCalls depth ts) := by
  intro ts
  induction ts with
  | nil =>
    intro depth hts
    cases depth
    · exact Yields.ok trivial hts
    · exact Yields.fail _
  | cons t ts ih =>
    intro depth hts
    have htail : ∀ t ∈ ts, t.Carries L.Holds := fun t' h => hts t' (List.mem_cons_of_mem _ h)
    cases depth with
    | zero =>
      by_cases ht : t = .lparen
      · subst ht
        intro a rest h
        rw [parseCalls] at h
        split at h
        · rename_i hread
          cases h
          exact ⟨trivial, (ih htail _ _ hread).2⟩
        · cases h
      · rw [parseCalls]
        · exact Yields.ok trivial hts
        · intro ts' h
          exact ht (List.cons.inj h).1
    | succ depth =>
      intro a rest h
      rw [parseCalls] at h
      split at h
      · rename_i hread
        cases h
        exact ⟨trivial, (ih htail _ _ hread).2⟩
      · cases h

theorem parseFieldReference_yields (hts : ∀ t ∈ ts, t.Carries L.Holds) :
    Yields L (fun _ => True) (parseFieldReference ts) := by
  unfold parseFieldReference
  split
  · rename_i name ts
    refine (parseSegments_yields fun t h => hts t (List.mem_cons_of_mem _ h)).bind
      fun segments ts₁ _ h₁ => ?_
    refine (parseCasts_yields h₁).bind fun casts ts₂ _ h₂ => ?_
    refine (parseCalls_yields h₂).bind fun calls ts₃ _ h₃ => ?_
    exact Yields.ok trivial h₃
  · exact Yields.expected _ _

theorem parseInRest_yields : ∀ {fuel : ℕ} {ts : List Token}, (∀ t ∈ ts, t.Carries L.Holds) →
    Yields L (fun values => ∀ value ∈ values, value.Carries L.Holds) (parseInRest fuel ts) := by
  intro fuel
  induction fuel with
  | zero =>
    intro ts hts
    unfold parseInRest
    split
    · contradiction
    · intro values rest h
      cases h
    · exact Yields.ok (by simp) hts
  | succ fuel ih =>
    intro ts hts
    unfold parseInRest
    split
    · rename_i ts' hfuel
      obtain rfl := Nat.succ.inj hfuel
      refine (parseValueOperand_yields fun t h => hts t (List.mem_cons_of_mem _ h)).bind
        fun value ts₁ hvalue h₁ => ?_
      refine (ih h₁).bind fun values ts₂ hvalues h₂ => ?_
      exact Yields.ok (by simpa using ⟨hvalue, hvalues⟩) h₂
    · contradiction
    · exact Yields.ok (by simp) hts

def OperandsCarry (L : LiteralProperty) (p : Predicate) : Prop :=
  ∀ operand ∈ p.test.operands, operand.Carries L.Holds

theorem bareField_yields {field : Text} (hts : ∀ t ∈ ts, t.Carries L.Holds) :
    Yields L (OperandsCarry L) (bareField field prefixedNot ts) := by
  unfold bareField
  split
  · exact Yields.fail _
  · exact Yields.ok (by simp [OperandsCarry, Test.operands]) hts

theorem parsePattern_yields {field : Text} {op : PatternOp} (hts : ∀ t ∈ ts, t.Carries L.Holds) :
    Yields L (OperandsCarry L) (parsePattern field op ts) := by
  refine (parseLiteral_yields hts).bind fun literal rest hliteral hrest => ?_
  exact Yields.ok (by simpa [OperandsCarry, Test.operands] using hliteral) hrest

theorem parseComparison_yields {field : Text} {op : Comparison} (hts : ∀ t ∈ ts, t.Carries L.Holds)
    :
    Yields L (OperandsCarry L) (parseComparison field prefixedNot op ts) := by
  refine (parseValueOperand_yields hts).bind fun operand rest hoperand hrest => ?_
  cases prefixedNot
  · exact Yields.ok (by simpa [OperandsCarry, Test.operands] using hoperand) hrest
  · exact Yields.fail _

theorem parseTest_yields {field : Text} (hts : ∀ t ∈ ts, t.Carries L.Holds) :
    Yields L (OperandsCarry L) (parseTest field prefixedNot ts) := by
  have htail {t : Token} {ts' : List Token} (h : ts = t :: ts') :
      ∀ t ∈ ts', t.Carries L.Holds := fun t' h' => hts t' (h ▸ List.mem_cons_of_mem _ h')
  unfold parseTest
  split
  · refine Yields.expect (htail rfl) fun ts₁ h₁ => ?_
    refine (parseValueOperand_yields h₁).bind fun value ts₂ hvalue h₂ => ?_
    refine (parseInRest_yields h₂).bind fun values ts₃ hvalues h₃ => ?_
    refine Yields.expect h₃ fun ts₄ h₄ => ?_
    exact Yields.ok (by simpa [OperandsCarry, Test.operands] using ⟨hvalue, hvalues⟩) h₄
  · refine (parseValueOperand_yields (htail rfl)).bind fun lower ts₁ hlower h₁ => ?_
    refine Yields.expect h₁ fun ts₂ h₂ => ?_
    refine (parseValueOperand_yields h₂).bind fun upper ts₃ hupper h₃ => ?_
    exact Yields.ok (by simpa [OperandsCarry, Test.operands] using ⟨hlower, hupper⟩) h₃
  · exact parsePattern_yields (htail rfl)
  · exact parsePattern_yields (htail rfl)
  · exact bareField_yields hts
  · exact bareField_yields hts
  · exact bareField_yields hts
  · exact bareField_yields hts
  · exact parsePattern_yields (htail rfl)
  · exact parsePattern_yields (htail rfl)
  · split
    · exact parseComparison_yields (htail rfl)
    · exact Yields.fail _
  · split
    · exact Yields.fail _
    · exact Yields.fail _

theorem parsePredicate_yields (hts : ∀ t ∈ ts, t.Carries L.Holds) :
    Yields L (OperandsCarry L) (parsePredicate ts) := by
  refine (parseFieldReference_yields hts).bind fun field ts₁ _ h₁ => ?_
  have htail {t : Token} {ts' : List Token} (h : ts₁ = t :: ts') :
      ∀ t ∈ ts', t.Carries L.Holds := fun t' h' => h₁ t' (h ▸ List.mem_cons_of_mem _ h')
  simp only
  split
  · refine Yields.expect (fun t h => htail rfl t (List.mem_cons_of_mem _ h)) fun ts₃ h₃ => ?_
    exact Yields.ok (by simp [OperandsCarry, Test.operands]) h₃
  · refine Yields.expect (htail rfl) fun ts₃ h₃ => ?_
    exact Yields.ok (by simp [OperandsCarry, Test.operands]) h₃
  · exact parseTest_yields (htail rfl)
  · exact parseTest_yields h₁

/-- Every level of the grammar yields trees that carry the property. -/
structure LevelsYield (L : LiteralProperty) (fuel : ℕ) : Prop where
  or : ∀ ts, (∀ t ∈ ts, t.Carries L.Holds) → Yields L (Ast.Carries L.Holds) (parseOr fuel ts)
  orRest : ∀ (node : Ast) ts, node.Carries L.Holds → (∀ t ∈ ts, t.Carries L.Holds) →
    Yields L (Ast.Carries L.Holds) (parseOrRest fuel node ts)
  and : ∀ ts, (∀ t ∈ ts, t.Carries L.Holds) → Yields L (Ast.Carries L.Holds) (parseAnd fuel ts)
  andRest : ∀ (node : Ast) ts, node.Carries L.Holds → (∀ t ∈ ts, t.Carries L.Holds) →
    Yields L (Ast.Carries L.Holds) (parseAndRest fuel node ts)
  not : ∀ ts, (∀ t ∈ ts, t.Carries L.Holds) → Yields L (Ast.Carries L.Holds) (parseNot fuel ts)
  factor : ∀ ts, (∀ t ∈ ts, t.Carries L.Holds) →
    Yields L (Ast.Carries L.Holds) (parseFactor fuel ts)

theorem carries_logical {op : Connective} {left right : Ast} (hleft : left.Carries L.Holds)
    (hright : right.Carries L.Holds) : (Ast.logical op left right).Carries L.Holds := by
  intro p hp
  rcases List.mem_append.mp hp with hp | hp
  · exact hleft p hp
  · exact hright p hp

theorem levelsYield (L : LiteralProperty) (fuel : ℕ) : LevelsYield L fuel := by
  induction fuel with
  | zero =>
    constructor <;> intros <;> intro a rest h
    all_goals
      first
        | (rw [parseOr] at h; cases h)
        | (rw [parseOrRest] at h; cases h)
        | (rw [parseAnd] at h; cases h)
        | (rw [parseAndRest] at h; cases h)
        | (rw [parseNot] at h; cases h)
        | (rw [parseFactor] at h; cases h)
  | succ fuel ih =>
    constructor
    · intro ts hts
      rw [parseOr_succ]
      exact (ih.and ts hts).bind fun node ts₁ hnode h₁ => ih.orRest node ts₁ hnode h₁
    · intro node ts hnode hts
      unfold parseOrRest
      split
      · contradiction
      · rename_i ts₁ hfuel
        obtain rfl := Nat.succ.inj hfuel
        refine (ih.and ts₁ fun t h => hts t (List.mem_cons_of_mem _ h)).bind
          fun right ts₂ hright h₂ => ?_
        exact ih.orRest _ ts₂ (carries_logical hnode hright) h₂
      · exact Yields.ok hnode hts
    · intro ts hts
      rw [parseAnd_succ]
      exact (ih.not ts hts).bind fun node ts₁ hnode h₁ => ih.andRest node ts₁ hnode h₁
    · intro node ts hnode hts
      unfold parseAndRest
      split
      · contradiction
      · rename_i ts₁ hfuel
        obtain rfl := Nat.succ.inj hfuel
        refine (ih.not ts₁ fun t h => hts t (List.mem_cons_of_mem _ h)).bind
          fun right ts₂ hright h₂ => ?_
        exact ih.andRest _ ts₂ (carries_logical hnode hright) h₂
      · exact Yields.ok hnode hts
    · intro ts hts
      unfold parseNot
      split
      · contradiction
      · rename_i ts₁ hfuel
        obtain rfl := Nat.succ.inj hfuel
        refine (ih.not ts₁ fun t h => hts t (List.mem_cons_of_mem _ h)).bind
          fun operand ts₂ hoperand h₂ => ?_
        exact Yields.ok hoperand h₂
      · rename_i hfuel _
        obtain rfl := Nat.succ.inj hfuel
        exact ih.factor _ hts
    · intro ts hts
      unfold parseFactor
      split
      · contradiction
      · rename_i ts₁ hfuel
        obtain rfl := Nat.succ.inj hfuel
        refine (ih.or ts₁ fun t h => hts t (List.mem_cons_of_mem _ h)).bind
          fun nested ts₂ hnested h₂ => ?_
        exact Yields.expect h₂ fun ts₃ h₃ => Yields.ok hnested h₃
      · refine (parsePredicate_yields hts).bind fun p ts₁ hp h₁ => ?_
        refine Yields.ok (fun q hq => ?_) h₁
        obtain rfl := List.mem_singleton.mp hq
        exact hp

end Parser

theorem eq_of_toUpper_N {c : Char} (h : c.toUpper = 'N') : c = 'N' ∨ c = 'n' := by
  unfold Char.toUpper at h
  split at h
  · right
    have hval : c.val + 4294967264 = 78 := by simpa using congrArg Char.val h
    exact Char.ext (by rw [show c.val = 78 - 4294967264 by rw [← hval]; simp]; decide)
  · exact .inl h

theorem strip_of_startsLikeLiteral {t : Text} (h : startsLikeLiteral t) :
    ∃ c cs, t.strip = c :: cs ∧ c ≠ 'N' ∧ c ≠ 'n' := by
  obtain ⟨c, cs, rfl, hspace, hN, hn⟩ := h
  have hdrop : (c :: cs).dropWhile isSpace = c :: cs := by simp [hspace]
  rw [Text.strip, hdrop]
  cases hr : (c :: cs).rdropWhile isSpace with
  | nil =>
    rw [List.rdropWhile_eq_nil_iff] at hr
    exact absurd (hr c List.mem_cons_self) (by simp [hspace])
  | cons d ds =>
    obtain ⟨suffix, hsuffix⟩ : (c :: cs).rdropWhile isSpace <+: c :: cs :=
      List.rdropWhile_prefix isSpace _
    rw [hr] at hsuffix
    obtain ⟨rfl, -⟩ := List.cons.inj hsuffix
    exact ⟨d, ds, rfl, hN, hn⟩

section Parse

variable [PyRuntime]

theorem parse_carries (L : LiteralProperty) {t : Text} {ast : Ast}
    (h : parseExpression t = .ok ast) : ast.Carries L.Holds := by
  obtain ⟨tokens, htokens, h⟩ := ok_of_bind h
  obtain ⟨⟨node, rest⟩, hparse, h⟩ := ok_of_bind h
  have hyield := (Parser.levelsYield L _).or tokens (Tokenizer.run_carries L htokens) node rest
    hparse
  cases rest with
  | nil =>
    cases h
    exact hyield.1
  | cons t rest => cases h

omit [PyRuntime] in
theorem startsLikeLiteral_true : startsLikeLiteral "true" :=
  ⟨'t', "rue", by decide, by decide, by decide, by decide⟩

omit [PyRuntime] in
theorem startsLikeLiteral_false : startsLikeLiteral "false" :=
  ⟨'f', "alse", by decide, by decide, by decide, by decide⟩

/-- Literals begin like literals. -/
def startsLikeLiteralProperty : LiteralProperty where
  Holds := startsLikeLiteral
  single _ := ⟨'\'', _, rfl, by decide, by decide, by decide⟩
  double _ := ⟨'"', _, rfl, by decide, by decide, by decide⟩
  number := Tokenizer.number_start
  true_ := startsLikeLiteral_true
  false_ := startsLikeLiteral_false

theorem parse_wellFormed {t : Text} {ast : Ast} (h : parseExpression t = .ok ast) :
    ast.WellFormed :=
  parse_carries startsLikeLiteralProperty h

theorem parseSqlLiteral_ne_none {t : Text} (h : startsLikeLiteral t) :
    Gx.parseSqlLiteral t ≠ .ok .none := by
  obtain ⟨c, cs, hstrip, hN, hn⟩ := strip_of_startsLikeLiteral h
  rw [Gx.parseSqlLiteral, hstrip, Gx.parseStrippedLiteral]
  split
  · simp [Gx.raise]
  split
  · simp
  split
  · simp
  split
  · simp
  split
  · simp
  split
  · rename_i hnull
    rcases eq_of_toUpper_N (List.cons.inj hnull).1 with h | h
    · exact absurd h hN
    · exact absurd h hn
  split
  · simp
  · simp [Gx.raise]

theorem Operand.WellFormed.literal_ne_none {operand : Operand} (h : operand.WellFormed)
    (hliteral : operand.valueType ≠ .expression) : Gx.parseSqlLiteral operand.value ≠ .ok .none :=
  parseSqlLiteral_ne_none (h hliteral)

end Parse

end DqMadeEasy
