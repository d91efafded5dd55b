import DqMadeEasy.Text.Python

/-!
# Wildcard patterns and their regular expressions

Two languages for the same shapes. A wildcard pattern has two metacharacters, one for any
character and one for any run of characters, and matches a whole text. The regular expressions
generated from such patterns use three kinds of items between two anchors: an escaped
character, a dot, and a starred dot.

The regular expressions run on a Java engine, whose dot stops at line terminators and whose end
anchor also matches before a final line terminator. On texts without line terminators the two
languages agree (`anchoredFind_ofWildcards`).
-/

namespace DqMadeEasy

namespace Pattern

/-- An SQL `LIKE` pattern against a whole text. -/
def wildcardMatches : Text → Text → Bool
  | [], t => t.isEmpty
  | p :: ps, t =>
    if p = '%' then t.tails.any (wildcardMatches ps)
    else
      match t with
      | [] => false
      | c :: cs => (p == '_' || p == c) && wildcardMatches ps cs

/-- Items of the generated regular expressions. -/
inductive Item where
  | char (c : Char)
  | any
  | anyRun
  deriving DecidableEq, Repr

/-- Characters that `re.escape` escapes. -/
def isSpecial (c : Char) : Bool :=
  "()[]\x7b\x7d?*+-|^$\\.&~# \t\n\r\x0b\x0c".toList.contains c

/-- `re.escape` on one character. -/
def escape (c : Char) : Text := if isSpecial c then ['\\', c] else [c]

def Item.render : Item → Text
  | .char c => escape c
  | .any => ['.']
  | .anyRun => ['.', '*']

def renderAnchored (items : List Item) : Text :=
  '^' :: items.flatMap Item.render ++ ['$']

def isLineTerminator (c : Char) : Bool :=
  c == '\n' || c == '\r' || c.toNat == 0x85 || c.toNat == 0x2028 || c.toNat == 0x2029

/-- What a starred dot may leave of a text: it stops at the first line terminator. -/
def runSuffixes : Text → List Text
  | [] => [[]]
  | c :: cs => (c :: cs) :: if isLineTerminator c then [] else runSuffixes cs

/-- Items against a whole text; the dot stops at line terminators. -/
def itemsMatch : List Item → Text → Bool
  | [], t => t.isEmpty
  | .anyRun :: items, t => (runSuffixes t).any (itemsMatch items)
  | .any :: items, c :: cs => !isLineTerminator c && itemsMatch items cs
  | .char d :: items, c :: cs => d == c && itemsMatch items cs
  | _ :: _, [] => false

/-- The end anchor between the text before it and the text after it: at the end, or before a
final line terminator, but never inside a carriage return and line feed pair. -/
def endAnchor (before after : Text) : Bool :=
  match after with
  | [] => true
  | [c] => isLineTerminator c && !(c == '\n' && before.getLast? == some '\r')
  | [c, d] => c == '\r' && d == '\n'
  | _ => false

def anchoredFind (items : List Item) (t : Text) : Bool :=
  (List.range (t.length + 1)).any fun k =>
    endAnchor (t.take k) (t.drop k) && itemsMatch items (t.take k)

/-- The items of a wildcard pattern. -/
def itemsOfWildcards : Text → List Item :=
  List.map fun c => if c = '%' then .anyRun else if c = '_' then .any else .char c

def oneLine (t : Text) : Bool := t.all fun c => !isLineTerminator c

theorem oneLine_cons {c : Char} {cs : Text} :
    oneLine (c :: cs) = true ↔ isLineTerminator c = false ∧ oneLine cs = true := by
  simp [oneLine]

theorem oneLine_of_suffix {s t : Text} (h : oneLine t = true) (hs : s <:+ t) :
    oneLine s = true := by
  simp only [oneLine, List.all_eq_true] at h ⊢
  exact fun c hc => h c (hs.subset hc)

theorem runSuffixes_eq_tails {t : Text} (h : oneLine t = true) : runSuffixes t = t.tails := by
  induction t with
  | nil => rfl
  | cons c cs ih =>
    obtain ⟨hc, hcs⟩ := oneLine_cons.mp h
    rw [runSuffixes, if_neg (by simp [hc]), ih hcs, List.tails_cons]

theorem wildcardMatches_percent (ps t : Text) :
    wildcardMatches ('%' :: ps) t = t.tails.any (wildcardMatches ps) := by
  rw [wildcardMatches.eq_def]
  simp

theorem wildcardMatches_nil_right {p : Char} (hp : p ≠ '%') (ps : Text) :
    wildcardMatches (p :: ps) [] = false := by
  rw [wildcardMatches.eq_def]
  simp [hp]

theorem wildcardMatches_cons {p : Char} (hp : p ≠ '%') (ps : Text) (c : Char) (cs : Text) :
    wildcardMatches (p :: ps) (c :: cs) = ((p == '_' || p == c) && wildcardMatches ps cs) := by
  rw [wildcardMatches.eq_def]
  simp [hp]

theorem itemsMatch_ofWildcards (pattern : Text) :
    ∀ {t : Text}, oneLine t = true →
      itemsMatch (itemsOfWildcards pattern) t = wildcardMatches pattern t := by
  induction pattern with
  | nil => intro t _; rfl
  | cons p ps ih =>
    intro t ht
    by_cases hpercent : p = '%'
    · subst hpercent
      have hitems : itemsOfWildcards ('%' :: ps) = .anyRun :: itemsOfWildcards ps := rfl
      rw [hitems, itemsMatch, runSuffixes_eq_tails ht, wildcardMatches_percent, Bool.eq_iff_iff,
        List.any_eq_true, List.any_eq_true]
      refine exists_congr fun s => and_congr_right fun hs => ?_
      rw [ih (oneLine_of_suffix ht ((List.mem_tails s t).mp hs))]
    · by_cases hunder : p = '_'
      · have hitems : itemsOfWildcards (p :: ps) = .any :: itemsOfWildcards ps := by
          simp [itemsOfWildcards, hunder]
        rw [hitems]
        cases t with
        | nil => rw [wildcardMatches_nil_right hpercent, itemsMatch]; simp
        | cons c cs =>
          obtain ⟨hc, hcs⟩ := oneLine_cons.mp ht
          rw [wildcardMatches_cons hpercent, itemsMatch, ih hcs]
          simp [hc, hunder]
      · have hitems : itemsOfWildcards (p :: ps) = .char p :: itemsOfWildcards ps := by
          simp [itemsOfWildcards, hpercent, hunder]
        rw [hitems]
        cases t with
        | nil => rw [wildcardMatches_nil_right hpercent, itemsMatch]; simp
        | cons c cs =>
          obtain ⟨hc, hcs⟩ := oneLine_cons.mp ht
          have hp : (p == '_') = false := by simpa using hunder
          simp [itemsMatch, ih hcs, wildcardMatches_cons hpercent, hp]

theorem endAnchor_of_oneLine {before after : Text} (h : oneLine after = true)
    (hanchor : endAnchor before after = true) : after = [] := by
  unfold endAnchor at hanchor
  split at hanchor
  · rfl
  · rename_i c
    simp [oneLine] at h
    simp [h] at hanchor
  · rename_i c d
    simp only [Bool.and_eq_true, beq_iff_eq] at hanchor
    obtain ⟨rfl, rfl⟩ := hanchor
    revert h
    decide
  · cases hanchor

/-- On one line, the generated expression finds exactly the texts the pattern matches. -/
theorem anchoredFind_ofWildcards (pattern : Text) {t : Text} (ht : oneLine t = true) :
    anchoredFind (itemsOfWildcards pattern) t = wildcardMatches pattern t := by
  rw [Bool.eq_iff_iff, anchoredFind, List.any_eq_true]
  constructor
  · rintro ⟨k, hk, hmatch⟩
    rw [Bool.and_eq_true] at hmatch
    have hdrop : t.drop k = [] :=
      endAnchor_of_oneLine (oneLine_of_suffix ht (List.drop_suffix k t)) hmatch.1
    have htake : t.take k = t := by simpa [hdrop] using List.take_append_drop k t
    rw [← itemsMatch_ofWildcards pattern ht, ← htake]
    exact hmatch.2
  · intro hmatch
    refine ⟨t.length, by simp, ?_⟩
    rw [List.take_length, List.drop_length, itemsMatch_ofWildcards pattern ht, hmatch]
    rfl

/-! ### Reading a rendered expression back -/

/-- Reads an anchored expression of this form back into its items. -/
def parseItems : Text → Option (List Item)
  | [] => none
  | ['$'] => some []
  | '.' :: '*' :: cs => (parseItems cs).map (.anyRun :: ·)
  | '.' :: cs => (parseItems cs).map (.any :: ·)
  | '\\' :: c :: cs => (parseItems cs).map (.char c :: ·)
  | c :: cs => if isSpecial c then none else (parseItems cs).map (.char c :: ·)

/-- Reads an anchored expression of this form back into its items. -/
def parseAnchored : Text → Option (List Item)
  | '^' :: cs => parseItems cs
  | _ => none

theorem parseItems_render (items : List Item) :
    parseItems (items.flatMap Item.render ++ ['$']) = some items := by
  induction items with
  | nil => rfl
  | cons item items ih =>
    rw [List.flatMap_cons, List.append_assoc]
    cases item with
    | anyRun => simp [Item.render, parseItems, ih]
    | any =>
      have hstar : ∀ cs, items.flatMap Item.render ++ ['$'] ≠ '*' :: cs := by
        intro cs
        cases items with
        | nil => simp
        | cons next rest =>
          cases next with
          | any => simp [Item.render]
          | anyRun => simp [Item.render]
          | char c =>
            by_cases hc : isSpecial c = true
            · simp [Item.render, escape, hc]
            · have hne : c ≠ '*' := by
                rintro rfl
                exact hc (by decide)
              simp [Item.render, escape, hc, hne]
      rw [Item.render, List.singleton_append, parseItems.eq_def]
      split
      · simp_all
      · simp_all
      · rename_i cs h
        exact absurd (List.cons.inj h).2 (hstar cs)
      · rename_i cs _ h
        obtain rfl := (List.cons.inj h).2
        simp [ih]
      · simp_all
      · rename_i c cs _ hdot _ h
        exact absurd (List.cons.inj h).1.symm hdot
    | char c =>
      by_cases hc : isSpecial c = true
      · simp [Item.render, escape, hc, parseItems, ih]
      · have hne (d : Char) (hd : isSpecial d = true) : c ≠ d := by
          rintro rfl
          exact hc hd
        have hdollar := hne '$' (by decide)
        have hdot := hne '.' (by decide)
        have hbackslash := hne '\\' (by decide)
        rw [Item.render, escape, if_neg hc, List.singleton_append, parseItems.eq_def]
        split <;> simp_all

theorem parseAnchored_render (items : List Item) :
    parseAnchored (renderAnchored items) = some items :=
  parseItems_render items

end Pattern

end DqMadeEasy
