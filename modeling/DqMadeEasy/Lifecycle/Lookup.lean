import DqMadeEasy.Lifecycle.RuleState

/-!
# Finding rules in a listing

The use cases that activate a rule or move it through its lifecycle look for its row in a listing of
the repository, and so does the check that the name of a rule is new in its workspace. They ask for
one page of 500 rows, but both repositories list all rows. What a listing holds, and not where in
it, decides: every statement here is about every order of the rows.

The in-memory repository does not filter by the workspace of a rule, and lists nothing for another
workspace than `default`. The Postgres repository leaves out generated rules, and does not leave
out templates.
-/

namespace DqMadeEasy

namespace Lifecycle

/-- What the look-ups read of a `RuleRecordEntity`. -/
structure ListedRule where
  id : Text
  name : Text
  deriving DecidableEq

/-- `build_rule_record_entity`, which makes no record of a row without an id. -/
def buildRuleRecordEntity (id name : Text) : Option ListedRule :=
  if Text.strip id = [] then none else some ⟨Text.strip id, Text.strip name⟩

/-- `HTTPException`. -/
inductive LookupError where
  | http (status : ℕ) (detail : Text)
  deriving DecidableEq

/-- The row of a rule in the listing of `activate_rule` and `transition_rule_lifecycle`. -/
def currentRow (rows : List ListedRule) (ruleId : Text) : Except LookupError ListedRule :=
  match rows.find? fun row => row.id = ruleId with
  | some row => .ok row
  | none => .error (.http 404 ("Rule '" ++ ruleId ++ "' not found"))

section Names

variable [PyRuntime]

/-- `RuleNameValue.from_value(value).normalized`. -/
def normalizeRuleName (value : Text) : Text := PyRuntime.lower (Text.strip value)

def nameTaken (name : Text) : LookupError :=
  .http 409 ("A rule with name '" ++ Text.strip name ++
    "' already exists in this workspace")

/-- The loop of `ensure_unique_rule_name`. -/
def checkRows (name : Text) (excludeRuleId : Option Text) : List ListedRule → Except LookupError Unit
  | [] => .ok ()
  | row :: rows =>
    if excludeRuleId.getD [] ≠ [] ∧ Text.strip row.id = excludeRuleId.getD [] then
      checkRows name excludeRuleId rows
    else if normalizeRuleName row.name = normalizeRuleName name then .error (nameTaken name)
    else checkRows name excludeRuleId rows

/-- `ensure_unique_rule_name` with the rows of its listing. -/
def ensureUniqueRuleName (existing : List ListedRule) (name : Text) (excludeRuleId : Option Text) :
    Except LookupError Unit :=
  if normalizeRuleName name = [] then .error (.http 400 "Rule name is required")
  else checkRows name excludeRuleId existing

end Names

/-! ### The listings -/

/-- `list_rule_records` without a query. The rows come in the order of their times and ids. -/
def InMemory.Repository.listRuleRecords (repo : InMemory.Repository) (workspace : Option Text)
    (includeDeleted : Bool) (isTemplate : Option Bool) : List ListedRule :=
  if workspace.getD [] ≠ [] ∧ workspace ≠ some "default".toList then []
  else (repo.rules.filter fun entry =>
      (isTemplate.all fun flag => flag == entry.2.details.isTemplate) &&
        (includeDeleted || entry.2.details.removedAt.isNone)).filterMap fun entry =>
    buildRuleRecordEntity entry.1 entry.2.entity.name

/-- `list_rule_records` without a query. The rows come in the order of their versions, times and
ids. -/
def Postgres.Tables.listRuleRecords (tables : Postgres.Tables) (workspace : Option Text)
    (includeDeleted : Bool) (isTemplate : Option Bool) : List ListedRule :=
  (tables.filter fun entry => !entry.2.row.generated &&
      (includeDeleted || entry.2.row.deletedOn.isNone) &&
      (decide (workspace.getD [] = []) || decide (some entry.2.row.workspace = workspace)) &&
      (isTemplate != some true || entry.2.row.isTemplate)).filterMap fun entry =>
    buildRuleRecordEntity entry.1 entry.2.row.name

/-! ### The law -/

/-- A rule as the law of look-ups sees it: its id and name as a listing shows them, its workspace,
and whether it is generated or a template. -/
structure RuleFacts extends ListedRule where
  workspace : Text
  generated : Bool
  isTemplate : Bool

/-- The facts of the rows that have an id and are not deleted. -/
def InMemory.Repository.ruleFacts (repo : InMemory.Repository) : List RuleFacts :=
  (repo.rules.filter fun entry => entry.2.details.removedAt.isNone).filterMap fun entry =>
    (buildRuleRecordEntity entry.1 entry.2.entity.name).map fun listed =>
      ⟨listed, entry.2.details.workspace, entry.2.details.generated, entry.2.details.isTemplate⟩

def Postgres.Tables.ruleFacts (tables : Postgres.Tables) : List RuleFacts :=
  (tables.filter fun entry => entry.2.row.deletedOn.isNone).filterMap fun entry =>
    (buildRuleRecordEntity entry.1 entry.2.row.name).map fun listed =>
      ⟨listed, entry.2.row.workspace, entry.2.row.generated, entry.2.row.isTemplate⟩

def Finds (listing : List ListedRule) (ruleId : Text) : Prop :=
  ∀ rows : List ListedRule, rows.Perm listing → ∃ row, currentRow rows ruleId = .ok row

section Law

variable [PyRuntime]

def RefusesName (listing : List ListedRule) (name : Text) (excludeRuleId : Option Text) : Prop :=
  ∀ rows : List ListedRule, rows.Perm listing →
    ensureUniqueRuleName rows name excludeRuleId = .error (nameTaken name)

def Bears (name : Text) (excludeRuleId : Option Text) (rule : ListedRule) : Prop :=
  excludeRuleId ≠ some rule.id ∧ normalizeRuleName rule.name = normalizeRuleName name

def SomeBears (facts : List RuleFacts) (name : Text) (excludeRuleId : Option Text)
    (meets : RuleFacts → Prop) : Prop :=
  ∃ rule ∈ facts, meets rule ∧ Bears name excludeRuleId rule.toListedRule

def InWorkspace (workspace : Text) (rule : RuleFacts) : Prop :=
  rule.isTemplate = false ∧ rule.workspace = workspace

/-- Where a listing holds other rules than those of the workspace, the name check still decides as
it should: a rule of the workspace that is listed bears the name; or, of the listed rows that are no
rules of the workspace and the rules of the workspace that are not listed, both have one that bears
it or neither has. -/
def Excused (facts : List RuleFacts) (lists : RuleFacts → Prop) (workspace name : Text)
    (excludeRuleId : Option Text) : Prop :=
  SomeBears facts name excludeRuleId (fun rule => lists rule ∧ InWorkspace workspace rule) ∨
    (SomeBears facts name excludeRuleId (fun rule => lists rule ∧ ¬InWorkspace workspace rule) ↔
      SomeBears facts name excludeRuleId fun rule => InWorkspace workspace rule ∧ ¬lists rule)

/-! ### Listings as lists of facts -/

omit [PyRuntime] in
theorem strip_id_of_build {id name : Text} {listed : ListedRule}
    (h : buildRuleRecordEntity id name = some listed) :
    Text.strip listed.id = listed.id ∧ listed.id ≠ [] := by
  rw [buildRuleRecordEntity] at h
  split at h
  · cases h
  · rename_i hne
    cases h
    exact ⟨Text.strip_strip id, hne⟩

omit [PyRuntime] in
theorem currentRow_ok_iff {rows : List ListedRule} {ruleId : Text} :
    (∃ row, currentRow rows ruleId = .ok row) ↔ ∃ row ∈ rows, row.id = ruleId := by
  rw [currentRow]
  cases hfind : rows.find? fun row => row.id = ruleId with
  | none =>
    refine iff_of_false (fun ⟨_, h⟩ => nomatch h) ?_
    rintro ⟨row, hrow, hid⟩
    exact List.find?_eq_none.mp hfind row hrow (decide_eq_true hid)
  | some row =>
    have hid := List.find?_some hfind
    exact iff_of_true ⟨row, rfl⟩ ⟨row, List.mem_of_find?_eq_some hfind, of_decide_eq_true hid⟩

omit [PyRuntime] in
theorem finds_iff {listing : List ListedRule} {ruleId : Text} :
    Finds listing ruleId ↔ ∃ row ∈ listing, row.id = ruleId := by
  constructor
  · exact fun h => currentRow_ok_iff.mp (h listing (.refl listing))
  · rintro ⟨row, hrow, hid⟩ rows hperm
    exact currentRow_ok_iff.mpr ⟨row, hperm.mem_iff.mpr hrow, hid⟩

variable {excludeRuleId : Option Text}

/-- The loop refuses exactly when some row bears the name. -/
theorem checkRows_eq_error_iff {name : Text} {rows : List ListedRule}
    (hids : ∀ row ∈ rows, Text.strip row.id = row.id ∧ row.id ≠ []) :
    checkRows name excludeRuleId rows = .error (nameTaken name) ↔
      ∃ row ∈ rows, Bears name excludeRuleId row := by
  induction rows with
  | nil => simp [checkRows]
  | cons row rows ih =>
    have ih := ih fun row hrow => hids row (List.mem_cons_of_mem _ hrow)
    obtain ⟨hstrip, hne⟩ := hids row List.mem_cons_self
    have hexcluded : (excludeRuleId.getD [] ≠ [] ∧ Text.strip row.id = excludeRuleId.getD []) ↔
        excludeRuleId = some row.id := by
      rw [hstrip]
      cases excludeRuleId with
      | none => simp
      | some excluded =>
        rw [Option.getD_some, Option.some.injEq, eq_comm (a := excluded)]
        exact ⟨And.right, fun h => ⟨h ▸ hne, h⟩⟩
    rw [checkRows, List.exists_mem_cons_iff]
    split
    · rename_i h
      rw [ih, or_iff_right]
      exact fun hbears => hbears.1 (hexcluded.mp h)
    · rename_i hother
      split
      · rename_i hname
        exact iff_of_true rfl (.inl ⟨fun h => hother (hexcluded.mpr h), hname⟩)
      · rename_i hname
        rw [ih, or_iff_right]
        exact fun hbears => hname hbears.2

theorem refusesName_iff {listing : List ListedRule} {name : Text}
    (hname : normalizeRuleName name ≠ [])
    (hids : ∀ row ∈ listing, Text.strip row.id = row.id ∧ row.id ≠ []) :
    RefusesName listing name excludeRuleId ↔ ∃ row ∈ listing, Bears name excludeRuleId row := by
  constructor
  · intro h
    have hrefused := h listing (.refl listing)
    rw [ensureUniqueRuleName, if_neg hname] at hrefused
    exact (checkRows_eq_error_iff hids).mp hrefused
  · rintro ⟨row, hrow, hbears⟩ rows hperm
    rw [ensureUniqueRuleName, if_neg hname,
      checkRows_eq_error_iff fun row hrow => hids row (hperm.mem_iff.mp hrow)]
    exact ⟨row, hperm.mem_iff.mpr hrow, hbears⟩

/-- What two readings of the rules have in common, and what each has of its own. -/
theorem someBears_iff_iff {facts : List RuleFacts} {name : Text} {P Q : RuleFacts → Prop} :
    (SomeBears facts name excludeRuleId P ↔ SomeBears facts name excludeRuleId Q) ↔
      SomeBears facts name excludeRuleId (fun rule => P rule ∧ Q rule) ∨
        (SomeBears facts name excludeRuleId (fun rule => P rule ∧ ¬Q rule) ↔
          SomeBears facts name excludeRuleId fun rule => Q rule ∧ ¬P rule) := by
  have hsplit : ∀ P Q : RuleFacts → Prop, SomeBears facts name excludeRuleId P ↔
      SomeBears facts name excludeRuleId (fun rule => P rule ∧ Q rule) ∨
        SomeBears facts name excludeRuleId fun rule => P rule ∧ ¬Q rule := by
    intro P Q
    constructor
    · rintro ⟨rule, hrule, hP, hbears⟩
      by_cases hQ : Q rule
      · exact .inl ⟨rule, hrule, ⟨hP, hQ⟩, hbears⟩
      · exact .inr ⟨rule, hrule, ⟨hP, hQ⟩, hbears⟩
    · rintro (⟨rule, hrule, ⟨hP, -⟩, hbears⟩ | ⟨rule, hrule, ⟨hP, -⟩, hbears⟩)
      · exact ⟨rule, hrule, hP, hbears⟩
      · exact ⟨rule, hrule, hP, hbears⟩
  have hcomm : SomeBears facts name excludeRuleId (fun rule => Q rule ∧ P rule) ↔
      SomeBears facts name excludeRuleId fun rule => P rule ∧ Q rule := by
    simp only [and_comm]
  rw [hsplit P Q, hsplit Q P, hcomm]
  tauto

/-- The law of a repository whose listing holds the rows of certain rules. -/
theorem law_of_listing {facts : List RuleFacts} {listing : List ListedRule}
    {lists : RuleFacts → Prop}
    (hids : ∀ row ∈ listing, Text.strip row.id = row.id ∧ row.id ≠ [])
    (hlisting : ∀ row, row ∈ listing ↔ ∃ rule ∈ facts, lists rule ∧ rule.toListedRule = row) :
    (∀ ruleId, Finds listing ruleId ↔ ∃ rule ∈ facts, lists rule ∧ rule.id = ruleId) ∧
    ∀ workspace name excludeRuleId, normalizeRuleName name ≠ [] →
      ((RefusesName listing name excludeRuleId ↔
        SomeBears facts name excludeRuleId (InWorkspace workspace)) ↔
        Excused facts lists workspace name excludeRuleId) := by
  constructor
  · intro ruleId
    rw [finds_iff]
    constructor
    · rintro ⟨row, hrow, hid⟩
      obtain ⟨rule, hrule, hlists, rfl⟩ := (hlisting row).mp hrow
      exact ⟨rule, hrule, hlists, hid⟩
    · rintro ⟨rule, hrule, hlists, hid⟩
      exact ⟨rule.toListedRule, (hlisting _).mpr ⟨rule, hrule, hlists, rfl⟩, hid⟩
  · intro workspace name excludeRuleId hname
    have hrefuses : RefusesName listing name excludeRuleId ↔
        SomeBears facts name excludeRuleId lists := by
      rw [refusesName_iff hname hids]
      constructor
      · rintro ⟨row, hrow, hbears⟩
        obtain ⟨rule, hrule, hlists, rfl⟩ := (hlisting row).mp hrow
        exact ⟨rule, hrule, hlists, hbears⟩
      · rintro ⟨rule, hrule, hlists, hbears⟩
        exact ⟨rule.toListedRule, (hlisting _).mpr ⟨rule, hrule, hlists, rfl⟩, hbears⟩
    rw [hrefuses, someBears_iff_iff]
    rfl

/-! ### The repositories -/

omit [PyRuntime] in
theorem ids_of_filterMap {α : Type} {entries : List α} {idOf nameOf : α → Text} :
    ∀ row ∈ entries.filterMap fun entry => buildRuleRecordEntity (idOf entry) (nameOf entry),
      Text.strip row.id = row.id ∧ row.id ≠ [] := by
  intro row hrow
  obtain ⟨entry, -, hbuild⟩ := List.mem_filterMap.mp hrow
  exact strip_id_of_build hbuild

/-- The rules whose rows the in-memory repository lists for a workspace, or for all. -/
def InMemory.Lists (workspace : Option Text) (rule : RuleFacts) : Prop :=
  rule.isTemplate = false ∧ (workspace.getD [] = [] ∨ workspace = some "default".toList)

/-- The rules whose rows the Postgres repository lists for a workspace, or for all. -/
def Postgres.Lists (workspace : Option Text) (rule : RuleFacts) : Prop :=
  rule.generated = false ∧ (workspace.getD [] = [] ∨ workspace = some rule.workspace)

omit [PyRuntime] in
theorem InMemory.mem_listRuleRecords {repo : InMemory.Repository} {workspace : Option Text}
    {row : ListedRule} : row ∈ repo.listRuleRecords workspace false (some false) ↔
      ∃ rule ∈ repo.ruleFacts, InMemory.Lists workspace rule ∧ rule.toListedRule = row := by
  rw [InMemory.Repository.listRuleRecords]
  by_cases hworkspace : workspace.getD [] ≠ [] ∧ workspace ≠ some "default".toList
  · rw [if_pos hworkspace]
    refine iff_of_false List.not_mem_nil ?_
    rintro ⟨rule, -, ⟨-, hnone | hdefault⟩, -⟩
    · exact hworkspace.1 hnone
    · exact hworkspace.2 hdefault
  · rw [if_neg hworkspace]
    simp only [InMemory.Repository.ruleFacts, List.mem_filterMap, List.mem_filter,
      Option.map_eq_some_iff]
    constructor
    · rintro ⟨entry, ⟨hentry, hkept⟩, hbuild⟩
      have hkept : entry.2.details.isTemplate = false ∧
          entry.2.details.removedAt.isNone = true := by simpa using hkept
      refine ⟨_, ⟨entry, ⟨hentry, hkept.2⟩, row, hbuild, rfl⟩, ⟨hkept.1, ?_⟩, rfl⟩
      simpa only [ne_eq, not_and_or, not_not] using hworkspace
    · rintro ⟨rule, ⟨entry, ⟨hentry, hremoved⟩, listed, hbuild, rfl⟩, ⟨htemplate, -⟩, rfl⟩
      have htemplate : entry.2.details.isTemplate = false := htemplate
      exact ⟨entry, ⟨hentry, by simp [htemplate, hremoved]⟩, hbuild⟩

omit [PyRuntime] in
theorem Postgres.mem_listRuleRecords {tables : Postgres.Tables} {workspace : Option Text}
    {row : ListedRule} : row ∈ tables.listRuleRecords workspace false (some false) ↔
      ∃ rule ∈ tables.ruleFacts, Postgres.Lists workspace rule ∧ rule.toListedRule = row := by
  simp only [Postgres.Tables.listRuleRecords, Postgres.Tables.ruleFacts, List.mem_filterMap,
    List.mem_filter, Option.map_eq_some_iff]
  constructor
  · rintro ⟨entry, ⟨hentry, hkept⟩, hbuild⟩
    have hkept : (entry.2.row.generated = false ∧ entry.2.row.deletedOn.isNone = true) ∧
        (workspace.getD [] = [] ∨ some entry.2.row.workspace = workspace) := by simpa using hkept
    exact ⟨_, ⟨entry, ⟨hentry, hkept.1.2⟩, row, hbuild, rfl⟩,
      ⟨hkept.1.1, hkept.2.imp_right Eq.symm⟩, rfl⟩
  · rintro ⟨rule, ⟨entry, ⟨hentry, hdeleted⟩, listed, hbuild, rfl⟩, ⟨hgenerated, hscope⟩, rfl⟩
    have hgenerated : entry.2.row.generated = false := hgenerated
    have hscope : workspace.getD [] = [] ∨ some entry.2.row.workspace = workspace :=
      hscope.imp_right Eq.symm
    exact ⟨entry, ⟨hentry, by simp [hgenerated, hdeleted, hscope]⟩, hbuild⟩

/-- Wherever rules stand in a listing, the in-memory repository finds every rule, and the Postgres
repository finds a rule exactly when one with its id is not generated. A name is refused exactly
when another rule of the workspace has it, unless the rows that are listed too many or too few make
a difference. -/
theorem lookups_iff (repo : InMemory.Repository) (tables : Postgres.Tables) :
    ((∀ rule ∈ repo.ruleFacts, rule.isTemplate = false →
        Finds (repo.listRuleRecords none false (some false)) rule.id) ∧
      ∀ workspace name excludeRuleId, normalizeRuleName name ≠ [] →
        ((RefusesName (repo.listRuleRecords (some workspace) false (some false)) name
            excludeRuleId ↔ SomeBears repo.ruleFacts name excludeRuleId (InWorkspace workspace)) ↔
          Excused repo.ruleFacts (InMemory.Lists (some workspace)) workspace name excludeRuleId)) ∧
    (∀ rule ∈ tables.ruleFacts, rule.isTemplate = false →
        (Finds (tables.listRuleRecords none false (some false)) rule.id ↔
          ∃ other ∈ tables.ruleFacts, other.generated = false ∧ other.id = rule.id)) ∧
      ∀ workspace name excludeRuleId, normalizeRuleName name ≠ [] →
        ((RefusesName (tables.listRuleRecords (some workspace) false (some false)) name
            excludeRuleId ↔ SomeBears tables.ruleFacts name excludeRuleId (InWorkspace workspace)) ↔
          Excused tables.ruleFacts (Postgres.Lists (some workspace)) workspace name
            excludeRuleId) := by
  have hrepo : ∀ workspace, ∀ row ∈ repo.listRuleRecords workspace false (some false),
      Text.strip row.id = row.id ∧ row.id ≠ [] := by
    intro workspace row hrow
    rw [InMemory.Repository.listRuleRecords] at hrow
    split at hrow
    · exact absurd hrow List.not_mem_nil
    · exact ids_of_filterMap row hrow
  have htables : ∀ workspace, ∀ row ∈ tables.listRuleRecords workspace false (some false),
      Text.strip row.id = row.id ∧ row.id ≠ [] := fun _ => ids_of_filterMap
  refine ⟨⟨?_, ?_⟩, ?_, ?_⟩
  · intro rule hrule htemplate
    exact ((law_of_listing (hrepo none) fun _ => InMemory.mem_listRuleRecords).1 rule.id).mpr
      ⟨rule, hrule, ⟨htemplate, .inl rfl⟩, rfl⟩
  · intro workspace
    exact (law_of_listing (hrepo _) fun _ => InMemory.mem_listRuleRecords).2 workspace
  · intro rule _ _
    rw [(law_of_listing (htables none) fun _ => Postgres.mem_listRuleRecords).1 rule.id]
    constructor
    · rintro ⟨other, hother, ⟨hgenerated, -⟩, hid⟩
      exact ⟨other, hother, hgenerated, hid⟩
    · rintro ⟨other, hother, hgenerated, hid⟩
      exact ⟨other, hother, ⟨hgenerated, .inl rfl⟩, hid⟩
  · intro workspace
    exact (law_of_listing (htables _) fun _ => Postgres.mem_listRuleRecords).2 workspace

end Law

section Sample

local instance sampleRuntimeLookup : PyRuntime := sampleRuntimeActivation

local instance sampleNumeralsLookup : PyNumerals := sampleNumeralsActivation

/-- The tables with one rule of the workspace `default`, generated or not. -/
def sampleRuleTables (generated : Bool) : Postgres.Tables :=
  Postgres.perform noOverrides ⟨"v", "b"⟩ []
    (.create "r" 1 { sampleOrigin with generated := generated } (sampleFields false))

/-- A generated rule is not found, and its name is given to another rule. -/
theorem generated_not_found :
    ¬ ∀ tables : Postgres.Tables,
      (∀ rule ∈ tables.ruleFacts, rule.isTemplate = false →
        Finds (tables.listRuleRecords none false (some false)) rule.id) ∧
      ∀ workspace name excludeRuleId, normalizeRuleName name ≠ [] →
        (RefusesName (tables.listRuleRecords (some workspace) false (some false)) name
          excludeRuleId ↔
            SomeBears tables.ruleFacts name excludeRuleId (InWorkspace workspace)) := by
  intro h
  have hlisting : (sampleRuleTables true).listRuleRecords none false (some false) = [] := by
    decide +kernel
  have hfacts : (sampleRuleTables true).ruleFacts =
      [⟨⟨"r", "email present"⟩, "default", true, false⟩] := by rfl
  have hfinds := (h (sampleRuleTables true)).1
    ⟨⟨"r", "email present"⟩, "default", true, false⟩
    (hfacts ▸ List.mem_singleton_self _) rfl
  rw [hlisting, finds_iff] at hfinds
  obtain ⟨row, hrow, -⟩ := hfinds
  exact absurd hrow List.not_mem_nil

/-- The name of a rule is refused to another one of its workspace, in whatever case. -/
theorem lookups_iff_namesake :
    RefusesName ((sampleRuleTables false).listRuleRecords (some "default") false
      (some false)) "Email Present" none := by
  have hfacts : (sampleRuleTables false).ruleFacts =
      [⟨⟨"r", "email present"⟩, "default", false, false⟩] := by rfl
  have hbears : SomeBears (sampleRuleTables false).ruleFacts "Email Present" none
      (InWorkspace "default") :=
    ⟨_, hfacts ▸ List.mem_singleton_self _, ⟨rfl, rfl⟩, nofun, by decide +kernel⟩
  have hexcused : Excused (sampleRuleTables false).ruleFacts
      (Postgres.Lists (some "default")) "default" "Email Present" none :=
    .inl ⟨_, hfacts ▸ List.mem_singleton_self _, ⟨⟨rfl, .inr rfl⟩, rfl, rfl⟩, nofun,
      by decide +kernel⟩
  exact ((lookups_iff ⟨[], ["user-admin"], List.mem_cons_self⟩
    (sampleRuleTables false)).2.2 _ _ _ (by decide +kernel)).mpr hexcused |>.mpr hbears

end Sample

end Lifecycle

end DqMadeEasy
