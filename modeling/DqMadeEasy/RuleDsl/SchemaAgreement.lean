import DqMadeEasy.RuleDsl.Duration

/-!
# When the two schema lowerings agree

Each output is read as a set of constraints on a table. The constraints of the two outputs of one
contract are the same exactly when no clause stands beside the one that the measure names, the
column count apart, and when no column is listed twice with two types.
-/

namespace DqMadeEasy

namespace RuleDsl

/-- What a check or an expectation asks of the columns of a table. -/
inductive Constraint where
  | requires (columns : List Text)
  | forbids (columns : List Text)
  | typed (column typeName : Text)
  | counts (minimum maximum : Option ℕ)
  | ordered (columns : List Text)
  deriving DecidableEq

namespace Sodacl

def SchemaCheckItem.constraint (item : SchemaCheckItem) : Constraint :=
  match item.details with
  | .requiredColumns columns => .requires columns
  | .forbiddenColumns columns => .forbids columns
  | .columnType column typeName => .typed column typeName
  | .columnCount minimum maximum => .counts minimum maximum
  | .orderedColumns columns => .ordered columns

end Sodacl

namespace GxLowerer

/-- A bound as the worker reads it: a missing one is `None`. -/
def countOf : PyValue → Option ℕ
  | .int n => some n.toNat
  | _ => none

def constraintOf : Gx.ExpectationKind → Option Constraint
  | .columnsMatchSet columns false => some (.requires columns)
  | .columnsNotContainSet columns => some (.forbids columns)
  | .ofType column typeName => some (.typed column typeName)
  | .columnCount bounds => some (.counts (countOf bounds.minValue) (countOf bounds.maxValue))
  | .columnsMatchOrder columns => some (.ordered columns)
  | _ => none

def constraint (expectation : Gx.Expectation) : Option Constraint := constraintOf expectation.kind

end GxLowerer

/-! ### Clauses -/

/-- A clause is present in a contract. -/
def Present (contract : SchemaContractExpectation) : SchemaAssertion → Prop
  | .requiredColumnsPresent => contract.requiredColumns.getD [] ≠ []
  | .forbiddenColumnsAbsent => contract.forbiddenColumns.getD [] ≠ []
  | .columnTypesMatch => contract.expectedTypes.getD [] ≠ []
  | .columnCountBetween => contract.minColumnCount.isSome = true ∨ contract.maxColumnCount.isSome = true
  | .columnOrderMatches => contract.orderedColumns.getD [] ≠ []

/-- Columns that are the same but for white space have the same type. -/
def TypedOnce (contract : SchemaContractExpectation) : Prop :=
  ∀ e ∈ contract.expectedTypes.getD [], ∀ e' ∈ contract.expectedTypes.getD [],
    Text.strip e.1 = Text.strip e'.1 → Text.strip e.2 = Text.strip e'.2

/-! ### The constraints of the SodaCL checks -/

namespace Sodacl

variable {items : List SchemaCheckItem} {artifactKey : Option Text}

theorem columnsClause_ok {columns : Option (List Text)} {message : String}
    {item : List Text → SchemaCheckItem} (h : columnsClause columns message item = .ok items) :
    items = if columns.getD [] = [] then [] else [item (nonBlank (columns.getD []))] := by
  rw [columnsClause] at h
  split at h
  · rename_i hnil
    rw [if_pos hnil]
    exact (Except.ok.inj h).symm
  · rename_i hne
    rw [if_neg hne]
    split at h
    · cases h
    · exact (Except.ok.inj h).symm

theorem mem_columnsClause {columns : Option (List Text)} {message : String}
    {item : List Text → SchemaCheckItem} (h : columnsClause columns message item = .ok items)
    (k : Constraint) :
    k ∈ items.map SchemaCheckItem.constraint ↔
      columns.getD [] ≠ [] ∧ k = (item (nonBlank (columns.getD []))).constraint := by
  rw [columnsClause_ok h]
  split
  · rename_i hnil
    exact iff_of_false List.not_mem_nil fun h => h.1 hnil
  · rename_i hne
    simp [hne]

theorem mem_countClause {ruleId : Option Text} {minimum maximum : Option ℕ} (k : Constraint) :
    k ∈ (countClause ruleId artifactKey minimum maximum).map SchemaCheckItem.constraint ↔
      (minimum.isSome = true ∨ maximum.isSome = true) ∧ k = .counts minimum maximum := by
  rw [countClause]
  split
  · rename_i hsome
    simp [hsome, SchemaCheckItem.constraint, buildSchemaCheckItem]
  · rename_i hnone
    exact iff_of_false List.not_mem_nil fun h => hnone h.1

theorem typesClause_ok {ruleId : Option Text} {types : Option (List (Text × Text))}
    (h : typesClause ruleId artifactKey types = .ok items) :
    items.map SchemaCheckItem.constraint =
        (typedEntries (types.getD [])).map (fun e => .typed e.1 e.2) ∧
      (types.getD [] ≠ [] → typedEntries (types.getD []) ≠ []) := by
  rw [typesClause] at h
  split at h
  · rename_i hnil
    rw [← Except.ok.inj h, hnil]
    exact ⟨rfl, fun hne => absurd rfl hne⟩
  · split at h
    · cases h
    · rename_i hne
      rw [← Except.ok.inj h, List.map_map]
      exact ⟨rfl, fun _ => hne⟩

/-- The constraints of the checks of a contract, kind by kind. -/
theorem mem_contractChecks {ruleId : Option Text} {contract : SchemaContractExpectation}
    {checks : List SchemaCheckItem} (h : contractChecks ruleId artifactKey contract = .ok checks)
    (k : Constraint) :
    k ∈ checks.map SchemaCheckItem.constraint ↔
      match k with
      | .requires columns =>
        Present contract .requiredColumnsPresent ∧
          columns = nonBlank (contract.requiredColumns.getD [])
      | .forbids columns =>
        Present contract .forbiddenColumnsAbsent ∧
          columns = nonBlank (contract.forbiddenColumns.getD [])
      | .typed column typeName =>
        (column, typeName) ∈ typedEntries (contract.expectedTypes.getD [])
      | .counts minimum maximum =>
        Present contract .columnCountBetween ∧
          (minimum, maximum) = (contract.minColumnCount, contract.maxColumnCount)
      | .ordered columns =>
        Present contract .columnOrderMatches ∧
          columns = nonBlank (contract.orderedColumns.getD []) := by
  obtain ⟨required, hrequired, h⟩ := ok_of_bind h
  obtain ⟨forbidden, hforbidden, h⟩ := ok_of_bind h
  obtain ⟨types, htypes, h⟩ := ok_of_bind h
  obtain ⟨ordered, hordered, h⟩ := ok_of_bind h
  have hchecks : checks = required ++ forbidden ++ types ++
      countClause ruleId artifactKey contract.minColumnCount contract.maxColumnCount ++ ordered := by
    dsimp only at h
    split at h
    · cases h
    · exact (Except.ok.inj h).symm
  rw [hchecks, List.map_append, List.map_append, List.map_append, List.map_append,
    List.mem_append, List.mem_append, List.mem_append, List.mem_append, mem_columnsClause hrequired,
    mem_columnsClause hforbidden, (typesClause_ok htypes).1, mem_countClause,
    mem_columnsClause hordered]
  cases k <;> simp [SchemaCheckItem.constraint, buildSchemaCheckItem, Present]

theorem typedEntries_ne_nil {ruleId : Option Text} {contract : SchemaContractExpectation}
    {checks : List SchemaCheckItem} (h : contractChecks ruleId artifactKey contract = .ok checks)
    (hpresent : Present contract .columnTypesMatch) :
    typedEntries (contract.expectedTypes.getD []) ≠ [] := by
  obtain ⟨required, hrequired, h⟩ := ok_of_bind h
  obtain ⟨forbidden, hforbidden, h⟩ := ok_of_bind h
  obtain ⟨types, htypes, h⟩ := ok_of_bind h
  exact (typesClause_ok htypes).2 hpresent

end Sodacl

/-! ### The constraints of the GX expectations -/

namespace GxLowerer

theorem requireColumns_ok {columns : Option (List Text)} {message : String} {found : List Text}
    (h : requireColumns columns message = .ok found) :
    columns.getD [] ≠ [] ∧ found = nonBlank (columns.getD []) := by
  rw [requireColumns] at h
  split at h
  · cases h
  · rename_i hne
    refine ⟨fun hnil => hne ?_, (Except.ok.inj h).symm⟩
    rw [hnil]
    rfl

theorem typeExpectation_ok {entry : Text × Text} {kind : Gx.ExpectationKind}
    (h : typeExpectation entry = .ok kind) :
    (Text.strip entry.1 ≠ [] ∧ Text.strip entry.2 ≠ []) ∧
      kind = .ofType (Text.strip entry.1) (Text.strip entry.2) := by
  rw [typeExpectation] at h
  split at h
  · cases h
  · rename_i hne
    exact ⟨not_or.mp hne, (Except.ok.inj h).symm⟩

variable {contract : SchemaContractExpectation} {selected : List Gx.ExpectationKind}

/-- The clause that the measure names is present, and the columns of its types are not blank. -/
theorem present_of_selected {assertion : SchemaAssertion}
    (h : selectedExpectations contract assertion = .ok selected) :
    Present contract assertion ∧ (assertion = .columnTypesMatch →
      ∀ e ∈ contract.expectedTypes.getD [], Text.strip e.1 ≠ [] ∧ Text.strip e.2 ≠ []) := by
  cases assertion with
  | requiredColumnsPresent =>
    obtain ⟨columns, hcolumns, -⟩ := ok_of_map h
    exact ⟨(requireColumns_ok hcolumns).1, nofun⟩
  | forbiddenColumnsAbsent =>
    obtain ⟨columns, hcolumns, -⟩ := ok_of_map h
    exact ⟨(requireColumns_ok hcolumns).1, nofun⟩
  | columnOrderMatches =>
    obtain ⟨columns, hcolumns, -⟩ := ok_of_map h
    exact ⟨(requireColumns_ok hcolumns).1, nofun⟩
  | columnCountBetween =>
    rw [selectedExpectations] at h
    split at h
    · cases h
    · rename_i hsome
      refine ⟨?_, nofun⟩
      simpa [Present, ← Option.isSome_iff_ne_none, imp_iff_not_or] using hsome
  | columnTypesMatch =>
    rw [selectedExpectations] at h
    split at h
    · cases h
    · rename_i hne
      refine ⟨hne, fun _ e he => ?_⟩
      obtain ⟨kind, -, hkind⟩ := mapM_mem h he
      exact (typeExpectation_ok hkind).1

theorem mem_typeExpectations {entries : List (Text × Text)} {kinds : List Gx.ExpectationKind}
    (h : entries.mapM typeExpectation = .ok kinds) (k : Constraint) :
    k ∈ kinds.filterMap constraintOf ↔
      ∃ e ∈ entries, k = .typed (Text.strip e.1) (Text.strip e.2) := by
  rw [List.mem_filterMap]
  constructor
  · rintro ⟨kind, hkind, hk⟩
    obtain ⟨e, he, hok⟩ := mem_of_mapM h hkind
    rw [(typeExpectation_ok hok).2] at hk
    exact ⟨e, he, (Option.some.inj hk).symm⟩
  · rintro ⟨e, he, rfl⟩
    obtain ⟨kind, hkind, hok⟩ := mapM_mem h he
    exact ⟨kind, hkind, by rw [(typeExpectation_ok hok).2]; rfl⟩

/-- The constraints of the clause that the measure names, kind by kind. -/
theorem mem_selected {assertion : SchemaAssertion}
    (h : selectedExpectations contract assertion = .ok selected) (k : Constraint) :
    k ∈ selected.filterMap constraintOf ↔
      match k with
      | .requires columns =>
        assertion = .requiredColumnsPresent ∧
          columns = nonBlank (contract.requiredColumns.getD [])
      | .forbids columns =>
        assertion = .forbiddenColumnsAbsent ∧
          columns = nonBlank (contract.forbiddenColumns.getD [])
      | .typed column typeName =>
        assertion = .columnTypesMatch ∧ ∃ e ∈ contract.expectedTypes.getD [],
          Text.strip e.1 = column ∧ Text.strip e.2 = typeName
      | .counts _ _ => False
      | .ordered columns =>
        assertion = .columnOrderMatches ∧
          columns = nonBlank (contract.orderedColumns.getD []) := by
  cases assertion with
  | requiredColumnsPresent =>
    obtain ⟨columns, hcolumns, rfl⟩ := ok_of_map h
    cases k <;> simp [constraintOf, (requireColumns_ok hcolumns).2]
  | forbiddenColumnsAbsent =>
    obtain ⟨columns, hcolumns, rfl⟩ := ok_of_map h
    cases k <;> simp [constraintOf, (requireColumns_ok hcolumns).2]
  | columnOrderMatches =>
    obtain ⟨columns, hcolumns, rfl⟩ := ok_of_map h
    cases k <;> simp [constraintOf, (requireColumns_ok hcolumns).2]
  | columnCountBetween =>
    rw [selectedExpectations] at h
    split at h
    · cases h
    · rw [← Except.ok.inj h]
      cases k <;> simp
  | columnTypesMatch =>
    rw [selectedExpectations] at h
    split at h
    · cases h
    · rw [mem_typeExpectations h]
      cases k <;> simp [eq_comm]

/-- The constraints of the expectations, kind by kind. -/
theorem mem_expectations {tags : Gx.Meta} (k : Constraint) :
    k ∈ ((countExpectation contract ++ selected).map fun kind =>
        ({ kind := kind, tags := tags } : Gx.Expectation)).filterMap constraint ↔
      (Present contract .columnCountBetween ∧
        k = .counts contract.minColumnCount contract.maxColumnCount) ∨
        k ∈ selected.filterMap constraintOf := by
  have hcount (n : Option ℕ) : countOf (n.elim .none fun n => .int n) = n := by
    cases n with
    | none => rfl
    | some n => exact congrArg some (Int.toNat_natCast n)
  rw [List.filterMap_map, show (constraint ∘ fun kind =>
    ({ kind := kind, tags := tags } : Gx.Expectation)) = constraintOf from rfl,
    List.filterMap_append, List.mem_append]
  refine or_congr_left ?_
  rw [countExpectation, Present]
  split
  · rename_i hsome
    simp [hsome, constraintOf, hcount]
  · rename_i hnone
    exact iff_of_false List.not_mem_nil fun h => hnone h.1

end GxLowerer

/-! ### The entries of the types -/

/-- Where no entry is blank and no column has two types, all entries are kept. -/
theorem mem_typedEntries {entries : List (Text × Text)}
    (hblank : ∀ e ∈ entries, Text.strip e.1 ≠ [] ∧ Text.strip e.2 ≠ [])
    (honce : ∀ e ∈ entries, ∀ e' ∈ entries,
      Text.strip e.1 = Text.strip e'.1 → Text.strip e.2 = Text.strip e'.2)
    {column typeName : Text} :
    (column, typeName) ∈ Sodacl.typedEntries entries ↔
      ∃ e ∈ entries, Text.strip e.1 = column ∧ Text.strip e.2 = typeName := by
  have hall : entries.filter (fun e => Text.strip e.1 ≠ [] ∧ Text.strip e.2 ≠ []) = entries :=
    List.filter_eq_self.mpr fun e he => decide_eq_true (hblank e he)
  rw [Sodacl.typedEntries, hall]
  constructor
  · exact Assoc.exists_of_mem_assignAll _ _
  · rintro ⟨e, he, rfl, rfl⟩
    obtain ⟨entry, hentry, hkey⟩ := List.mem_map.mp
      ((Assoc.mem_keys_assignAll (fun e => Text.strip e.1) (fun e => Text.strip e.2)).mpr
        ⟨e, he, rfl⟩)
    obtain ⟨e', he', hkey', hvalue'⟩ := Assoc.exists_of_mem_assignAll _ _ hentry
    have hvalue : entry.2 = Text.strip e.2 := by
      rw [← hvalue']
      exact honce e' he' e he (hkey'.trans hkey)
    rw [← hkey, ← hvalue]
    exact hentry

theorem typedEntries_unique {entries : List (Text × Text)} {column typeName typeName' : Text}
    (h : (column, typeName) ∈ Sodacl.typedEntries entries)
    (h' : (column, typeName') ∈ Sodacl.typedEntries entries) : typeName = typeName' := by
  have hnodup := Assoc.nodup_keys_assignAll (fun e : Text × Text => Text.strip e.1)
    (fun e => Text.strip e.2) (entries.filter fun e => Text.strip e.1 ≠ [] ∧ Text.strip e.2 ≠ [])
  have hfind := Assoc.find?_of_mem hnodup h
  rw [Assoc.find?_of_mem hnodup h'] at hfind
  exact (Option.some.inj hfind).symm

/-! ### Agreement -/

/-- Two outputs enforce the same constraints. -/
def Agree (checks : List Sodacl.SchemaCheckItem) (expectations : List Gx.Expectation) : Prop :=
  ∀ k, k ∈ checks.map Sodacl.SchemaCheckItem.constraint ↔
    k ∈ expectations.filterMap GxLowerer.constraint

/-- The only clauses of a contract are the one that the measure names and the column count, and
where the measure names the column types, no column has two. -/
def Single (contract : SchemaContractExpectation) (assertion : SchemaAssertion) : Prop :=
  (∀ clause, Present contract clause → clause = assertion ∨ clause = .columnCountBetween) ∧
    (assertion = .columnTypesMatch → TypedOnce contract)

theorem agree_iff {ruleId artifactKey : Option Text} {contract : SchemaContractExpectation}
    {assertion : SchemaAssertion} {checks : List Sodacl.SchemaCheckItem}
    {selected : List Gx.ExpectationKind} {tags : Gx.Meta}
    (hchecks : Sodacl.contractChecks ruleId artifactKey contract = .ok checks)
    (hselected : GxLowerer.selectedExpectations contract assertion = .ok selected) :
    Agree checks ((GxLowerer.countExpectation contract ++ selected).map fun kind =>
        { kind := kind, tags := tags }) ↔ Single contract assertion := by
  obtain ⟨hpresent, hblank⟩ := GxLowerer.present_of_selected hselected
  simp only [Agree, Sodacl.mem_contractChecks hchecks, GxLowerer.mem_expectations,
    GxLowerer.mem_selected hselected]
  constructor
  · intro h
    refine ⟨fun clause hclause => ?_, fun htypes e he e' he' hcolumn => ?_⟩
    · cases clause with
      | requiredColumnsPresent =>
        have hk := (h (.requires _)).mp ⟨hclause, rfl⟩
        exact .inl ((hk.resolve_left nofun).1.symm)
      | forbiddenColumnsAbsent =>
        have hk := (h (.forbids _)).mp ⟨hclause, rfl⟩
        exact .inl ((hk.resolve_left nofun).1.symm)
      | columnTypesMatch =>
        obtain ⟨⟨column, typeName⟩, hentry⟩ :=
          List.exists_mem_of_ne_nil _ (Sodacl.typedEntries_ne_nil hchecks hclause)
        have hk := (h (.typed column typeName)).mp hentry
        exact .inl ((hk.resolve_left nofun).1.symm)
      | columnCountBetween => exact .inr rfl
      | columnOrderMatches =>
        have hk := (h (.ordered _)).mp ⟨hclause, rfl⟩
        exact .inl ((hk.resolve_left nofun).1.symm)
    · -- both types of the column are expected by GX, and SodaCL keeps one
      have hk := (h (.typed (Text.strip e.1) (Text.strip e.2))).mpr
        (.inr ⟨htypes, e, he, rfl, rfl⟩)
      have hk' := (h (.typed (Text.strip e.1) (Text.strip e'.2))).mpr
        (.inr ⟨htypes, e', he', hcolumn.symm, rfl⟩)
      exact typedEntries_unique hk hk'
  · rintro ⟨honly, honce⟩ k
    have hiff (clause : SchemaAssertion) (hcount : clause ≠ .columnCountBetween) :
        Present contract clause ↔ assertion = clause := by
      constructor
      · intro hclause
        exact ((honly clause hclause).resolve_right hcount).symm
      · rintro rfl
        exact hpresent
    cases k with
    | requires columns => simp [hiff .requiredColumnsPresent nofun]
    | forbids columns => simp [hiff .forbiddenColumnsAbsent nofun]
    | ordered columns => simp [hiff .columnOrderMatches nofun]
    | counts minimum maximum => simp
    | typed column typeName =>
      by_cases htypes : assertion = .columnTypesMatch
      · simp [htypes, mem_typedEntries (hblank htypes) (honce htypes)]
      · have hnil : contract.expectedTypes.getD [] = [] := by
          by_contra hne
          exact htypes ((hiff .columnTypesMatch nofun).mp hne)
        simp [htypes, hnil, Sodacl.typedEntries, Assoc.assignAll]

/-- The contract and the clause of a rule that the GX lowering takes. -/
theorem GxLowerer.exists_of_ok {ruleId artifactKey : Option Text} {rule : Rule}
    {expectations : List Gx.Expectation}
    (h : GxLowerer.buildSchemaAssertionExpectations ruleId artifactKey rule = .ok expectations) :
    ∃ contract assertion selected, rule.measure = .schema assertion ∧
      rule.expectation = .schemaContract contract ∧
      GxLowerer.selectedExpectations contract assertion = .ok selected ∧
      expectations = (GxLowerer.countExpectation contract ++ selected).map fun kind =>
        { kind := kind, tags := Gx.buildMeta ruleId artifactKey } := by
  rw [GxLowerer.buildSchemaAssertionExpectations] at h
  split at h
  · rename_i assertion hmeasure
    split at h
    · rename_i contract hexpectation
      split at h
      · cases h
      split at h
      · cases h
      split at h
      · cases h
      obtain ⟨selected, hselected, heq⟩ := ok_of_map h
      exact ⟨contract, assertion, selected, hmeasure, hexpectation, hselected, heq.symm⟩
    · cases h
  · cases h

/-- The checks of a rule that the SodaCL lowering takes are those of its contract. -/
theorem Sodacl.contractChecks_of_ok {ruleId artifactKey : Option Text} {rule : Rule}
    {contract : SchemaContractExpectation} {checks : List Sodacl.SchemaCheckItem}
    (hcontract : rule.expectation = .schemaContract contract)
    (h : Sodacl.buildSchemaAssertionChecks ruleId artifactKey rule = .ok checks) :
    Sodacl.contractChecks ruleId artifactKey contract = .ok checks := by
  rw [Sodacl.buildSchemaAssertionChecks] at h
  split at h
  · rw [hcontract] at h
    dsimp only at h
    split at h
    · cases h
    split at h
    · cases h
    exact h
  · cases h

/-- When the two lowerings of a rule enforce the same constraints. The durations that both take
denote the same number of days. -/
theorem schema_lowerings_agree_iff [PyRuntime] :
    (∀ (ruleId artifactKey : Option Text) (rule : Rule) (checks : List Sodacl.SchemaCheckItem)
        (expectations : List Gx.Expectation),
      Sodacl.buildSchemaAssertionChecks ruleId artifactKey rule = .ok checks →
      GxLowerer.buildSchemaAssertionExpectations ruleId artifactKey rule = .ok expectations →
        ∃ contract assertion, rule.expectation = .schemaContract contract ∧
          rule.measure = .schema assertion ∧
          (Agree checks expectations ↔ Single contract assertion)) ∧
    ∀ (value : PyValue) (text : Text) (days : ℕ), normalizeIso8601DayDuration value = .ok text →
      durationToDays value = .ok days → dayDuration text = some days := by
  refine ⟨?_, fun value text days => durations_agree⟩
  intro ruleId artifactKey rule checks expectations hchecks hexpectations
  obtain ⟨contract, assertion, selected, hmeasure, hexpectation, hselected, rfl⟩ :=
    GxLowerer.exists_of_ok hexpectations
  exact ⟨contract, assertion, hexpectation, hmeasure,
    agree_iff (Sodacl.contractChecks_of_ok hexpectation hchecks) hselected⟩

/-! ### A rule with two clauses -/

/-- A rule on one data set. -/
def sampleSchemaRule (contract : SchemaContractExpectation) : Rule where
  scope := { dataset := some { dataObjectId := some "do-customer"
                               identified := ⟨_, List.mem_cons_self, _, rfl, nofun⟩ } }
  measure := .schema .requiredColumnsPresent
  expectation := .schemaContract contract

/-- An identifier is required, and forbidden columns are named beside it. -/
def sampleContract (forbidden : Option (List Text)) : SchemaContractExpectation where
  requiredColumns := some ["id"]
  forbiddenColumns := forbidden
  nodup_types := by simp
  hasClause := .inl nofun

/-- The forbidden columns of a rule about required columns are checked by SodaCL only. -/
theorem clause_dropped :
    ∃ checks expectations,
      Sodacl.buildSchemaAssertionChecks none none
          (sampleSchemaRule (sampleContract (some ["ssn"]))) = .ok checks ∧
        GxLowerer.buildSchemaAssertionExpectations none none
          (sampleSchemaRule (sampleContract (some ["ssn"]))) = .ok expectations ∧
        ¬ Agree checks expectations := by
  refine ⟨_, _, rfl, rfl, fun h => ?_⟩
  have hforbidden := (h (.forbids ["ssn"])).mp (by decide +kernel)
  exact absurd hforbidden (by decide +kernel)

theorem schema_lowerings_agree_sample :
    let runtime := PyRuntime.ascii .finite fun _ => []
    (∃ checks expectations,
      Sodacl.buildSchemaAssertionChecks none none (sampleSchemaRule (sampleContract none)) =
          .ok checks ∧
        GxLowerer.buildSchemaAssertionExpectations none none
          (sampleSchemaRule (sampleContract none)) = .ok expectations ∧
        Agree checks expectations) ∧
      @dayDuration runtime "P3D" = some 3 := by
  intro runtime
  constructor
  · refine ⟨_, _, rfl, rfl, ?_⟩
    obtain ⟨contract, assertion, hcontract, hassertion, hagree⟩ :=
      (@schema_lowerings_agree_iff runtime).1 none none
        (sampleSchemaRule (sampleContract none)) _ _ rfl rfl
    cases hcontract
    cases hassertion
    refine hagree.mpr ⟨fun clause hclause => ?_, nofun⟩
    cases clause with
    | requiredColumnsPresent => exact .inl rfl
    | columnCountBetween => exact .inr rfl
    | forbiddenColumnsAbsent => exact absurd rfl hclause
    | columnTypesMatch => exact absurd rfl hclause
    | columnOrderMatches => exact absurd rfl hclause
  · exact (@schema_lowerings_agree_iff runtime).2 (.str "p3d") "P3D" 3
      (by decide +kernel) (by decide +kernel)

end RuleDsl

end DqMadeEasy
