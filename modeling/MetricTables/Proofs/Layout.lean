import MetricTables.Options
import MetricTables.Proofs.Rendering

/-!
# Layouts

What is asked of a layout: the fixed columns have different names, and the lists of templates
are the default ones. Configurations with default templates give such layouts, if they
do not use one name twice.

## Main definitions

* `Options.HasRoles` — the time column and the tag key column have their roles.
* `Options.HasFixedColumns` — the fixed columns are what they are to be, under different names.
* `Options.HasDefaultTemplates` — every list of templates is the default one.
* `Options.plain` — the default layout.

## Main statements

* `hasRoles_ofConfig`, `hasFixedColumns_ofConfig`, `hasDefaultTemplates_ofConfig` — the layout
  of a configuration.
* `exists_ofConfig` — a configuration with the default templates has a layout.
* `ofConfig_default` — the layout of the default configuration.
-/

namespace MetricTables

namespace Options

/-- The time column and the tag key column have their roles. -/
structure HasRoles (o : Options) : Prop where
  time : o.timeColumn.role = .time
  tagId : o.tagIdColumn.role = .tagId

/-- The fixed columns have their roles and types with a spelling, and those that are in use
have different names. -/
structure HasFixedColumns (o : Options) : Prop where
  timeRole : o.timeColumn.role = .time
  timeType : ∀ s, o.timeColumn.type ≠ .other s
  tagIdRole : o.tagIdColumn.role = .tagId
  tagIdType : ∀ s, o.tagIdColumn.type ≠ .other s
  tagId : o.tagIdColumn.name ≠ o.timeColumn.name
  tagsJson : o.tagsAsJson = true →
    tagsJsonName ≠ o.timeColumn.name ∧ tagsJsonName ≠ o.tagIdColumn.name
  fieldsJson : o.fieldsAsJson = true →
    fieldsJsonName ≠ o.timeColumn.name ∧ fieldsJsonName ≠ o.tagIdColumn.name

theorem HasFixedColumns.hasRoles {o : Options} (h : o.HasFixedColumns) : o.HasRoles :=
  ⟨h.timeRole, h.tagIdRole⟩

/-- Every list of templates is the default one. -/
structure HasDefaultTemplates (o : Options) : Prop where
  create : readTemplates [defaultCreateTemplate] = .ok o.createTemplates
  addColumn : readTemplates [defaultAddColumnTemplate] = .ok o.addColumnTemplates
  tagTableCreate : readTemplates [defaultTagTableCreateTemplate] = .ok o.tagTableCreateTemplates
  tagTableAddColumn : readTemplates [defaultAddColumnTemplate] = .ok o.tagTableAddColumnTemplates

/-- A limit on the time of calls has nothing to do with columns. -/
theorem HasFixedColumns.withTimeout {o : Options} (h : o.HasFixedColumns) (timeout : Duration) :
    HasFixedColumns { o with statementTimeout := timeout } :=
  ⟨h.timeRole, h.timeType, h.tagIdRole, h.tagIdType, h.tagId, h.tagsJson, h.fieldsJson⟩

theorem HasDefaultTemplates.withTimeout {o : Options} (h : o.HasDefaultTemplates)
    (timeout : Duration) : HasDefaultTemplates { o with statementTimeout := timeout } :=
  ⟨h.create, h.addColumn, h.tagTableCreate, h.tagTableAddColumn⟩

theorem readTemplates_singleton {source : String} {template : Template}
    (h : Template.parse source = .ok template) : readTemplates [source] = .ok [template] := by
  simp [readTemplates, readTemplate, h, Except.mapError, pure, Except.pure, bind, Except.bind]

theorem readTemplates_default : readTemplates [defaultCreateTemplate] = .ok [.createTable] ∧
    readTemplates [defaultTagTableCreateTemplate] = .ok [.createTagTable] ∧
    readTemplates [defaultAddColumnTemplate] = .ok [.addColumn] :=
  ⟨readTemplates_singleton Template.parse_defaultCreateTemplate,
    readTemplates_singleton Template.parse_defaultTagTableCreateTemplate,
    readTemplates_singleton Template.parse_defaultAddColumnTemplate⟩

variable {o : Options}

theorem createTemplates_eq (h : o.HasDefaultTemplates) : o.createTemplates = [.createTable] :=
  Except.ok.inj (h.create.symm.trans readTemplates_default.1)

theorem addColumnTemplates_eq (h : o.HasDefaultTemplates) : o.addColumnTemplates = [.addColumn] :=
  Except.ok.inj (h.addColumn.symm.trans readTemplates_default.2.2)

theorem tagTableCreateTemplates_eq (h : o.HasDefaultTemplates) :
    o.tagTableCreateTemplates = [.createTagTable] :=
  Except.ok.inj (h.tagTableCreate.symm.trans readTemplates_default.2.1)

theorem tagTableAddColumnTemplates_eq (h : o.HasDefaultTemplates) :
    o.tagTableAddColumnTemplates = [.addColumn] :=
  Except.ok.inj (h.tagTableAddColumn.symm.trans readTemplates_default.2.2)

/-! ## Layouts of configurations -/

section Config

variable {c : SchemaConfig}

/-- What a layout takes from its configuration. -/
theorem ofConfig_eq_ok (h : ofConfig c = .ok o) :
    c.timestampColumnName ≠ c.tagIdColumnName ∧
      readTemplates c.createTemplates = .ok o.createTemplates ∧
      readTemplates c.addColumnTemplates = .ok o.addColumnTemplates ∧
      readTemplates c.tagTableCreateTemplates = .ok o.tagTableCreateTemplates ∧
      readTemplates c.tagTableAddColumnTemplates = .ok o.tagTableAddColumnTemplates ∧
      o.timeColumn = ⟨c.timestampColumnName, .time, timestampType c.timestampColumnType⟩ ∧
      o.tagIdColumn = ⟨c.tagIdColumnName, .tagId, .bigInt⟩ ∧
      o.tagsAsJson = c.tagsAsJson ∧ o.fieldsAsJson = c.fieldsAsJson ∧
      o.identifierMaxBytes = c.identifierMaxBytes := by
  unfold ofConfig at h
  split at h
  · cases h
  next hname =>
    cases hcreate : readTemplates c.createTemplates with
    | error e => rw [hcreate] at h; cases h
    | ok create =>
    cases hadd : readTemplates c.addColumnTemplates with
    | error e => rw [hcreate, hadd] at h; cases h
    | ok add =>
    cases htagCreate : readTemplates c.tagTableCreateTemplates with
    | error e => rw [hcreate, hadd, htagCreate] at h; cases h
    | ok tagCreate =>
    cases htagAdd : readTemplates c.tagTableAddColumnTemplates with
    | error e => rw [hcreate, hadd, htagCreate, htagAdd] at h; cases h
    | ok tagAdd =>
      rw [hcreate, hadd, htagCreate, htagAdd] at h
      cases h
      exact ⟨hname, rfl, rfl, rfl, rfl, rfl, rfl, rfl, rfl, rfl⟩

/-- Every configuration gives the time column and the tag key column their roles. -/
theorem hasRoles_ofConfig (h : ofConfig c = .ok o) : o.HasRoles := by
  obtain ⟨_, _, _, _, _, htime, htagId, _⟩ := ofConfig_eq_ok h
  exact ⟨by rw [htime], by rw [htagId]⟩

/-- The fixed columns of a configuration that uses no name twice. -/
theorem hasFixedColumns_ofConfig (h : ofConfig c = .ok o)
    (htags : c.tagsAsJson = true →
      tagsJsonName ≠ c.timestampColumnName ∧ tagsJsonName ≠ c.tagIdColumnName)
    (hfields : c.fieldsAsJson = true →
      fieldsJsonName ≠ c.timestampColumnName ∧ fieldsJsonName ≠ c.tagIdColumnName) :
    o.HasFixedColumns := by
  obtain ⟨hne, _, _, _, _, htime, htagId, htagsJson, hfieldsJson, _⟩ := ofConfig_eq_ok h
  refine ⟨?_, ?_, ?_, ?_, ?_, ?_, ?_⟩
  · rw [htime]
  · intro s
    rw [htime]
    cases c.timestampColumnType <;> simp [timestampType]
  · rw [htagId]
  · intro s
    simp [htagId]
  · rw [htime, htagId]
    exact hne.symm
  · rw [htime, htagId, htagsJson]
    exact htags
  · rw [htime, htagId, hfieldsJson]
    exact hfields

/-- A configuration that leaves the templates alone gives a layout with the default ones. -/
theorem hasDefaultTemplates_ofConfig (h : ofConfig c = .ok o)
    (hcreate : c.createTemplates = [defaultCreateTemplate])
    (hadd : c.addColumnTemplates = [defaultAddColumnTemplate])
    (htagCreate : c.tagTableCreateTemplates = [defaultTagTableCreateTemplate])
    (htagAdd : c.tagTableAddColumnTemplates = [defaultAddColumnTemplate]) :
    o.HasDefaultTemplates := by
  obtain ⟨_, h₁, h₂, h₃, h₄, _⟩ := ofConfig_eq_ok h
  exact ⟨hcreate ▸ h₁, hadd ▸ h₂, htagCreate ▸ h₃, htagAdd ▸ h₄⟩

/-- A configuration with the default templates and different names has a layout. -/
theorem exists_ofConfig (hname : c.timestampColumnName ≠ c.tagIdColumnName)
    (hcreate : c.createTemplates = [defaultCreateTemplate])
    (hadd : c.addColumnTemplates = [defaultAddColumnTemplate])
    (htagCreate : c.tagTableCreateTemplates = [defaultTagTableCreateTemplate])
    (htagAdd : c.tagTableAddColumnTemplates = [defaultAddColumnTemplate]) :
    ∃ o, ofConfig c = .ok o := by
  obtain ⟨hcreate', htagCreate', hadd'⟩ := readTemplates_default
  rw [ofConfig, if_neg hname, hcreate, hadd, htagCreate, htagAdd, hcreate', htagCreate', hadd']
  exact ⟨_, rfl⟩

end Config

/-! ## The default layout -/

/-- The layout of the default configuration. -/
def plain : Options where
  namespaceName := ""
  tagsAsForeignKeys := false
  tagTableSuffix := "_tag"
  tagsAsJson := false
  fieldsAsJson := false
  unsignedType := .numeric
  identifierMaxBytes := 63
  statementTimeout := defaultTimeout
  timeColumn := ⟨"time", .time, .timestamp⟩
  tagIdColumn := ⟨"tag_id", .tagId, .bigInt⟩
  createTemplates := [.createTable]
  addColumnTemplates := [.addColumn]
  tagTableCreateTemplates := [.createTagTable]
  tagTableAddColumnTemplates := [.addColumn]

theorem ofConfig_default : ofConfig {} = .ok plain := by
  obtain ⟨hcreate, htagCreate, hadd⟩ := readTemplates_default
  simp only [ofConfig, hcreate, htagCreate, hadd]
  rfl

theorem hasFixedColumns_plain : plain.HasFixedColumns :=
  hasFixedColumns_ofConfig ofConfig_default (by simp) (by simp)

theorem hasDefaultTemplates_plain : plain.HasDefaultTemplates :=
  hasDefaultTemplates_ofConfig ofConfig_default rfl rfl rfl rfl

end Options

end MetricTables
