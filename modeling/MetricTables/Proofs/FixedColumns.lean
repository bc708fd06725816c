import MetricTables.Config.Reader
import MetricTables.Proofs.Batch

/-!
# Fixed columns of accepted configurations

A configuration is accepted if the time column and the tag key column have different names, which
fit. The columns that hold all tags or all fields have names of their own, and nothing is asked of
these: they may be taken by the time or by the key, and they may be too long. So the fixed columns
of an accepted configuration are usable exactly if the names of the columns that hold all tags or
all fields are. Which records come does not matter.

## Main statements

* `read_eq_ok` — what a configuration that is accepted says of the fixed columns.
* `TableBatch.dropColumn_eq_error_iff` — the columns that are not given up.
* `TableBatch.critical_fit_iff` — when they have names that fit.
* `read_columns_iff` — when the tables of an accepted configuration have usable fixed columns.
* `not_forall_read_usable` — accepted configurations without usable fixed columns.
-/

namespace MetricTables

deriving instance DecidableEq for LogConfig
deriving instance DecidableEq for StoreConfig
deriving instance DecidableEq for SchemaConfig
deriving instance DecidableEq for Config

/-! ## Columns that are not given up -/

namespace TableBatch

variable {o : Options} {b : TableBatch}

theorem dropColumn_eq_error_iff {c : Column} :
    b.dropColumn o c = .error (.criticalColumn c.name) ↔ c.isCritical = true ∨
      c.role = .tag ∧ o.tagsAsJson = true ∨ c.role = .field ∧ o.fieldsAsJson = true := by
  unfold dropColumn isUndroppable Column.isCritical
  cases c.role <;> simp

/-- The columns of the two tables that are not given up fit as soon as the time and the key fit,
up to the columns that hold all tags or all fields. -/
theorem critical_fit_iff (ho : o.HasRoles) (h : Valid o b)
    (htime : Identifier.fits o.identifierMaxBytes o.timeColumn.name = true)
    (htagId : Identifier.fits o.identifierMaxBytes o.tagIdColumn.name = true) :
    (∀ c ∈ b.metricColumns o ++ b.tagTableColumns o,
        b.dropColumn o c = .error (.criticalColumn c.name) →
          Identifier.fits o.identifierMaxBytes c.name = true) ↔
      (o.tagsAsJson = true → Identifier.fits o.identifierMaxBytes tagsJsonName = true) ∧
        (o.fieldsAsJson = true → Identifier.fits o.identifierMaxBytes fieldsJsonName = true) := by
  constructor
  · intro hall
    refine ⟨fun hjson => ?_, fun hjson => ?_⟩
    · refine hall o.tagsJsonColumn (List.mem_append_right _ ?_)
        (dropColumn_eq_error_iff.2 (.inr (.inl ⟨rfl, hjson⟩)))
      simp [tagTableColumns, tagPart, hjson]
    · refine hall o.fieldsJsonColumn (List.mem_append_left _ ?_)
        (dropColumn_eq_error_iff.2 (.inr (.inr ⟨rfl, hjson⟩)))
      simp [mem_metricColumns, fieldPart, hjson]
  · rintro ⟨htags, hfields⟩ c hc hcritical
    rcases place_of_mem ho h (List.mem_append.1 hc) with
      ⟨_, rfl⟩ | ⟨_, rfl⟩ | ⟨hrole, hc⟩ | ⟨hrole, hc⟩
    · exact htime
    · exact htagId
    · have hjson : o.tagsAsJson = true := by
        simpa [dropColumn_eq_error_iff, Column.isCritical, hrole] using hcritical
      rw [tagPart, if_pos hjson, List.mem_singleton] at hc
      exact hc ▸ htags hjson
    · have hjson : o.fieldsAsJson = true := by
        simpa [dropColumn_eq_error_iff, Column.isCritical, hrole] using hcritical
      rw [fieldPart, if_pos hjson, List.mem_singleton] at hc
      exact hc ▸ hfields hjson

end TableBatch

/-! ## Accepted configurations -/

namespace Config

theorem fits_of_checkColumnName {limit : Nat} {field value : String}
    (h : checkColumnName limit field value = .ok ()) : Identifier.fits limit value = true := by
  unfold checkColumnName at h
  split at h
  · cases h
  · split at h
    · cases h
    next hlong => simpa [Identifier.fits] using hlong

/-- What the check says about the fixed columns. The JSON columns are not looked at. -/
theorem fixed_of_checkSchema {c : SchemaConfig} (h : checkSchema c = .ok ()) :
    Identifier.fits c.identifierMaxBytes c.timestampColumnName = true ∧
      Identifier.fits c.identifierMaxBytes c.tagIdColumnName = true ∧
      c.timestampColumnName ≠ c.tagIdColumnName := by
  rw [checkSchema] at h
  by_cases hlimit : c.identifierMaxBytes = 0
  · rw [if_pos hlimit] at h
    cases h
  rw [if_neg hlimit] at h
  obtain ⟨_, htime, h⟩ := ok_of_bind h
  obtain ⟨_, htagId, h⟩ := ok_of_bind h
  refine ⟨fits_of_checkColumnName htime, fits_of_checkColumnName htagId, fun hsame => ?_⟩
  rw [if_pos hsame] at h
  cases h

/-- The fixed columns of a configuration that is accepted have different names, which fit. -/
theorem read_eq_ok {document : String} {c : Config} (h : read document = .ok c) :
    Identifier.fits c.schema.identifierMaxBytes c.schema.timestampColumnName = true ∧
      Identifier.fits c.schema.identifierMaxBytes c.schema.tagIdColumnName = true ∧
      c.schema.timestampColumnName ≠ c.schema.tagIdColumnName := by
  unfold read at h
  split at h
  · cases h
  · obtain ⟨_, hcheck, h⟩ := ok_of_bind h
    obtain rfl := Except.ok.inj h
    obtain ⟨_, _, hschema⟩ := ok_of_bind hcheck
    exact fixed_of_checkSchema hschema

/-- The tables of an accepted configuration have usable fixed columns exactly if the columns that
hold all tags or all fields have names that fit and that neither the time nor the key has. -/
theorem read_columns_iff {document : String} {c : Config} {o : Options}
    (hread : read document = .ok c) (hlayout : Options.ofConfig c.schema = .ok o) (name : String)
    (ms : List Metric) :
    let b := ms.foldl (TableBatch.push o) { name }
    ((b.columnNames o).Nodup ↔
      (o.tagsAsForeignKeys = false → o.tagsAsJson = true → o.timeColumn.name ≠ tagsJsonName) ∧
        (o.fieldsAsJson = true → o.timeColumn.name ≠ fieldsJsonName ∧
          (o.tagsAsForeignKeys = true → o.tagIdColumn.name ≠ fieldsJsonName))) ∧
    ((b.tagColumnNames o).Nodup ↔ (o.tagsAsJson = true → o.tagIdColumn.name ≠ tagsJsonName)) ∧
    ((∀ d ∈ b.metricColumns o ++ b.tagTableColumns o,
        b.dropColumn o d = .error (.criticalColumn d.name) →
          Identifier.fits o.identifierMaxBytes d.name = true) ↔
      (o.tagsAsJson = true → Identifier.fits o.identifierMaxBytes tagsJsonName = true) ∧
        (o.fieldsAsJson = true →
          Identifier.fits o.identifierMaxBytes fieldsJsonName = true)) := by
  intro b
  obtain ⟨htimeFits, htagIdFits, hne⟩ := read_eq_ok hread
  obtain ⟨_, _, _, _, _, htime, htagId, _, _, hlimit⟩ := Options.ofConfig_eq_ok hlayout
  have hvalid : TableBatch.Valid o b := TableBatch.valid_pushes (TableBatch.valid_new o name) ms
  refine ⟨TableBatch.nodup_columnNames_iff hvalid (by rwa [htime, htagId]),
    TableBatch.nodup_tagColumnNames_iff hvalid,
    TableBatch.critical_fit_iff (Options.hasRoles_ofConfig hlayout) hvalid ?_ ?_⟩
  · rwa [htime, hlimit]
  · rwa [htagId, hlimit]

/-- Everything is folded, and the key is called like the column that holds all fields, which is in
another table. -/
def foldedDocument : String :=
  "[schema]\ntags_as_jsonb = true\nfields_as_jsonb = true\n" ++
    "tag_id_column_name = \"fields\"\nidentifier_max_bytes = 6\n"

theorem read_columns_folded :
    let o : Options := { Options.plain with
      tagsAsJson := true, fieldsAsJson := true, tagIdColumn := ⟨"fields", .tagId, .bigInt⟩,
      identifierMaxBytes := 6 }
    let m : Metric := {
      name := "cpu", tags := KeyMap.empty.insert "fields" "a",
      fields := KeyMap.empty.insert "usage" (.int 1), timestamp := default }
    let b := [m, m].foldl (TableBatch.push o) { name := "cpu" }
    (∃ c, read foldedDocument = .ok c ∧ Options.ofConfig c.schema = .ok o) ∧
      (b.columnNames o).Nodup ∧ (b.tagColumnNames o).Nodup ∧
      ∀ d ∈ b.metricColumns o ++ b.tagTableColumns o,
        b.dropColumn o d = .error (.criticalColumn d.name) →
          Identifier.fits o.identifierMaxBytes d.name = true := by
  intro o m b
  have hread : read foldedDocument = .ok { schema := {
      tagsAsJson := true, fieldsAsJson := true, tagIdColumnName := "fields",
      identifierMaxBytes := 6 } } := by decide +kernel
  have hlayout : Options.ofConfig {
      tagsAsJson := true, fieldsAsJson := true, tagIdColumnName := "fields",
      identifierMaxBytes := 6 } = .ok o := by
    obtain ⟨hcreate, htagCreate, hadd⟩ := Options.readTemplates_default
    simp only [Options.ofConfig, hcreate, htagCreate, hadd]
    rfl
  obtain ⟨hmetric, htag, hfit⟩ := read_columns_iff hread hlayout "cpu" [m, m]
  exact ⟨⟨_, hread, hlayout⟩, hmetric.2 (by decide), htag.2 (by decide), hfit.2 (by decide)⟩

/-- The time is called like the column that holds all fields. -/
def sameNameDocument : String :=
  "[schema]\nfields_as_jsonb = true\ntimestamp_column_name = \"fields\"\n"

/-- The key is called like the column that holds all tags. -/
def sameKeyDocument : String :=
  "[schema]\ntags_as_foreign_keys = true\ntags_as_jsonb = true\ntag_id_column_name = \"tags\"\n"

/-- The column that holds all fields has too long a name. -/
def tightDocument : String :=
  "[schema]\nfields_as_jsonb = true\ntag_id_column_name = \"id\"\nidentifier_max_bytes = 5\n"

/-- Each of these is accepted, and then no batch can be written: two columns of a table have one
name, or a column that is not given up has a name that does not fit. -/
theorem not_forall_read_usable :
    (∃ c o, read sameNameDocument = .ok c ∧ Options.ofConfig c.schema = .ok o ∧
      ∀ (name : String) (ms : List Metric),
        ¬ ((ms.foldl (TableBatch.push o) { name }).columnNames o).Nodup) ∧
    (∃ c o, read sameKeyDocument = .ok c ∧ Options.ofConfig c.schema = .ok o ∧
      ∀ (name : String) (ms : List Metric),
        ¬ ((ms.foldl (TableBatch.push o) { name }).tagColumnNames o).Nodup) ∧
    ∃ c o, read tightDocument = .ok c ∧ Options.ofConfig c.schema = .ok o ∧
      ∀ (name : String) (ms : List Metric),
        ∃ d ∈ (ms.foldl (TableBatch.push o) { name }).metricColumns o,
          (ms.foldl (TableBatch.push o) { name }).dropColumn o d = .error (.criticalColumn d.name) ∧
            Identifier.fits o.identifierMaxBytes d.name = false := by
  have hvalid : ∀ (o : Options) (name : String) (ms : List Metric),
      (ms.foldl (TableBatch.push o) { name }).Valid o := fun o name ms =>
    TableBatch.valid_pushes (TableBatch.valid_new o name) ms
  refine ⟨?_, ?_, ?_⟩
  · have hread : read sameNameDocument = .ok { schema := {
        fieldsAsJson := true, timestampColumnName := "fields" } } := by decide +kernel
    obtain ⟨o, hlayout⟩ := Options.exists_ofConfig (c := {
      fieldsAsJson := true, timestampColumnName := "fields" }) (by decide) rfl rfl rfl rfl
    obtain ⟨_, _, _, _, _, htime, htagId, _, hfields, _⟩ := Options.ofConfig_eq_ok hlayout
    refine ⟨_, o, hread, hlayout, fun name ms hnodup => ?_⟩
    have hne : o.timeColumn.name ≠ o.tagIdColumn.name := by
      rw [htime, htagId]
      decide
    exact (((TableBatch.nodup_columnNames_iff (hvalid o name ms) hne).1 hnodup).2 hfields).1
      (by rw [htime]; rfl)
  · have hread : read sameKeyDocument = .ok { schema := {
        tagsAsForeignKeys := true, tagsAsJson := true, tagIdColumnName := "tags" } } := by
      decide +kernel
    obtain ⟨o, hlayout⟩ := Options.exists_ofConfig (c := {
      tagsAsForeignKeys := true, tagsAsJson := true, tagIdColumnName := "tags" }) (by decide)
      rfl rfl rfl rfl
    obtain ⟨_, _, _, _, _, _, htagId, htags, _⟩ := Options.ofConfig_eq_ok hlayout
    refine ⟨_, o, hread, hlayout, fun name ms hnodup => ?_⟩
    exact (TableBatch.nodup_tagColumnNames_iff (hvalid o name ms)).1 hnodup htags
      (by rw [htagId]; rfl)
  · have hread : read tightDocument = .ok { schema := {
        fieldsAsJson := true, tagIdColumnName := "id", identifierMaxBytes := 5 } } := by
      decide +kernel
    obtain ⟨o, hlayout⟩ := Options.exists_ofConfig (c := {
      fieldsAsJson := true, tagIdColumnName := "id", identifierMaxBytes := 5 }) (by decide)
      rfl rfl rfl rfl
    obtain ⟨_, _, _, _, _, _, _, _, hfields, hlimit⟩ := Options.ofConfig_eq_ok hlayout
    refine ⟨_, o, hread, hlayout, fun name ms => ⟨o.fieldsJsonColumn, ?_, ?_, ?_⟩⟩
    · simp [TableBatch.mem_metricColumns, TableBatch.fieldPart, hfields]
    · exact TableBatch.dropColumn_eq_error_iff.2 (.inr (.inr ⟨rfl, hfields⟩))
    · have hlong : Identifier.fits 5 fieldsJsonName = false := by decide
      rw [hlimit]
      exact hlong

end Config

end MetricTables
