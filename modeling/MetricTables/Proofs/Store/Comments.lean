import MetricTables.Proofs.Store.Catalog
import MetricTables.Store.Database

/-!
# Comments of the embedded database

The comment table has no key, and a comment is written by removing the rows about a column and
adding one. Still it is a map: from a new database on, whatever tables are created and widened, each
column has one row at most, and a table is reported with the comment that was given last under
exactly its name and the name of the column.

A question does not say in which order it wants its rows, and each row is put to its column by name.
Since there is one row for a column, the order makes no difference.

## Main definitions

* `Database.Call` — a comment, or a text that is run.
* `Database.after` — a new database behind some calls.
* `Database.lastComment` — the comment that was given last.
* `Database.attach` — a row is put to the column of its name.

## Main statements

* `Database.isMap_after` — what all calls keep.
* `Database.foldl_attach` — rows in any order give the comments of the map.
* `Database.columns_after` — what tables are reported with.
-/

namespace MetricTables

def CommentRow.key (r : CommentRow) : String × String × String :=
  (r.namespaceName, r.table, r.column)

theorem CommentRow.isFor_iff {r : CommentRow} {n t c : String} :
    r.isFor n t c = true ↔ r.key = (n, t, c) := by
  simp [isFor, key, and_assoc]

namespace Database

variable {b b' : Database}

/-! ## Calls -/

/-- A comment, or a text that is run. -/
inductive Call where
  | comment (namespaceName table column text : String)
  | execute (sql : String)
  deriving DecidableEq, Repr

/-- What a call leaves behind, also if it fails. -/
def Call.run (b : Database) : Call → Database
  | .comment n t c text => (Store.comment n t c text b).2
  | .execute sql => (Store.execute sql b).2

/-- A new database behind some calls. -/
def after (calls : List Call) : Database := calls.foldl Call.run fresh

theorem after_append (calls : List Call) (call : Call) :
    after (calls ++ [call]) = call.run (after calls) := by
  simp [after]

/-- Creations of tables, and additions of columns, other than of the comment table. -/
def IsDefinition : Sql.Statement → Prop
  | .createTable name _ _ => tableKey name ≠ .ok commentTable
  | .alterTable name changes =>
    tableKey name ≠ .ok commentTable ∧ ∀ change ∈ changes, ∃ early d, change = .addColumn early d
  | _ => False

/-- Comments, and texts of such statements. A text that cannot be read does nothing. -/
def Call.IsOrdinary : Call → Prop
  | .comment _ _ _ _ => True
  | .execute sql => ∀ statements, Sql.statements? sql = some statements →
      ∀ s ∈ statements, IsDefinition s

def Call.text? (n t c : String) : Call → Option String
  | .comment n' t' c' text => if n' = n ∧ t' = t ∧ c' = c then some text else none
  | .execute _ => none

/-- The comment that was given last on a column. -/
def lastComment (calls : List Call) (n t c : String) : Option String :=
  calls.reverse.findSome? (Call.text? n t c)

theorem lastComment_append (calls : List Call) (call : Call) (n t c : String) :
    lastComment (calls ++ [call]) n t c = (call.text? n t c).or (lastComment calls n t c) := by
  cases h : call.text? n t c <;> simp [lastComment, h]

/-! ## Columns of tables -/

/-- Columns as tables keep them: no name comes twice, and comments stand elsewhere. -/
structure Plain (columns : List StoredColumn) : Prop where
  names : (columns.map StoredColumn.name).Nodup
  comments : ∀ c ∈ columns, c.comment = none

theorem Plain.addColumn {columns columns' : List StoredColumn} {d : Sql.ColumnDefinition}
    (h : Plain columns) (hadd : addColumn columns d = .ok columns') : Plain columns' := by
  unfold Database.addColumn at hadd
  split at hadd
  · cases hadd
  next hnew =>
    cases hadd
    have hname : Text.lower d.name.text ∉ columns.map StoredColumn.name := by
      intro hmem
      obtain ⟨c, hc, heq⟩ := List.mem_map.1 hmem
      apply hnew
      simp only [hasColumn, List.any_eq_true]
      exact ⟨c, hc, by simp [heq]⟩
    constructor
    · rw [List.map_append]
      exact h.names.append (by simp) (by simpa using hname)
    · intro c hc
      rcases List.mem_append.1 hc with hc | hc
      · exact h.comments c hc
      · simp [List.mem_singleton.1 hc]

/-- The comment table is there, and all tables have plain columns. -/
structure IsFormed (b : Database) : Prop where
  commentTable : b.tables.find? commentTable = some commentTableColumns
  plain : ∀ key columns, b.tables.find? key = some columns → Plain columns

theorem IsFormed.insert {key : String} {columns : List StoredColumn} (h : b.IsFormed)
    (hkey : key ≠ Database.commentTable) (hcolumns : Plain columns) :
    IsFormed { b with tables := b.tables.insert key columns } where
  commentTable := by
    rw [KeyMap.find?_insert_of_ne _ hkey.symm]
    exact h.commentTable
  plain key' columns' hfind := by
    by_cases heq : key' = key
    · subst heq
      rw [KeyMap.find?_insert_self] at hfind
      cases hfind
      exact hcolumns
    · rw [KeyMap.find?_insert_of_ne _ heq] at hfind
      exact h.plain key' columns' hfind

@[simp] theorem comments_fresh : fresh.comments = [] := rfl

theorem isFormed_fresh : fresh.IsFormed where
  commentTable := KeyMap.find?_insert_self _ _ _
  plain key columns hfind := by
    by_cases hkey : key = Database.commentTable
    · subst hkey
      cases (KeyMap.find?_insert_self _ _ _).symm.trans hfind
      exact ⟨by decide, by decide⟩
    · have hnone : fresh.tables.find? key = none := KeyMap.find?_insert_of_ne _ hkey _
      cases hnone.symm.trans hfind

/-! ## Statements -/

section Statements

variable {name : Sql.QualifiedName}

/-- A creation that takes effect leaves everything, or puts columns where its name says. -/
theorem apply_createTable_cases {ifNotExists : Bool} {definitions : List Sql.ColumnDefinition}
    (h : b.apply (.createTable name ifNotExists definitions) = .ok b') :
    b' = b ∨ ∃ key columns, tableKey name = .ok key ∧
      definitions.foldlM addColumn [] = .ok columns ∧
      b' = { b with tables := b.tables.insert key columns } := by
  obtain ⟨key, hkey, hput⟩ := ok_of_bind h
  dsimp only at hput
  split at hput
  · split at hput
    · exact .inl (Except.ok.inj hput).symm
    · obtain ⟨_, hthrow, _⟩ := ok_of_bind hput
      cases hthrow
  · split at hput
    · obtain ⟨_, hthrow, _⟩ := ok_of_bind hput
      cases hthrow
    · obtain ⟨columns, hcolumns, hdone⟩ := ok_of_bind hput
      exact .inr ⟨key, columns, hkey, hcolumns, (Except.ok.inj hdone).symm⟩

/-- An alteration that takes effect adds a column to a table that is there. -/
theorem apply_alterTable_cases {changes : List Sql.TableChange}
    (h : b.apply (.alterTable name changes) = .ok b') :
    ∃ key columns d wider, tableKey name = .ok key ∧ b.tables.find? key = some columns ∧
      addColumn columns d = .ok wider ∧ b' = { b with tables := b.tables.insert key wider } := by
  -- The engine takes a single addition, and nothing else.
  obtain ⟨d, rfl⟩ : ∃ d, changes = [.addColumn false d] := by
    unfold apply at h
    split at h <;> simp_all
  obtain ⟨key, hkey, hput⟩ := ok_of_bind h
  split at hput
  · cases hput
  next columns hfind =>
    obtain ⟨wider, hwider, hdone⟩ := ok_of_bind hput
    exact ⟨key, columns, d, wider, hkey, hfind, hwider, (Except.ok.inj hdone).symm⟩

end Statements

/-- A definition leaves comments alone, and all tables formed. -/
theorem apply_definition {s : Sql.Statement} (hs : IsDefinition s) (h : b.IsFormed)
    (happly : b.apply s = .ok b') : b'.IsFormed ∧ b'.comments = b.comments := by
  cases s with
  | createTable name ifNotExists definitions =>
    rcases apply_createTable_cases happly with rfl | ⟨key, columns, hkey, hcolumns, rfl⟩
    · exact ⟨h, rfl⟩
    · have hplain : Plain columns := Catalog.foldlM_keeps (P := Plain)
        (fun _ _ _ => Plain.addColumn) ⟨by simp, by simp⟩ hcolumns
      exact ⟨h.insert (fun he => hs (he ▸ hkey)) hplain, rfl⟩
  | alterTable name changes =>
    obtain ⟨key, columns, d, wider, hkey, hfind, hwider, rfl⟩ := apply_alterTable_cases happly
    have hplain := (h.plain key columns hfind).addColumn hwider
    exact ⟨h.insert (fun he => hs.1 (he ▸ hkey)) hplain, rfl⟩
  | dropTable ifExists names => exact hs.elim
  | query references => exact hs.elim
  | other word => exact hs.elim

theorem checkComments_fresh : fresh.checkComments = .ok () := by
  have hok : (fresh.checkComments matches .ok _) = true := by decide +kernel
  cases h : fresh.checkComments with
  | ok _ => rfl
  | error e => simp [h] at hok

/-- Comments can be asked for and written as long as the comment table is there. -/
theorem IsFormed.checkComments (h : b.IsFormed) : b.checkComments = .ok () := by
  have hkey : tableKey [.bare Database.commentTable] = .ok Database.commentTable := by
    simp only [tableKey]
    decide +kernel
  rw [← checkComments_fresh]
  unfold Database.checkComments checkQuery
  simp only [List.mapM_cons, List.mapM_nil, hkey, bind, Except.bind, h.commentTable,
    isFormed_fresh.commentTable]

/-- No ordinary statement reaches the comment table. -/
theorem IsFormed.execute {sql : String} (h : b.IsFormed) (hsql : (Call.execute sql).IsOrdinary) :
    ((Call.execute sql).run b).IsFormed ∧ ((Call.execute sql).run b).comments = b.comments := by
  cases hrun : b.execute sql with
  | error e =>
    have hsame : (Call.execute sql).run b = b := by simp [Call.run, Store.execute, hrun]
    rw [hsame]
    exact ⟨h, rfl⟩
  | ok b' =>
    have hdone : (Call.execute sql).run b = b' := by simp [Call.run, Store.execute, hrun]
    rw [hdone]
    unfold Database.execute at hrun
    split at hrun
    · cases hrun
    · cases hrun
    next s rest hread => exact apply_definition (hsql _ hread s List.mem_cons_self) h hrun

/-! ## The comments are a map -/

/-- The rows are a map from columns to the comments that were given last. -/
structure IsMap (calls : List Call) (b : Database) : Prop where
  formed : b.IsFormed
  unique : (b.comments.map CommentRow.key).Nodup
  last : ∀ n t c, b.commentOf n t c = lastComment calls n t c

/-- A comment takes the place of the one that was there, so no two rows are about one column. -/
theorem unique_comment (h : (b.comments.map CommentRow.key).Nodup) (n t c text : String) :
    ((b.comment n t c text).comments.map CommentRow.key).Nodup := by
  rw [comment, List.map_append]
  apply (h.sublist (List.filter_sublist.map _)).append (by simp)
  simp only [List.map_cons, List.map_nil, List.disjoint_singleton]
  intro hmem
  obtain ⟨r, hr, hkey⟩ := List.mem_map.1 hmem
  have hother := (List.mem_filter.1 hr).2
  simp [CommentRow.isFor_iff.2 hkey] at hother

/-- A call keeps the rows a map. -/
theorem IsMap.run {calls : List Call} {call : Call} (h : IsMap calls b) (hcall : call.IsOrdinary) :
    IsMap (calls ++ [call]) (call.run b) := by
  cases call with
  | comment n t c text =>
    have hrun : (Call.comment n t c text).run b = b.comment n t c text := by
      simp [Call.run, Store.comment, h.formed.checkComments]
    rw [hrun]
    refine ⟨⟨h.formed.commentTable, h.formed.plain⟩, unique_comment h.unique n t c text, ?_⟩
    intro n' t' c'
    rw [commentOf_comment, lastComment_append, Call.text?, h.last]
    split <;> rfl
  | execute sql =>
    obtain ⟨hformed, hcomments⟩ := h.formed.execute hcall
    refine ⟨hformed, by rw [hcomments]; exact h.unique, ?_⟩
    intro n t c
    rw [lastComment_append, ← h.last, commentOf, commentOf, hcomments]
    rfl

/-- A new database keeps its comments a map, whatever is called. -/
theorem isMap_after {calls : List Call} (hcalls : ∀ call ∈ calls, call.IsOrdinary) :
    IsMap calls (after calls) := by
  induction calls using List.reverseRecOn with
  | nil => exact ⟨isFormed_fresh, by simp [after], by simp [after, commentOf, lastComment]⟩
  | append_singleton calls call ih =>
    rw [after_append]
    apply IsMap.run
    · exact ih fun c hc => hcalls c (List.mem_append_left _ hc)
    · exact hcalls call (by simp)

/-! ## Rows and columns -/

/-- The rows about a table, as a question finds them: names of columns with their comments. -/
def rowsAbout (b : Database) (n t : String) : List (String × String) :=
  (b.comments.filter fun r => r.namespaceName == n && r.table == t).map fun r => (r.column, r.text)

theorem mem_rowsAbout {n t c text : String} :
    (c, text) ∈ b.rowsAbout n t ↔ ⟨n, t, c, text⟩ ∈ b.comments := by
  simp only [rowsAbout, List.mem_map, List.mem_filter, Bool.and_eq_true, beq_iff_eq,
    Prod.mk.injEq]
  constructor
  · rintro ⟨⟨_, _, _, _⟩, ⟨hr, rfl, rfl⟩, rfl, rfl⟩
    exact hr
  · intro hr
    exact ⟨_, ⟨hr, rfl, rfl⟩, rfl, rfl⟩

section Unique

variable (h : (b.comments.map CommentRow.key).Nodup)
include h

/-- Of a column there is one row, so the newest is the one. -/
theorem commentOf_eq_some_iff {n t c text : String} :
    b.commentOf n t c = some text ↔ ⟨n, t, c, text⟩ ∈ b.comments := by
  unfold commentOf
  constructor
  · intro hlast
    obtain ⟨r, hr, rfl⟩ := Option.map_eq_some_iff.1 hlast
    obtain ⟨hmem, hfor⟩ := List.mem_filter.1 (List.mem_of_getLast? hr)
    have hkey := CommentRow.isFor_iff.1 hfor
    cases hkey
    exact hmem
  · intro hmem
    have hfor : (⟨n, t, c, text⟩ : CommentRow) ∈ b.comments.filter fun r => r.isFor n t c :=
      List.mem_filter.2 ⟨hmem, CommentRow.isFor_iff.2 rfl⟩
    obtain ⟨r, hr⟩ := Option.isSome_iff_exists.1 (List.getLast?_isSome.2 (List.ne_nil_of_mem hfor))
    obtain ⟨hmem', hfor'⟩ := List.mem_filter.1 (List.mem_of_getLast? hr)
    have hsame := List.inj_on_of_nodup_map h hmem' hmem (CommentRow.isFor_iff.1 hfor')
    rw [hr, hsame]
    rfl

theorem nodup_rowsAbout (n t : String) : ((b.rowsAbout n t).map Prod.fst).Nodup := by
  rw [rowsAbout, List.map_map]
  apply List.Nodup.map_on
  · intro r hr r' hr' hcolumn
    simp only [List.mem_filter, Bool.and_eq_true, beq_iff_eq] at hr hr'
    apply List.inj_on_of_nodup_map h hr.1 hr'.1
    simp_all [CommentRow.key]
  · exact (List.Nodup.of_map _ h).filter _

end Unique

/-- A row of an answer is put to the first column of its name. -/
def attach : List StoredColumn → String × String → List StoredColumn
  | [], _ => []
  | c :: cs, row =>
    if c.name = row.1 then { c with comment := some row.2 } :: cs else c :: attach cs row

/-- If no name comes twice the first column of a name is the only one. -/
theorem attach_map (f : String → Option String) (row : String × String) {cs : List StoredColumn}
    (hnames : (cs.map StoredColumn.name).Nodup) :
    attach (cs.map fun c => { c with comment := f c.name }) row =
      cs.map fun c => { c with comment := if c.name = row.1 then some row.2 else f c.name } := by
  induction cs with
  | nil => rfl
  | cons c cs ih =>
    obtain ⟨hc, hnames⟩ := List.nodup_cons.1 hnames
    rw [List.map_cons, attach]
    by_cases hname : c.name = row.1
    · have hothers : ∀ d ∈ cs, d.name ≠ row.1 := by
        intro d hd heq
        exact hc (List.mem_map.2 ⟨d, hd, heq.trans hname.symm⟩)
      simp only [hname, if_true, List.map_cons, List.cons.injEq, true_and]
      apply List.map_congr_left
      intro d hd
      rw [if_neg (hothers d hd)]
    · simp [hname, ih hnames]

/-- Rows with one comment for a column give each column its comment, in whatever order they come. -/
theorem foldl_attach {f : String → Option String} {rows : List (String × String)}
    {cs : List StoredColumn} (hcs : Plain cs) (hrows : (rows.map Prod.fst).Nodup)
    (hf : ∀ name text, (name, text) ∈ rows ↔ f name = some text) :
    rows.foldl attach cs = cs.map fun c => { c with comment := f c.name } := by
  induction rows using List.reverseRecOn generalizing f with
  | nil =>
    have hsame : ∀ c ∈ cs, { c with comment := f c.name } = c := by
      intro c hc
      have hnone : f c.name = none := by
        apply Option.eq_none_iff_forall_ne_some.2
        intro text htext
        simpa using (hf c.name text).2 htext
      rw [hnone, ← hcs.comments c hc]
    exact (List.map_id cs).symm.trans (List.map_congr_left fun c hc => (hsame c hc).symm)
  | append_singleton rows row ih =>
    -- Without the last row, its column has no comment.
    let g (name : String) : Option String := if name = row.1 then none else f name
    rw [List.map_append, List.nodup_append] at hrows
    obtain ⟨hrows, -, hnew⟩ := hrows
    have hg (name text : String) : (name, text) ∈ rows ↔ g name = some text := by
      by_cases hname : name = row.1
      · simp only [g, hname, if_true, reduceCtorEq, iff_false]
        intro hmem
        exact hnew row.1 (List.mem_map.2 ⟨_, hmem, rfl⟩) row.1 (by simp) rfl
      · simp only [g, hname, if_false, ← hf]
        have hne : (name, text) ≠ row := fun heq => hname (congrArg Prod.fst heq)
        simp [hne]
    have hrow : f row.1 = some row.2 := (hf row.1 row.2).1 (by simp)
    rw [List.foldl_append, ih hrows hg, List.foldl_cons, List.foldl_nil, attach_map g row hcs.names]
    apply List.map_congr_left
    intro c _
    by_cases hname : c.name = row.1
    · simp [hname, hrow]
    · simp [g, hname]

/-! ## What tables are reported with -/

/-- Behind comments, creations of tables and additions of columns, in any order, no column has two
rows. Every comment is taken, and a table is reported with the comment that was given last under
exactly these names, whatever was said of others. A question may give its rows in any order. -/
theorem columns_after {calls : List Call} (hcalls : ∀ call ∈ calls, call.IsOrdinary) :
    ((after calls).comments.map CommentRow.key).Nodup ∧
      (∀ n t c text, (Store.comment n t c text (after calls)).1 = .ok ()) ∧
      ∀ n t columns, isMain n = true →
        (after calls).tables.find? (Text.lower t) = some columns →
        let reported := columns.map fun c => { c with comment := lastComment calls n t c.name }
        (Store.columns n t (after calls)).1 = .ok (some reported) ∧
          ∀ rows : List (String × String), rows.Perm ((after calls).rowsAbout n t) →
            rows.foldl attach columns = reported := by
  have hmap := isMap_after hcalls
  refine ⟨hmap.unique, ?_, ?_⟩
  · intro n t c text
    simp [Store.comment, hmap.formed.checkComments]
  · intro n t columns hmain hfind
    constructor
    · simp [Store.columns, Database.columns, hmain, hfind, hmap.formed.checkComments, hmap.last,
        bind, Except.bind, pure, Except.pure]
    · intro rows hperm
      apply foldl_attach (f := fun c => lastComment calls n t c) (hmap.formed.plain _ _ hfind)
      · exact (hperm.map Prod.fst).nodup_iff.2 (nodup_rowsAbout hmap.unique n t)
      · intro c text
        rw [hperm.mem_iff, mem_rowsAbout, ← hmap.last, commentOf_eq_some_iff hmap.unique]

/-- Two spellings of one table, and a comment that is given twice. -/
def commentedTwice : List Call :=
  [.execute "CREATE TABLE \"Cpu\" (\"Host\" text)", .comment "" "Cpu" "host" "tag",
    .comment "" "cpu" "host" "field", .execute "ALTER TABLE cpu ADD COLUMN usage bigint",
    .comment "" "Cpu" "usage" "field", .comment "" "Cpu" "host" "tag v2"]

theorem isOrdinary_commentedTwice : ∀ call ∈ commentedTwice, call.IsOrdinary := by
  have hcreate : (Call.execute "CREATE TABLE \"Cpu\" (\"Host\" text)").IsOrdinary := by
    have hread : Sql.statements? "CREATE TABLE \"Cpu\" (\"Host\" text)" =
        some [.createTable [.quoted "Cpu"] false [⟨.quoted "Host", "text", "text"⟩]] := by
      decide +kernel
    have hkey : tableKey [.quoted "Cpu"] ≠ .ok commentTable := by
      simp only [tableKey]
      decide +kernel
    simp [Call.IsOrdinary, hread, IsDefinition, hkey]
  have hadd : (Call.execute "ALTER TABLE cpu ADD COLUMN usage bigint").IsOrdinary := by
    have hread : Sql.statements? "ALTER TABLE cpu ADD COLUMN usage bigint" =
        some [.alterTable [.bare "cpu"]
          [.addColumn false ⟨.bare "usage", "bigint", "bigint"⟩]] := by
      decide +kernel
    have hkey : tableKey [.bare "cpu"] ≠ .ok commentTable := by
      simp only [tableKey]
      decide +kernel
    simp [Call.IsOrdinary, hread, IsDefinition, hkey]
  simp only [commentedTwice, List.forall_mem_cons]
  exact ⟨hcreate, trivial, trivial, hadd, trivial, trivial, by simp⟩

theorem columns_after_commentedTwice :
    (Store.columns "" "Cpu" (after commentedTwice)).1 =
        .ok (some [⟨"host", "text", some "tag v2"⟩, ⟨"usage", "bigint", some "field"⟩]) ∧
      [("usage", "field"), ("host", "tag v2")].foldl attach
          [⟨"host", "text", none⟩, ⟨"usage", "bigint", none⟩] =
        [⟨"host", "text", some "tag v2"⟩, ⟨"usage", "bigint", some "field"⟩] := by
  have hfind : (after commentedTwice).tables.find? (Text.lower "Cpu") =
      some [⟨"host", "text", none⟩, ⟨"usage", "bigint", none⟩] := by decide +kernel
  have hrows : [("usage", "field"), ("host", "tag v2")].Perm
      ((after commentedTwice).rowsAbout "" "Cpu") := by decide +kernel
  obtain ⟨_, _, hreported⟩ := columns_after isOrdinary_commentedTwice
  obtain ⟨hcolumns, hany⟩ := hreported "" "Cpu" _ rfl hfind
  constructor
  · rw [hcolumns]
    decide +kernel
  · rw [hany _ hrows]
    decide +kernel

end Database

end MetricTables
