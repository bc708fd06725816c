import Mathlib
import MetricTables.Config
import MetricTables.Proofs.Sql.Tables
import MetricTables.Proofs.Sql.Tokens
import MetricTables.Template.Reader

/-!
# Rendered statements

The statements of the default templates and the tokens that they are read as. Names are
quoted where they are put in, so that no character of a name becomes a token of its own.

## Main statements

* `statements?_createTable`, `statements?_createTagTable`, `statements?_addColumn` — what a
  store reads from the rendered default templates.
-/

namespace MetricTables

open Sql Sql.Lexer Sql.Grammar

namespace Template

/-! ## The default templates -/

def createTable : Template where
  source := defaultCreateTemplate
  parts := [.text "CREATE TABLE ", .table .table .qualified, .text " (",
    .columns .columns [] .definitions, .text ")"]

def createTagTable : Template where
  source := defaultTagTableCreateTemplate
  parts := [.text "CREATE TABLE ", .table .table .qualified, .text " (",
    .columns .columns [] .definitions, .text ", PRIMARY KEY (",
    .columns .columns [.tagId] .names, .text "))"]

def addColumn : Template where
  source := defaultAddColumnTemplate
  parts := [.text "ALTER TABLE ", .table .table .qualified, .text " ADD COLUMN ",
    .columns .columns [] .definitions]

theorem parse_defaultCreateTemplate : parse defaultCreateTemplate = .ok createTable := by
  cbv

theorem parse_defaultTagTableCreateTemplate :
    parse defaultTagTableCreateTemplate = .ok createTagTable := by
  cbv

theorem parse_defaultAddColumnTemplate : parse defaultAddColumnTemplate = .ok addColumn := by
  cbv

/-! ## Rendered texts -/

section Render

variable (c : Context)

theorem renderParts_cons {p : Part} {text : String} (h : p.render c = .ok text) (ps : List Part) :
    renderParts c (p :: ps) = (renderParts c ps).map (text ++ ·) := by
  rw [renderParts, h]
  rfl

/-- A placeholder without roles stands for all columns. -/
theorem render_definitions : (Part.columns .columns [] .definitions).render c =
    .ok (Text.join ", " (c.columns.map Column.definition)) := by
  have hall : (c.columns.filter fun col => ([] : List Role).isEmpty || [].contains col.role) =
      c.columns := List.filter_eq_self.2 fun _ _ => rfl
  rw [Part.render, hall]
  rfl

def keyColumns (cs : List Column) : List Column := cs.filter fun c => c.role == .tagId

theorem render_keyNames : (Part.columns .columns [.tagId] .names).render c =
    .ok (Text.join ", " ((keyColumns c.columns).map fun k => Identifier.quote k.name)) := by
  have hkey : (c.columns.filter fun col => [Role.tagId].isEmpty || [Role.tagId].contains col.role) =
      keyColumns c.columns := by
    refine List.filter_congr fun col _ => ?_
    cases col.role <;> rfl
  rw [Part.render, hkey]
  rfl

theorem render_createTable : createTable.render c =
    .ok ("CREATE TABLE " ++ (Identifier.qualified c.namespaceName c.table ++ (" (" ++
      (Text.join ", " (c.columns.map Column.definition) ++ ")")))) := by
  rw [render, createTable, renderParts_cons c rfl, renderParts_cons c rfl, renderParts_cons c rfl,
    renderParts_cons c (render_definitions c), renderParts_cons c rfl]
  simp [renderParts, Except.map]

theorem render_createTagTable : createTagTable.render c =
    .ok ("CREATE TABLE " ++ (Identifier.qualified c.namespaceName c.table ++ (" (" ++
      (Text.join ", " (c.columns.map Column.definition) ++ (", PRIMARY KEY (" ++
        (Text.join ", " ((keyColumns c.columns).map fun k => Identifier.quote k.name) ++
          "))")))))) := by
  rw [render, createTagTable, renderParts_cons c rfl, renderParts_cons c rfl,
    renderParts_cons c rfl, renderParts_cons c (render_definitions c), renderParts_cons c rfl,
    renderParts_cons c (render_keyNames c), renderParts_cons c rfl]
  simp [renderParts, Except.map]

theorem render_addColumn : addColumn.render c =
    .ok ("ALTER TABLE " ++ (Identifier.qualified c.namespaceName c.table ++ (" ADD COLUMN " ++
      Text.join ", " (c.columns.map Column.definition)))) := by
  rw [render, addColumn, renderParts_cons c rfl, renderParts_cons c rfl, renderParts_cons c rfl,
    renderParts_cons c (render_definitions c)]
  simp [renderParts, Except.map]

end Render

end Template

namespace Sql.Lexer

/-! ## Tokens of rendered texts -/

theorem tokens?_qualified (p : String × String) {rest : List Char} (h : rest.head? ≠ some '"') :
    tokens? ((Identifier.qualified p.1 p.2).toList ++ rest) =
      (tokens? rest).map (nameTokens p ++ ·) := by
  unfold Identifier.qualified nameTokens
  by_cases hp : p.1 = ""
  · simp [hp, tokens?_quote p.2 h]
  · have hquote : (Identifier.quote p.2).toList ++ rest =
        '"' :: (Identifier.escape p.2.toList ++ '"' :: rest) := by simp [Identifier.quote]
    have hpoint : tokens? ('.' :: ((Identifier.quote p.2).toList ++ rest)) =
        (tokens? rest).map (fun ts => .symbol "." :: .quoted p.2 :: ts) := by
      rw [tokens?_point (by rw [hquote]; rfl), tokens?_quote p.2 h, Option.map_map]
      rfl
    have hlist : (Identifier.quote p.1 ++ "." ++ Identifier.quote p.2).toList ++ rest =
        (Identifier.quote p.1).toList ++ '.' :: ((Identifier.quote p.2).toList ++ rest) := by
      simp
    have hempty : p.1.isEmpty = false := by simpa using hp
    rw [hempty, if_neg hp]
    simp only [Bool.false_eq_true, if_false]
    rw [hlist, tokens?_quote p.1 (by simp), hpoint, Option.map_map]
    rfl

theorem tokens?_words {ws : List String} (hws : ∀ w ∈ ws, isPlain w.toList = true) (hne : ws ≠ [])
    {rest : List Char} (h : Stops rest) :
    tokens? ((Text.join " " ws).toList ++ rest) = (tokens? rest).map (ws.map .word ++ ·) := by
  induction ws with
  | nil => exact absurd rfl hne
  | cons w ws ih =>
    have hw := hws w (by simp)
    cases ws with
    | nil => simp [Text.join, tokens?_word hw h]
    | cons v vs =>
      have hrec := ih (fun u hu => hws u (List.mem_cons_of_mem _ hu)) (by simp)
      have hlist : (Text.join " " (w :: v :: vs)).toList ++ rest =
          w.toList ++ ' ' :: ((Text.join " " (v :: vs)).toList ++ rest) := by
        simp [Text.join, String.intercalate_cons_cons]
      rw [hlist, tokens?_word hw (by simp), tokens?_space, hrec, Option.map_map]
      rfl

theorem tokens?_definition {c : Column} (hc : ∀ s, c.type ≠ .other s) {rest : List Char}
    (h : Stops rest) : tokens? (c.definition.toList ++ rest) =
      (tokens? rest).map (columnTokens c ++ ·) := by
  have hspelling : c.type.spelling = Text.join " " (TypeName.wordsOfType c.type) := by
    cases ht : c.type with
    | other s => exact absurd ht (hc s)
    | _ => decide +kernel
  have hplain : ∀ w ∈ TypeName.wordsOfType c.type, isPlain w.toList = true := by
    cases ht : c.type with
    | other s => exact absurd ht (hc s)
    | _ => decide +kernel
  have hne : TypeName.wordsOfType c.type ≠ [] := by
    cases c.type <;> simp [TypeName.wordsOfType]
  have hlist : c.definition.toList ++ rest =
      (Identifier.quote c.name).toList ++ ' ' :: (c.type.spelling.toList ++ rest) := by
    simp [Column.definition]
  rw [hlist, tokens?_quote c.name (by simp), tokens?_space, hspelling, tokens?_words hplain hne h,
    Option.map_map]
  rfl

/-- Written items with commas between them are read as their tokens with commas between
them. -/
theorem tokens?_join {β : Type} {write : β → String} {tokens : β → List Token} {items : List β}
    (hread : ∀ b ∈ items, ∀ rest, Stops rest →
      tokens? ((write b).toList ++ rest) = (tokens? rest).map (tokens b ++ ·))
    {rest : List Char} (h : Stops rest) :
    tokens? ((Text.join ", " (items.map write)).toList ++ rest) =
      (tokens? rest).map (Reader.commaTokens tokens items ++ ·) := by
  induction items with
  | nil => simp [Text.join, Reader.commaTokens]
  | cons b bs ih =>
    cases bs with
    | nil => simp [Text.join, Reader.commaTokens, hread b (by simp) rest h]
    | cons d ds =>
      have hrec := ih fun e he => hread e (List.mem_cons_of_mem _ he)
      have hlist : (Text.join ", " ((b :: d :: ds).map write)).toList ++ rest =
          (write b).toList ++ ',' :: ' ' ::
            ((Text.join ", " ((d :: ds).map write)).toList ++ rest) := by
        simp [Text.join, String.intercalate_cons_cons]
      rw [hlist, hread b (by simp) _ (by simp), tokens?_punctuation rfl, tokens?_space, hrec,
        Option.map_map, Option.map_map]
      congr 1
      funext ts
      simp [Reader.commaTokens]

theorem tokens?_definitions {cs : List Column} (hcs : ∀ c ∈ cs, ∀ s, c.type ≠ .other s)
    {rest : List Char} (h : Stops rest) :
    tokens? ((Text.join ", " (cs.map Column.definition)).toList ++ rest) =
      (tokens? rest).map (Reader.commaTokens columnTokens cs ++ ·) :=
  tokens?_join (fun c hc _ hr => tokens?_definition (hcs c hc) hr) h

theorem tokens?_names (cs : List Column) {rest : List Char} (h : Stops rest) :
    tokens? ((Text.join ", " (cs.map fun c => Identifier.quote c.name)).toList ++ rest) =
      (tokens? rest).map (Reader.commaTokens (fun c => [.quoted c.name]) cs ++ ·) := by
  have hread : ∀ c ∈ cs, ∀ rest, Stops rest → tokens? ((Identifier.quote c.name).toList ++ rest) =
      (tokens? rest).map ([.quoted c.name] ++ ·) := by
    intro c _ rest hr
    refine tokens?_quote c.name fun hq => ?_
    rcases hr '"' hq with h | h | h <;> exact absurd h (by decide)
  exact tokens?_join hread h

end Sql.Lexer

namespace Template

/-! ## Statements of the default templates -/

section Statements

variable {c : Context} (hcolumns : c.columns ≠ [])
  (htypes : ∀ col ∈ c.columns, ∀ s, col.type ≠ .other s)

/-- What a tag table is made of: the columns, and the key. -/
def tagElements (cs : List Column) : List Element :=
  cs.map .column ++ [.primaryKey ((keyColumns cs).map Column.name)]

def Context.place (c : Context) : String × String := (c.namespaceName, c.table)

include hcolumns htypes

theorem statements?_createTable {sql : String} (h : createTable.render c = .ok sql) :
    statements? sql =
      some [.createTable (nameOf c.place) false (c.columns.map columnDefinitionOf)] := by
  have hlist : sql.toList = "CREATE".toList ++ ' ' :: ("TABLE".toList ++ ' ' ::
      ((Identifier.qualified c.place.1 c.place.2).toList ++ ' ' :: '(' ::
        ((Text.join ", " (c.columns.map Column.definition)).toList ++ [')']))) := by
    rw [render_createTable, Except.ok.injEq] at h
    simp [← h, Context.place]
  have htokens : tokens? sql.toList = some (createTokens c.place (c.columns.map .column)) := by
    rw [hlist, tokens?_word rfl (by simp), tokens?_space, tokens?_word rfl (by simp), tokens?_space,
      tokens?_qualified c.place (by simp), tokens?_space, tokens?_punctuation rfl,
      tokens?_definitions htypes (by simp), tokens?_punctuation rfl, tokens?_nil]
    simp [createTokens, elementsTokens, Reader.commaTokens_map, Element.tokens]
  have hne : c.columns.map Element.column ≠ [] := by simpa using hcolumns
  have hread := readAll_createTokens c.place hne (by simpa [Element.IsProper] using htypes)
  have hdefinitions : (c.columns.map Element.column).filterMap Element.definition? =
      c.columns.map columnDefinitionOf := by
    simp [List.filterMap_map, Function.comp_def, Element.definition?]
  simp [statements?, htokens, hread, hdefinitions]

theorem tokens?_createTagTable {sql : String} (h : createTagTable.render c = .ok sql) :
    tokens? sql.toList = some (createTokens c.place (tagElements c.columns)) := by
  have hlist : sql.toList = "CREATE".toList ++ ' ' :: ("TABLE".toList ++ ' ' ::
      ((Identifier.qualified c.place.1 c.place.2).toList ++ ' ' :: '(' ::
        ((Text.join ", " (c.columns.map Column.definition)).toList ++ ',' :: ' ' ::
          ("PRIMARY".toList ++ ' ' :: ("KEY".toList ++ ' ' :: '(' ::
            ((Text.join ", "
              ((keyColumns c.columns).map fun k => Identifier.quote k.name)).toList ++
                [')', ')'])))))) := by
    rw [render_createTagTable, Except.ok.injEq] at h
    simp [← h, Context.place]
  rw [hlist, tokens?_word rfl (by simp), tokens?_space, tokens?_word rfl (by simp), tokens?_space,
    tokens?_qualified c.place (by simp), tokens?_space, tokens?_punctuation rfl,
    tokens?_definitions htypes (by simp), tokens?_punctuation rfl, tokens?_space,
    tokens?_word rfl (by simp), tokens?_space, tokens?_word rfl (by simp), tokens?_space,
    tokens?_punctuation rfl, tokens?_names _ (by simp), tokens?_punctuation rfl,
    tokens?_punctuation rfl, tokens?_nil]
  simp [createTokens, elementsTokens, tagElements, Reader.commaTokens_concat,
    Reader.commaTokens_map, Element.tokens, hcolumns]

theorem statements?_createTagTable {sql : String} (h : createTagTable.render c = .ok sql)
    (hkey : keyColumns c.columns ≠ []) :
    statements? sql =
      some [.createTable (nameOf c.place) false (c.columns.map columnDefinitionOf)] := by
  have hproper : ∀ e ∈ tagElements c.columns, e.IsProper := by
    intro e he
    rcases List.mem_append.1 he with he | he
    · obtain ⟨col, hcol, rfl⟩ := List.mem_map.1 he
      exact htypes col hcol
    · obtain rfl := List.mem_singleton.1 he
      simpa [Element.IsProper] using hkey
  have hne : tagElements c.columns ≠ [] := by simp [tagElements]
  have hread := readAll_createTokens c.place hne hproper
  have hdefinitions : (tagElements c.columns).filterMap Element.definition? =
      c.columns.map columnDefinitionOf := by
    simp [tagElements, List.filterMap_map, Function.comp_def, Element.definition?]
  simp [statements?, tokens?_createTagTable hcolumns htypes h, hread, hdefinitions]

/-- Without a key a tag table is not created. -/
theorem statements?_createTagTable_eq_none {sql : String} (h : createTagTable.render c = .ok sql)
    (hkey : keyColumns c.columns = []) : statements? sql = none := by
  have htokens := tokens?_createTagTable hcolumns htypes h
  rw [tagElements, hkey, List.map_nil] at htokens
  simp [statements?, htokens, readAll_emptyKey c.place hcolumns htypes]

end Statements

theorem statements?_addColumn {c : Context} {col : Column} (hcolumns : c.columns = [col])
    (htype : ∀ s, col.type ≠ .other s) {sql : String} (h : addColumn.render c = .ok sql) :
    statements? sql =
      some [.alterTable (nameOf c.place) [.addColumn false (columnDefinitionOf col)]] := by
  have hlist : sql.toList = "ALTER".toList ++ ' ' :: ("TABLE".toList ++ ' ' ::
      ((Identifier.qualified c.place.1 c.place.2).toList ++ ' ' :: ("ADD".toList ++ ' ' ::
        ("COLUMN".toList ++ ' ' :: (col.definition.toList ++ []))))) := by
    rw [render_addColumn, hcolumns, Except.ok.injEq] at h
    simp [← h, Text.join, Context.place]
  have htokens : tokens? sql.toList = some (addColumnTokens c.place col) := by
    rw [hlist, tokens?_word rfl (by simp), tokens?_space, tokens?_word rfl (by simp), tokens?_space,
      tokens?_qualified c.place (by simp), tokens?_space, tokens?_word rfl (by simp), tokens?_space,
      tokens?_word rfl (by simp), tokens?_space, tokens?_definition htype (by simp), tokens?_nil]
    simp [addColumnTokens]
  simp [statements?, htokens, readAll_addColumnTokens c.place htype]

end Template

end MetricTables
