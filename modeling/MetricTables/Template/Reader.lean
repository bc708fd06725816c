import MetricTables.Template

/-!
# Reading templates

A template is read from left to right: the text up to the next opening braces, then the
placeholder up to the closing braces after them. Single braces are text.

## Main definitions

* `Template.parseParts` — the parts of a text.
* `Template.parse` — the template of a text.
-/

namespace MetricTables.Template

def opening : List Char := ['\x7b', '\x7b']

def closing : List Char := ['\x7d', '\x7d']

def tableVariable? : String → Option TableVariable
  | "table" => some .table
  | "metric_table" => some .metricTable
  | "tag_table" => some .tagTable
  | _ => none

def columnsVariable? : String → Option ColumnsVariable
  | "columns" => some .columns
  | "all_columns" => some .allColumns
  | _ => none

/-- The role that a modifier chooses. -/
def role? : String → Option Role
  | "tags" => some .tag
  | "fields" => some .field
  | "time" => some .time
  | "tag_id" => some .tagId
  | _ => none

def columnFormat? : String → Option ColumnFormat
  | "names" => some .names
  | "definitions" => some .definitions
  | _ => none

/-- A table placeholder takes at most one modifier. -/
def parseTable (v : TableVariable) (modifiers : List String) : Except Fault Part :=
  match modifiers with
  | [] => .ok (.table v .qualified)
  | ["name"] => .ok (.table v .name)
  | ["raw"] => .ok (.table v .raw)
  | _ => .error (.invalidModifiers v.name (Text.join "." modifiers))

/-- The modifiers of a columns placeholder: roles, each counted once, then one format. -/
def parseModifiers (v : ColumnsVariable) (roles : List Role) (format : Option ColumnFormat) :
    List String → Except Fault Part
  | [] => .ok (.columns v roles (format.getD .definitions))
  | m :: ms =>
    match columnFormat? m with
    | some f =>
      if format.isSome then .error (.secondFormat v.name)
      else parseModifiers v roles (some f) ms
    | none =>
      match role? m with
      | some r =>
        if format.isSome then .error (.filterAfterFormat m)
        else parseModifiers v (if roles.contains r then roles else roles ++ [r]) format ms
      | none => .error (.unknownModifier v.name m)

/-- The part that the text between two pairs of braces stands for. -/
def parsePlaceholder (inner : List Char) : Except Fault Part :=
  let segments := (Text.splitOn '.' (Text.trimChars inner)).map fun s =>
    String.ofList (Text.trimChars s)
  let var := segments.headD ""
  let modifiers := segments.tail
  match tableVariable? var, columnsVariable? var with
  | some v, _ => parseTable v modifiers
  | none, some v => parseModifiers v [] none modifiers
  | none, none =>
    if var.isEmpty then .error .emptyPlaceholder else .error (.unknownVariable var)

/-- The text part of some characters; none for no characters. -/
def textPart (cs : List Char) : List Part :=
  if cs.isEmpty then [] else [.text (String.ofList cs)]

def parseParts (cs : List Char) : Except Fault (List Part) :=
  match _open : Text.cut opening cs with
  | none => .ok (textPart cs)
  | some (before, after) =>
    match _close : Text.cut closing after with
    | none => .error .unterminated
    | some (inner, rest) => do
      let part ← parsePlaceholder inner
      let parts ← parseParts rest
      return textPart before ++ part :: parts
termination_by cs.length
decreasing_by
  have h₁ := Text.length_of_cut _open
  have h₂ := Text.length_of_cut _close
  simp only [opening, List.length_cons] at h₁
  omega

def parse (source : String) : Except Fault Template :=
  (parseParts source.toList).map fun parts => ⟨source, parts⟩

end MetricTables.Template
