import MetricTables.Store.Error
import MetricTables.Template

/-!
# Schema errors

How bringing a table in step with a batch can fail. Only failures of the store can go
away by themselves; everything else fails in the same way when it is tried again.

## Main definitions

* `SchemaError` — the failures.
* `SchemaError.isTemporary` — whether trying again may succeed.
-/

namespace MetricTables

/-- How bringing a table in step can fail. -/
inductive SchemaError where
  | store (e : StoreError)
  | tableNameTooLong (name : String) (limit : Nat)
  | template (source : String) (fault : Template.Fault)
  /-- A column that every row needs cannot be stored. -/
  | criticalColumn (name : String)
  /-- The time column and the tag key have one name. -/
  | sameFixedColumns (name : String)
  deriving DecidableEq, Repr, Inhabited

namespace SchemaError

/-- The text of a fault of a template. -/
def templateMessage (source reason : String) : String :=
  "template \"" ++ source ++ "\": " ++ reason

/-- The text of a failure. -/
def message : SchemaError → String
  | .store e => e.message
  | .tableNameTooLong n l =>
    "table name too long: \"" ++ n ++ "\" is " ++ toString n.utf8ByteSize ++ " bytes, limit is " ++
      toString l
  | .template s f => templateMessage s f.message
  | .criticalColumn n => "critical column \"" ++ n ++ "\""
  | .sameFixedColumns n =>
    "invalid schema options: timestamp and tag id columns are both named \"" ++ n ++ "\""

/-- Whether trying again may succeed. -/
def isTemporary : SchemaError → Bool
  | .store e => e.isTemporary
  | _ => false

/-- Whether something was to be created that is already there. -/
def isDuplicateObject : SchemaError → Bool
  | .store e => e.isDuplicateObject
  | _ => false

end SchemaError

end MetricTables
