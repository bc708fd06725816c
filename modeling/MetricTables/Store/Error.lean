import MetricTables.Text.LowerCase
import MetricTables.Time.Duration

/-!
# Store errors

How a call of a store can fail, and what a failure means for the caller: whether the same
call may succeed later, whether the structure of the store is not what the caller
believed, and whether something was to be created that is already there. A rejected
statement carries a state code of five characters, so that one rule serves every store.

## Main definitions

* `StoreError` — the failures.
* `StoreError.isTemporary` — whether the same call may succeed later.
* `StoreError.ofEngineMessage` — the failure that a message of an engine without codes
  stands for.
-/

namespace MetricTables

/-! ## State codes -/

namespace StateCode

def featureNotSupported : String := "0A000"
def uniqueViolation : String := "23505"
def serializationFailure : String := "40001"
def deadlockDetected : String := "40P01"
def syntaxError : String := "42601"
def duplicateColumn : String := "42701"
def undefinedColumn : String := "42703"
def undefinedTable : String := "42P01"
def duplicateTable : String := "42P07"
def queryCanceled : String := "57014"
def databaseDropped : String := "57P04"

end StateCode

/-- How a call of a store can fail. -/
inductive StoreError where
  /-- The store was lost or never reached. -/
  | connection (message : String)
  /-- The call took longer than it may. -/
  | timeout (limit : Duration)
  /-- Another writer holds the store. -/
  | busy (message : String)
  /-- The store rejected the statement, for the reason of the code. -/
  | database (code message : String)
  /-- The statement failed for a reason without a code. -/
  | statement (message : String)
  deriving DecidableEq, Repr, Inhabited

namespace StoreError

/-- The text of a failure. -/
def message : StoreError → String
  | .connection m => "connection error: " ++ m
  | .timeout d => "statement timed out after " ++ d.short
  | .busy m => "store busy: " ++ m
  | .database c m => "database error " ++ c ++ ": " ++ m
  | .statement m => "statement failed: " ++ m

def code? : StoreError → Option String
  | .database c _ => some c
  | _ => none

/-- Whether a rejection of the code may go away by itself. The first two characters of a
code are its class: for some classes all codes count, for some a few. -/
def isTemporaryCode (code message : String) : Bool :=
  match code.toList.take 2 with
  -- another writer entered the same tag row first
  | ['2', '3'] => code == StateCode.uniqueViolation && Text.occursIn "tag_id" message
  -- the transaction is in no state for the statement
  | ['2', '5'] => true
  -- the transaction lost against others
  | ['4', '0'] => code == StateCode.serializationFailure || code == StateCode.deadlockDetected
  -- another writer created the table or column first
  | ['4', '2'] => code == StateCode.duplicateColumn || code == StateCode.duplicateTable
  -- not enough resources
  | ['5', '3'] => true
  -- an operator intervened
  | ['5', '7'] => code != StateCode.queryCanceled && code != StateCode.databaseDropped
  -- the connection broke
  | ['0', '8'] => true
  | _ => false

/-- Whether the same call may succeed later. -/
def isTemporary : StoreError → Bool
  | .connection _ | .timeout _ | .busy _ => true
  | .database c m => isTemporaryCode c m
  | .statement _ => false

/-- Whether a table or column was asked for that the store does not have: somebody else
changed the structure. -/
def isSchemaDrift (e : StoreError) : Bool :=
  e.code? == some StateCode.undefinedColumn || e.code? == some StateCode.undefinedTable

/-- Whether a table or column was to be created that is already there. -/
def isDuplicateObject (e : StoreError) : Bool :=
  e.code? == some StateCode.duplicateTable || e.code? == some StateCode.duplicateColumn

/-- Phrases of engine messages with the codes that they stand for; the first that occurs
decides. -/
def phrases : List (String × String) :=
  [("duplicate column", StateCode.duplicateColumn),
    ("already exists", StateCode.duplicateTable),
    ("no such table", StateCode.undefinedTable),
    ("no such column", StateCode.undefinedColumn),
    ("unique constraint", StateCode.uniqueViolation),
    ("syntax error", StateCode.syntaxError),
    ("parse error", StateCode.syntaxError)]

/-- The failure that a message of an engine without codes stands for. Case does not count. -/
def ofEngineMessage (m : String) : StoreError :=
  let lower := Text.lower m
  if Text.occursIn "database is locked" lower || Text.occursIn "busy" lower then .busy m
  else
    match phrases.find? fun p => Text.occursIn p.1 lower with
    | some (_, code) => .database code m
    | none => .statement m

end StoreError

end MetricTables
