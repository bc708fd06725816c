/-!
# Command line arguments

Reads the words behind the program's name. Options have a long name, and most a short one
of one letter; a value follows its option or is joined to it. The options of the whole
program may stand on either side of the command; on both, the one behind it counts.

## Main definitions

* `Invocation` — what the program is asked to do.
* `Arguments.read` — reads the words.
-/

namespace MetricTables.CommandLine

/-- A command with what it needs. -/
inductive Command where
  | apply (input : String) (retries : Nat) (rows : Bool)
  | columns (table : String)
  deriving DecidableEq, Repr, Inhabited

/-- What the program is asked to do. -/
structure Invocation where
  configPath : String
  /-- The level of log messages, in place of the configured one. -/
  logLevel : Option String
  command : Command
  deriving DecidableEq, Repr, Inhabited

/-- What a help text is about. -/
inductive Topic where
  | program
  | apply
  | columns
  | help
  deriving DecidableEq, Repr, Inhabited

/-- What the words ask for. -/
inductive Arguments where
  | run (i : Invocation)
  | help (topic : Topic)
  | version
  /-- The words ask for nothing that there is. -/
  | invalid
  deriving DecidableEq, Repr, Inhabited

namespace Arguments

/-- A number of 32 bits; a plus sign may stand before it. -/
def retries? (s : String) : Option Nat :=
  let digits := if s.toList.head? = some '+' then s.toList.tail else s.toList
  if digits.isEmpty || !digits.all Char.isDigit then none
  else
    let n := digits.foldl (fun n c => n * 10 + (c.toNat - 48)) 0
    if n < UInt32.size then some n else none

/-- An option. -/
inductive Opt where
  | config
  | logLevel
  | input
  | retries
  | rows
  | help
  | version
  deriving DecidableEq, Repr

namespace Opt

def long : Opt → String
  | .config => "config"
  | .logLevel => "log-level"
  | .input => "input"
  | .retries => "retries"
  | .rows => "rows"
  | .help => "help"
  | .version => "version"

def short : Opt → Option Char
  | .config => some 'c'
  | .logLevel => some 'l'
  | .input => some 'i'
  | .retries | .rows => none
  | .help => some 'h'
  | .version => some 'V'

def takesValue : Opt → Bool
  | .config | .logLevel | .input | .retries => true
  | .rows | .help | .version => false

/-- Whether a value will do: paths are not empty, and retries are a number. -/
def accepts (o : Opt) (value : String) : Bool :=
  match o with
  | .config | .input => !value.isEmpty
  | .retries => (retries? value).isSome
  | _ => true

def available : Topic → List Opt
  | .program => [.config, .logLevel, .help, .version]
  | .apply => [.input, .retries, .rows, .config, .logLevel, .help]
  | .columns => [.config, .logLevel, .help]
  | .help => []

end Opt

/-- What was read at one level: before a command, or behind it. -/
structure Level where
  /-- Options with their values. -/
  given : List (Opt × String) := []
  /-- Words that are no options. -/
  operands : List String := []
  deriving Inhabited

/-- How reading of a level ends. -/
inductive Reading where
  /-- All words are read, or the command is found; then the words behind it are left. -/
  | done (level : Level) (rest : List String)
  /-- An answer that needs no further reading. -/
  | answer (a : Arguments)

def Level.value? (l : Level) (o : Opt) : Option String := l.given.lookup o

/-- Adds an option; none may be given twice. -/
def Level.add? (l : Level) (o : Opt) (value : String) : Option Level :=
  if (l.value? o).isSome || !o.accepts value then none
  else some { l with given := l.given ++ [(o, value)] }

/-- What an option without a value asks for at once. -/
def immediate? (topic : Topic) : Opt → Option Arguments
  | .help => some (.help topic)
  | .version => some .version
  | _ => none

/-- What has to be read next of the words. -/
inductive Pending where
  | nothing
  /-- The value of an option. -/
  | value (o : Opt)

/-- Reads the letters of a word of short options. -/
def readShort (topic : Topic) (l : Level) : List Char → Except Arguments (Level × Pending)
  | [] => .ok (l, .nothing)
  | c :: cs =>
    match (Opt.available topic).find? fun o => o.short == some c with
    | none => .error .invalid
    | some o =>
      match immediate? topic o with
      | some a => .error a
      | none =>
        if o.takesValue then
          if cs.isEmpty then .ok (l, .value o)
          else
            let value := String.ofList (if cs.head? = some '=' then cs.tail else cs)
            match l.add? o value with
            | some l => .ok (l, .nothing)
            | none => .error .invalid
        else
          match l.add? o "" with
          | some l => readShort topic l cs
          | none => .error .invalid

/-- Reads a word of a long option: its name, and a value behind an equals sign. -/
def readLong (topic : Topic) (l : Level) (cs : List Char) : Except Arguments (Level × Pending) :=
  let name := String.ofList (cs.takeWhile (· != '='))
  let value := (cs.dropWhile (· != '=')).tail
  let joined := cs.contains '='
  match (Opt.available topic).find? fun o => o.long == name with
  | none => .error .invalid
  | some o =>
    if o.takesValue then
      if joined then
        match l.add? o (String.ofList value) with
        | some l => .ok (l, .nothing)
        | none => .error .invalid
      else .ok (l, .value o)
    else if joined then .error .invalid
    else
      match immediate? topic o with
      | some a => .error a
      | none =>
        match l.add? o "" with
        | some l => .ok (l, .nothing)
        | none => .error .invalid

/-- Reads the words of one level. A level that has commands ends at the first operand. -/
def readLevel (topic : Topic) (l : Level) (pending : Pending) : List String → Reading
  | [] =>
    match pending with
    | .nothing => .done l []
    | .value _ => .answer .invalid
  | word :: words =>
    match pending, word.toList with
    | .value _, '-' :: _ :: _ => .answer .invalid
    | .value o, _ =>
      match l.add? o word with
      | some l => readLevel topic l .nothing words
      | none => .answer .invalid
    | .nothing, ['-', '-'] =>
      if topic == .program then .answer .invalid
      else .done { l with operands := l.operands ++ words } []
    | .nothing, '-' :: '-' :: cs =>
      match readLong topic l cs with
      | .ok (l, pending) => readLevel topic l pending words
      | .error a => .answer a
    | .nothing, '-' :: c :: cs =>
      match readShort topic l (c :: cs) with
      | .ok (l, pending) => readLevel topic l pending words
      | .error a => .answer a
    | .nothing, _ =>
      if topic == .program then .done { l with operands := [word] } words
      else readLevel topic { l with operands := l.operands ++ [word] } .nothing words

/-- How often a table is tried again if nothing else is said. -/
def defaultRetries : Nat := 3

/-- The configuration that is read if nothing else is said. -/
def defaultConfigPath : String := "tabula.toml"

def command? (topic : Topic) (l : Level) : Option Command :=
  match topic with
  | .apply => do
    if !l.operands.isEmpty then none
    let input ← l.value? .input
    let retries ← match l.value? .retries with
      | none => some defaultRetries
      | some s => retries? s
    return .apply input retries (l.value? .rows).isSome
  | .columns =>
    match l.operands with
    | [table] => some (.columns table)
    | _ => none
  | .program | .help => none

def topic? : String → Option Topic
  | "apply" => some .apply
  | "columns" => some .columns
  | _ => none

def readHelp : List String → Arguments
  | [] => .help .program
  | ["help"] => .help .help
  | [name] =>
    match topic? name with
    | some t => .help t
    | none => .invalid
  | _ => .invalid

/-- Reads the words behind the program's name. -/
def read (words : List String) : Arguments :=
  match readLevel .program {} .nothing words with
  | .answer a => a
  | .done outer rest =>
    match outer.operands with
    | ["help"] => readHelp rest
    | [name] =>
      match topic? name with
      | none => .invalid
      | some topic =>
        match readLevel topic {} .nothing rest with
        | .answer a => a
        | .done inner _ =>
          match command? topic inner with
          | none => .invalid
          | some command =>
            let value (o : Opt) := (inner.value? o).or (outer.value? o)
            .run
              { configPath := (value .config).getD defaultConfigPath
                logLevel := value .logLevel
                command }
    | _ => .invalid

end Arguments

end MetricTables.CommandLine
