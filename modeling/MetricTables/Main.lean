import MetricTables.CommandLine
import MetricTables.Store.Image

/-!
# The program

Connects the commands with the files and streams of the system.
-/

namespace MetricTables.CommandLine

def systemFile (path : String) : IO File := do
  try
    return .text (← IO.FS.readFile path)
  catch
    | .noFileOrDirectory .. => return .absent
    | _ => return .unreadable

partial def remaining (s : IO.FS.Stream) (before : ByteArray) : IO ByteArray := do
  let chunk ← s.read 65536
  if chunk.isEmpty then return before else remaining s (before ++ chunk)

def systemInput : IO File := do
  match String.fromUTF8? (← remaining (← IO.getStdin) .empty) with
  | some s => return .text s
  | none => return .unreadable

def system : Host IO where
  file := systemFile
  standardInput := systemInput
  openDatabase path := do
    if path == inMemoryPath then return some .fresh
    match ← systemFile path with
    | .absent => return some .fresh
    | .unreadable => return none
    | .text s => return Database.ofImage? s
  keepDatabase path b := if path == inMemoryPath then pure () else IO.FS.writeFile path b.image

end MetricTables.CommandLine

open MetricTables.CommandLine in
def main (arguments : List String) : IO UInt32 := do
  let r ← run system arguments
  IO.print r.output
  match r.error with
  | some reason => IO.eprintln ("Error: " ++ reason)
  | none => if r.exit == 2 then IO.eprint (help .program)
  return r.exit.toUInt32
