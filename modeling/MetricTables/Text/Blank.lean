/-!
# Blanks, words and cuts

How a text falls into pieces: at blanks, at one separator, or at the first place where
a given piece stands. All functions work on the list of characters, so that each has a
recursion on the text itself.

## Main definitions

* `isBlank` — white space in all scripts.
* `trim`, `words` — the text without blanks at its ends, and its words.
* `cut`, `splitOn` — the text around the first occurrence of a piece, and all parts
  around one separator.
-/

namespace MetricTables.Text

/-- White space: the ASCII blanks and the separators of other scripts. -/
def isBlank (c : Char) : Bool :=
  let n := c.toNat
  decide ((9 ≤ n ∧ n ≤ 13) ∨ n = 0x20 ∨ n = 0x85 ∨ n = 0xA0 ∨ n = 0x1680 ∨
    (0x2000 ≤ n ∧ n ≤ 0x200A) ∨ n = 0x2028 ∨ n = 0x2029 ∨ n = 0x202F ∨ n = 0x205F ∨ n = 0x3000)

def trimLeft (cs : List Char) : List Char := cs.dropWhile isBlank

/-- The text without the blanks at either end. -/
def trimChars (cs : List Char) : List Char :=
  (trimLeft (trimLeft cs).reverse).reverse

def trim (s : String) : String := String.ofList (trimChars s.toList)

/-- The maximal runs without a blank, in order. -/
def words : List Char → List (List Char)
  | [] => []
  | c :: cs =>
    if isBlank c then words cs
    else match cs with
      | [] => [[c]]
      | d :: _ =>
        if isBlank d then [c] :: words cs
        else match words cs with
          | [] => [[c]]
          | w :: ws => (c :: w) :: ws

/-- The parts around a separator; a text without it is one part. -/
def splitOn (sep : Char) : List Char → List (List Char)
  | [] => [[]]
  | c :: cs =>
    if c = sep then [] :: splitOn sep cs
    else match splitOn sep cs with
      | [] => [[c]]
      | w :: ws => (c :: w) :: ws

/-- The text before and after the first occurrence of `piece`. -/
def cut (piece : List Char) : List Char → Option (List Char × List Char)
  | [] => if piece.isEmpty then some ([], []) else none
  | c :: cs =>
    if piece.isPrefixOf (c :: cs) then some ([], (c :: cs).drop piece.length)
    else (cut piece cs).map fun (before, after) => (c :: before, after)

/-- A cut loses nothing but the piece. -/
theorem eq_append_of_cut {piece cs before after : List Char}
    (h : cut piece cs = some (before, after)) : cs = before ++ piece ++ after := by
  induction cs generalizing before with
  | nil =>
    simp only [cut] at h
    split at h
    next hp => cases h; simpa using hp
    next => cases h
  | cons c cs ih =>
    rw [cut] at h
    split at h
    next hp =>
      cases h
      obtain ⟨rest, hrest⟩ := List.isPrefixOf_iff_prefix.1 hp
      simp [← hrest]
    next =>
      obtain ⟨⟨b, a⟩, hb, heq⟩ := Option.map_eq_some_iff.1 h
      cases heq
      simp [ih hb]

/-- What follows the piece is no longer than the text. -/
theorem length_of_cut {piece cs before after : List Char}
    (h : cut piece cs = some (before, after)) :
    before.length + piece.length + after.length = cs.length := by
  simp [eq_append_of_cut h, Nat.add_assoc]

/-- Whether `piece` stands somewhere in the text. -/
def occursIn (piece text : String) : Bool := (cut piece.toList text.toList).isSome

/-- The texts one after the other, with `sep` between neighbours. -/
def join (sep : String) (parts : List String) : String := sep.intercalate parts

end MetricTables.Text
