import Mathlib
import MetricTables.Text.LowerCase

/-!
# Occurrences of pieces

Where a piece can stand in a text that is put together of three: inside of one of them, or across
a border between two. A piece that fits neither in the outer texts nor across the borders stands
in the whole exactly if it stands in the middle.

Small letters depend on the text around them in one case only, the sigma at the end of a word. A
piece without sigmas does not see the difference.

## Main definitions

* `smallLetters` — the small letters of a text, with one form of the sigma.
* `Between` — a piece that fits neither in two texts nor across their borders.

## Main statements

* `occursIn_iff` — an occurrence is an infix.
* `infix_between` — a piece that stands in the whole exactly if it stands in the middle.
* `occursIn_lower_iff` — occurrences in the lower-case form are those in the small letters.
-/

namespace MetricTables.Text

/-! ## Pieces of texts -/

/-- A piece can be cut out exactly where it stands in one run. -/
theorem isSome_cut_iff {piece cs : List Char} : (cut piece cs).isSome = true ↔ piece <:+: cs := by
  induction cs with
  | nil =>
    rw [cut, List.infix_nil]
    split
    next h => simpa using h
    next h => simpa using h
  | cons c cs ih =>
    rw [cut, List.infix_cons_iff, ← List.isPrefixOf_iff_prefix]
    split
    next h => simp [h]
    next h => simp [h, ih]

/-- An occurrence is an infix. -/
theorem occursIn_iff {piece text : String} :
    occursIn piece text = true ↔ piece.toList <:+: text.toList := isSome_cut_iff

/-- The piece stands neither in one of the two texts nor across a border: no beginning of it ends
the first, and no end of it begins the second. -/
structure Between (piece front back : List Char) : Prop where
  notFront : ¬ piece <:+: front
  notBack : ¬ piece <:+: back
  beginnings : ∀ p ∈ piece.inits, p ≠ [] → ¬ p <:+ front
  ends : ∀ p ∈ piece.tails, p ≠ [] → ¬ p <+: back

instance (piece front back : List Char) : Decidable (Between piece front back) :=
  decidable_of_iff (¬ piece <:+: front ∧ ¬ piece <:+: back ∧
      (∀ p ∈ piece.inits, p ≠ [] → ¬ p <:+ front) ∧ ∀ p ∈ piece.tails, p ≠ [] → ¬ p <+: back)
    ⟨fun ⟨h₁, h₂, h₃, h₄⟩ => ⟨h₁, h₂, h₃, h₄⟩, fun ⟨h₁, h₂, h₃, h₄⟩ => ⟨h₁, h₂, h₃, h₄⟩⟩

/-- Such a piece stands in the whole exactly if it stands in the middle. -/
theorem infix_between {piece front middle back : List Char} (h : Between piece front back) :
    piece <:+: front ++ middle ++ back ↔ piece <:+: middle := by
  constructor
  · intro hwhole
    have hfirst : piece <:+: front ++ middle := by
      rcases List.infix_append_iff.1 hwhole with hin | hin | ⟨p, q, rfl, hp, hq⟩
      · exact hin
      · exact absurd hin h.notBack
      · by_cases hnil : q = []
        · subst hnil
          simpa using hp.isInfix
        · exact absurd hq (h.ends q ((List.mem_tails _ _).2 (List.suffix_append p q)) hnil)
    rcases List.infix_append_iff.1 hfirst with hin | hin | ⟨p, q, rfl, hp, hq⟩
    · exact absurd hin h.notFront
    · exact hin
    · by_cases hnil : p = []
      · subst hnil
        simpa using hq.isInfix
      · exact absurd hp (h.beginnings p ((List.mem_inits _ _).2 (List.prefix_append p q)) hnil)
  · exact fun hin => hin.trans (List.infix_append front middle back)

/-! ## Small letters -/

/-- The two small sigmas as one. -/
def oneSigma (c : Char) : Char := if c = 'ς' then 'σ' else c

/-- The small letters of one character, whatever stands around it. -/
def smallLetter (c : Char) : List Char :=
  if c = 'İ' then ['i', '\u0307'] else if c = 'Σ' then ['σ'] else [oneSigma (lowerChar c)]

/-- The small letters of a text, with one form of the sigma. -/
def smallLetters (cs : List Char) : List Char := cs.flatMap smallLetter

@[simp] theorem smallLetters_append (cs ds : List Char) :
    smallLetters (cs ++ ds) = smallLetters cs ++ smallLetters ds := List.flatMap_append

/-- Small letters are those of the lower-case form but for the form of the sigma. -/
theorem map_oneSigma_lowerFrom (before cs : List Char) :
    (lowerFrom before cs).map oneSigma = smallLetters cs := by
  induction cs generalizing before with
  | nil => rfl
  | cons c cs ih =>
    rw [lowerFrom, List.map_append, ih, smallLetters, smallLetters, List.flatMap_cons, smallLetter]
    congr 1
    split
    · rfl
    · split
      · split <;> rfl
      · rfl

/-- A piece without sigmas does not see their form. -/
theorem infix_map_oneSigma_iff {piece cs : List Char} (hpiece : 'σ' ∉ piece ∧ 'ς' ∉ piece) :
    piece <:+: cs.map oneSigma ↔ piece <:+: cs := by
  have hkept : ∀ ds : List Char, ds.map oneSigma = piece → ds = piece := by
    rintro ds rfl
    refine (List.map_congr_left fun c hc => ?_).trans (List.map_id ds) |>.symm
    by_cases hsigma : c = 'ς'
    · have hone : oneSigma c = 'σ' := if_pos hsigma
      exact absurd (List.mem_map.2 ⟨c, hc, hone⟩) hpiece.1
    · exact if_neg hsigma
  constructor
  · rintro ⟨front, back, h⟩
    obtain ⟨ds, back', rfl, hds, _⟩ := List.map_eq_append_iff.1 h.symm
    obtain ⟨front', middle, rfl, _, hmiddle⟩ := List.map_eq_append_iff.1 hds
    exact ⟨front', back', by rw [hkept middle hmiddle]⟩
  · intro h
    have hself : ∀ c ∈ piece, oneSigma c = c :=
      fun c hc => if_neg fun hsigma : c = 'ς' => hpiece.2 (hsigma ▸ hc)
    rw [← (List.map_congr_left hself).trans (List.map_id piece)]
    exact h.map oneSigma

/-- Occurrences in the lower-case form are those in the small letters. -/
theorem occursIn_lower_iff {piece text : String}
    (hpiece : 'σ' ∉ piece.toList ∧ 'ς' ∉ piece.toList) :
    occursIn piece (lower text) = true ↔ piece.toList <:+: smallLetters text.toList := by
  rw [occursIn_iff, lower, String.toList_ofList, ← map_oneSigma_lowerFrom [],
    infix_map_oneSigma_iff hpiece]

end MetricTables.Text
