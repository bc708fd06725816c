import MetricTables.Sql.Lexer

/-!
# Tokens of written pieces

What the lexer takes from the front of a text that begins with a blank, a plain word, a
quoted name or punctuation. A quoted name is taken whole, whatever characters it has; a
plain word needs a character behind it that ends it.

## Main statements

* `tokens?_quote` — a quoted name is one token, and the name is the name that was quoted.
* `tokens?_word` — a plain word is one token.
-/

namespace MetricTables.Sql.Lexer

/-! ## Single pieces -/

@[simp] theorem tokens?_nil : tokens? [] = some [] := by rw [tokens?]

@[simp] theorem tokens?_space (rest : List Char) : tokens? (' ' :: rest) = tokens? rest := by
  have h : step ' ' rest = some (none, rest) := by
    have hb : isBlank ' ' = true := by decide
    simp [step, hb]
  rw [tokens?_cons h (Nat.le_refl _)]
  cases tokens? rest <;> rfl

/-- Punctuation that is a token whatever stands behind it. -/
def isLonePunctuation (c : Char) : Bool := c == '(' || c == ')' || c == ','

theorem tokens?_punctuation {c : Char} (hc : isLonePunctuation c = true) (rest : List Char) :
    tokens? (c :: rest) = (tokens? rest).map (.symbol c.toString :: ·) := by
  have h : step c rest = some (some (.symbol c.toString), rest) := by
    simp only [isLonePunctuation, Bool.or_eq_true, beq_iff_eq] at hc
    rcases hc with (rfl | rfl) | rfl <;> rfl
  rw [tokens?_cons h (Nat.le_refl _)]
  rfl

/-- A point is punctuation unless it begins a number. -/
theorem tokens?_point {rest : List Char} (h : rest.head?.any Char.isDigit = false) :
    tokens? ('.' :: rest) = (tokens? rest).map (.symbol "." :: ·) := by
  have hs : step '.' rest = some (some (.symbol "."), rest) := by
    have hb : isBlank '.' = false := by decide
    have hw : isWordStart '.' = false := by decide
    have ho : isOperator '.' = false := by decide
    have hd : Char.isDigit '.' = false := by decide
    simp [step, hb, hw, ho, hd, h]
  rw [tokens?_cons hs (Nat.le_refl _)]
  rfl

/-! ## Quoted names -/

/-- A quoted name is one token, whatever characters it has, unless one more quote follows. -/
theorem tokens?_quote (name : String) {rest : List Char} (h : rest.head? ≠ some '"') :
    tokens? ((Identifier.quote name).toList ++ rest) =
      (tokens? rest).map (.quoted name :: ·) := by
  have hlist : (Identifier.quote name).toList ++ rest =
      '"' :: (Identifier.escape name.toList ++ '"' :: rest) := by
    simp [Identifier.quote]
  have hread := Identifier.unescape_escape name.toList rest h
  have hs : step '"' (Identifier.escape name.toList ++ '"' :: rest) =
      some (some (.quoted name), rest) := by
    have hb : isBlank '"' = false := by decide
    simp [step, hb, hread]
  rw [hlist, tokens?_cons hs]
  · rfl
  · simp only [List.length_append, List.length_cons]
    omega

/-! ## Plain words -/

/-- A word of letters, digits and underscores that begins with none of the latter. -/
def isPlain : List Char → Bool
  | [] => false
  | c :: cs => c.isAlpha && cs.all fun d => d.isAlphanum || d == '_'

/-- Whether a word ends in front of the text. -/
def Stops (rest : List Char) : Prop := ∀ c ∈ rest.head?, c = ' ' ∨ c = ',' ∨ c = ')'

@[simp] theorem stops_nil : Stops [] := by simp [Stops]

@[simp] theorem stops_cons {c : Char} {rest : List Char} :
    Stops (c :: rest) ↔ c = ' ' ∨ c = ',' ∨ c = ')' := by simp [Stops]

theorem isWordPart_of_isAlphanum {c : Char} (h : (c.isAlphanum || c == '_') = true) :
    isWordPart c = true := by
  simp only [Char.isAlphanum, Bool.or_eq_true, beq_iff_eq] at h
  rcases h with (h | h) | h <;> simp [isWordPart, isWordStart, h]

theorem isWordPart_ne_quote {c : Char} (h : isWordPart c = true) : c ≠ '\'' ∧ c ≠ '&' := by
  refine ⟨?_, ?_⟩ <;> rintro rfl <;> revert h <;> decide

/-- A word that no quote follows is what its characters say. -/
theorem word_eq {c : Char} {r : List Char} (h : r.head? ≠ some '\'' ∧ r.head? ≠ some '&') :
    word (c :: r) =
      some (.word (String.ofList ((c :: r).takeWhile isWordPart)),
        (c :: r).dropWhile isWordPart) := by
  match r, h with
  | [], _ => rfl
  | [d], h =>
    unfold word
    split <;> simp_all
  | d :: e :: r, h =>
    unfold word
    split <;> simp_all

theorem step_of_isAlpha {c : Char} (h : c.isAlpha = true) (r : List Char) :
    step c r = (word (c :: r)).map fun (t, rest) => (some t, rest) := by
  have hstart : isWordStart c = true := by simp [isWordStart, h]
  have hb : isBlank c = false := by
    cases hb : isBlank c with
    | false => rfl
    | true =>
      simp only [isBlank, Bool.or_eq_true, Char.isWhitespace, beq_iff_eq, decide_eq_true_eq] at hb
      rcases hb with ((((rfl | rfl) | rfl) | rfl) | rfl) | rfl <;> revert h <;> decide
  have hq : c ≠ '"' := by rintro rfl; revert h; decide
  have hs : c ≠ '\'' := by rintro rfl; revert h; decide
  simp [step, hb, hq, hs, hstart]

/-- A plain word is one token if what follows ends it. -/
theorem tokens?_word {w : String} (hw : isPlain w.toList = true) {rest : List Char}
    (hr : Stops rest) :
    tokens? (w.toList ++ rest) = (tokens? rest).map (.word w :: ·) := by
  obtain ⟨c, cs, hlist⟩ : ∃ c cs, w.toList = c :: cs := by
    cases h : w.toList with
    | nil => simp [h, isPlain] at hw
    | cons c cs => exact ⟨c, cs, rfl⟩
  rw [hlist, isPlain, Bool.and_eq_true, List.all_eq_true] at hw
  obtain ⟨hc, hcs⟩ := hw
  have hparts : ∀ d ∈ c :: cs, isWordPart d = true := by
    intro d hd
    rcases List.mem_cons.1 hd with rfl | hd
    · exact isWordPart_of_isAlphanum (by simp [Char.isAlphanum, hc])
    · exact isWordPart_of_isAlphanum (hcs d hd)
  have hend : ∀ d ∈ rest.head?, isWordPart d = false ∧ d ≠ '\'' ∧ d ≠ '&' := by
    intro d hd
    rcases hr d hd with rfl | rfl | rfl <;> decide
  have hnext : (cs ++ rest).head? ≠ some '\'' ∧ (cs ++ rest).head? ≠ some '&' := by
    cases cs with
    | nil =>
      refine ⟨fun h => ?_, fun h => ?_⟩
      · exact (hend _ h).2.1 rfl
      · exact (hend _ h).2.2 rfl
    | cons d ds =>
      have := isWordPart_ne_quote (hparts d (by simp))
      simpa using this
  have htake : rest.takeWhile isWordPart = [] ∧ rest.dropWhile isWordPart = rest := by
    cases rest with
    | nil => simp
    | cons d ds => simp [(hend d (by simp)).1]
  have hs : step c (cs ++ rest) = some (some (.word w), rest) := by
    rw [step_of_isAlpha hc, word_eq hnext, ← List.cons_append, List.takeWhile_append_of_pos hparts,
      List.dropWhile_append_of_pos hparts, htake.1, htake.2, List.append_nil, ← hlist]
    simp
  rw [hlist, List.cons_append, tokens?_cons hs (by simp)]
  rfl

end MetricTables.Sql.Lexer
