import Mathlib
import MetricTables.SqlType

/-!
# Spellings of declared types

A store may spell a type in many ways. What counts are the words outside of parentheses, so
letters of the other case, other blanks between the words or around them, and lengths in
parentheses make no other type of it, and a type that was read is read again from its own spelling.

Parentheses need not come in pairs. A text with too many of them has a depth at its end, and what
stands behind it is read at that depth; that is why a piece is followed here together with what
it leaves open.

## Main definitions

* `SqlType.depthAfter` — how many parentheses a text leaves open.
* `SqlType.Balanced` — a text whose parentheses come in pairs.
* `SqlType.Respelled` — one change of a spelling.

## Main statements

* `Text.words_between` — blanks between two texts part their words.
* `SqlType.outside_append` — a text is read piece by piece.
* `SqlType.parse_respelled` — a type does not change with its spelling.
-/

namespace MetricTables

/-! ## Words between blanks -/

namespace Text

variable {s t u : List Char} {c : Char}

theorem words_cons_of_isBlank (hc : isBlank c = true) (cs : List Char) :
    words (c :: cs) = words cs := by
  simp [words, hc]

/-- A character before a word belongs to it. -/
theorem words_cons_cons {a b : Char} {cs w : List Char} {ws : List (List Char)}
    (ha : isBlank a = false) (hb : isBlank b = false) (h : words (b :: cs) = w :: ws) :
    words (a :: b :: cs) = (a :: w) :: ws := by
  rw [words.eq_def]
  simp [ha, hb, h]

theorem words_cons_ne_nil (hc : isBlank c = false) (cs : List Char) : words (c :: cs) ≠ [] := by
  rw [words.eq_def]
  simp only [hc, Bool.false_eq_true, if_false]
  split
  · simp
  · split
    · simp
    · split <;> simp

/-- A blank ends the word before it. -/
theorem words_append_cons (hc : isBlank c = true) (s t : List Char) :
    words (s ++ c :: t) = words s ++ words t := by
  induction s with
  | nil => simp [words, hc]
  | cons a s ih =>
    by_cases ha : isBlank a = true
    · rw [List.cons_append, words_cons_of_isBlank ha, words_cons_of_isBlank ha, ih]
    · cases s with
      | nil => simp [words, ha, hc]
      | cons b s =>
        by_cases hb : isBlank b = true
        · simp_all [words]
        · -- The word that `a` begins goes on, so `a` joins the first word of the rest.
          simp only [Bool.not_eq_true] at ha hb
          obtain ⟨w, ws, hws⟩ := List.exists_cons_of_ne_nil (words_cons_ne_nil hb s)
          have hrest : words (b :: (s ++ c :: t)) = w :: (ws ++ words t) := by
            rw [← List.cons_append, ih, hws, List.cons_append]
          rw [words_cons_cons ha hb hws]
          exact words_cons_cons ha hb hrest

theorem words_blanks_append (hu : ∀ c ∈ u, isBlank c = true) (t : List Char) :
    words (u ++ t) = words t := by
  induction u with
  | nil => rfl
  | cons c u ih =>
    rw [List.cons_append, words_cons_of_isBlank (hu c List.mem_cons_self)]
    exact ih fun d hd => hu d (List.mem_cons_of_mem _ hd)

/-- Blanks between two texts part their words. -/
theorem words_between (hu : ∀ c ∈ u, isBlank c = true) (hne : u ≠ []) (s t : List Char) :
    words (s ++ u ++ t) = words s ++ words t := by
  obtain ⟨c, u, rfl⟩ := List.exists_cons_of_ne_nil hne
  have hblanks : ∀ d ∈ u, isBlank d = true := fun d hd => hu d (List.mem_cons_of_mem _ hd)
  rw [List.append_assoc, List.cons_append, words_append_cons (hu c List.mem_cons_self),
    words_blanks_append hblanks]

theorem words_append_blanks (hu : ∀ c ∈ u, isBlank c = true) (s : List Char) :
    words (s ++ u) = words s := by
  by_cases hne : u = []
  · simp [hne]
  · simpa [words] using words_between hu hne s []

/-! ## Blanks at the ends -/

theorem trimChars_eq (s : List Char) :
    trimChars s = (s.dropWhile isBlank).rdropWhile isBlank := rfl

/-- Trimming takes blanks away and nothing else. -/
theorem exists_blanks (s : List Char) : ∃ u v, (∀ c ∈ u, isBlank c = true) ∧
    (∀ c ∈ v, isBlank c = true) ∧ s = u ++ trimChars s ++ v := by
  refine ⟨s.takeWhile isBlank, (s.dropWhile isBlank).rtakeWhile isBlank,
    fun c hc => List.mem_takeWhile_imp hc, fun c hc => List.mem_rtakeWhile_imp hc, ?_⟩
  rw [trimChars_eq, List.append_assoc, List.rdropWhile_append_rtakeWhile]
  simp

/-- What is trimmed has no blank at its ends. -/
theorem trimChars_trimChars (s : List Char) : trimChars (trimChars s) = trimChars s := by
  have hhead := List.dropWhile_eq_self_iff.1 (List.dropWhile_idempotent isBlank s)
  have hbegins : trimChars s <+: s.dropWhile isBlank := List.rdropWhile_prefix isBlank _
  have hfirst : (trimChars s).dropWhile isBlank = trimChars s := by
    rw [List.dropWhile_eq_self_iff]
    intro hpos
    rw [hbegins.getElem hpos]
    exact hhead (by have := hbegins.length_le; omega)
  rw [trimChars_eq (trimChars s), hfirst, trimChars_eq, List.rdropWhile_idempotent]

theorem trim_trim (s : String) : trim (trim s) = trim s := by
  simp [trim, trimChars_trimChars]

end Text

namespace SqlType

/-! ## What stands outside of parentheses -/

/-- How many parentheses are open behind a text. -/
def depthAfter (depth : Nat) : List Char → Nat
  | [] => depth
  | c :: cs =>
    if c = '(' then depthAfter (depth + 1) cs
    else if c = ')' then depthAfter (depth - 1) cs
    else depthAfter depth cs

/-- A text is read piece by piece. -/
theorem outside_append (d : Nat) (s t : List Char) :
    outside d (s ++ t) = outside d s ++ outside (depthAfter d s) t := by
  induction s generalizing d with
  | nil => rfl
  | cons c s ih =>
    rw [List.cons_append, outside, outside, depthAfter]
    split
    · exact ih (d + 1)
    · split
      · exact ih (d - 1)
      · split
        next hd => simp [ih, hd]
        · exact ih d

/-- Only letters have another case. -/
theorem toLower_eq_iff {p : Char} (hp : p.isAlpha = false) (c : Char) : c.toLower = p ↔ c = p := by
  constructor
  · intro h
    have hc : c.isAlpha = false := by rw [← Char.isAlpha_toLower_eq_isAlpha, h, hp]
    have hupper : ¬ c.isUpper = true := by
      intro hupper
      simp [Char.isAlpha, hupper] at hc
    rw [← h, Char.toLower_eq_of_not_isUpper hupper]
  · rintro rfl
    apply Char.toLower_eq_of_not_isUpper
    intro hupper
    simp [Char.isAlpha, hupper] at hp

/-- Letters count in lower case only. -/
theorem outside_map_toLower (d : Nat) (s : List Char) :
    outside d (s.map Char.toLower) = outside d s := by
  have hopen := toLower_eq_iff (p := '(') (by decide)
  have hclose := toLower_eq_iff (p := ')') (by decide)
  induction s generalizing d with
  | nil => rfl
  | cons c s ih => simp [outside, hopen, hclose, ih]

/-- A blank is no letter. -/
theorem isAlpha_of_isBlank {c : Char} (hc : Text.isBlank c = true) : c.isAlpha = false := by
  simp only [Text.isBlank, decide_eq_true_eq] at hc
  simp only [Char.isAlpha, Char.isUpper, Char.isLower, UInt32.le_iff_toNat_le, Char.toNat_val,
    Bool.or_eq_false_iff, decide_eq_false_iff_not]
  simp
  omega

/-- Blanks stay where they are outside of parentheses, and are lost inside. -/
theorem outside_blanks {u : List Char} (hu : ∀ c ∈ u, Text.isBlank c = true) (d : Nat) :
    outside d u = (if d = 0 then u else []) ∧ depthAfter d u = d := by
  induction u with
  | nil => simp [outside, depthAfter]
  | cons c u ih =>
    obtain ⟨houtside, hdepth⟩ := ih fun b hb => hu b (List.mem_cons_of_mem _ hb)
    have hc := hu c List.mem_cons_self
    have hopen : c ≠ '(' := by rintro rfl; simp [Text.isBlank] at hc
    have hclose : c ≠ ')' := by rintro rfl; simp [Text.isBlank] at hc
    have hlower : c.toLower = c := (toLower_eq_iff (isAlpha_of_isBlank hc) c).2 rfl
    rw [outside, depthAfter]
    simp only [hopen, hclose, hlower, if_false, hdepth]
    split <;> simp_all

/-- Blanks between two texts stay if no parenthesis is open there. -/
theorem outside_between {u : List Char} (hu : ∀ c ∈ u, Text.isBlank c = true) (d : Nat)
    (s t : List Char) : outside d (s ++ u ++ t) =
      outside d s ++ (if depthAfter d s = 0 then u else []) ++ outside (depthAfter d s) t := by
  obtain ⟨houtside, hdepth⟩ := outside_blanks hu (depthAfter d s)
  rw [List.append_assoc, outside_append, outside_append, houtside, hdepth, List.append_assoc]

/-! ## Changes that do not count -/

/-- A text whose parentheses come in pairs. -/
inductive Balanced : List Char → Prop
  | nil : Balanced []
  | plain {c : Char} {s : List Char} (hopen : c ≠ '(') (hclose : c ≠ ')') (h : Balanced s) :
    Balanced (c :: s)
  | group {g s : List Char} (hg : Balanced g) (h : Balanced s) : Balanced ('(' :: g ++ ')' :: s)

/-- Inside of parentheses a text with parentheses in pairs is passed over. -/
theorem Balanced.outside_append {g : List Char} (h : Balanced g) (d : Nat) (t : List Char) :
    outside (d + 1) (g ++ t) = outside (d + 1) t := by
  induction h generalizing d t with
  | nil => rfl
  | plain hopen hclose _ ih => simp [outside, hopen, hclose, ih]
  | group _ _ ihg ih => simp [outside, ihg, ih]

/-- One change of the spelling of a type. -/
inductive Respelled : List Char → List Char → Prop
  /-- Letters of the other case. -/
  | letters {s t : List Char} (h : s.map Char.toLower = t.map Char.toLower) : Respelled s t
  /-- Other blanks between two parts. -/
  | blanks {u v : List Char} (s t : List Char) (hu : ∀ c ∈ u, Text.isBlank c = true) (hne : u ≠ [])
    (hv : ∀ c ∈ v, Text.isBlank c = true) (hne' : v ≠ []) : Respelled (s ++ u ++ t) (s ++ v ++ t)
  /-- More blanks at the ends. -/
  | ends {u v : List Char} (s : List Char) (hu : ∀ c ∈ u, Text.isBlank c = true)
    (hv : ∀ c ∈ v, Text.isBlank c = true) : Respelled s (u ++ s ++ v)
  /-- A group in parentheses, anywhere. -/
  | group {g : List Char} (s t : List Char) (hg : Balanced g) :
    Respelled (s ++ t) (s ++ '(' :: g ++ ')' :: t)

/-- The words outside of parentheses are the same. -/
theorem Respelled.words_eq {s t : List Char} (h : Respelled s t) :
    Text.words (outside 0 s) = Text.words (outside 0 t) := by
  cases h with
  | letters h => rw [← outside_map_toLower 0 s, ← outside_map_toLower 0 t, h]
  | @blanks u v s t hu hne hv hne' =>
    rw [outside_between hu, outside_between hv]
    split
    · rw [Text.words_between hu hne, Text.words_between hv hne']
    · rfl
  | @ends u v s hu hv =>
    obtain ⟨hu', hdepth⟩ := outside_blanks hu 0
    obtain ⟨hv', _⟩ := outside_blanks hv (depthAfter 0 s)
    rw [List.append_assoc, outside_append, hu', hdepth, if_pos rfl, Text.words_blanks_append hu,
      outside_append, hv']
    split
    · rw [Text.words_append_blanks hv]
    · rw [List.append_nil]
  | @group g s t hg =>
    have hgroup (d : Nat) : outside d ('(' :: g ++ ')' :: t) = outside d t := by
      simp [outside, hg.outside_append]
    rw [List.append_assoc, outside_append, outside_append, hgroup]

/-- Changes of the spelling, one after the other. -/
theorem baseName_eq {s t : String} (h : Relation.ReflTransGen Respelled s.toList t.toList) :
    baseName s = baseName t := by
  have hwords (cs : List Char) (h : Relation.ReflTransGen Respelled s.toList cs) :
      Text.words (outside 0 s.toList) = Text.words (outside 0 cs) := by
    induction h with
    | refl => rfl
    | tail _ hstep ih => rw [ih, hstep.words_eq]
  rw [baseName, baseName, hwords _ h]

/-- Blanks at either end of a declared type do not count. -/
theorem baseName_trim (s : String) : baseName (Text.trim s) = baseName s := by
  obtain ⟨u, v, hu, hv, hs⟩ := Text.exists_blanks s.toList
  have hends : Respelled (Text.trimChars s.toList) s.toList := by
    have := Respelled.ends (Text.trimChars s.toList) hu hv
    rwa [← hs] at this
  apply baseName_eq
  apply Relation.ReflTransGen.single
  simpa [Text.trim] using hends

/-! ## Types that are read -/

/-- Every listed name means its type. -/
theorem parse_name {n : String} {t : SqlType} (h : (n, t) ∈ names) : parse n = t := by
  have hall : ∀ p ∈ names, parse p.1 = p.2 := by decide +kernel
  exact hall (n, t) h

/-- Statements spell types so that they are read back. -/
theorem parse_spelling {t : SqlType} (ht : ∀ s, t ≠ .other s) : parse t.spelling = t := by
  apply parse_name
  cases t with
  | other s => exact absurd rfl (ht s)
  | _ => simp [names, spelling]

/-- A text means a listed type, or it is kept as it is. -/
theorem parse_cases (s : String) :
    (∃ t, names.lookup (baseName s) = some t ∧ parse s = t) ∨
      (names.lookup (baseName s) = none ∧ parse s = .other (Text.trim s)) := by
  unfold parse
  cases h : names.lookup (baseName s) with
  | some t => exact .inl ⟨t, rfl, rfl⟩
  | none => exact .inr ⟨rfl, rfl⟩

/-- No listed name means a type that is not known. -/
theorem not_other_of_lookup {n : String} {t : SqlType} (h : names.lookup n = some t) (u : String) :
    t ≠ .other u := by
  have hall : ∀ p ∈ names, p.2 ≠ .other u := by simp [names]
  obtain ⟨_, _, hnames, _⟩ := List.lookup_eq_some_iff.1 h
  apply hall (n, t)
  simp [hnames]

/-- A type that was read is read again from its own spelling. A type does not change with its
spelling: every spelling of a listed name means the type of the name, and a type that is not known
is not known in any spelling. -/
theorem parse_respelled :
    (∀ s, parse (parse s).spelling = parse s) ∧
      (∀ n t, (n, t) ∈ names → parse n = t) ∧
      ∀ s t : String, Relation.ReflTransGen Respelled s.toList t.toList →
        ((∀ u, parse s ≠ .other u) → parse t = parse s) ∧
          ∀ u, parse s = .other u → parse t = .other (Text.trim t) := by
  refine ⟨fun s => ?_, fun _ _ h => parse_name h, fun s t h => ?_⟩
  · rcases parse_cases s with ⟨t, hlookup, ht⟩ | ⟨hlookup, hs⟩
    · rw [ht]
      exact parse_spelling (not_other_of_lookup hlookup)
    · rw [hs]
      unfold parse
      simp only [spelling, baseName_trim, hlookup, Text.trim_trim]
  · have hname := baseName_eq h
    constructor
    · intro hknown
      rcases parse_cases s with ⟨_, hlookup, hs⟩ | ⟨_, hs⟩
      · rw [hs, parse, ← hname, hlookup]
      · exact absurd hs (hknown _)
    · intro u hu
      rcases parse_cases s with ⟨_, hlookup, hs⟩ | ⟨hlookup, _⟩
      · exact absurd (hs.symm.trans hu) (not_other_of_lookup hlookup u)
      · rw [parse, ← hname, hlookup]

/-- Capitals, a line break, a group in a group, and blanks in front. -/
theorem parse_respelled_doublePrecision :
    parse "  Double (5(x))\n PRECISION" = .doublePrecision ∧
      parse "INET(4)" = .other "INET(4)" := by
  have hcapitals : Respelled "double precision".toList "Double PRECISION".toList :=
    .letters (by decide +kernel)
  have hbreak : Respelled "Double PRECISION".toList "Double \n PRECISION".toList :=
    .blanks "Double".toList "PRECISION".toList (u := [' ']) (v := [' ', '\n', ' '])
      (by simp [Text.isBlank]) (by simp) (by simp [Text.isBlank]) (by simp)
  have hx : Balanced ['x'] := .plain (by decide) (by decide) .nil
  have hpairs : Balanced ['5', '(', 'x', ')'] := .plain (by decide) (by decide) (.group hx .nil)
  have hgroup : Respelled "Double \n PRECISION".toList "Double (5(x))\n PRECISION".toList :=
    .group "Double ".toList "\n PRECISION".toList hpairs
  have hfront : Respelled "Double (5(x))\n PRECISION".toList
      "  Double (5(x))\n PRECISION".toList :=
    .ends "Double (5(x))\n PRECISION".toList (u := [' ', ' ']) (v := [])
      (by simp [Text.isBlank]) (by simp)
  obtain ⟨_, hnames, hrespelled⟩ := parse_respelled
  constructor
  · have hname : parse "double precision" = .doublePrecision := hnames _ _ (by decide)
    rw [← hname]
    apply (hrespelled "double precision" _ _).1
    · simp [hname]
    · exact .tail (.tail (.tail (.single hcapitals) hbreak) hgroup) hfront
  · have hinet : parse "inet" = .other "inet" := by decide +kernel
    have hlength : Respelled "inet".toList "inet(4)".toList :=
      .group "inet".toList [] (.plain (by decide) (by decide) .nil : Balanced ['4'])
    have hcapitals' : Respelled "inet(4)".toList "INET(4)".toList := .letters (by decide +kernel)
    have hread := (hrespelled "inet" "INET(4)" (.tail (.single hlength) hcapitals')).2 "inet" hinet
    rw [hread]
    decide +kernel

end SqlType

end MetricTables
