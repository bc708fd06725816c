import Mathlib
import MetricTables.Proofs.Text.Occurrence
import MetricTables.Template.Reader

/-!
# Printed templates

Reading undoes printing. A list of parts that is printed is read again as it was, if texts hold no
two opening braces, stand apart, and do not run into the braces of a placeholder; and every text
that is a template is read as such a list. So a template may be printed and read again at any time.

## Main definitions

* `Template.Part.MayPrecede` — which parts may be neighbours.
* `Template.IsNormal` — the lists of parts that texts are read as.

## Main statements

* `cut_pair`, `of_cut_pair` — where a text is cut at a doubled character.
* `exists_inner` — what stands between the braces of a printed placeholder is read as it.
* `parseParts_append_printParts`, `isNormal_parseParts` — the two halves of `parse_printParts`.
-/

namespace MetricTables

namespace Text

/-! ## Cuts at doubled characters -/

section Pair

variable {c : Char} {cs before after : List Char}

/-- A text is cut at a doubled character that stands behind a text without one, unless the
character ends that text. -/
theorem cut_pair (hpair : ¬ [c, c] <:+: before) (hlast : before.getLast? ≠ some c) :
    cut [c, c] (before ++ c :: c :: after) = some (before, after) := by
  induction before with
  | nil => simp [cut]
  | cons x xs ih =>
    have hnot : ¬ [c, c] <+: x :: (xs ++ c :: c :: after) := by
      intro hstart
      obtain ⟨hx, hstart⟩ := List.cons_prefix_cons.1 hstart
      cases xs with
      | nil => exact hlast (by rw [hx]; rfl)
      | cons y ys =>
        obtain ⟨hy, _⟩ := List.cons_prefix_cons.1 hstart
        exact hpair ⟨[], ys, by simp [← hx, ← hy]⟩
    have hrest : cut [c, c] (xs ++ c :: c :: after) = some (xs, after) := by
      refine ih (fun hin => hpair (List.infix_cons hin)) fun hend => hlast ?_
      cases xs with
      | nil => cases hend
      | cons y ys => rwa [List.getLast?_cons_cons]
    rw [List.cons_append, cut, if_neg (by rwa [List.isPrefixOf_iff_prefix]), hrest]
    rfl

/-- In front of the first doubled character there is none, and the character does not stand just
before it. -/
theorem of_cut_pair (h : cut [c, c] cs = some (before, after)) :
    ¬ [c, c] <:+: before ∧ before.getLast? ≠ some c := by
  induction cs generalizing before with
  | nil => cases h
  | cons x xs ih =>
    rw [cut] at h
    split at h
    · cases h
      simp
    next hnot =>
      obtain ⟨⟨b, a⟩, hcut, heq⟩ := Option.map_eq_some_iff.1 h
      cases heq
      obtain ⟨hpair, hlast⟩ := ih hcut
      have hxs : xs = b ++ [c, c] ++ after := eq_append_of_cut hcut
      rw [List.isPrefixOf_iff_prefix] at hnot
      refine ⟨fun hin => ?_, fun hend => ?_⟩
      · rcases List.infix_cons_iff.1 hin with hstart | hin
        · refine hnot (hstart.trans ?_)
          rw [hxs, List.append_assoc, ← List.cons_append]
          exact List.prefix_append _ _
        · exact hpair hin
      · cases b with
        | nil =>
          obtain rfl : x = c := by simpa using hend
          exact hnot (hxs ▸ ⟨x :: after, rfl⟩)
        | cons y ys =>
          rw [List.getLast?_cons_cons] at hend
          exact hlast hend

end Pair

/-! ## Words without blanks -/

section Words

variable {sep : Char} {w : List Char}

theorem trimLeft_of_forall (h : ∀ c ∈ w, isBlank c = false) : trimLeft w = w := by
  cases w with
  | nil => rfl
  | cons c cs => exact List.dropWhile_cons_of_neg (by simp [h c List.mem_cons_self])

/-- Blanks at the ends are taken away, and nothing else. -/
theorem trimChars_spaced (h : ∀ c ∈ w, isBlank c = false) :
    trimChars (' ' :: (w ++ [' '])) = w := by
  have hspace : ∀ cs, trimLeft (' ' :: cs) = trimLeft cs :=
    fun cs => List.dropWhile_cons_of_pos (by decide)
  have hreverse : ∀ c ∈ w.reverse, isBlank c = false := fun c hc => h c (List.mem_reverse.1 hc)
  rw [trimChars, hspace]
  cases w with
  | nil => rfl
  | cons c cs =>
    have hfirst : trimLeft (c :: cs ++ [' ']) = c :: cs ++ [' '] :=
      List.dropWhile_cons_of_neg (by simp [h c List.mem_cons_self])
    rw [hfirst, List.reverse_append, List.reverse_singleton, List.singleton_append, hspace,
      trimLeft_of_forall hreverse, List.reverse_reverse]

theorem trimChars_of_forall (h : ∀ c ∈ w, isBlank c = false) : trimChars w = w := by
  rw [trimChars, trimLeft_of_forall h,
    trimLeft_of_forall fun c hc => h c (List.mem_reverse.1 hc), List.reverse_reverse]

theorem splitOn_of_not_mem (h : sep ∉ w) : splitOn sep w = [w] := by
  induction w with
  | nil => rfl
  | cons c cs ih =>
    simp only [List.mem_cons, not_or] at h
    rw [splitOn, if_neg (Ne.symm h.1), ih h.2]

theorem splitOn_append (h : sep ∉ w) (rest : List Char) :
    splitOn sep (w ++ sep :: rest) = w :: splitOn sep rest := by
  induction w with
  | nil => rw [List.nil_append, splitOn, if_pos rfl]
  | cons c cs ih =>
    simp only [List.mem_cons, not_or] at h
    rw [List.cons_append, splitOn, if_neg (Ne.symm h.1), ih h.2]

end Words

/-- Words that are joined with points are found again. -/
theorem splitOn_join {ws : List String} (hws : ∀ w ∈ ws, '.' ∉ w.toList) (hne : ws ≠ []) :
    splitOn '.' (join "." ws).toList = ws.map String.toList := by
  induction ws with
  | nil => exact absurd rfl hne
  | cons w ws ih =>
    have hw := hws w List.mem_cons_self
    cases ws with
    | nil => simpa [join] using splitOn_of_not_mem hw
    | cons v vs =>
      have hlist : (join "." (w :: v :: vs)).toList =
          w.toList ++ '.' :: (join "." (v :: vs)).toList := by
        simp [join, String.intercalate_cons_cons]
      rw [hlist, splitOn_append hw, ih (fun u hu => hws u (List.mem_cons_of_mem _ hu)) (by simp)]
      rfl

/-- Nothing stands in joined words that stands neither in them nor between them. -/
theorem forall_mem_join {P : Char → Prop} {sep : String} {ws : List String}
    (hsep : ∀ c ∈ sep.toList, P c) (hws : ∀ w ∈ ws, ∀ c ∈ w.toList, P c) :
    ∀ c ∈ (join sep ws).toList, P c := by
  induction ws with
  | nil => simp [join]
  | cons w ws ih =>
    have hw := hws w List.mem_cons_self
    cases ws with
    | nil => simpa [join] using hw
    | cons v vs =>
      have hrest := ih fun u hu => hws u (List.mem_cons_of_mem _ hu)
      intro c hc
      have hlist : (join sep (w :: v :: vs)).toList =
          w.toList ++ (sep.toList ++ (join sep (v :: vs)).toList) := by
        simp [join, String.intercalate_cons_cons]
      rw [hlist, List.mem_append, List.mem_append] at hc
      rcases hc with hc | hc | hc
      · exact hw c hc
      · exact hsep c hc
      · exact hrest c hc

end Text

namespace Template

/-! ## Normal lists of parts -/

def Part.isText : Part → Bool
  | .text _ => true
  | _ => false

/-- Whether a part may stand in front of another one: a text only in front of a placeholder, with
whose braces it must not run together. -/
def Part.MayPrecede : Part → Part → Prop
  | .text s, q => q.isText = false ∧ s.toList.getLast? ≠ some '\x7b'
  | _, _ => True

/-- The lists of parts that texts are read as. -/
structure IsNormal (ps : List Part) : Prop where
  texts : ∀ s, .text s ∈ ps → s ≠ "" ∧ ¬ opening <:+: s.toList
  neighbours : ps.IsChain Part.MayPrecede
  roles : ∀ v roles f, .columns v roles f ∈ ps → roles.Nodup

section Normal

variable {p q : Part} {ps : List Part} {s : String}

theorem IsNormal.tail (h : IsNormal (p :: ps)) : IsNormal ps where
  texts s hs := h.texts s (List.mem_cons_of_mem _ hs)
  neighbours := h.neighbours.tail
  roles v roles f hp := h.roles v roles f (List.mem_cons_of_mem _ hp)

theorem isNormal_nil : IsNormal [] := ⟨by simp, .nil, by simp⟩

/-- A placeholder may stand in front of anything. -/
theorem IsNormal.cons (hps : IsNormal ps) (hp : p.isText = false)
    (hroles : ∀ v roles f, p = .columns v roles f → roles.Nodup) : IsNormal (p :: ps) where
  texts s hs := by
    rcases List.mem_cons.1 hs with rfl | hs
    · cases hp
    · exact hps.texts s hs
  neighbours := by
    cases ps with
    | nil => exact .singleton p
    | cons q qs =>
      refine .cons_cons ?_ hps.neighbours
      cases p with
      | text s => cases hp
      | table v f => trivial
      | columns v roles f => trivial
  roles v roles f hmem := by
    rcases List.mem_cons.1 hmem with heq | hmem
    · exact hroles v roles f heq.symm
    · exact hps.roles v roles f hmem

/-- The text in front of a normal list, if there is one, is part of a normal list. -/
theorem IsNormal.append_textPart {before : List Char} (hps : IsNormal ps)
    (hpair : ¬ opening <:+: before)
    (hhead : ∀ q ∈ ps.head?, q.isText = false ∧ before.getLast? ≠ some '\x7b') :
    IsNormal (textPart before ++ ps) := by
  unfold textPart
  split
  · exact hps
  next hne =>
    have hne : before ≠ [] := by simpa using hne
    refine ⟨fun s hs => ?_, ?_, fun v roles f hmem => ?_⟩
    · rcases List.mem_cons.1 hs with heq | hs
      · obtain rfl : s = String.ofList before := by simpa using heq
        exact ⟨by simpa using hne, by simpa using hpair⟩
      · exact hps.texts s hs
    · cases ps with
      | nil => exact .singleton _
      | cons q qs => exact .cons_cons (by simpa [Part.MayPrecede] using hhead q rfl) hps.neighbours
    · rcases List.mem_cons.1 hmem with heq | hmem
      · cases heq
      · exact hps.roles v roles f hmem

end Normal

/-! ## Placeholders -/

/-- The variable and the modifiers of a placeholder, as they are printed. -/
def Part.segments : Part → List String
  | .text _ => []
  | .table v f => v.name :: f.modifiers
  | .columns v roles f => v.name :: (roles.map roleModifier ++ [f.modifier])

/-- The characters of the words that placeholders are made of. -/
def IsPlainWord (w : String) : Prop := ∀ c ∈ w.toList, Text.isBlank c = false ∧ c ≠ '.' ∧ c ≠ '\x7d'

instance (w : String) : Decidable (IsPlainWord w) :=
  inferInstanceAs (Decidable (∀ c ∈ w.toList, Text.isBlank c = false ∧ c ≠ '.' ∧ c ≠ '\x7d'))

theorem isPlainWord_of_mem_segments {p : Part} {w : String} (h : w ∈ p.segments) :
    IsPlainWord w := by
  cases p with
  | text s => cases h
  | table v f =>
    have hmodifiers : ∀ m ∈ f.modifiers, IsPlainWord m := by
      cases f <;> simp [IsPlainWord, Text.isBlank, TableFormat.modifiers]
    rcases List.mem_cons.1 h with rfl | h
    · cases v <;> simp [IsPlainWord, Text.isBlank, TableVariable.name]
    · exact hmodifiers w h
  | columns v roles f =>
    rcases List.mem_cons.1 h with rfl | h
    · cases v <;> simp [IsPlainWord, Text.isBlank, ColumnsVariable.name]
    · rcases List.mem_append.1 h with h | h
      · obtain ⟨role, _, rfl⟩ := List.mem_map.1 h
        cases role <;> simp [IsPlainWord, Text.isBlank, roleModifier]
      · rw [List.mem_singleton.1 h]
        cases f <;> simp [IsPlainWord, Text.isBlank, ColumnFormat.modifier]

/-- Role filters are read as the roles, each once, and the format behind them. -/
theorem parseModifiers_print (v : ColumnsVariable) (f : ColumnFormat) (done : List Role)
    {roles : List Role} (h : (done ++ roles).Nodup) :
    parseModifiers v done none (roles.map roleModifier ++ [f.modifier]) =
      .ok (.columns v (done ++ roles) f) := by
  induction roles generalizing done with
  | nil => cases f <;> simp [parseModifiers, ColumnFormat.modifier, columnFormat?]
  | cons role roles ih =>
    have hnew : role ∉ done := fun hmem =>
      (List.nodup_append.1 h).2.2 role hmem role List.mem_cons_self rfl
    have hformat : columnFormat? (roleModifier role) = none := by cases role <;> rfl
    have hrole : role? (roleModifier role) = some role := by cases role <;> rfl
    have hdone : done ++ role :: roles = done ++ [role] ++ roles := by simp
    rw [hdone] at h ⊢
    rw [List.map_cons, List.cons_append, parseModifiers, hformat, hrole]
    simpa [hnew] using ih _ h

/-- A placeholder is read off its segments. -/
theorem parsePlaceholder_of_segments {inner : List Char} {p : Part} (hp : p.isText = false)
    (hroles : ∀ v roles f, p = .columns v roles f → roles.Nodup)
    (h : ((Text.splitOn '.' (Text.trimChars inner)).map fun s => String.ofList (Text.trimChars s)) =
      p.segments) : parsePlaceholder inner = .ok p := by
  unfold parsePlaceholder
  rw [h]
  cases p with
  | text s => cases hp
  | table v f => cases v <;> cases f <;> rfl
  | columns v roles f =>
    have hread := parseModifiers_print v f [] (hroles v roles f rfl)
    cases v <;> exact hread

/-- What stands between the braces of a printed placeholder is read as the placeholder. -/
theorem exists_inner {p : Part} (hp : p.isText = false)
    (hroles : ∀ v roles f, p = .columns v roles f → roles.Nodup) :
    ∃ inner, p.print.toList = opening ++ (inner ++ closing) ∧ '\x7d' ∉ inner ∧
      parsePlaceholder inner = .ok p := by
  have hprint : p.print = placeholder p.segments := by
    cases p with
    | text s => cases hp
    | table v f => rfl
    | columns v roles f => rfl
  have hne : p.segments ≠ [] := by
    cases p with
    | text s => cases hp
    | table v f => exact List.cons_ne_nil _ _
    | columns v roles f => exact List.cons_ne_nil _ _
  have hwords := fun w (hw : w ∈ p.segments) => isPlainWord_of_mem_segments hw
  let joined := (Text.join "." p.segments).toList
  have hblank : ∀ c ∈ joined, Text.isBlank c = false :=
    Text.forall_mem_join (by simp [Text.isBlank]) fun w hw c hc => (hwords w hw c hc).1
  have hbrace : ∀ c ∈ joined, c ≠ '\x7d' :=
    Text.forall_mem_join (by simp) fun w hw c hc => (hwords w hw c hc).2.2
  refine ⟨' ' :: (joined ++ [' ']), ?_, ?_, parsePlaceholder_of_segments hp hroles ?_⟩
  · simp [hprint, placeholder, opening, closing, joined]
  · simpa using fun hmem => hbrace _ hmem rfl
  · rw [Text.trimChars_spaced hblank,
      Text.splitOn_join (fun w hw hpoint => (hwords w hw _ hpoint).2.1 rfl) hne, List.map_map]
    refine (List.map_congr_left fun w hw => ?_).trans (List.map_id _)
    rw [Function.comp_apply, Text.trimChars_of_forall fun c hc => (hwords w hw c hc).1,
      String.ofList_toList]
    rfl

/-! ## Printing and reading -/

/-- A text with a placeholder behind it is read in front of what follows. -/
theorem parseParts_append {before inner rest : List Char} {p : Part} {ps : List Part}
    (hpair : ¬ opening <:+: before) (hlast : before.getLast? ≠ some '\x7b')
    (hinner : '\x7d' ∉ inner) (hp : parsePlaceholder inner = .ok p)
    (hrest : parseParts rest = .ok ps) :
    parseParts (before ++ (opening ++ (inner ++ closing) ++ rest)) =
      .ok (textPart before ++ p :: ps) := by
  have hopen : Text.cut opening (before ++ (opening ++ (inner ++ closing) ++ rest)) =
      some (before, inner ++ closing ++ rest) := by
    exact Text.cut_pair hpair hlast
  have hclose : Text.cut closing (inner ++ closing ++ rest) = some (inner, rest) := by
    have hpair : ¬ ['\x7d', '\x7d'] <:+: inner :=
      fun hin => hinner (hin.subset List.mem_cons_self)
    have hlast : inner.getLast? ≠ some '\x7d' := fun hend => hinner (List.mem_of_getLast? hend)
    rw [List.append_assoc]
    exact Text.cut_pair hpair hlast
  rw [parseParts]
  split
  next hnone => cases hopen.symm.trans hnone
  next b a hsome =>
    cases hopen.symm.trans hsome
    split
    next hnone => cases hclose.symm.trans hnone
    next i r hsome' =>
      cases hclose.symm.trans hsome'
      rw [hp, hrest]
      rfl

/-- A text without two opening braces is read as it is. -/
theorem parseParts_text {cs : List Char} (h : ¬ opening <:+: cs) :
    parseParts cs = .ok (textPart cs) := by
  rw [parseParts]
  split
  · rfl
  next b a hsome =>
    exact absurd (Text.isSome_cut_iff.1 (Option.isSome_iff_exists.2 ⟨_, hsome⟩)) h

/-- Printed parts are read behind a text that is no part of them, and that may be empty. -/
theorem parseParts_append_printParts {ps : List Part} (h : IsNormal ps) (front : List Char)
    (hpair : ¬ opening <:+: front)
    (hhead : ∀ q ∈ ps.head?, front = [] ∨ q.isText = false ∧ front.getLast? ≠ some '\x7b') :
    parseParts (front ++ (printParts ps).toList) = .ok (textPart front ++ ps) := by
  induction ps generalizing front with
  | nil => simpa [printParts] using parseParts_text hpair
  | cons p ps ih =>
    have hprint : (printParts (p :: ps)).toList = p.print.toList ++ (printParts ps).toList := by
      simp [printParts]
    rw [hprint]
    cases hp : p.isText with
    | true =>
      obtain ⟨s, rfl⟩ : ∃ s, p = .text s := by
        cases p with
        | text s => exact ⟨s, rfl⟩
        | table v f => cases hp
        | columns v roles f => cases hp
      obtain rfl : front = [] := (hhead _ rfl).resolve_right fun h => by cases h.1
      obtain ⟨hne, hpair⟩ := h.texts s List.mem_cons_self
      have hread := ih h.tail s.toList hpair fun q hq => by
        obtain ⟨qs, rfl⟩ : ∃ qs, ps = q :: qs := List.head?_eq_some_iff.1 hq
        exact .inr (List.isChain_cons_cons.1 h.neighbours).1
      have hs : s.toList.isEmpty = false := by simpa using hne
      simpa [textPart, hs, Part.print] using hread
    | false =>
      have hroles : ∀ v roles f, p = .columns v roles f → roles.Nodup :=
        fun v roles f hp => h.roles v roles f (hp ▸ List.mem_cons_self)
      have hlast : front.getLast? ≠ some '\x7b' := by
        rcases hhead p rfl with rfl | hfront
        · simp
        · exact hfront.2
      obtain ⟨inner, hinner, hclose, hread⟩ := exists_inner hp hroles
      have hrest := ih h.tail [] (by simp [opening]) fun _ _ => .inl rfl
      rw [hinner]
      exact parseParts_append hpair hlast hclose hread hrest

/-- Roles that are read are counted once. -/
theorem nodup_parseModifiers {v : ColumnsVariable} {roles : List Role}
    {format : Option ColumnFormat}
    {modifiers : List String} {p : Part} (hroles : roles.Nodup)
    (h : parseModifiers v roles format modifiers = .ok p) :
    ∃ roles f, p = .columns v roles f ∧ roles.Nodup := by
  induction modifiers generalizing roles format with
  | nil =>
    cases h
    exact ⟨roles, _, rfl, hroles⟩
  | cons m ms ih =>
    rw [parseModifiers] at h
    split at h
    · split at h
      · cases h
      · exact ih hroles h
    · split at h
      · split at h
        · cases h
        · refine ih ?_ h
          split
          · exact hroles
          next hnew =>
            refine List.nodup_append.2 ⟨hroles, List.nodup_singleton _, fun a ha b hb hab => ?_⟩
            obtain rfl := List.mem_singleton.1 hb
            exact absurd (hab ▸ ha) (by simpa using hnew)
      · cases h

/-- A placeholder is read as a part that is no text and counts roles once. -/
theorem parsePlaceholder_cases {inner : List Char} {p : Part} (h : parsePlaceholder inner = .ok p) :
    p.isText = false ∧ ∀ v roles f, p = .columns v roles f → roles.Nodup := by
  unfold parsePlaceholder at h
  dsimp only at h
  split at h
  · unfold parseTable at h
    split at h
    all_goals cases h
    all_goals exact ⟨rfl, by simp⟩
  · obtain ⟨roles, f, rfl, hroles⟩ := nodup_parseModifiers List.nodup_nil h
    refine ⟨rfl, fun v' roles' f' heq => ?_⟩
    cases heq
    exact hroles
  · split at h <;> cases h

/-- Texts are read as normal lists only. -/
theorem isNormal_parseParts {cs : List Char} {ps : List Part} (h : parseParts cs = .ok ps) :
    IsNormal ps := by
  induction hn : cs.length using Nat.strong_induction_on generalizing cs ps with
  | _ n ih =>
    rw [parseParts] at h
    split at h
    next hnone =>
      cases h
      have hpair : ¬ opening <:+: cs := by simp [← Text.isSome_cut_iff, hnone]
      simpa using isNormal_nil.append_textPart hpair (by simp)
    next before after hopen =>
      split at h
      · cases h
      next inner rest hclose =>
        cases hp : parsePlaceholder inner with
        | error e => simp [hp, bind, Except.bind] at h
        | ok p =>
          cases hps : parseParts rest with
          | error e => simp [hp, hps, bind, Except.bind] at h
          | ok parts =>
            have hparts : ps = textPart before ++ p :: parts := by
              simpa [hp, hps, bind, Except.bind, pure, Except.pure] using h.symm
            have hshorter : rest.length < n := by
              have h₁ := Text.length_of_cut hopen
              have h₂ := Text.length_of_cut hclose
              simp only [opening, List.length_cons] at h₁
              omega
            obtain ⟨htext, hroles⟩ := parsePlaceholder_cases hp
            obtain ⟨hpair, hlast⟩ := Text.of_cut_pair hopen
            rw [hparts]
            refine ((ih _ hshorter hps rfl).cons htext hroles).append_textPart hpair fun q hq => ?_
            cases hq
            exact ⟨htext, hlast⟩

/-- Reading undoes printing: every normal list of parts is read from its printed form, and every
template has a normal list of parts, so that what is printed of it is read as the same parts and
rendered alike in every context. -/
theorem parse_printParts :
    (∀ ps, IsNormal ps → parse (printParts ps) = .ok ⟨printParts ps, ps⟩) ∧
    ∀ source t, parse source = .ok t → IsNormal t.parts ∧
      ∃ t', parse (printParts t.parts) = .ok t' ∧ t'.parts = t.parts ∧
        ∀ c, t'.render c = t.render c := by
  have hread : ∀ ps, IsNormal ps → parse (printParts ps) = .ok ⟨printParts ps, ps⟩ := by
    intro ps hps
    have hparts := parseParts_append_printParts hps [] (by simp [opening])
      fun _ _ => .inl rfl
    rw [parse, ← List.nil_append (printParts ps).toList, hparts]
    rfl
  refine ⟨hread, fun source t h => ?_⟩
  obtain ⟨ps, hps, rfl⟩ : ∃ ps, parseParts source.toList = .ok ps ∧ t = ⟨source, ps⟩ := by
    unfold parse at h
    cases hps : parseParts source.toList with
    | error e => simp [hps, Except.map] at h
    | ok ps => exact ⟨ps, rfl, by simpa [hps, Except.map] using h.symm⟩
  have hnormal := isNormal_parseParts hps
  exact ⟨hnormal, _, hread ps hnormal, rfl, fun _ => rfl⟩

/-- A template with single braces, blanks around the segments and a filter that is given twice. -/
def strayBraces : Template where
  source :=
    "\x7d\x7b \x7b\x7btag_table.raw\x7d\x7d\x7b\x7b columns.tags.fields.tags.names \x7d\x7d\x7d\x7b"
  parts := [.text "\x7d\x7b ", .table .tagTable .raw,
    .columns .columns [.tag, .field] .names, .text "\x7d\x7b"]

theorem parse_printParts_strayBraces :
    parse (printParts strayBraces.parts) = .ok ⟨printParts strayBraces.parts, strayBraces.parts⟩ ∧
    IsNormal strayBraces.parts ∧
    ∃ t, parse (printParts strayBraces.parts) = .ok t ∧ t.parts = strayBraces.parts ∧
      ∀ c, t.render c = strayBraces.render c := by
  have hnormal : IsNormal strayBraces.parts := by
    refine ⟨fun s hs => ?_, ?_, fun v roles f hp => ?_⟩
    · have hs : s = "\x7d\x7b " ∨ s = "\x7d\x7b" := by simpa [strayBraces] using hs
      rcases hs with rfl | rfl <;> simp [opening, List.infix_cons_iff]
    · simp [strayBraces, Part.MayPrecede, Part.isText]
    · have hp : v = .columns ∧ roles = [.tag, .field] ∧ f = .names := by
        simpa [strayBraces] using hp
      rw [hp.2.1]
      decide
  have hparse : parse strayBraces.source = .ok strayBraces := by cbv
  exact ⟨parse_printParts.1 _ hnormal, parse_printParts.2 _ _ hparse⟩

end Template

end MetricTables
