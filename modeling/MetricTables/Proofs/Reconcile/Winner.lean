import MetricTables.Proofs.Reconcile.Reach

/-!
# Tables of a winner

Another writer made more of a table than a request knows of. What the request adds without
knowing fails on what is there already, one by one, and in the end the tables and the columns
that are missing are those of a request that knows.

## Main definitions

* `IsWinner` — what another writer may make of a table.
* `Request.afterwards` — what a request comes to on the table of another writer.

## Main statements

* `addSteps_absent` — columns that a table has make no difference when they are added.
* `extendSteps_gapOn`, `extendSteps_left` — what is added without knowing comes to the same.
-/

namespace MetricTables

/-! ## What the winner leaves to be done -/

/-- What another writer may make of a table: it keeps the columns of the table, gives no name
twice, and none that is too long. -/
structure IsWinner (o : Options) (stored winner : List StoredColumn) : Prop where
  keeps : stored ⊆ winner
  names : (winner.map StoredColumn.name).Nodup
  fits : ∀ s ∈ winner, Identifier.fits o.identifierMaxBytes s.name = true

namespace IsWinner

variable {o : Options} {stored winner : List StoredColumn} (h : IsWinner o stored winner)
include h

/-- What is known of the table of before is known of the table of the winner. -/
theorem within : (Definition.ofColumns o stored).Within (.ofColumns o winner) := by
  intro name c hfind
  obtain ⟨rfl, s, hs, rfl⟩ := Definition.backed_ofColumns _ _ hfind
  have hnames : ((winner.map (StoredColumn.toColumn o)).map Column.name).Nodup := by
    simpa [Function.comp_def] using h.names
  exact Definition.find?_insertAll_of_mem hnames (List.mem_map_of_mem (h.keeps hs))

theorem fits_of_find? (name : String) (c : Column)
    (hfind : (Definition.ofColumns o winner).find? name = some c) :
    Identifier.fits o.identifierMaxBytes name = true := by
  obtain ⟨rfl, s, hs, rfl⟩ := Definition.backed_ofColumns _ _ hfind
  exact h.fits s hs

theorem isKnown (hstored : stored ≠ []) : (Definition.ofColumns o winner).isKnown = true :=
  Definition.isKnown_ofColumns fun hnil => hstored (List.subset_nil.1 (hnil ▸ h.keeps))

end IsWinner

/-- What is left of a gap once a table turns out to be there. -/
def Definition.left (d : Definition) (g : Gap) : Gap :=
  { addable := d.absent g.addable, missing := g.missing ++ d.conflicts g.addable }

def Request.gapOn (o : Options) (r : Request) (cols : List StoredColumn) : Gap :=
  (Definition.ofColumns o cols).gap o.identifierMaxBytes (Column.sort r.required)

namespace Request

variable {o : Options} {r : Request} {stored winner cols : List StoredColumn} {cs : List Column}
  {c : Column}

theorem gapOn_addable : (r.gapOn o cols).addable = r.gained o cols := Definition.gap_addable_eq

theorem gapOn_subperm :
    ((r.gapOn o cols).missing ++ (r.gapOn o cols).addable).Subperm r.required :=
  Definition.gap_subperm.trans (Column.sort_perm r.required).subperm

section Left

variable (h : IsWinner o stored winner)
include h

/-- What the winner leaves to be added. -/
theorem absent_gapOn :
    (Definition.ofColumns o winner).absent (r.gapOn o stored).addable =
      (r.gapOn o winner).addable := Definition.absent_gap_addable h.within

variable (hnames : (r.required.map Column.name).Nodup)
include hnames

/-- Columns that are missing one way or the other are missing in one order. -/
theorem sort_missing (hcs : cs.Sublist (r.gapOn o winner).addable) {missing : List Column}
    (hmissing : (missing.map Column.name).Nodup)
    (hmem : ∀ c, c ∈ missing ↔ c ∈ (r.gapOn o stored).missing ∨
      c ∈ (Definition.ofColumns o winner).conflicts (r.gapOn o stored).addable ∨ c ∈ cs) :
    Column.sort missing = Column.sort ((r.gapOn o winner).missing ++ cs) :=
  Definition.sort_missing h.within h.fits_of_find? (Column.nodup_sort hnames) hcs hmissing hmem

theorem sort_left (hcs : cs.Sublist (r.gapOn o winner).addable) :
    Column.sort (((Definition.ofColumns o winner).left (r.gapOn o stored)).missing ++ cs) =
      Column.sort ((r.gapOn o winner).missing ++ cs) :=
  Definition.sort_left h.within h.fits_of_find? (Column.nodup_sort hnames) hcs

end Left

/-! ## Columns that are there -/

theorem addSteps_sublist (cs : List Column) (t : Catalog) : (r.addSteps o cs t).1.Sublist cs := by
  induction cs generalizing t with
  | nil => exact .refl _
  | cons c cs ih =>
    rw [addSteps]
    dsimp only
    split
    · exact (ih _).cons c
    · exact (ih _).cons_cons c

theorem extendSteps_sublist (cs : List Column) (t : Catalog) :
    (r.extendSteps o cs t).1.Sublist cs := by
  unfold extendSteps
  split
  · exact .refl _
  · exact addSteps_sublist cs t

section There

variable {t : Catalog} (ht : t.GrownFrom winner (r.place o))
include ht

theorem markStep_grown (hc : c.name ∉ winner.map StoredColumn.name) :
    (r.markStep o c t).2.GrownFrom winner (r.place o) := by
  unfold markStep
  split
  · split
    · exact ht
    next hcomment => exact Catalog.comment_grown ht hc hcomment
  · exact ht

/-- The columns of the writer who came first stay in front. -/
theorem tryStep_grown (hc : c.name ∉ winner.map StoredColumn.name) :
    (r.tryStep o c t).2.GrownFrom winner (r.place o) := by
  have hadded : (r.addStep o c t).2.GrownFrom winner (r.place o) := by
    unfold addStep
    split
    · exact ht
    next hrun => exact markStep_grown (Catalog.run_grown ht hrun) hc
  unfold tryStep
  split
  next hstep =>
    rw [hstep] at hadded
    exact hadded
  next hstep =>
    rw [hstep] at hadded
    exact hadded

/-- What is known of the columns of the winner stays known. -/
theorem find?_ofStored_grown (hc : c.name ∈ winner.map StoredColumn.name) :
    (Definition.ofStored o (t.find? (r.place o))).find? c.name =
      (Definition.ofColumns o winner).find? c.name := by
  obtain ⟨columns, hfind, ⟨new, rfl⟩, hnames⟩ := ht
  rw [hfind, Definition.ofStored_eq, Option.getD_some, Definition.ofColumns_append,
    Definition.find?_insertAll_of_not_mem]
  rw [List.map_append] at hnames
  intro hmem
  rw [List.map_map] at hmem
  exact (List.nodup_append.1 hnames).2.2 _ hc _ hmem rfl

/-- A column of the winner is not added, and is there if it can take the values. -/
theorem tryStep_of_mem (hc : c.name ∈ winner.map StoredColumn.name)
    (hread : Held o winner c → Sql.statements? (r.addition o c) ≠ none) :
    r.tryStep o c t = (((Definition.ofColumns o winner).find? c.name).any
      fun existing => existing.holds c, t) := by
  have hknown := find?_ofStored_grown (o := o) ht hc
  obtain ⟨columns, hfind, ⟨new, rfl⟩, -⟩ := ht
  obtain ⟨e, hrun, hduplicate⟩ : ∃ e, t.run (r.addition o c) = .error e ∧
      (Held o winner c → e.isDuplicateObject = true) := by
    by_cases hnone : Sql.statements? (r.addition o c) = none
    · exact ⟨_, Catalog.run_of_none _ hnone, fun hheld => absurd hnone (hread hheld)⟩
    · have hcolumn : Catalog.hasColumn (winner ++ new) c.name = true := by
        obtain ⟨s, hs, hname⟩ := List.mem_map.1 hc
        exact List.any_eq_true.2 ⟨s, List.mem_append_left _ hs, by simpa using hname⟩
      have htext : r.addition o c = "ALTER TABLE " ++
          Identifier.qualified (r.place o).1 (r.place o).2 ++ " ADD COLUMN " ++
            (Identifier.quote c.name ++ " " ++ c.type.spelling) := rfl
      rw [htext] at hnone ⊢
      exact ⟨_, Catalog.run_addition hfind hcolumn hnone, fun _ => rfl⟩
  have hstep : r.addStep o c t = (.error e, t) := by
    unfold addStep
    rw [hrun]
  unfold tryStep
  rw [hstep]
  dsimp only
  rw [heldAfter, hknown]
  cases hany : ((Definition.ofColumns o winner).find? c.name).any fun existing =>
    existing.holds c with
  | false => rw [Bool.and_false]
  | true =>
    obtain ⟨existing, hexisting, hholds⟩ := (Option.any_eq_true _ _).1 hany
    rw [hduplicate (Definition.backed_ofColumns.held hexisting hholds), Bool.true_and]

/-- The columns of the winner make no difference when columns are added, except that some of them
cannot take the values. -/
theorem addSteps_absent
    (hread : ∀ c ∈ cs, Held o winner c → Sql.statements? (r.addition o c) ≠ none) :
    (r.addSteps o cs t).2 = (r.addSteps o ((Definition.ofColumns o winner).absent cs) t).2 ∧
      ∀ c, c ∈ (r.addSteps o cs t).1 ↔ c ∈ (Definition.ofColumns o winner).conflicts cs ∨
        c ∈ (r.addSteps o ((Definition.ofColumns o winner).absent cs) t).1 := by
  induction cs generalizing t with
  | nil => simp [addSteps, Definition.absent, Definition.conflicts]
  | cons c cs ih =>
    have hrest := fun d hd => hread d (List.mem_cons_of_mem _ hd)
    cases hfind : (Definition.ofColumns o winner).find? c.name with
    | some existing =>
      have hc : c.name ∈ winner.map StoredColumn.name := by
        by_contra hnot
        rw [Definition.find?_ofColumns_eq_none.2 hnot] at hfind
        cases hfind
      obtain ⟨htables, hfailed⟩ := ih ht hrest
      have habsent : (Definition.ofColumns o winner).absent (c :: cs) =
          (Definition.ofColumns o winner).absent cs := by simp [Definition.absent, hfind]
      rw [habsent, addSteps, tryStep_of_mem ht hc (hread c List.mem_cons_self), hfind]
      refine ⟨htables, fun d => ?_⟩
      cases hholds : existing.holds c <;>
        simp [Definition.conflicts, hfind, hholds, hfailed, or_assoc]
    | none =>
      have hc := Definition.find?_ofColumns_eq_none.1 hfind
      have habsent : (Definition.ofColumns o winner).absent (c :: cs) =
          c :: (Definition.ofColumns o winner).absent cs := by simp [Definition.absent, hfind]
      have hconflicts : (Definition.ofColumns o winner).conflicts (c :: cs) =
          (Definition.ofColumns o winner).conflicts cs := by simp [Definition.conflicts, hfind]
      obtain ⟨htables, hfailed⟩ := ih (tryStep_grown ht hc) hrest
      rw [habsent, hconflicts, addSteps, addSteps]
      refine ⟨htables, fun d => ?_⟩
      dsimp only
      split
      · exact hfailed d
      · simp only [List.mem_cons, hfailed, or_left_comm]

end There

/-! ## After the winner -/

variable (o r) in
/-- What a request comes to on a table that is there already. -/
def afterwards (t : Catalog) : List Column × Catalog :=
  let d := Definition.ofStored o (t.find? (r.place o))
  let g := d.gap o.identifierMaxBytes (Column.sort r.required)
  if d.isKnown then
    (Column.sort (g.missing ++ (r.extendSteps o g.addable t).1), (r.extendSteps o g.addable t).2)
  else (Column.sort r.required, t)

section Afterwards

variable {t : Catalog} (h : IsWinner o stored winner) (hfind : t.find? (r.place o) = some winner)
  (hnames : (r.required.map Column.name).Nodup)
include hfind

theorem afterwards_of_isKnown (hknown : (Definition.ofColumns o winner).isKnown = true) :
    r.afterwards o t = (Column.sort ((r.gapOn o winner).missing ++
      (r.extendSteps o (r.gapOn o winner).addable t).1),
        (r.extendSteps o (r.gapOn o winner).addable t).2) := by
  unfold afterwards
  rw [hfind, Definition.ofStored_eq, Option.getD_some]
  exact if_pos hknown

include h hnames

/-- The rest of what was to be added comes to the same. -/
theorem extendSteps_left (hknown : (Definition.ofColumns o winner).isKnown = true) :
    (Column.sort (((Definition.ofColumns o winner).left (r.gapOn o stored)).missing ++
        (r.extendSteps o ((Definition.ofColumns o winner).left (r.gapOn o stored)).addable t).1),
      (r.extendSteps o ((Definition.ofColumns o winner).left (r.gapOn o stored)).addable t).2) =
        r.afterwards o t := by
  have haddable : ((Definition.ofColumns o winner).left (r.gapOn o stored)).addable =
      (r.gapOn o winner).addable := absent_gapOn h
  rw [afterwards_of_isKnown hfind hknown, haddable, sort_left h hnames (extendSteps_sublist _ t)]

/-- All that was to be added comes to the same. -/
theorem extendSteps_gapOn (hadd : r.addColumnTemplates = [.addColumn]) (hstored : stored ≠ [])
    (hread : ∀ c ∈ r.gained o stored, Held o winner c → Sql.statements? (r.addition o c) ≠ none) :
    (Column.sort ((r.gapOn o stored).missing ++
        (r.extendSteps o (r.gapOn o stored).addable t).1),
      (r.extendSteps o (r.gapOn o stored).addable t).2) = r.afterwards o t := by
  have ht : t.GrownFrom winner (r.place o) := ⟨winner, hfind, List.prefix_rfl, h.names⟩
  have hextend (cs : List Column) : r.extendSteps o cs t = r.addSteps o cs t :=
    if_neg (by simp [hadd])
  rw [← gapOn_addable] at hread
  obtain ⟨htables, hfailed⟩ := addSteps_absent ht hread
  rw [absent_gapOn h] at htables hfailed
  rw [afterwards_of_isKnown hfind (h.isKnown hstored), hextend, hextend, htables]
  have hsubperm := ((addSteps_sublist (o := o) (r := r) (r.gapOn o stored).addable t).append_left
    (r.gapOn o stored).missing).subperm.trans gapOn_subperm
  rw [sort_missing h hnames (addSteps_sublist _ t) (Column.nodup_of_subperm hsubperm hnames)
    fun c => by rw [List.mem_append, hfailed]]

end Afterwards

end Request

end MetricTables
