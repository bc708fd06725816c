import MetricTables.Proofs.KeyMap
import MetricTables.Proofs.Store.Catalog
import MetricTables.Reconcile

/-!
# Definitions and stored columns

A definition is right about a table if it is what the columns of the table are read as, and
it is backed by the table if every column it knows is one of them. A column that was stored
for a request is read back as the column that was asked for, once it is marked.

## Main definitions

* `Definition.ofColumns` — what the columns of a table are read as.
* `Definition.Backed`, `Definition.Exact`, `Definition.Tracks` — how a definition may stand to a
  table.
* `Definition.Within` — what is known is known of another definition as well.
* `Held` — the table has a column that can take the values of another one.
* `Column.IsRecovered` — the column is read back as it was asked for.
-/

namespace MetricTables

/-! ## Table order -/

namespace Column

variable {cs cs' : List Column}

/-- Columns that are at most each other have one name. -/
theorem name_eq_of_atMost {a b : Column} (h : atMost a b) (h' : atMost b a) : a.name = b.name := by
  simp only [atMost, decide_eq_true_eq] at h h'
  rcases h with h | ⟨_, h⟩ <;> rcases h' with h' | ⟨_, h'⟩
  · omega
  · omega
  · omega
  · exact String.le_antisymm h h'

theorem role_eq_of_atMost {a b : Column} (h : atMost a b) (h' : atMost b a) : a.role = b.role := by
  simp only [atMost, decide_eq_true_eq] at h h'
  exact Role.rank_injective (by omega)

/-- Columns that roles and names tell apart have one table order. -/
theorem sort_congr_of_apart (h : cs.Perm cs')
    (hapart : ∀ a ∈ cs, ∀ b ∈ cs, a.role = b.role → a.name = b.name → a = b) :
    sort cs = sort cs' := by
  have hperm : (sort cs).Perm (sort cs') := ((sort_perm cs).trans h).trans (sort_perm cs').symm
  refine hperm.eq_of_pairwise (fun a b ha hb hab hba => ?_) (sorted_sort cs) (sorted_sort cs')
  exact hapart a (mem_sort.1 ha) b (h.mem_iff.2 (mem_sort.1 hb)) (role_eq_of_atMost hab hba)
    (name_eq_of_atMost hab hba)

/-- Columns of different names have one table order. -/
theorem sort_congr (h : cs.Perm cs') (hnames : (cs.map name).Nodup) : sort cs = sort cs' :=
  sort_congr_of_apart h fun _ ha _ hb _ hname => List.inj_on_of_nodup_map hnames ha hb hname

/-- Columns of different names come to the one order of them that is sorted. -/
theorem sort_eq_of_sorted (h : cs.Perm cs') (hnames : (cs.map name).Nodup)
    (hsorted : cs'.Pairwise fun a b => atMost a b = true) : sort cs = cs' :=
  (sort_congr h hnames).trans (List.mergeSort_of_pairwise hsorted)

theorem sort_filter (p : Column → Bool) (cs : List Column) :
    sort ((sort cs).filter p) = (sort cs).filter p :=
  List.mergeSort_of_pairwise ((sorted_sort cs).filter p)

/-- Parts of columns of different names have different names. -/
theorem nodup_of_subperm (h : cs.Subperm cs') (hcs' : (cs'.map name).Nodup) :
    (cs.map name).Nodup := by
  obtain ⟨part, hperm, hsublist⟩ := h
  exact (hperm.map _).nodup_iff.1 (hcs'.sublist (hsublist.map _))

/-- Columns of different names that are the same are sorted in one way. -/
theorem sort_eq_of_mem (hcs : (cs.map name).Nodup) (hcs' : cs'.Nodup)
    (h : ∀ c, c ∈ cs ↔ c ∈ cs') : sort cs = sort cs' :=
  sort_congr ((List.perm_ext_iff_of_nodup hcs.of_map hcs').2 h) hcs

theorem nodup_sort (h : (cs.map name).Nodup) : ((sort cs).map name).Nodup :=
  ((sort_perm cs).map _).nodup_iff.2 h

/-- Columns that are those of a list with some property are sorted like the list. -/
theorem sort_eq_filter {p : Column → Bool} {all : List Column} (hcs : cs.Nodup)
    (hall : (all.map name).Nodup) (h : ∀ c, c ∈ cs ↔ c ∈ all ∧ p c = true) :
    sort cs = (sort all).filter p := by
  have hfilter : (((sort all).filter p).map name).Nodup :=
    (nodup_sort hall).sublist (List.filter_sublist.map _)
  rw [← sort_filter]
  refine (sort_eq_of_mem hfilter hcs fun c => ?_).symm
  rw [List.mem_filter, mem_sort, h]

end Column

namespace Definition

variable {d : Definition} {name : String} {c : Column} {cs : List Column}

/-! ## Insertion -/

@[simp] theorem find?_unknown (name : String) : unknown.find? name = none := rfl

@[simp] theorem isKnown_unknown : unknown.isKnown = false := rfl

theorem eq_unknown (h : d.isKnown = false) : d = unknown := by
  obtain ⟨m⟩ := d
  have hentries : m.entries = [] := by simpa [isKnown, KeyMap.isEmpty] using h
  exact congrArg Definition.mk (KeyMap.ext_entries hentries)

@[simp] theorem find?_insert_self (d : Definition) (c : Column) :
    (d.insert c).find? c.name = some c := KeyMap.find?_insert_self ..

theorem find?_insert_of_ne (d : Definition) (h : name ≠ c.name) :
    (d.insert c).find? name = d.find? name := KeyMap.find?_insert_of_ne _ h _

@[simp] theorem insertAll_nil (d : Definition) : d.insertAll [] = d := rfl

@[simp] theorem insertAll_cons (d : Definition) (c : Column) (cs : List Column) :
    d.insertAll (c :: cs) = (d.insert c).insertAll cs := rfl

theorem insertAll_append (d : Definition) (cs cs' : List Column) :
    d.insertAll (cs ++ cs') = (d.insertAll cs).insertAll cs' := List.foldl_append ..

/-- What is known after insertions was inserted or known before. -/
theorem mem_of_find?_insertAll (h : (d.insertAll cs).find? name = some c) :
    (c ∈ cs ∧ c.name = name) ∨ d.find? name = some c := by
  induction cs generalizing d with
  | nil => exact .inr h
  | cons e es ih =>
    rcases ih h with ⟨hmem, hname⟩ | hfind
    · exact .inl ⟨List.mem_cons_of_mem _ hmem, hname⟩
    · by_cases hname : name = e.name
      · subst hname
        rw [find?_insert_self] at hfind
        cases hfind
        exact .inl ⟨List.mem_cons_self, rfl⟩
      · rw [find?_insert_of_ne d hname] at hfind
        exact .inr hfind

theorem find?_insertAll_eq_none :
    (d.insertAll cs).find? name = none ↔ name ∉ cs.map Column.name ∧ d.find? name = none := by
  induction cs generalizing d with
  | nil => simp
  | cons e es ih =>
    rw [insertAll_cons, ih]
    by_cases hname : name = e.name
    · simp [hname]
    · simp [find?_insert_of_ne d hname, hname]

theorem find?_insertAll_of_not_mem (h : name ∉ cs.map Column.name) :
    (d.insertAll cs).find? name = d.find? name := by
  induction cs generalizing d with
  | nil => rfl
  | cons e es ih =>
    simp only [List.map_cons, List.mem_cons, not_or] at h
    rw [insertAll_cons, ih h.2, find?_insert_of_ne d h.1]

/-- If the inserted columns have different names, each is known then. -/
theorem find?_insertAll_of_mem (hcs : (cs.map Column.name).Nodup) (hc : c ∈ cs) :
    (d.insertAll cs).find? c.name = some c := by
  induction cs generalizing d with
  | nil => cases hc
  | cons e es ih =>
    obtain ⟨he, hes⟩ := List.nodup_cons.1 hcs
    rw [insertAll_cons]
    rcases List.mem_cons.1 hc with rfl | hc
    · rw [find?_insertAll_of_not_mem he, find?_insert_self]
    · exact ih hes hc

/-- The columns that a definition lists are those that it finds by name. -/
theorem mem_columns : c ∈ d.columns ↔ ∃ name, d.find? name = some c := by
  simp only [columns, Column.mem_sort, List.mem_map, find?, KeyMap.find?_eq_some_iff]
  constructor
  · rintro ⟨⟨name, c⟩, h, rfl⟩
    exact ⟨name, h⟩
  · rintro ⟨name, h⟩
    exact ⟨_, h, rfl⟩

end Definition

/-! ## Stored columns -/

/-- A stored column with the comment that marks tags. -/
def StoredColumn.asTag (s : StoredColumn) : StoredColumn := { s with comment := some tagComment }

/-- The column that a store keeps once the tags among the new columns are marked. -/
def Column.marked (c : Column) : StoredColumn :=
  if c.role = .tag then c.stored.asTag else c.stored

@[simp] theorem Column.marked_name (c : Column) : c.marked.name = c.name := by
  unfold marked
  split <;> rfl

@[simp] theorem Column.marked_type (c : Column) : c.marked.type = c.type.spelling := by
  unfold marked
  split <;> rfl

@[simp] theorem StoredColumn.toColumn_name (o : Options) (s : StoredColumn) :
    (s.toColumn o).name = s.name := rfl

/-- The column has a type with a spelling of its own, and its role is read back. -/
structure Column.IsRecovered (o : Options) (c : Column) : Prop where
  type : ∀ s, c.type ≠ .other s
  role : c.marked.role o = c.role

theorem Column.IsRecovered.toColumn {o : Options} {c : Column} (h : c.IsRecovered o) :
    c.marked.toColumn o = c := by
  simp only [StoredColumn.toColumn, h.role, Column.marked_name, Column.marked_type,
    SqlType.parse_spelling h.type]

/-- The table has a column of the name that can take the values of the column. -/
def Held (o : Options) (cols : List StoredColumn) (c : Column) : Prop :=
  ∃ s ∈ cols, s.name = c.name ∧ (s.toColumn o).holds c = true

theorem Held.mono {o : Options} {cols cols' : List StoredColumn} {c : Column}
    (h : Held o cols c) (hle : cols ⊆ cols') : Held o cols' c := by
  obtain ⟨s, hs, hname, hholds⟩ := h
  exact ⟨s, hle hs, hname, hholds⟩

@[simp] theorem Column.holds_self (c : Column) : c.holds c = true := by simp [Column.holds]

theorem Held.of_marked {o : Options} {cols : List StoredColumn} {c : Column}
    (hc : c.IsRecovered o) (h : c.marked ∈ cols) : Held o cols c :=
  ⟨c.marked, h, c.marked_name, by rw [hc.toColumn, Column.holds_self]⟩

/-! ## Definitions of tables -/

namespace Definition

variable {o : Options} {cols cols' : List StoredColumn} {d : Definition} {c : Column}
  {exact : Prop}

/-- What the columns of a table are read as. -/
def ofColumns (o : Options) (cols : List StoredColumn) : Definition :=
  unknown.insertAll (cols.map (StoredColumn.toColumn o))

theorem ofStored_eq (o : Options) (stored : Option (List StoredColumn)) :
    ofStored o stored = ofColumns o (stored.getD []) := rfl

theorem ofColumns_append (o : Options) (cols more : List StoredColumn) :
    ofColumns o (cols ++ more) =
      (ofColumns o cols).insertAll (more.map (StoredColumn.toColumn o)) := by
  rw [ofColumns, List.map_append, insertAll_append]
  rfl

/-- Columns that are read back are known once they stand marked in the table. -/
theorem ofColumns_marked {cs : List Column} (hcs : ∀ c ∈ cs, c.IsRecovered o) :
    ofColumns o (cols ++ cs.map Column.marked) = (ofColumns o cols).insertAll cs := by
  have hread : (cs.map Column.marked).map (StoredColumn.toColumn o) = cs := by
    rw [List.map_map]
    exact (List.map_congr_left fun c hc => (hcs c hc).toColumn).trans (List.map_id cs)
  rw [ofColumns_append, hread]

/-- What the table is read as knows the names of the table. -/
theorem find?_ofColumns_eq_none {name : String} :
    (ofColumns o cols).find? name = none ↔ name ∉ cols.map StoredColumn.name := by
  have hnames : (cols.map (StoredColumn.toColumn o)).map Column.name =
      cols.map StoredColumn.name := by simp
  rw [ofColumns, find?_insertAll_eq_none, hnames]
  exact and_iff_left rfl

/-- If the columns have different names, each is read under its name. -/
theorem find?_ofColumns (hcols : (cols.map StoredColumn.name).Nodup) (name : String) :
    (ofColumns o cols).find? name =
      (cols.find? fun s => s.name == name).map (StoredColumn.toColumn o) := by
  have hnames : ((cols.map (StoredColumn.toColumn o)).map Column.name).Nodup := by
    simpa [Function.comp_def] using hcols
  cases hfind : cols.find? fun s => s.name == name with
  | none =>
    rw [Option.map_none, find?_ofColumns_eq_none]
    intro hmem
    obtain ⟨s, hs, rfl⟩ := List.mem_map.1 hmem
    exact absurd (List.find?_eq_none.1 hfind s hs) (by simp)
  | some s =>
    obtain rfl : s.name = name := by simpa using List.find?_some hfind
    exact find?_insertAll_of_mem (c := s.toColumn o) hnames
      (List.mem_map_of_mem (List.mem_of_find?_eq_some hfind))

/-- A definition without columns is read from no columns. -/
theorem eq_nil_of_isKnown_ofColumns (h : (ofColumns o cols).isKnown = false) : cols = [] := by
  cases cols with
  | nil => rfl
  | cons s rest =>
    have hfind : (ofColumns o (s :: rest)).find? s.name = none := by
      rw [eq_unknown h, find?_unknown]
    exact absurd List.mem_cons_self (find?_ofColumns_eq_none.1 hfind)

theorem isKnown_ofColumns (h : cols ≠ []) : (ofColumns o cols).isKnown = true := by
  cases hknown : (ofColumns o cols).isKnown with
  | true => rfl
  | false => exact absurd (eq_nil_of_isKnown_ofColumns hknown) h

/-- Every known column is under its name, and is what a column of the table is read as. -/
def Backed (o : Options) (d : Definition) (cols : List StoredColumn) : Prop :=
  ∀ name c, d.find? name = some c → c.name = name ∧ ∃ s ∈ cols, s.toColumn o = c

theorem backed_unknown : unknown.Backed o cols := by
  intro name c h
  cases h

theorem backed_ofColumns : (ofColumns o cols).Backed o cols := by
  intro name c h
  rcases mem_of_find?_insertAll h with ⟨hmem, hname⟩ | h
  · obtain ⟨s, hs, rfl⟩ := List.mem_map.1 hmem
    exact ⟨hname, s, hs, rfl⟩
  · cases h

theorem Backed.mono (h : d.Backed o cols) (hle : cols ⊆ cols') : d.Backed o cols' := by
  intro name c hc
  obtain ⟨hname, s, hs, hread⟩ := h name c hc
  exact ⟨hname, s, hle hs, hread⟩

theorem Backed.insertAll {cs : List Column} (h : d.Backed o cols)
    (hcs : ∀ c ∈ cs, ∃ s ∈ cols, s.toColumn o = c) : (d.insertAll cs).Backed o cols := by
  intro name c hc
  rcases mem_of_find?_insertAll hc with ⟨hmem, hname⟩ | hc
  · exact ⟨hname, hcs c hmem⟩
  · exact h name c hc

/-- A backed definition knows no name that the table does not have. -/
theorem Backed.find?_eq_none {name : String} (h : d.Backed o cols)
    (hname : name ∉ cols.map StoredColumn.name) : d.find? name = none := by
  cases hfind : d.find? name with
  | none => rfl
  | some c =>
    obtain ⟨rfl, s, hs, rfl⟩ := h name c hfind
    exact absurd (List.mem_map.2 ⟨s, hs, rfl⟩) hname

/-- What is known and can take the values of a column is a column of the table. -/
theorem Backed.held (h : d.Backed o cols) {existing : Column}
    (hfind : d.find? c.name = some existing) (hholds : existing.holds c = true) :
    Held o cols c := by
  obtain ⟨hname, s, hs, rfl⟩ := h _ _ hfind
  exact ⟨s, hs, hname, hholds⟩

/-- The definition is backed and, if it is to be exact, is what the table is read as. -/
structure Exact (o : Options) (exact : Prop) (d : Definition) (cols : List StoredColumn) :
    Prop where
  backed : d.Backed o cols
  eq : exact → d = ofColumns o cols

/-- The definition is backed and, if it is to be exact, is unknown or what the table is
read as. -/
structure Tracks (o : Options) (exact : Prop) (d : Definition) (cols : List StoredColumn) :
    Prop where
  backed : d.Backed o cols
  eq : exact → d.isKnown = true → d = ofColumns o cols

theorem exact_ofColumns : Exact o exact (ofColumns o cols) cols := ⟨backed_ofColumns, fun _ => rfl⟩

theorem tracks_unknown : Tracks o exact unknown cols :=
  ⟨backed_unknown, fun _ h => by cases h⟩

theorem Exact.tracks (h : Exact o exact d cols) : Tracks o exact d cols :=
  ⟨h.backed, fun he _ => h.eq he⟩

/-- Appending columns keeps a definition right unless it is to be exact. -/
theorem Exact.mono (h : Exact o exact d cols) (hle : cols <+: cols') (heq : exact → cols' = cols) :
    Exact o exact d cols' :=
  ⟨h.backed.mono hle.subset, fun he => heq he ▸ h.eq he⟩

theorem Tracks.mono (h : Tracks o exact d cols) (hle : cols <+: cols')
    (heq : exact → cols' = cols) : Tracks o exact d cols' :=
  ⟨h.backed.mono hle.subset, fun he hk => heq he ▸ h.eq he hk⟩

/-- Columns that were stored and marked may be inserted. -/
theorem Exact.insertAll (cs : List Column) {old more : List StoredColumn}
    (h : Exact o exact d cols) (hle : cols <+: old) (hcs : ∀ c ∈ cs, c.IsRecovered o)
    (heq : exact → old = cols ∧ more = []) :
    Exact o exact (d.insertAll cs) (old ++ cs.map Column.marked ++ more) where
  backed := by
    refine (h.backed.mono fun s hs => ?_).insertAll fun c hc => ⟨c.marked, ?_, (hcs c hc).toColumn⟩
    · simp [hle.subset hs]
    · simp only [List.mem_append, List.mem_map]
      exact .inl (.inr ⟨c, hc, rfl⟩)
  eq he := by
    obtain ⟨rfl, rfl⟩ := heq he
    rw [List.append_nil, ofColumns_marked hcs, ← h.eq he]

/-! ## What a table lacks -/

section Gap

variable {limit : Nat} {required : List Column}

theorem mem_absent : c ∈ d.absent required ↔ c ∈ required ∧ d.find? c.name = none := by
  simp [absent]

theorem mem_conflicts : c ∈ d.conflicts required ↔
    c ∈ required ∧ ∃ existing, d.find? c.name = some existing ∧ existing.holds c = false := by
  simp [conflicts, Option.any_eq_true]

theorem mem_addable : c ∈ (d.gap limit required).addable ↔
    c ∈ required ∧ d.find? c.name = none ∧ Identifier.fits limit c.name = true := by
  simp [gap, mem_absent, and_assoc]

theorem mem_missing : c ∈ (d.gap limit required).missing ↔
    c ∈ d.conflicts required ∨
      c ∈ required ∧ d.find? c.name = none ∧ Identifier.fits limit c.name = false := by
  simp [gap, mem_absent, and_assoc]

/-- Of a backed definition, a required column can be added, is missing, or is held. -/
theorem Backed.gap_cases (h : d.Backed o cols) (hc : c ∈ required) :
    c ∈ (d.gap limit required).addable ∨ c ∈ (d.gap limit required).missing ∨ Held o cols c := by
  cases hfind : d.find? c.name with
  | none =>
    cases hfits : Identifier.fits limit c.name with
    | true => exact .inl (mem_addable.2 ⟨hc, hfind, hfits⟩)
    | false => exact .inr (.inl (mem_missing.2 (.inr ⟨hc, hfind, hfits⟩)))
  | some existing =>
    cases hholds : existing.holds c with
    | true => exact .inr (.inr (h.held hfind hholds))
    | false => exact .inr (.inl (mem_missing.2 (.inl (mem_conflicts.2 ⟨hc, _, hfind, hholds⟩))))

/-- Parts of a list that share no element make up a part of it. -/
theorem filter_append_subperm {α : Type} {p q : α → Bool} {l : List α}
    (h : ∀ a ∈ l, q a = true → p a = false) : (l.filter p ++ l.filter q).Subperm l := by
  have hsublist : (l.filter q).Sublist (l.filter fun a => !p a) := by
    have hfilter : l.filter q = (l.filter fun a => !p a).filter q := by
      rw [List.filter_filter]
      refine List.filter_congr fun a ha => ?_
      cases hq : q a with
      | false => simp
      | true => simp [h a ha hq]
    rw [hfilter]
    exact List.filter_sublist
  exact (hsublist.append_left (l.filter p)).subperm.trans (List.filter_append_perm p l).subperm

theorem conflicts_append_absent_subperm :
    (d.conflicts required ++ d.absent required).Subperm required := by
  refine filter_append_subperm fun c _ habsent => ?_
  rw [Option.isNone_iff_eq_none] at habsent
  simp [habsent]

/-- What is missing and what may be added are different parts of what is required. -/
theorem gap_subperm :
    ((d.gap limit required).missing ++ (d.gap limit required).addable).Subperm required := by
  have hsplit := List.filter_append_perm (fun c : Column => !Identifier.fits limit c.name)
    (d.absent required)
  simp only [Bool.not_not] at hsplit
  rw [gap, List.append_assoc]
  exact (hsplit.append_left _).subperm.trans conflicts_append_absent_subperm

end Gap

/-! ## What more is known later -/

/-- What is known is known of another definition as well. -/
def Within (d d' : Definition) : Prop := ∀ name c, d.find? name = some c → d'.find? name = some c

namespace Within

variable {d' d'' : Definition} {name : String}

theorem refl (d : Definition) : d.Within d := fun _ _ h => h

theorem trans (h : d.Within d') (h' : d'.Within d'') : d.Within d'' :=
  fun name c hfind => h' name c (h name c hfind)

theorem of_unknown (d : Definition) : unknown.Within d := fun _ _ h => nomatch h

theorem find?_eq_none (h : d.Within d') (hfind : d'.find? name = none) : d.find? name = none := by
  cases hknown : d.find? name with
  | none => rfl
  | some c => cases hfind.symm.trans (h name c hknown)

end Within

section Left

variable {d' : Definition} {limit : Nat} {required missing : List Column} (h : d.Within d')
include h

/-- Of what was to be added, what is not known later is to be added then. -/
theorem absent_gap_addable :
    d'.absent (d.gap limit required).addable = (d'.gap limit required).addable := by
  simp only [gap, absent, List.filter_filter]
  refine List.filter_congr fun c _ => ?_
  cases hlater : d'.find? c.name with
  | some existing => simp
  | none => simp [h.find?_eq_none hlater]

variable (hfits : ∀ name c, d'.find? name = some c → Identifier.fits limit name = true)
include hfits

/-- What is missing later was missing, or was to be added and is a conflict then. -/
theorem mem_gap_missing : c ∈ (d'.gap limit required).missing ↔
    c ∈ (d.gap limit required).missing ∨ c ∈ d'.conflicts (d.gap limit required).addable := by
  simp only [mem_missing, mem_conflicts, mem_addable]
  cases hfind : d.find? c.name with
  | some existing => simp [h _ _ hfind]
  | none =>
    cases hlater : d'.find? c.name with
    | some existing => simp [hfits _ _ hlater]
    | none => simp

variable (hnames : (required.map Column.name).Nodup)
include hnames

/-- Columns that are missing one way or the other are missing in one order. -/
theorem sort_missing (hcs : cs.Sublist (d'.gap limit required).addable)
    (hmissing : (missing.map Column.name).Nodup)
    (hmem : ∀ c, c ∈ missing ↔ c ∈ (d.gap limit required).missing ∨
      c ∈ d'.conflicts (d.gap limit required).addable ∨ c ∈ cs) :
    Column.sort missing = Column.sort ((d'.gap limit required).missing ++ cs) := by
  have hsubperm := (hcs.append_left (d'.gap limit required).missing).subperm.trans gap_subperm
  refine Column.sort_eq_of_mem hmissing (Column.nodup_of_subperm hsubperm hnames).of_map fun c => ?_
  rw [hmem, List.mem_append, mem_gap_missing h hfits, or_assoc]

/-- What was missing, and what turned out to be, is missing later. -/
theorem sort_left (hcs : cs.Sublist (d'.gap limit required).addable) :
    Column.sort ((d.gap limit required).missing ++
        d'.conflicts (d.gap limit required).addable ++ cs) =
      Column.sort ((d'.gap limit required).missing ++ cs) := by
  have hleft : (d'.conflicts (d.gap limit required).addable ++ cs).Subperm
      (d.gap limit required).addable := by
    rw [← absent_gap_addable h] at hcs
    exact (hcs.append_left _).subperm.trans conflicts_append_absent_subperm
  have hsubperm : ((d.gap limit required).missing ++
      d'.conflicts (d.gap limit required).addable ++ cs).Subperm required := by
    rw [List.append_assoc]
    exact ((List.subperm_append_left _).2 hleft).trans gap_subperm
  refine sort_missing h hfits hnames hcs (Column.nodup_of_subperm hsubperm hnames) fun c => ?_
  simp

end Left

end Definition

end MetricTables
