import MetricTables.Proofs.Rendering

/-!
# How statements begin

Whatever stands where the types of columns are, a text that begins like the creation of a table
or like the addition of a column has that statement first, if it can be read at all.

## Main statements

* `readAll_head` — what is read first of a text.
* `statements?_creation`, `statements?_addition` — the first statements of such texts.
-/

namespace MetricTables.Sql

namespace Grammar

open Reader

/-! ## The first statement -/

theorem many_head {α : Type} {r : Reader α} {a : α} {t : Token} {ts left : List Token}
    (h : r (t :: ts) = some (a, left)) :
    ∃ more left', many r (t :: ts) = some (a :: more, left') :=
  ⟨_, _, by rw [many, List.length_cons, Reader.atMost, h]⟩

/-- A text that is read has the statement first that it begins with. -/
theorem readAll_head {t : Token} {ts rest : List Token} {ss : List Statement}
    (ht : t ≠ .symbol ";") (h : readAll (t :: ts) = some (ss, rest)) :
    ∃ s more left, read (t :: ts) = some (s, left) ∧ ss = s :: more := by
  cases hread : read (t :: ts) with
  | none =>
    rw [readAll_of_not_read ht hread] at h
    cases h
  | some p =>
    obtain ⟨s, left⟩ := p
    have hsemicolons : semicolons (t :: ts) = some ((), t :: ts) := by
      simp [semicolons, many_of_none, ht]
    -- the statement is the last one or is ended by a semicolon
    obtain ⟨ended, left₁, hmany, hended⟩ : ∃ ended left₁,
        many (do let s ← read; symbol ";"; semicolons; return s) (t :: ts) = some (ended, left₁) ∧
          (ended = [] ∧ left₁ = t :: ts ∨ ∃ more, ended = s :: more) := by
      cases hitem : (do let s ← read; symbol ";"; semicolons; return s) (t :: ts) with
      | none => exact ⟨[], t :: ts, many_of_none hitem, .inl ⟨rfl, rfl⟩⟩
      | some q =>
        obtain ⟨s', left'⟩ := q
        obtain rfl : s' = s := by
          simp only [run_bind, hread, Option.bind_some, Option.bind_eq_some_iff] at hitem
          obtain ⟨_, _, _, _, hq⟩ := hitem
          exact congrArg Prod.fst (Option.some.inj hq).symm
        obtain ⟨more, left₁, hmany⟩ := many_head hitem
        exact ⟨_, _, hmany, .inr ⟨more, rfl⟩⟩
    obtain ⟨last, left₂, hlast, more, hmore⟩ : ∃ last left₂, maybe read left₁ = some (last, left₂) ∧
        ∃ more, ended ++ last.toList = s :: more := by
      refine ⟨_, _, run_maybe read left₁, ?_⟩
      rcases hended with ⟨rfl, rfl⟩ | ⟨more, rfl⟩
      · exact ⟨[], by rw [hread]; rfl⟩
      · exact ⟨_, rfl⟩
    refine ⟨s, more, left, rfl, ?_⟩
    simp only [readAll, run_bind, hsemicolons, Option.bind_some, hmany, hlast, run_follows,
      hmore] at h
    split at h
    · exact congrArg Prod.fst (Option.some.inj h).symm
    · simp only [run_bind, Option.bind_eq_some_iff] at h
      obtain ⟨_, _, h⟩ := h
      exact congrArg Prod.fst (Option.some.inj h).symm

/-! ## Creations and additions -/

section Tables

variable (p : String × String) {n : String} {ts rest : List Token} {s : Statement}

theorem createTable_opening (h : createTable (nameTokens p ++ .symbol "(" :: ts) = some (s, rest)) :
    ∃ columns, s = .createTable (nameOf p) false columns := by
  have hname := qualifiedName_nameTokens p (.symbol "(" :: ts) (by simp)
  have hkey : ∀ k, Token.isKeyword k (.symbol "(") = false := fun _ => rfl
  obtain ⟨columns, left, _, _, hs⟩ : ∃ columns left,
      elements (.symbol "(" :: ts) = some (columns, left) ∧
        (∃ u, tableProperties left = some (u, rest)) ∧
          Statement.createTable (nameOf p) false columns = s := by
    simpa [createTable, keyword_nameTokens, hname, hkey, Option.bind_eq_some_iff] using h
  exact ⟨columns, hs.symm⟩

theorem columnDefinition_opening {d : ColumnDefinition}
    (h : columnDefinition (.quoted n :: ts) = some (d, rest)) : d.name = .quoted n := by
  simp only [columnDefinition, run_bind, name_quoted, Option.bind_some,
    Option.bind_eq_some_iff] at h
  obtain ⟨_, _, _, _, _, _, hd⟩ := h
  exact (congrArg (fun q => q.1.name) (Option.some.inj hd)).symm

theorem addition_opening {change : TableChange}
    (h : addition (.word "ADD" :: .word "COLUMN" :: .quoted n :: ts) = some (change, rest)) :
    ∃ d, change = .addColumn false d ∧ d.name = .quoted n := by
  have hadd : Token.isKeyword "ADD" (.word "ADD") = true := by decide
  have hcolumn : Token.isKeyword "COLUMN" (.word "COLUMN") = true := by decide
  have hif : Token.isKeyword "IF" (.word "COLUMN") = false := by decide
  have hif' : Token.isKeyword "IF" (.quoted n) = false := rfl
  have hbegins : beginsConstraint (.word "COLUMN") = false := by decide
  obtain ⟨d, hd, hchange⟩ : ∃ d, columnDefinition (.quoted n :: ts) = some (d, rest) ∧
      TableChange.addColumn false d = change := by
    simpa [addition, hadd, hcolumn, hif, hif', hbegins] using h
  exact ⟨d, hchange.symm, columnDefinition_opening hd⟩

/-- Nothing else is changed by a text that begins like an addition. -/
theorem otherChange_add (ts : List Token) : otherChange (.word "ADD" :: ts) = none := by
  have hwords : ∀ k ∈ ["DROP", "RENAME", "ALTER", "OWNER", "ENABLE", "DISABLE", "VALIDATE", "SET"],
      Token.isKeyword k (.word "ADD") = false := by decide
  simp only [List.forall_mem_cons] at hwords
  simp [otherChange, hwords]

theorem alterTable_opening (h : alterTable (nameTokens p ++ .word "ADD" :: .word "COLUMN" ::
      .quoted n :: ts) = some (s, rest)) :
    ∃ d more, s = .alterTable (nameOf p) (.addColumn false d :: more) ∧ d.name = .quoted n := by
  have hname := qualifiedName_nameTokens p (.word "ADD" :: .word "COLUMN" :: .quoted n :: ts)
    (by simp)
  obtain ⟨change, left, hchange, more, _, hs⟩ : ∃ change left,
      addition (.word "ADD" :: .word "COLUMN" :: .quoted n :: ts) = some (change, left) ∧
        ∃ more, many (do symbol ","; addition <|> otherChange) left = some (more, rest) ∧
          Statement.alterTable (nameOf p) (change :: more) = s := by
    simpa [alterTable, keyword_nameTokens, hname, separated, otherChange_add,
      Option.bind_eq_some_iff] using h
  obtain ⟨d, rfl, hd⟩ := addition_opening hchange
  exact ⟨d, more, hs.symm, hd⟩

/-- A text that begins like the creation of a table creates it first. -/
theorem readAll_creation {ss : List Statement} (h : readAll (.word "CREATE" :: .word "TABLE" ::
      (nameTokens p ++ .symbol "(" :: ts)) = some (ss, rest)) :
    ∃ columns more, ss = .createTable (nameOf p) false columns :: more := by
  obtain ⟨s, more, left, hread, rfl⟩ := readAll_head (by simp) h
  rw [read_createTable] at hread
  obtain ⟨columns, rfl⟩ := createTable_opening p hread
  exact ⟨columns, more, rfl⟩

/-- A text that begins like the addition of a column adds it first. -/
theorem readAll_addition {ss : List Statement} (h : readAll (.word "ALTER" :: .word "TABLE" ::
      (nameTokens p ++ .word "ADD" :: .word "COLUMN" :: .quoted n :: ts)) = some (ss, rest)) :
    ∃ d changes more, ss = .alterTable (nameOf p) (.addColumn false d :: changes) :: more ∧
      d.name = .quoted n := by
  obtain ⟨s, more, left, hread, rfl⟩ := readAll_head (by simp) h
  rw [read_alterTable] at hread
  obtain ⟨d, changes, rfl, hd⟩ := alterTable_opening p hread
  exact ⟨d, changes, more, rfl, hd⟩

end Tables

end Grammar

/-! ## Texts -/

section Texts

open Lexer Grammar

variable {p : String × String} {ss : List Statement}

theorem statements?_eq_some {sql : String} (h : statements? sql = some ss) :
    ∃ ts rest, tokens? sql.toList = some ts ∧ readAll ts = some (ss, rest) := by
  cases htokens : tokens? sql.toList with
  | none => simp [statements?, htokens] at h
  | some ts =>
    cases hread : readAll ts with
    | none => simp [statements?, htokens, hread] at h
    | some q =>
      obtain rfl : q.1 = ss := by simpa [statements?, htokens, hread] using h
      exact ⟨ts, q.2, rfl, hread⟩

theorem statements?_creation {x : String}
    (h : statements? ("CREATE TABLE " ++ Identifier.qualified p.1 p.2 ++ " (" ++ x) = some ss) :
    ∃ columns more, ss = .createTable (nameOf p) false columns :: more := by
  obtain ⟨ts, rest, htokens, hread⟩ := statements?_eq_some h
  have hlist : ("CREATE TABLE " ++ Identifier.qualified p.1 p.2 ++ " (" ++ x).toList =
      "CREATE".toList ++ ' ' :: ("TABLE".toList ++ ' ' ::
        ((Identifier.qualified p.1 p.2).toList ++ ' ' :: '(' :: x.toList)) := by simp
  rw [hlist, tokens?_word rfl (by simp), tokens?_space, tokens?_word rfl (by simp), tokens?_space,
    tokens?_qualified p (by simp), tokens?_space, tokens?_punctuation rfl] at htokens
  obtain ⟨us, _, rfl⟩ : ∃ us, tokens? x.toList = some us ∧ ts = .word "CREATE" :: .word "TABLE" ::
      (nameTokens p ++ .symbol "(" :: us) := by
    cases hx : tokens? x.toList with
    | none => simp [hx] at htokens
    | some us => exact ⟨us, rfl, by simpa [hx, eq_comm] using htokens⟩
  exact readAll_creation p hread

theorem statements?_addition {n x : String}
    (h : statements? ("ALTER TABLE " ++ Identifier.qualified p.1 p.2 ++ " ADD COLUMN " ++
      (Identifier.quote n ++ " " ++ x)) = some ss) :
    ∃ d changes more, ss = .alterTable (nameOf p) (.addColumn false d :: changes) :: more ∧
      d.name = .quoted n := by
  obtain ⟨ts, rest, htokens, hread⟩ := statements?_eq_some h
  have hlist : ("ALTER TABLE " ++ Identifier.qualified p.1 p.2 ++ " ADD COLUMN " ++
      (Identifier.quote n ++ " " ++ x)).toList = "ALTER".toList ++ ' ' :: ("TABLE".toList ++ ' ' ::
        ((Identifier.qualified p.1 p.2).toList ++ ' ' :: ("ADD".toList ++ ' ' ::
          ("COLUMN".toList ++ ' ' :: ((Identifier.quote n).toList ++ ' ' :: x.toList))))) := by
    simp
  rw [hlist, tokens?_word rfl (by simp), tokens?_space, tokens?_word rfl (by simp), tokens?_space,
    tokens?_qualified p (by simp), tokens?_space, tokens?_word rfl (by simp), tokens?_space,
    tokens?_word rfl (by simp), tokens?_space, tokens?_quote n (by simp), tokens?_space] at htokens
  obtain ⟨us, _, rfl⟩ : ∃ us, tokens? x.toList = some us ∧ ts = .word "ALTER" :: .word "TABLE" ::
      (nameTokens p ++ .word "ADD" :: .word "COLUMN" :: .quoted n :: us) := by
    cases hx : tokens? x.toList with
    | none => simp [hx] at htokens
    | some us => exact ⟨us, rfl, by simpa [hx, eq_comm] using htokens⟩
  exact readAll_addition p hread

end Texts

end MetricTables.Sql
