import MetricTables.Sql.TypeName
import MetricTables.SqlType

/-!
# Readers on given tokens

What the readers of the grammar give on tokens whose beginning is known. Single steps are
simp lemmas; repetition is settled once, for items that follow each other.

## Main statements

* `many_flatMap` — repetition reads items that are written one behind the other.
* `separated_commaTokens` — the same of items with commas between them.
* `read_typeTokens` — the type of a column is read back in the spelling that it is kept in.
-/

namespace MetricTables.Sql

namespace Reader

variable {α β : Type}

/-! ## Single steps -/

@[simp] theorem run_bind (x : Reader α) (f : α → Reader β) (ts : List Token) :
    (x >>= f) ts = (x ts).bind fun p => f p.1 p.2 := rfl

@[simp] theorem run_pure (a : α) (ts : List Token) : (pure a : Reader α) ts = some (a, ts) := rfl

@[simp] theorem run_map (f : α → β) (x : Reader α) (ts : List Token) :
    (f <$> x) ts = (x ts).map fun p => (f p.1, p.2) := by
  show (x ts).bind _ = _
  cases x ts <;> rfl

@[simp] theorem run_failure (ts : List Token) : (failure : Reader α) ts = none := rfl

@[simp] theorem run_orElse (x y : Reader α) (ts : List Token) :
    (x <|> y) ts = (x ts).or (y ts) := by
  show (x ts <|> y ts) = _
  cases x ts <;> rfl

@[simp] theorem run_discard (x : Reader α) (ts : List Token) :
    (discard x : Reader Unit) ts = (x ts).map fun p => ((), p.2) := by
  show (x ts).bind _ = _
  cases x ts <;> rfl

@[simp] theorem satisfying_nil (p : Token → Bool) : satisfying p [] = none := rfl

@[simp] theorem satisfying_cons (p : Token → Bool) (t : Token) (r : List Token) :
    satisfying p (t :: r) = if p t then some (t, r) else none := rfl

@[simp] theorem keyword_nil (k : String) : keyword k [] = none := rfl

@[simp] theorem keyword_cons (k : String) (t : Token) (r : List Token) :
    keyword k (t :: r) = if t.isKeyword k then some ((), r) else none := by
  rw [keyword, run_discard, satisfying_cons]
  split <;> rfl

@[simp] theorem oneOf_nil (ks : List String) : oneOf ks [] = none := rfl

@[simp] theorem oneOf_cons (ks : List String) (t : Token) (r : List Token) :
    oneOf ks (t :: r) = if ks.any (fun k => t.isKeyword k) then some ((), r) else none := by
  rw [oneOf, run_discard, satisfying_cons]
  split <;> rfl

@[simp] theorem keywords_nil (ts : List Token) : keywords [] ts = some ((), ts) := rfl

@[simp] theorem keywords_cons (k : String) (ks : List String) (ts : List Token) :
    keywords (k :: ks) ts = (keyword k ts).bind fun p => keywords ks p.2 := rfl

@[simp] theorem symbol_nil (s : String) : symbol s [] = none := rfl

@[simp] theorem symbol_cons (s : String) (t : Token) (r : List Token) :
    symbol s (t :: r) = if t = .symbol s then some ((), r) else none := by
  rw [symbol, run_discard, satisfying_cons]
  by_cases h : t = .symbol s <;> simp [h]

@[simp] theorem run_maybe (r : Reader α) (ts : List Token) :
    maybe r ts = some (match r ts with
      | some p => (some p.1, p.2)
      | none => (none, ts)) := by
  rw [maybe]
  cases r ts <;> rfl

@[simp] theorem run_skip (r : Reader α) (ts : List Token) :
    skip r ts = some ((), match r ts with
      | some p => p.2
      | none => ts) := by
  rw [skip, run_discard, run_maybe]
  cases r ts <;> rfl

@[simp] theorem run_accepted (r : Reader α) (ts : List Token) :
    accepted r ts = some (match r ts with
      | some p => (true, p.2)
      | none => (false, ts)) := by
  rw [accepted, run_bind, run_maybe]
  cases r ts <;> rfl

@[simp] theorem run_follows (p : Token → Bool) (ts : List Token) :
    follows p ts = some (ts.head?.any p, ts) := rfl

theorem run_firstM_cons (x : Reader α) (xs : List (Reader α)) (ts : List Token) :
    (x :: xs).firstM id ts = (x ts).or (xs.firstM id ts) := run_orElse x _ ts

/-! ## Repetition -/

@[simp] theorem atMost_of_none {r : Reader α} {ts : List Token} (h : r ts = none) (n : Nat) :
    atMost r n ts = ([], ts) := by
  cases n with
  | zero => rfl
  | succ n => rw [atMost, h]

theorem many_of_none {r : Reader α} {ts : List Token} (h : r ts = none) :
    many r ts = some ([], ts) := by
  rw [many, atMost_of_none h]

@[simp] theorem many_nil (r : Reader α) : many r [] = some ([], []) := rfl

/-- Items that are written one behind the other are read one after the other, up to what
cannot be read as an item. `Follows` holds of whatever may follow an item. -/
theorem atMost_flatMap {r : Reader α} {write : β → List Token} {value : β → α}
    {Follows : List Token → Prop} {items : List β} {rest : List Token}
    (hnext : ∀ b ∈ items, ∀ ts, Follows (write b ++ ts)) (hrest : Follows rest)
    (hread : ∀ b ∈ items, ∀ ts, Follows ts → r (write b ++ ts) = some (value b, ts))
    (hend : r rest = none) {n : Nat} (hn : items.length ≤ n) :
    atMost r n (items.flatMap write ++ rest) = (items.map value, rest) := by
  induction items generalizing n with
  | nil => simp [hend]
  | cons b bs ih =>
    obtain ⟨m, rfl⟩ : ∃ m, n = m + 1 := ⟨n - 1, by simp only [List.length_cons] at hn; omega⟩
    have hfollows : Follows (bs.flatMap write ++ rest) := by
      cases bs with
      | nil => exact hrest
      | cons c cs =>
        simp only [List.flatMap_cons, List.append_assoc]
        exact hnext c (by simp) _
    have hrec := ih (fun c hc => hnext c (List.mem_cons_of_mem _ hc))
      (fun c hc => hread c (List.mem_cons_of_mem _ hc)) (n := m) (by simpa using hn)
    rw [List.flatMap_cons, List.append_assoc, atMost, hread b (by simp) _ hfollows]
    simp [hrec]

/-- `atMost_flatMap` for repetition without a bound, if no item is written without a token. -/
theorem many_flatMap {r : Reader α} {write : β → List Token} {value : β → α}
    {Follows : List Token → Prop} {items : List β} {rest : List Token}
    (hwrite : ∀ b ∈ items, write b ≠ [])
    (hnext : ∀ b ∈ items, ∀ ts, Follows (write b ++ ts)) (hrest : Follows rest)
    (hread : ∀ b ∈ items, ∀ ts, Follows ts → r (write b ++ ts) = some (value b, ts))
    (hend : r rest = none) :
    many r (items.flatMap write ++ rest) = some (items.map value, rest) := by
  have hlength : items.length ≤ (items.flatMap write ++ rest).length := by
    clear hnext hread
    induction items with
    | nil => simp
    | cons b bs ih =>
      have hb := List.length_pos_iff.2 (hwrite b (by simp))
      have hbs := ih fun c hc => hwrite c (List.mem_cons_of_mem _ hc)
      simp only [List.length_cons, List.flatMap_cons, List.length_append] at hbs ⊢
      omega
  rw [many, atMost_flatMap hnext hrest hread hend hlength]

/-- Items with commas in front of all but the first. -/
def commaTokens (write : β → List Token) : List β → List Token
  | [] => []
  | b :: bs => write b ++ bs.flatMap fun c => .symbol "," :: write c

theorem commaTokens_map {γ : Type} (write : β → List Token) (f : γ → β) (items : List γ) :
    commaTokens write (items.map f) = commaTokens (fun c => write (f c)) items := by
  cases items with
  | nil => rfl
  | cons c cs => simp [commaTokens, List.flatMap_map]

theorem commaTokens_concat (write : β → List Token) {items : List β} (h : items ≠ []) (b : β) :
    commaTokens write (items ++ [b]) = commaTokens write items ++ .symbol "," :: write b := by
  match items, h with
  | c :: cs, _ => simp [commaTokens]

/-- Items with commas between them are read one after the other, up to what is no comma with
an item. -/
theorem separated_commaTokens {r : Reader α} {write : β → List Token} {value : β → α}
    {Follows : List Token → Prop} {items : List β} {rest : List Token} (hitems : items ≠ [])
    (hcomma : ∀ ts, Follows (.symbol "," :: ts)) (hrest : Follows rest)
    (hread : ∀ b ∈ items, ∀ ts, Follows ts → r (write b ++ ts) = some (value b, ts))
    (hend : (do symbol ","; r) rest = none) :
    separated r (commaTokens write items ++ rest) = some (items.map value, rest) := by
  match items, hitems with
  | b :: bs, _ =>
    have hfollows : Follows ((bs.flatMap fun c => .symbol "," :: write c) ++ rest) := by
      cases bs with
      | nil => exact hrest
      | cons c cs => exact hcomma _
    have hmore : many (do symbol ","; r) ((bs.flatMap fun c => .symbol "," :: write c) ++ rest) =
        some (bs.map value, rest) := by
      refine many_flatMap (by simp) (fun c _ ts => hcomma _) hrest ?_ hend
      intro c hc ts hts
      simp [hread c (List.mem_cons_of_mem _ hc) ts hts]
    simp [commaTokens, separated, hread b (by simp) _ hfollows, hmore]

/-- A list in parentheses is read whole. -/
theorem parenthesized_of_read {r : Reader α} {a : α} {ts rest : List Token}
    (h : r (ts ++ .symbol ")" :: rest) = some (a, .symbol ")" :: rest)) :
    parenthesized r (.symbol "(" :: (ts ++ .symbol ")" :: rest)) = some (a, rest) := by
  simp [parenthesized, h]

/-! ## Names -/

@[simp] theorem name_quoted (s : String) (r : List Token) :
    name (.quoted s :: r) = some (.quoted s, r) := rfl

end Reader

/-! ## Tokens behind a column -/

/-- Whether a column definition ends in front of the tokens. -/
inductive Closes : List Token → Prop
  | nil : Closes []
  | comma (r : List Token) : Closes (.symbol "," :: r)
  | parenthesis (r : List Token) : Closes (.symbol ")" :: r)

namespace Closes

variable {ts : List Token}

theorem keyword (h : Closes ts) (k : String) : Reader.keyword k ts = none := by
  cases h <;> simp [Token.isKeyword]

theorem oneOf (h : Closes ts) (ks : List String) : Reader.oneOf ks ts = none := by
  cases h <;> simp [Token.isKeyword]

theorem opening (h : Closes ts) {s : String} (hs : s ≠ "," := by decide)
    (hs' : s ≠ ")" := by decide) : Reader.symbol s ts = none := by
  cases h <;> simp [hs.symm, hs'.symm]

end Closes

/-! ## Types -/

namespace TypeName

open Reader

/-- What of a family of types decides how one of them is read. -/
structure Form where
  words : List String
  arguments : Arguments
  ending : Ending
  deriving DecidableEq

/-- All forms of the types with a grammar of their own. -/
def forms : List Form :=
  families.flatMap fun f => f.words.map fun ws => ⟨ws, f.arguments, f.ending⟩

def readForm (f : Form) : Reader String := readWords ⟨[], f.arguments, f.ending⟩ f.words

/-- Whether a type of the form may begin with the token. -/
def Form.admits (f : Form) (t : Token) : Bool := f.words.head?.all fun w => t.isKeyword w

theorem readKnown_eq : readKnown = (forms.map readForm).firstM id := by
  have h : forms.map readForm = families.flatMap fun f => f.words.map fun ws => readWords f ws := by
    rw [forms, List.map_flatMap]
    congr 1
    funext f
    rw [List.map_map]
    rfl
  rw [h, readKnown]

theorem readForm_of_not_admits {f : Form} {t : Token} (h : f.admits t = false) (r : List Token) :
    readForm f (t :: r) = none := by
  cases hw : f.words with
  | nil => simp [Form.admits, hw] at h
  | cons w ws =>
    have ht : t.isKeyword w = false := by simpa [Form.admits, hw] using h
    simp [readForm, readWords, hw, ht]

/-- The first form that admits the first token decides, if it can be read. -/
theorem firstM_of_find? {fs : List Form} {f : Form} {t : Token} {r : List Token}
    {p : String × List Token} (hf : (fs.find? fun f => f.admits t) = some f)
    (hread : readForm f (t :: r) = some p) : (fs.map readForm).firstM id (t :: r) = some p := by
  induction fs with
  | nil => simp at hf
  | cons g gs ih =>
    rw [List.map_cons, run_firstM_cons]
    rw [List.find?_cons] at hf
    split at hf
    next hg =>
      obtain rfl : g = f := by simpa using hf
      rw [hread, Option.some_or]
    next hg => rw [readForm_of_not_admits (by simpa using hg), Option.none_or, ih hf]

/-! ## Types as columns are declared with them -/

def wordsOfType : SqlType → List String
  | .doublePrecision => ["double", "precision"]
  | .timestamp => ["timestamp", "without", "time", "zone"]
  | .timestampTz => ["timestamp", "with", "time", "zone"]
  | t => [t.spelling]

def typeTokens (t : SqlType) : List Token := (wordsOfType t).map .word

def formOf : SqlType → Form
  | .smallInt => ⟨["SMALLINT"], .length, .sign⟩
  | .integer => ⟨["INTEGER"], .length, .sign⟩
  | .bigInt => ⟨["BIGINT"], .length, .sign⟩
  | .numeric => ⟨["NUMERIC"], .precision, .none⟩
  | .real => ⟨["REAL"], .none, .none⟩
  | .doublePrecision => ⟨["DOUBLE", "PRECISION"], .none, .none⟩
  | .boolean => ⟨["BOOLEAN"], .none, .none⟩
  | .text => ⟨["TEXT"], .none, .none⟩
  | .timestamp | .timestampTz => ⟨["TIMESTAMP"], .length, .zone⟩
  | .uint8 => ⟨["UINT8"], .none, .none⟩
  | .jsonb => ⟨["JSONB"], .none, .none⟩
  | .other s => ⟨[s], .none, .none⟩

theorem find?_forms {t : SqlType} (ht : ∀ s, t ≠ .other s) :
    ∃ w ws, wordsOfType t = w :: ws ∧
      (forms.find? fun f => f.admits (.word w)) = some (formOf t) := by
  cases t with
  | other s => exact absurd rfl (ht s)
  | _ => exact ⟨_, _, rfl, by decide +kernel⟩

/-- Nothing of a type stands behind its words where a column ends. -/
theorem readForm_of_closes {f : Form} {ts rest : List Token}
    (hwords : keywords f.words ts = some ((), rest)) (hf : f.arguments ≠ .texts)
    (h : Closes rest) : readForm f ts = some ((Text.join " " f.words).toLower, rest) := by
  have hopen : symbol "(" rest = none := h.opening
  have harguments : readArguments f.arguments rest = some ("", rest) := by
    cases hk : f.arguments with
    | texts => exact absurd hk hf
    | _ => simp [readArguments, inParentheses, hopen]
  have hending : readEnding f.ending rest = some ("", rest) := by
    cases f.ending <;> simp [readEnding, h.keyword]
  simp [readForm, readWords, hwords, harguments, hending]

/-- The type of a column is read back in the spelling that statements use. -/
theorem readKnown_typeTokens {t : SqlType} (ht : ∀ s, t ≠ .other s) {rest : List Token}
    (h : Closes rest) : readKnown (typeTokens t ++ rest) = some (t.spelling, rest) := by
  obtain ⟨w, ws, hws, hfind⟩ := find?_forms ht
  have hlist : typeTokens t ++ rest = .word w :: (ws.map .word ++ rest) := by
    simp [typeTokens, hws]
  have hform : readForm (formOf t) (typeTokens t ++ rest) = some (t.spelling, rest) := by
    cases t with
    | other s => exact absurd rfl (ht s)
    | timestamp | timestampTz =>
      simp [typeTokens, wordsOfType, readForm, readWords, formOf, readArguments, inParentheses,
        readEnding, Token.isKeyword]
      decide +kernel
    | _ =>
      rw [readForm_of_closes (by rfl) (by decide) h]
      congr 2
      decide +kernel
  rw [hlist, readKnown_eq]
  exact firstM_of_find? hfind (hlist ▸ hform)

/-- What a form admits begins a known type. -/
theorem beginsKnown_of_admits {f : Form} {t : Token} (hf : f ∈ forms) (hwords : f.words ≠ [])
    (h : f.admits t = true) : beginsKnown t = true := by
  simp only [forms, List.mem_flatMap, List.mem_map] at hf
  obtain ⟨family, hfamily, ws, hws, rfl⟩ := hf
  cases ws with
  | nil => exact absurd rfl hwords
  | cons w ws =>
    simp only [beginsKnown, List.any_eq_true]
    exact ⟨family, hfamily, w :: ws, hws, by simpa [Form.admits] using h⟩

/-- A column is declared with a type that is no array, so its type is read whole. -/
theorem read_typeTokens {t : SqlType} (ht : ∀ s, t ≠ .other s) {rest : List Token}
    (h : Closes rest) : TypeName.read (typeTokens t ++ rest) = some (t.spelling, rest) := by
  obtain ⟨w, ws, hws, hfind⟩ := find?_forms ht
  have hwords : (formOf t).words ≠ [] := by cases t <;> simp [formOf]
  have hbegins : (typeTokens t ++ rest).head?.any beginsKnown = true := by
    have hadmits : (formOf t).admits (.word w) = true := by
      simpa using List.find?_some hfind
    have hw := beginsKnown_of_admits (List.mem_of_find?_eq_some hfind) hwords hadmits
    simpa [typeTokens, hws] using hw
  have hopen : symbol "[" rest = none := h.opening
  have hbound : readBound rest = none := by simp [readBound, hopen]
  rw [TypeName.read, run_bind, run_follows, Option.bind_some, hbegins]
  simp [readKnown_typeTokens ht h, many_of_none hbound]

end TypeName

end MetricTables.Sql
