import MetricTables.Metric.Reader
import MetricTables.Proofs.TagRows

/-!
# Keys of tag sets

The key of a tag set is a hash of its bytes, in which a zero byte ends each key and each value.
A zero character inside of a key or a value looks like such an end. So two tag sets have the
same bytes if they are the same when cut at all zero characters, and only then.

## Main definitions

* `Tags.pieces` — what lies between the zero characters of a tag set.
* `Tags.IsPlain` — no zero character stands in the tags.

## Main statements

* `bytes_eq_iff` — tag sets of the same bytes are those of the same pieces.
* `eq_of_pieces_eq` — plain tag sets are told apart by their pieces.
* `unique_iff` — the tag sets that are the only ones of their bytes.
* `tagId_eq_iff` — records with the same key are those of the same pieces, up to collisions.
* `bytes_nestedTag` — records of different tags with the same key.
-/

namespace MetricTables

/-- The bytes of an array in order. -/
theorem ByteArray.toList_eq (b : ByteArray) : b.toList = b.data.toList := by
  have hloop : ∀ i r, ByteArray.toList.loop b i r = r.reverse ++ b.data.toList.drop i := by
    intro i r
    induction i, r using ByteArray.toList.loop.induct b with
    | case1 i r hi ih =>
      have hsize : i < b.data.toList.length := hi
      have hget : b.get! i = b.data.toList[i] := getElem!_pos b.data i hi
      rw [ByteArray.toList.loop, if_pos hi, ih, List.drop_eq_getElem_cons hsize, hget]
      simp
    | case2 i r hi =>
      have hsize : b.data.toList.length ≤ i := Nat.le_of_not_lt hi
      rw [ByteArray.toList.loop, if_neg hi, List.drop_eq_nil_of_le hsize, List.append_nil]
  exact hloop 0 []

namespace Tags

/-! ## Texts and pieces -/

/-- The character that ends keys and values. -/
def endMark : Char := '\x00'

/-- The keys and values in order, each with its end. -/
def text (t : Tags) : List Char :=
  t.entries.flatMap fun e => e.1.toList ++ endMark :: (e.2.toList ++ [endMark])

/-- What lies between the zero characters of a tag set, be they ends or not. -/
def pieces (t : Tags) : List (List Char) :=
  t.entries.flatMap fun e => e.1.toList.splitOn endMark ++ e.2.toList.splitOn endMark

/-- No zero character stands in a key or a value. -/
def IsPlain (t : Tags) : Prop := ∀ e ∈ t.entries, endMark ∉ e.1.toList ∧ endMark ∉ e.2.toList

instance (t : Tags) : Decidable t.IsPlain :=
  inferInstanceAs (Decidable (∀ e ∈ t.entries, endMark ∉ e.1.toList ∧ endMark ∉ e.2.toList))

variable {t t' : Tags}

/-- The bytes of characters. -/
def utf8 (cs : List Char) : List UInt8 := (String.ofList cs).toUTF8.toList

theorem utf8_toList (s : String) : utf8 s.toList = s.toUTF8.toList := by
  rw [utf8, String.ofList_toList]

theorem utf8_append (cs ds : List Char) : utf8 (cs ++ ds) = utf8 cs ++ utf8 ds := by
  simp only [utf8, String.toUTF8, ByteArray.toList_eq, String.ofList_append,
    String.toByteArray_append, ByteArray.data_append, Array.toList_append]

theorem utf8_nil : utf8 [] = [] := by decide +kernel

theorem utf8_endMark : utf8 [endMark] = [0] := by decide +kernel

theorem utf8_injective : Function.Injective utf8 := by
  intro cs ds h
  simp only [utf8, String.toUTF8, ByteArray.toList_eq] at h
  have hbytes := String.toByteArray_inj.1 (ByteArray.ext (Array.toList_inj.1 h))
  exact String.ofList_injective hbytes

/-- The bytes are those of the text. -/
theorem bytes_eq_utf8_text (t : Tags) : t.bytes = utf8 t.text := by
  unfold bytes text
  induction t.entries with
  | nil => exact utf8_nil.symm
  | cons e entries ih =>
    have hentry : entryBytes e = utf8 (e.1.toList ++ endMark :: (e.2.toList ++ [endMark])) := by
      rw [List.append_cons, utf8_append, utf8_append, utf8_append, utf8_endMark, utf8_toList,
        utf8_toList, List.append_assoc]
      rfl
    rw [List.flatMap_cons, List.flatMap_cons, utf8_append, hentry, ih]

/-- The hashed text can be cut into pieces again; which of them are keys is lost. -/
theorem splitOn_text (t : Tags) : t.text.splitOn endMark = t.pieces ++ [[]] := by
  unfold text pieces
  induction t.entries with
  | nil => rfl
  | cons e entries ih =>
    simp only [List.flatMap_cons, List.append_assoc, List.cons_append, List.nil_append,
      List.splitOn_append_cons_self, ih]

theorem intercalate_pieces (t : Tags) : [endMark].intercalate (t.pieces ++ [[]]) = t.text := by
  rw [← splitOn_text, List.intercalate_splitOn]

/-- Tag sets of the same bytes are those of the same pieces. -/
theorem bytes_eq_iff : t.bytes = t'.bytes ↔ t.pieces = t'.pieces := by
  rw [bytes_eq_utf8_text, bytes_eq_utf8_text, utf8_injective.eq_iff]
  constructor
  · intro h
    have hsplit : t.pieces ++ [[]] = t'.pieces ++ [[]] := by rw [← splitOn_text, h, splitOn_text]
    exact List.append_cancel_right hsplit
  · intro h
    rw [← intercalate_pieces, h, intercalate_pieces]

/-! ## Plain tag sets -/

/-- The pieces of plain tags are their keys and values. -/
theorem pieces_of_isPlain (h : t.IsPlain) :
    t.pieces = t.entries.flatMap fun e => [e.1.toList, e.2.toList] := by
  refine List.flatMap_congr fun e he => ?_
  rw [List.splitOn_eq_singleton (h e he).1, List.splitOn_eq_singleton (h e he).2]
  rfl

/-- Plain tag sets are told apart by their pieces. -/
theorem eq_of_pieces_eq (h : t.IsPlain) (h' : t'.IsPlain) (hpieces : t.pieces = t'.pieces) :
    t = t' := by
  rw [pieces_of_isPlain h, pieces_of_isPlain h'] at hpieces
  have hentries : ∀ l l' : List (String × String),
      (l.flatMap fun e => [e.1.toList, e.2.toList]) =
        (l'.flatMap fun e => [e.1.toList, e.2.toList]) →
        l = l' := by
    intro l
    induction l with
    | nil => intro l' hl; cases l' <;> simp_all
    | cons e l ih =>
      rintro (_ | ⟨e', l'⟩) hl
      · simp at hl
      · simp only [List.flatMap_cons, List.cons_append, List.nil_append, List.cons.injEq,
          String.toList_inj] at hl
        obtain ⟨hkey, hvalue, hrest⟩ := hl
        rw [Prod.ext hkey hvalue, ih l' hrest]
  exact KeyMap.ext_entries (hentries _ _ hpieces)

/-! ## Tag sets that are alone with their bytes -/

/-- Pieces have no zero characters. -/
theorem not_mem_splitOn {cs p : List Char} (h : p ∈ cs.splitOn endMark) : endMark ∉ p := by
  induction cs generalizing p with
  | nil =>
    rw [List.splitOn_nil] at h
    simp [List.mem_singleton.1 h]
  | cons c cs ih =>
    rw [List.splitOn_cons_eq_if_modifyHead] at h
    split at h
    · rcases List.mem_cons.1 h with rfl | h
      · exact List.not_mem_nil
      · exact ih h
    next hc =>
      cases hsplit : cs.splitOn endMark with
      | nil => simp [hsplit] at h
      | cons q qs =>
        rw [hsplit] at ih h
        rcases List.mem_cons.1 h with rfl | h
        · have hc : endMark ≠ c := fun heq => hc (beq_iff_eq.2 heq.symm)
          exact List.not_mem_cons_of_ne_of_not_mem hc (ih List.mem_cons_self)
        · exact ih (List.mem_cons_of_mem _ h)

theorem not_mem_of_mem_pieces {p : List Char} (h : p ∈ t.pieces) : endMark ∉ p := by
  obtain ⟨e, _, h⟩ := List.mem_flatMap.1 h
  exact (List.mem_append.1 h).elim not_mem_splitOn not_mem_splitOn

/-- A text with a zero character falls into several pieces. -/
theorem one_lt_length_splitOn {cs : List Char} (h : endMark ∈ cs) :
    1 < (cs.splitOn endMark).length := by
  obtain ⟨front, back, rfl⟩ := List.append_of_mem h
  have hfront := List.length_pos_iff.2 (List.splitOn_ne_nil endMark front)
  have hback := List.length_pos_iff.2 (List.splitOn_ne_nil endMark back)
  rw [List.splitOn_append_cons_self, List.length_append]
  omega

/-- Two pieces are those of one plain tag. -/
theorem length_pieces_le_iff : t.pieces.length ≤ 2 ↔ t.size ≤ 1 ∧ t.IsPlain := by
  have hpos : ∀ cs : List Char, 0 < (cs.splitOn endMark).length := fun cs =>
    List.length_pos_iff.2 (List.splitOn_ne_nil endMark cs)
  obtain ⟨entries, hincreasing⟩ := t
  simp only [pieces, KeyMap.size, IsPlain]
  match entries with
  | [] => simp
  | [e] =>
    have hkey := hpos e.1.toList
    have hvalue := hpos e.2.toList
    simp only [List.flatMap_cons, List.flatMap_nil, List.append_nil, List.length_append,
      List.length_cons, List.length_nil, Nat.zero_add, le_refl, List.mem_singleton, forall_eq,
      true_and]
    constructor
    · intro hlength
      refine ⟨fun hmem => ?_, fun hmem => ?_⟩
      · have := one_lt_length_splitOn hmem
        omega
      · have := one_lt_length_splitOn hmem
        omega
    · rintro ⟨hkey, hvalue⟩
      rw [List.splitOn_eq_singleton hkey, List.splitOn_eq_singleton hvalue]
      rfl
  | e :: e' :: entries =>
    have hkey := hpos e.1.toList
    have hvalue := hpos e.2.toList
    have hkey' := hpos e'.1.toList
    simp only [List.flatMap_cons, List.length_append, List.length_cons]
    omega

/-- One tag whose key and value have some pieces. -/
def joined (keys values : List (List Char)) : Tags :=
  KeyMap.empty.insert (String.ofList ([endMark].intercalate keys))
    (String.ofList ([endMark].intercalate values))

theorem pieces_joined {keys values : List (List Char)} (hkeys : keys ≠ []) (hvalues : values ≠ [])
    (hplain : ∀ p ∈ keys ++ values, endMark ∉ p) :
    (joined keys values).pieces = keys ++ values := by
  have hkey := List.splitOn_intercalate endMark (fun p hp => hplain p (by simp [hp])) hkeys
  have hvalue := List.splitOn_intercalate endMark (fun p hp => hplain p (by simp [hp])) hvalues
  show List.flatMap _ [(_, _)] = _
  rw [List.flatMap_singleton, String.toList_ofList, String.toList_ofList, hkey, hvalue]

/-- Three pieces or more can be taken for one tag in several ways. -/
theorem exists_twin (h : 2 < t.pieces.length) : ∃ t' : Tags, t'.pieces = t.pieces ∧ t' ≠ t := by
  match hpieces : t.pieces with
  | p :: q :: r :: rest =>
    have hplain : ∀ s ∈ p :: q :: r :: rest, endMark ∉ s := fun s hs =>
      not_mem_of_mem_pieces (hpieces ▸ hs)
    have hfirst : (joined [p] (q :: r :: rest)).pieces = p :: q :: r :: rest :=
      pieces_joined (by simp) (by simp) hplain
    have hsecond : (joined [p, q] (r :: rest)).pieces = p :: q :: r :: rest :=
      pieces_joined (by simp) (by simp) hplain
    by_cases heq : joined [p] (q :: r :: rest) = t
    · refine ⟨_, hsecond, fun heq' => ?_⟩
      have hentries := congrArg KeyMap.entries (heq.trans heq'.symm)
      have hkey : [endMark].intercalate [p] = [endMark].intercalate [p, q] :=
        String.ofList_injective (congrArg Prod.fst (List.cons.inj hentries).1)
      have hlength := congrArg List.length hkey
      simp [List.intercalate_cons_cons] at hlength
    · exact ⟨_, hfirst, heq⟩
  | [] | [_] | [_, _] => simp [hpieces] at h

/-- A tag set is the only one of its bytes exactly if it has one tag at most, and no zero
character. -/
theorem unique_iff : (∀ t' : Tags, t'.bytes = t.bytes → t' = t) ↔ t.size ≤ 1 ∧ t.IsPlain := by
  rw [← length_pieces_le_iff]
  constructor
  · intro hunique
    by_contra hmany
    obtain ⟨t', hpieces, hne⟩ := exists_twin (Nat.lt_of_not_le hmany)
    exact hne (hunique t' (bytes_eq_iff.2 hpieces))
  · intro hfew t' hbytes
    have hpieces := bytes_eq_iff.1 hbytes
    have hplain := (length_pieces_le_iff.1 hfew).2
    exact eq_of_pieces_eq (length_pieces_le_iff.1 (hpieces ▸ hfew)).2 hplain hpieces

/-! ## Keys -/

/-- The hash of a tag set. -/
def hash (t : Tags) : UInt64 := Hash.Xxh3.hash ⟨t.bytes.toArray⟩

/-- The hash has no collision on some tag sets: it tells their bytes apart. -/
def HashesApart (ts : List Tags) : Prop :=
  ∀ t ∈ ts, ∀ t' ∈ ts, t.hash = t'.hash → t.bytes = t'.bytes

instance (ts : List Tags) : Decidable (HashesApart ts) :=
  inferInstanceAs (Decidable (∀ t ∈ ts, ∀ t' ∈ ts, t.hash = t'.hash → t.bytes = t'.bytes))

theorem id_eq_iff_hash : t.id = t'.id ↔ t.hash = t'.hash := by
  constructor
  · intro h
    rw [← UInt64.toUInt64_toInt64 t.hash, ← UInt64.toUInt64_toInt64 t'.hash]
    exact congrArg Int64.toUInt64 h
  · exact fun h => congrArg UInt64.toInt64 h

/-- Without a collision, tag sets of the same key are those of the same pieces. -/
theorem id_eq_iff {ts : List Tags} (hts : HashesApart ts) (ht : t ∈ ts) (ht' : t' ∈ ts) :
    t.id = t'.id ↔ t.pieces = t'.pieces := by
  rw [id_eq_iff_hash, ← bytes_eq_iff]
  constructor
  · exact hts t ht t' ht'
  · intro h
    rw [hash, hash, h]

end Tags

namespace TableBatch

variable {o : Options} {b : TableBatch} {ms : List Metric}

/-- An entry has the key of its tags, which are those of a record. -/
theorem InStep.mem_entries (h : InStep o ms b) {e : Entry} (he : e ∈ b.entries) :
    e.tagId = e.metric.tags.id ∧ e.metric.tags ∈ ms.map (Metric.keptTags o) := by
  have hheading : Entry.heading e ∈ ms.map (heading o) := h.entries ▸ List.mem_map.2 ⟨e, he, rfl⟩
  obtain ⟨m, hm, heq⟩ := List.mem_map.1 hheading
  have htags : m.keptTags o = e.metric.tags := congrArg Heading.tags heq
  have hid : (m.keptTags o).id = e.tagId := congrArg Heading.tagId heq
  exact ⟨by rw [← hid, htags], List.mem_map.2 ⟨m, hm, htags⟩⟩

/-- Tag sets have the same bytes exactly if they have the same pieces. So plain tag sets are told
apart by their bytes, but a tag set with several tags or with a zero character never is the only
one of its bytes. If the hash has no collision on the tags of some records, two of them get the
same key exactly if their tags have the same pieces, and plain tags exactly if they are the
same. -/
theorem tagId_eq_iff (o : Options) (name : String) (actions : List Action)
    (hhash : Tags.HashesApart ((pushed actions).map (Metric.keptTags o))) :
    (∀ t t' : Tags, t.bytes = t'.bytes ↔ t.pieces = t'.pieces) ∧
    (∀ t t' : Tags, t.IsPlain → t'.IsPlain → t.bytes = t'.bytes → t = t') ∧
    (∀ t : Tags, (∀ t' : Tags, t'.bytes = t.bytes → t' = t) ↔ t.size ≤ 1 ∧ t.IsPlain) ∧
    ∀ e ∈ (after o name actions).entries, ∀ e' ∈ (after o name actions).entries,
      (e.tagId = e'.tagId ↔ e.metric.tags.pieces = e'.metric.tags.pieces) ∧
      (e.metric.tags.IsPlain → e'.metric.tags.IsPlain →
        (e.tagId = e'.tagId ↔ e.metric.tags = e'.metric.tags)) := by
  refine ⟨fun t t' => Tags.bytes_eq_iff, fun t t' ht ht' hbytes => ?_, fun t => Tags.unique_iff,
    fun e he e' he' => ?_⟩
  · exact Tags.eq_of_pieces_eq ht ht' (Tags.bytes_eq_iff.1 hbytes)
  · have hstep := (inStep_after o name actions).1
    obtain ⟨hid, hmem⟩ := hstep.mem_entries he
    obtain ⟨hid', hmem'⟩ := hstep.mem_entries he'
    have hiff : e.tagId = e'.tagId ↔ e.metric.tags.pieces = e'.metric.tags.pieces := by
      rw [hid, hid', Tags.id_eq_iff hhash hmem hmem']
    refine ⟨hiff, fun hplain hplain' => ⟨fun h => ?_, fun h => hiff.2 (by rw [h])⟩⟩
    exact Tags.eq_of_pieces_eq hplain hplain' (hiff.1 h)

/-- A tag whose value holds what looks like one more tag. -/
def nestedTag : List (String × String) := [("a", "b\x00c\x00d")]

/-- The tags that it looks like. -/
def looseTags : List (String × String) := [("a", "b"), ("c", "d")]

/-- Records of both, and one more. -/
def lookalikes : List Action :=
  [.push (recordOf nestedTag), .push (recordOf looseTags), .push (recordOf [("a", "b")])]

theorem tagId_eq_iff_lookalikes :
    Tags.HashesApart ((pushed lookalikes).map (Metric.keptTags keyed)) ∧
    ∀ e ∈ (after keyed "cpu" lookalikes).entries, ∀ e' ∈ (after keyed "cpu" lookalikes).entries,
      (e.tagId = e'.tagId ↔ e.metric.tags.pieces = e'.metric.tags.pieces) := by
  have hhash : Tags.HashesApart ((pushed lookalikes).map (Metric.keptTags keyed)) := by
    decide +kernel
  exact
    ⟨hhash, fun e he e' he' => ((tagId_eq_iff keyed "cpu" lookalikes hhash).2.2.2 e he e' he').1⟩

/-- Two lines of JSON with different tags whose bytes are the same. Their records share a key,
and one tag row has to do for both. -/
theorem bytes_nestedTag :
    (Metric.read? ("\x7b\"name\":\"cpu\",\"tags\":\x7b\"a\":\"b\\u0000c\\u0000d\"\x7d," ++
      "\"timestamp\":\"2024-01-01T00:00:00Z\"\x7d")).map Metric.tags = some (.ofList nestedTag) ∧
    (Metric.read? ("\x7b\"name\":\"cpu\",\"tags\":\x7b\"a\":\"b\",\"c\":\"d\"\x7d," ++
      "\"timestamp\":\"2024-01-01T00:00:00Z\"\x7d")).map Metric.tags = some (.ofList looseTags) ∧
    Tags.bytes (.ofList nestedTag) = Tags.bytes (.ofList looseTags) ∧
    KeyMap.ofList nestedTag ≠ KeyMap.ofList looseTags ∧
    ((after keyed "cpu" [.push (recordOf nestedTag), .push (recordOf looseTags)]).tagRows
      keyed).length = 1 := by
  refine ⟨?_, ?_, ?_, ?_, ?_⟩ <;> decide +kernel

end TableBatch

end MetricTables
