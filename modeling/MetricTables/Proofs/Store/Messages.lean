import MetricTables.Proofs.Text.Occurrence
import MetricTables.Store.Database

/-!
# Names in messages

A message of the engine names a table or a column in the middle of a fixed text, and the failure
it stands for is found by phrases, tried one after the other. The fixed texts contain the phrase
of their own complaint and none that is tried before it, so only the name can mislead: a name
without the earlier phrases leaves the reading to the fixed text.

Whether the call may succeed later is read off the name in one case, on purpose. An entry that
was made twice goes away by itself if it is the row of a tag set, and it is one if the key is
named.

## Main definitions

* `Complaint` — what a message says, and its text around a name.
* `Complaint.earlier` — the phrases that are tried before its own.
* `Complaint.IsReadAs` — the failure that a complaint is to become.

## Main statements

* `occursIn_message_iff` — an earlier phrase stands in a message exactly if the name has it.
* `isReadAs_of_forall_earlier` — a name without earlier phrases does not change the reading.
* `not_forall_reading` — names that do.
-/

namespace MetricTables

/-- What a message says about the name in it. -/
inductive Complaint where
  | tableMissing
  | columnMissing
  | columnRepeated
  | tableTaken
  | keyTaken
  deriving DecidableEq, Repr

/-- How a message is printed: as the engine says it, or with a note of where it comes from. -/
inductive Printing where
  | bare
  | wrapped
  deriving DecidableEq, Repr

namespace Printing

/-- The text before and after a message. -/
def frame : Printing → String × String
  | .bare => ("", "")
  | .wrapped => ("SQL execution failure: \x60", "\x60")

end Printing

namespace Complaint

open StoreError

/-- The text before and after the name. -/
def frame : Complaint → String × String
  | .tableMissing => ("no such table: ", "")
  | .columnMissing => ("no such column: ", "")
  | .columnRepeated => ("duplicate column name: ", "")
  | .tableTaken => ("table ", " already exists")
  | .keyTaken => ("UNIQUE constraint failed: ", "")

/-- The message about a name. -/
def text (k : Complaint) (name : String) : String := k.frame.1 ++ name ++ k.frame.2

def message (k : Complaint) (p : Printing) (name : String) : String :=
  p.frame.1 ++ k.text name ++ p.frame.2

def code : Complaint → String
  | .tableMissing => StateCode.undefinedTable
  | .columnMissing => StateCode.undefinedColumn
  | .columnRepeated => StateCode.duplicateColumn
  | .tableTaken => StateCode.duplicateTable
  | .keyTaken => StateCode.uniqueViolation

/-- Whether something is not there that was asked for. -/
def isAboutMissing : Complaint → Bool
  | .tableMissing | .columnMissing => true
  | _ => false

def isAboutExisting : Complaint → Bool
  | .columnRepeated | .tableTaken => true
  | _ => false

/-- The phrases with other codes that are tried before its own. -/
def earlierPhrases (k : Complaint) : List (String × String) :=
  phrases.takeWhile fun p => p.2 != k.code

/-- The phrases that are tried before its own. -/
def earlier (k : Complaint) : List String :=
  "database is locked" :: "busy" :: k.earlierPhrases.map (·.1)

/-- The failure is read off the complaint. The name counts only where a key was taken: the row of
a tag set may be entered by somebody else. -/
structure IsReadAs (k : Complaint) (name : String) (e : StoreError) : Prop where
  code : e.code? = some k.code
  drift : e.isSchemaDrift = k.isAboutMissing
  duplicate : e.isDuplicateObject = k.isAboutExisting
  temporary : e.isTemporary =
    (k.isAboutExisting || k == .keyTaken && Text.occursIn "tag_id" name)

/-! ## The text around the name -/

/-- The characters before and after the name in a printed message. -/
def surroundings (k : Complaint) (p : Printing) : List Char × List Char :=
  (p.frame.1.toList ++ k.frame.1.toList, k.frame.2.toList ++ p.frame.2.toList)

theorem toList_message (k : Complaint) (p : Printing) (name : String) :
    (k.message p name).toList =
      (k.surroundings p).1 ++ name.toList ++ (k.surroundings p).2 := by
  simp [message, text, surroundings]

theorem message_bare (k : Complaint) (name : String) : k.message .bare name = k.text name := by
  simp [message, Printing.frame]

/-- What the embedded database raises is the wrapped message. -/
theorem failure_text (k : Complaint) (name : String) :
    Database.failure (k.text name) = ofEngineMessage (k.message .wrapped name) := rfl

/-- No earlier phrase stands in the small letters around the name or reaches into them. -/
theorem between_earlier (k : Complaint) (p : Printing) :
    ∀ phrase ∈ k.earlier, Text.Between phrase.toList
      (Text.smallLetters (k.surroundings p).1) (Text.smallLetters (k.surroundings p).2) := by
  cases k <;> cases p <;> decide +kernel

theorem no_sigma_of_mem_earlier (k : Complaint) :
    ∀ phrase ∈ k.earlier, 'σ' ∉ phrase.toList ∧ 'ς' ∉ phrase.toList := by
  cases k <;> decide +kernel

/-- An earlier phrase stands in a message exactly if it stands in the name. -/
theorem occursIn_message_iff {k : Complaint} {phrase : String} (hphrase : phrase ∈ k.earlier)
    (p : Printing) (name : String) :
    Text.occursIn phrase (Text.lower (k.message p name)) = true ↔
      Text.occursIn phrase (Text.lower name) = true := by
  have hsigma := k.no_sigma_of_mem_earlier phrase hphrase
  rw [Text.occursIn_lower_iff hsigma, Text.occursIn_lower_iff hsigma, toList_message,
    Text.smallLetters_append, Text.smallLetters_append,
    Text.infix_between (k.between_earlier p phrase hphrase)]

/-- The name of the key is not in the text around the name. -/
theorem occursIn_tagId_message_iff (k : Complaint) (p : Printing) (name : String) :
    Text.occursIn "tag_id" (k.message p name) = true ↔ Text.occursIn "tag_id" name = true := by
  have hbetween : Text.Between "tag_id".toList (k.surroundings p).1 (k.surroundings p).2 := by
    cases k <;> cases p <;> decide +kernel
  rw [Text.occursIn_iff, Text.occursIn_iff, toList_message, Text.infix_between hbetween]

/-! ## The phrase of the complaint -/

/-- After the earlier phrases comes one that stands in the text around the name. -/
theorem exists_phrase (k : Complaint) : ∃ phrase rest,
    phrases = k.earlierPhrases ++ (phrase, k.code) :: rest ∧
      ('σ' ∉ phrase.toList ∧ 'ς' ∉ phrase.toList) ∧
      ∀ p, phrase.toList <:+: Text.smallLetters (k.surroundings p).1 ∨
        phrase.toList <:+: Text.smallLetters (k.surroundings p).2 := by
  cases k with
  | tableMissing =>
    exact ⟨"no such table", _, rfl, by decide +kernel,
      fun p => .inl (by cases p <;> decide +kernel)⟩
  | columnMissing =>
    exact ⟨"no such column", _, rfl, by decide +kernel,
      fun p => .inl (by cases p <;> decide +kernel)⟩
  | columnRepeated =>
    exact ⟨"duplicate column", _, rfl, by decide +kernel,
      fun p => .inl (by cases p <;> decide +kernel)⟩
  | tableTaken =>
    exact ⟨"already exists", _, rfl, by decide +kernel,
      fun p => .inr (by cases p <;> decide +kernel)⟩
  | keyTaken =>
    exact ⟨"unique constraint", _, rfl, by decide +kernel,
      fun p => .inl (by cases p <;> decide +kernel)⟩

/-- The small letters of a message contain what the text around the name contains. -/
theorem infix_message_of_surroundings {piece : List Char} {k : Complaint} {p : Printing}
    (h : piece <:+: Text.smallLetters (k.surroundings p).1 ∨
      piece <:+: Text.smallLetters (k.surroundings p).2) (name : String) :
    piece <:+: Text.smallLetters (k.message p name).toList := by
  rw [toList_message, Text.smallLetters_append, Text.smallLetters_append]
  rcases h with h | h
  · exact (h.trans (List.prefix_append _ _).isInfix).trans (List.prefix_append _ _).isInfix
  · exact h.trans (List.suffix_append _ _).isInfix

/-- Without an earlier phrase the message has the code of its complaint. -/
theorem ofEngineMessage_message {k : Complaint} {name : String}
    (hname : ∀ phrase ∈ k.earlier, Text.occursIn phrase (Text.lower name) = false)
    (p : Printing) :
    ofEngineMessage (k.message p name) = .database k.code (k.message p name) := by
  have hnone : ∀ phrase ∈ k.earlier,
      Text.occursIn phrase (Text.lower (k.message p name)) = false := fun phrase hphrase =>
    Bool.eq_false_iff.2 fun h =>
      Bool.eq_false_iff.1 (hname phrase hphrase) ((occursIn_message_iff hphrase p name).1 h)
  obtain ⟨phrase, rest, hphrases, hsigma, hown⟩ := k.exists_phrase
  have hhere : Text.occursIn phrase (Text.lower (k.message p name)) = true :=
    (Text.occursIn_lower_iff hsigma).2 (infix_message_of_surroundings (hown p) name)
  have hbefore : ∀ q ∈ k.earlierPhrases,
      Text.occursIn q.1 (Text.lower (k.message p name)) = false := fun q hq =>
    hnone q.1 (List.mem_cons_of_mem _ (List.mem_cons_of_mem _ (List.mem_map_of_mem hq)))
  have hfind : (phrases.find? fun q => Text.occursIn q.1 (Text.lower (k.message p name))) =
      some (phrase, k.code) := by
    rw [hphrases, List.find?_append, List.find?_eq_none.2 fun q hq => by simp [hbefore q hq],
      Option.none_or]
    simp only [List.find?_cons, hhere]
  have hlocked := hnone "database is locked" List.mem_cons_self
  have hbusy := hnone "busy" (List.mem_cons_of_mem _ List.mem_cons_self)
  simp [ofEngineMessage, hlocked, hbusy, hfind]

/-! ## What the failure means -/

theorem isReadAs_message {k : Complaint} {name : String}
    (hname : ∀ phrase ∈ k.earlier, Text.occursIn phrase (Text.lower name) = false)
    (p : Printing) : k.IsReadAs name (ofEngineMessage (k.message p name)) := by
  rw [ofEngineMessage_message hname p]
  refine ⟨rfl, by cases k <;> rfl, by cases k <;> rfl, ?_⟩
  have htag := Bool.eq_iff_iff.2 (k.occursIn_tagId_message_iff p name)
  rw [isTemporary, isTemporaryCode, htag]
  cases k <;> rfl

/-- A name without earlier phrases does not change how a message is read, be it bare or raised by
the embedded database. -/
theorem isReadAs_of_forall_earlier (k : Complaint) (name : String)
    (hname : ∀ phrase ∈ k.earlier, Text.occursIn phrase (Text.lower name) = false) :
    k.IsReadAs name (ofEngineMessage (k.text name)) ∧
      k.IsReadAs name (Database.failure (k.text name)) := by
  rw [failure_text, ← message_bare]
  exact ⟨isReadAs_message hname .bare, isReadAs_message hname .wrapped⟩

/-- A name with a later phrase, and with a sigma that looks different at the end of a word. -/
def laterPhrases : String := "UNIQUE constraint: ΟΔΟΣ"

theorem isReadAs_laterPhrases :
    (∀ phrase ∈ Complaint.columnMissing.earlier,
      Text.occursIn phrase (Text.lower laterPhrases) = false) ∧
      Complaint.columnMissing.IsReadAs laterPhrases
        (ofEngineMessage (Complaint.columnMissing.text laterPhrases)) ∧
      Complaint.columnMissing.IsReadAs laterPhrases
        (Database.failure (Complaint.columnMissing.text laterPhrases)) := by
  have hlower : Text.lower laterPhrases = "unique constraint: οδος" := by
    decide +kernel
  have hname : ∀ phrase ∈ Complaint.columnMissing.earlier,
      Text.occursIn phrase (Text.lower laterPhrases) = false := by
    rw [hlower]
    decide +kernel
  exact ⟨hname, isReadAs_of_forall_earlier _ _ hname⟩

/-- A missing table with an earlier phrase for a name is not read as missing, and an entry that
was made twice is retried for one name and not for another. -/
theorem not_forall_reading :
    (Database.failure (Complaint.tableMissing.text "busy")).code? ≠
        some StateCode.undefinedTable ∧
      (Database.failure (Complaint.tableMissing.text "already exists")).code? ≠
        some StateCode.undefinedTable ∧
      (Database.failure (Complaint.keyTaken.text "cpu_tag.tag_id")).isTemporary ≠
        (Database.failure (Complaint.keyTaken.text "cpu.host")).isTemporary := by
  decide +kernel

end Complaint

end MetricTables
