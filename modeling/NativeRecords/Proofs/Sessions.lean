/-
# NativeRecords.Proofs.Sessions -- what a reader keeps, and that it comes to an end

A reader works on one state, follows aliases through it and may stop with a failure anywhere. The
steps put the state back whatever comes of them, and two things follow. Reading always ends, since
each alias on the way is opened at most once. And a reader that has no alias open has none open when
it is done, so the documents that it has read before make no difference to the next one.
-/
import NativeRecords.Source.Reader

namespace NativeRecords.Source

namespace Reader

variable {reader : Reader}

/-! ## One document -/

/-- Reading a document leaves the aliases open that were open before, and no others. If there were
none, it gives what the document means, whatever the table was. -/
theorem exists_read (reader : Reader) (document : Json) :
    ∃ outcome table, reader.read document = (outcome, ⟨table, reader.expanding⟩) ∧
      (reader.expanding = [] → outcome = readDocument document) := by
  obtain ⟨outcome, table, ends, meaning⟩ := Reading.exists_ofDocument reader document
  have given : some (reader.read document) = Reading.ofDocument document reader := by
    rw [read, Option.some_get]
  exact ⟨outcome, table, Option.some.inj (given.trans ends), meaning⟩

theorem expanding_read (reader : Reader) (document : Json) :
    (reader.read document).2.expanding = reader.expanding := by
  obtain ⟨outcome, table, same, _⟩ := exists_read reader document
  rw [same]

theorem read_of_closed (closed : reader.expanding = []) (document : Json) :
    (reader.read document).1 = readDocument document := by
  obtain ⟨outcome, table, same, meaning⟩ := exists_read reader document
  rw [same]
  exact meaning closed

/-! ## Documents in turn -/

/-- The reader after it has read documents in turn. -/
def after (reader : Reader) (documents : List Json) : Reader :=
  documents.foldl (fun reader document => (reader.read document).2) reader

theorem expanding_after (reader : Reader) (documents : List Json) :
    (reader.after documents).expanding = reader.expanding := by
  induction documents generalizing reader with
  | nil => rfl
  | cons document documents ih =>
    have rest : (reader.after (document :: documents)).expanding
        = (reader.read document).2.expanding := ih _
    rw [rest, expanding_read]

theorem readEach_of_closed (closed : reader.expanding = []) (documents : List Json) :
    reader.readEach documents = documents.map readDocument := by
  induction documents generalizing reader with
  | nil => rfl
  | cons document documents ih =>
    have stillClosed : (reader.read document).2.expanding = [] := by
      rw [expanding_read, closed]
    rw [readEach, List.map_cons, ← read_of_closed closed, ← ih stillClosed]

end Reader

/-! ## The laws of a reader -/

/-- **Reading ends.** From every state, with whatever declarations in the table and whatever aliases
open, each of the four steps that call each other ends and puts the state back, and so does reading
any document end. In the steps themselves nothing sees to that: one that comes to a state with no
fewer names left to expand is `none`. -/
theorem reading_ends (reader : Reader) :
    (∀ expr, ∃ outcome, Reading.ofType expr reader = some (outcome, reader)) ∧
    (∀ expr, ∃ outcome, Reading.ofProperty expr reader = some (outcome, reader)) ∧
    (∀ reversed, ∃ outcome, Reading.ofName reversed reader = some (outcome, reader)) ∧
    (∀ name, ∃ outcome, Reading.ofReference name reader = some (outcome, reader)) ∧
    ∀ document, ∃ outcome after, Reading.ofDocument document reader = some (outcome, after) := by
  have refers := Reading.gives_reference reader.table reader.expanding
  refine ⟨?_, ?_, ?_, ?_, ?_⟩
  · intro expr
    exact ⟨_, Reading.gives_typeWith refers expr⟩
  · intro expr
    exact ⟨_, Reading.gives_propertyWith refers expr⟩
  · intro reversed
    exact ⟨_, Reading.gives_nameWith refers reversed⟩
  · intro name
    exact ⟨_, refers name⟩
  · intro document
    obtain ⟨outcome, table, ends, _⟩ := Reading.exists_ofDocument reader document
    exact ⟨outcome, _, ends⟩

-- two aliases that stand for each other, one of them below an array
example :
    let table : List Outline := [.typeAlias "Left" false (some (.named "Right[]")),
      .typeAlias "Right" false (some (.union [.named "Left", .named "null"]))]
    Reading.ofReference "Left" ⟨table, []⟩ =
      some (.ok (.array "Right[]" (.union "Right" (some "Right")
        [.other "Left", .nullish .null "null"])), ⟨table, []⟩) := by
  cbv

/-- **A reader forgets.** After any documents, read with success or without, the next document comes
out as with a new reader, which is as `readDocument` says, and no alias is left open. -/
theorem reader_forgets (history : List Json) (document : Json) :
    Reader.readEach {} history = history.map (fun earlier => (Reader.read {} earlier).1) ∧
    ((Reader.after {} history).read document).1 = (Reader.read {} document).1 ∧
    (Reader.read {} document).1 = readDocument document ∧
    (Reader.after {} history).expanding = [] := by
  have fresh (other : Json) : (Reader.read {} other).1 = readDocument other :=
    Reader.read_of_closed rfl other
  have closed : (Reader.after {} history).expanding = [] := Reader.expanding_after {} history
  refine ⟨?_, ?_, fresh document, closed⟩
  · rw [Reader.readEach_of_closed rfl]
    exact List.map_congr_left fun earlier _ => (fresh earlier).symm
  · rw [Reader.read_of_closed closed, fresh]

end NativeRecords.Source
