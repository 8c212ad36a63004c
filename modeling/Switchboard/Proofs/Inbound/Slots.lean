import Switchboard.Proofs.Inbound.Grammar
import Switchboard.Proofs.Json.Members
/-
  How the slots of a frame are read. Every record of a frame reads one value of the grammar
  (`Frame.whole_fields`), reads it alike wherever it stands (`Frame.local_fields`) and opens few
  brackets, so each slot can be told from the text of its value alone (`exists_slot_iff`). Which of
  the slots counts is said by the member `type` (`AsksFor`).
-/
namespace Switchboard.Inbound

open Switchboard.Json

/-! ## One value each -/

theorem Auth.whole_fields : Auth.record.fields.Whole :=
  ⟨whole_text, whole_raw.optional, whole_text, trivial⟩

theorem Hello.whole_fields : Hello.record.fields.Whole :=
  ⟨whole_text, whole_text, whole_text.list, Record.whole Auth.whole_fields (by decide), trivial⟩

theorem Hello.whole : Hello.record.codec.Whole := Record.whole Hello.whole_fields (by decide)

theorem Bye.whole : Bye.record.codec.Whole := Record.whole trivial (by decide)

theorem Recipient.whole_fields : Recipient.record.fields.Whole :=
  ⟨whole_text, whole_text, whole_text, trivial⟩

theorem Room.whole_fields : Room.record.fields.Whole := ⟨whole_text, whole_text, trivial⟩

theorem Room.whole : Room.record.codec.Whole := Record.whole Room.whole_fields (by decide)

theorem Message.whole_fields : Message.record.fields.Whole :=
  ⟨Record.whole Recipient.whole_fields (by decide), whole_raw.optional, trivial⟩

theorem Message.whole : Message.record.codec.Whole :=
  Record.whole Message.whole_fields (by decide)

theorem Frame.whole_fields : Frame.record.fields.Whole :=
  ⟨whole_text.optional, whole_text, Hello.whole.optional, Bye.whole.optional, Room.whole.optional,
    Message.whole.optional, Message.whole.optional, trivial⟩

/-! ## Alike everywhere -/

theorem Hello.local_fields : Hello.record.fields.Local :=
  ⟨local_text, local_text, local_text.list,
    Record.local ⟨local_text, local_raw.optional, local_text, trivial⟩, trivial⟩

theorem Room.local_fields : Room.record.fields.Local := ⟨local_text, local_text, trivial⟩

theorem Message.local_fields : Message.record.fields.Local :=
  ⟨Record.local ⟨local_text, local_text, local_text, trivial⟩, local_raw.optional, trivial⟩

theorem Frame.local_fields : Frame.record.fields.Local :=
  ⟨local_text.optional, local_text, (Record.local Hello.local_fields).optional,
    (Record.local (r := Bye.record) trivial).optional,
    (Record.local Room.local_fields).optional,
    (Record.local Message.local_fields).optional, (Record.local Message.local_fields).optional,
    trivial⟩

/-! ## Few brackets -/

theorem Hello.shallow : Hello.record.codec.Shallow 2 :=
  Record.shallow ⟨shallow_text 1, shallow_text 1, (shallow_text 0).list,
    Record.shallow ⟨shallow_text 0, (shallow_raw 0).optional, shallow_text 0, trivial⟩, trivial⟩

theorem Bye.shallow : Bye.record.codec.Shallow 2 := Record.shallow (n := 1) trivial

theorem Room.shallow : Room.record.codec.Shallow 2 :=
  Record.shallow ⟨shallow_text 1, shallow_text 1, trivial⟩

theorem Message.shallow : Message.record.codec.Shallow 2 :=
  Record.shallow ⟨Record.shallow ⟨shallow_text 0, shallow_text 0, shallow_text 0, trivial⟩,
    (shallow_raw 1).optional, trivial⟩

/-- What is read in the slot of a payload is `null` or what the payload alone is read from. -/
theorem exists_slot_iff {α : Type} {r : Record α} (hwhole : r.codec.Whole)
    (hshallow : r.codec.Shallow 2) {v : List Char} (hv : ValueText v) :
    (∃ a, r.codec.optional.valueOf? (deepest - 1) v = some a) ↔
      v = writeNull ∨ ∃ a, r.codec.ofText (String.ofList v) = .ok a := by
  rw [Codec.exists_optional_iff _ _ hv,
    Record.valueOf?_eq_ofText hwhole hshallow (by decide) (by decide) hv]
  simp only [toOption_eq_some_iff]

/-! ## What a frame asks for -/

/-- Some member `type` is a string that names the kind. -/
def AsksFor (ms : List (List Char × List Char)) (kind : String) : Prop :=
  ∃ n w, (n, '"' :: (w ++ ['"'])) ∈ ms ∧ Spells n "type".toList ∧ Spells w kind.toList

/-! ## From the text of a request to its frame -/

/-- A request that has been read is held by a frame that has been read. -/
theorem Request.exists_frame {text : String} {m : Request} (h : Request.ofText text = .ok m) :
    ∃ f rest, Frame.record.codec.read deepest text.toList = .ok (f, rest) ∧
      skipBlanks rest = [] ∧ f.Holds m.payload := by
  unfold Request.ofText at h
  split at h
  · next f hread =>
    obtain ⟨rest, hframe, hend⟩ := read_of_ofText hread
    have hpayload := (Request.ofFrame_eq_ok_iff.mp h).2
    exact ⟨f, rest, hframe, hend,
      Frame.payload_eq_ok_iff.mp (Frame.checkedPayload_eq_ok_iff.mp hpayload).1⟩
  · cases h

end Switchboard.Inbound
