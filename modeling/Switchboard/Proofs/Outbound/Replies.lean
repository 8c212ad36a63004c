import Switchboard.Outbound.Reply
import Switchboard.Proofs.Inbound.Grammar
import Switchboard.Proofs.Outbound.RoundTrip
/-
  Replies arrive as they were meant. A problem without details carries no JSON of its own, so it
  comes back from its text under every id that is not empty, whatever text of a client it quotes
  (`Outbound.problem_restored`). The id under which a request is accepted or refused is that of its
  frame, and never empty, as the frame has been filtered (`Inbound.Request.ofText_eq_error_iff`). So
  each reply is read with the id of the request, and with the code and the text of the problem
  (`reply_ofText_toText`).
-/
namespace Switchboard

open Switchboard.Json

/-! ## Problems without details -/

/-- What a problem quotes is only text, so nothing in it has to be kept as JSON. -/
theorem Outbound.embedded_problem {p : Outbound.Problem} (h : p.details = none) :
    (Outbound.Payload.problem p).embedded = [] := by
  rw [Outbound.Payload.embedded, Outbound.Problem.embedded, h]
  rfl

theorem Outbound.problem_restored {id : Option String} {p : Outbound.Problem} (hid : id ≠ some "")
    (hp : p.details = none) :
    Outbound.Message.ofText (Outbound.Message.problem id p).toText = .ok ⟨id, .problem p⟩ := by
  have hnone (P : Outbound.Embedded → Prop) :
      ∀ e ∈ (Outbound.Payload.problem p).embedded, P e := by
    rw [embedded_problem hp]
    exact List.forall_mem_nil P
  have hsendable : (Outbound.Message.problem id p).Sendable := ⟨hid, hnone _⟩
  exact hsendable.restored (hnone _) (hnone _)

/-! ## The ids of requests -/

namespace Inbound

theorem Frame.requestId_ne (f : Frame) : f.requestId ≠ some "" := filter_ne_empty f.id

/-- A text is refused because it is no frame, or because the frame in it breaks a rule. -/
theorem Request.ofText_eq_error_iff {text : String} {e : Rejection} :
    Request.ofText text = .error e ↔
      (∃ r, e = .malformed r ∧ Frame.record.codec.ofText text = .error r) ∨
      ∃ f v, Frame.record.codec.ofText text = .ok f ∧ e = .invalid f.requestId v ∧
        f.checkedPayload = .error v := by
  unfold Request.ofText
  cases Frame.record.codec.ofText text with
  | ok f => simp [Request.ofFrame_eq_error_iff]
  | error r => simp [eq_comm]

/-- A request that has been accepted, in a text or in a frame. -/
def Request.Accepted (m : Request) : Prop :=
  (∃ text, Request.ofText text = .ok m) ∨ ∃ f, Request.ofFrame f = .ok m

theorem Request.Accepted.id_ne {m : Request} (h : m.Accepted) : m.id ≠ some "" := by
  rcases h with ⟨text, h⟩ | ⟨f, h⟩
  · exact (sendable_of_ofText h).id_ne
  · rw [(Request.ofFrame_eq_ok_iff.mp h).1]
    exact f.requestId_ne

end Inbound

/-! ## Replies -/

/-- The reply to a text that is no frame is read as `invalid_format`, without an id. The reply to a
    frame that breaks a rule is read with the id of the frame, if that is not empty, and with the
    code and the text of the violation. The replies to an accepted request are read with its id. -/
theorem reply_ofText_toText :
    (∀ text refusal, Inbound.Request.ofText text = .error (.malformed refusal) →
      Inbound.Frame.record.codec.ofText text = .error refusal ∧
        Outbound.Message.ofText (Inbound.Rejection.malformed refusal).reply.toText =
          .ok ⟨none, .problem ⟨"invalid_format", "Invalid data format.", none⟩⟩) ∧
    (∀ text id v, Inbound.Request.ofText text = .error (.invalid id v) →
      (∃ f, Inbound.Frame.record.codec.ofText text = .ok f ∧ id = f.id.filter (· ≠ "")) ∧
        Outbound.Message.ofText (Inbound.Rejection.invalid id v).reply.toText =
          .ok ⟨id, .problem ⟨v.code, v.message, none⟩⟩) ∧
    ∀ m : Inbound.Request, m.Accepted →
      (∀ p, p.details = none →
        Outbound.Message.ofText (m.reply p).toText = .ok ⟨m.id, .problem p⟩) ∧
      ∀ what, Outbound.Message.ofText (m.internalReply what).toText =
        .ok ⟨m.id, .problem ⟨"internal_error", what, none⟩⟩ := by
  refine ⟨fun text refusal h => ?_, fun text id v h => ?_,
    fun m h => ⟨fun p hp => ?_, fun what => ?_⟩⟩
  · rcases Inbound.Request.ofText_eq_error_iff.mp h with ⟨r, hr, hread⟩ | ⟨f, w, -, he, -⟩
    · cases hr
      exact ⟨hread, Outbound.problem_restored nofun rfl⟩
    · cases he
  · rcases Inbound.Request.ofText_eq_error_iff.mp h with ⟨r, hr, -⟩ | ⟨f, w, hf, he, -⟩
    · cases hr
    · cases he
      exact ⟨⟨f, hf, rfl⟩, Outbound.problem_restored f.requestId_ne rfl⟩
  · exact Outbound.problem_restored h.id_ne hp
  · exact Outbound.problem_restored h.id_ne rfl

/-- A text that breaks off. -/
def brokenText : String := "\x7b\"id\":\"1\""

/-- A hello of a version with a quote and a line feed in it. -/
def versionText : String :=
  "\x7b\"id\":\"2\",\"type\":\"hello\",\"hello\":\x7b\"version\":\"\\\"\\n\"\x7d\x7d"

/-- A bye under an id. -/
def byeText : String := "\x7b\"id\":\"3\",\"type\":\"bye\"\x7d"

theorem reply_ofText_toText_samples :
    (∃ refusal, Inbound.Request.ofText brokenText = .error (.malformed refusal) ∧
      Outbound.Message.ofText (Inbound.Rejection.malformed refusal).reply.toText =
        .ok ⟨none, .problem ⟨"invalid_format", "Invalid data format.", none⟩⟩) ∧
    (Inbound.Request.ofText versionText =
        .error (.invalid (some "2") (.unsupportedVersion "\"\n")) ∧
      Outbound.Message.ofText
          (Inbound.Rejection.invalid (some "2") (.unsupportedVersion "\"\n")).reply.toText =
        .ok ⟨some "2", .problem
          ⟨"unsupported_version", "unsupported hello version: \"\n", none⟩⟩) ∧
    Inbound.Request.ofText byeText = .ok ⟨some "3", .bye ⟨⟩⟩ ∧
      (let m : Inbound.Request := ⟨some "3", .bye ⟨⟩⟩
      Outbound.Message.ofText (m.reply ⟨"busy", "\\", none⟩).toText =
          .ok ⟨some "3", .problem ⟨"busy", "\\", none⟩⟩ ∧
        Outbound.Message.ofText (m.internalReply "").toText =
          .ok ⟨some "3", .problem ⟨"internal_error", "", none⟩⟩) := by
  have hbroken : Inbound.Request.ofText brokenText =
      .error (.malformed ⟨.endInObject, some ⟨1, 9⟩⟩) := by rfl
  have hversion : Inbound.Request.ofText versionText =
      .error (.invalid (some "2") (.unsupportedVersion "\"\n")) := by rfl
  have hbye : Inbound.Request.ofText byeText = .ok ⟨some "3", .bye ⟨⟩⟩ := by rfl
  obtain ⟨hplain, hinternal⟩ := reply_ofText_toText.2.2 _ (.inl ⟨byeText, hbye⟩)
  exact ⟨⟨_, hbroken, (reply_ofText_toText.1 _ _ hbroken).2⟩,
    ⟨hversion, (reply_ofText_toText.2.1 _ _ _ hversion).2⟩,
    hbye, hplain ⟨"busy", "\\", none⟩ rfl, hinternal ""⟩

end Switchboard
