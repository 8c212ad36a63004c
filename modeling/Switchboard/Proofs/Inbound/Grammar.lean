import Switchboard.Proofs.Inbound.RoundTrip
/-
  Which frames are requests. The grammar (`Frame.Grammar`) says what a frame needs for the kind that
  it names, without an order of checks. The rules (`Frame.rules`) say what can be wrong with a frame,
  each for itself, in the order in which violations are reported. A hello or a message is complete
  exactly if it breaks none of its rules, and the checks report the first rule that is broken
  (`Hello.violation?_credentials`, `Message.violation?_check`). `ofFrame_grammar` puts this together
  for whole frames: they are read by the grammar, and refused by the first broken rule.
-/
namespace Switchboard.Inbound

open Switchboard.Json

/-! ## The grammar -/

/-- The blob that is there, and is not empty. -/
def Given (slot : Option Raw) (b : Raw) : Prop := slot = some b ∧ b.text ≠ ""

/-- Credentials that can be handed on: those of a client name a URL, and internal ones can be
    decoded. -/
inductive Auth.Complete (a : Auth) : Prop
  | client (params : Raw) (url : Url) (given : Given a.params params)
      (kind : a.kind = "" ∨ a.kind = "client") (named : a.url ≠ "")
      (read : Url.ofText a.url = .ok url)
  | internal (params : Raw) (decoded : InternalParams) (given : Given a.params params)
      (kind : a.kind = "internal")
      (read : InternalParams.record.codec.ofText params.text = .ok decoded)

/-- A hello of the one version, which resumes a session or brings credentials. -/
structure Hello.Complete (h : Hello) : Prop where
  version : h.version = "1.0"
  opens : h.resumeId ≠ "" ∨ h.auth.Complete

/-- A recipient that is a room, or a session or a user with an id. -/
inductive Recipient.Complete (r : Recipient) : Prop
  | room (kind : r.kind = "room")
  | session (kind : r.kind = "session") (id_ne : r.sessionId ≠ "")
  | user (kind : r.kind = "user") (id_ne : r.userId ≠ "")

/-- A message with data for a recipient. -/
structure Message.Complete (m : Message) : Prop where
  data : ∃ b, Given m.data b
  recipient : m.recipient.Complete

/-- A payload that is complete, where its kind asks for something. -/
def Payload.Complete : Payload → Prop
  | .hello h => h.Complete
  | .message m | .control m => m.Complete
  | .bye _ | .room _ | .other _ => True

/-- The grammar of requests: the frame holds the payload, and the payload is complete. -/
structure Frame.Grammar (f : Frame) (p : Payload) : Prop where
  holds : f.Holds p
  complete : p.Complete

/-! ## The rules -/

/-- A rule: the violation by something that breaks it. -/
abbrev Rule (α : Type) := α → Option Violation

/-- The violation of the first of some rules that is broken. -/
def firstBroken? {α : Type} (rules : List (Rule α)) (a : α) : Option Violation :=
  rules.findSome? fun rule => rule a

/-- A rule for a part, as a rule for what may have the part. -/
def Rule.on {α β : Type} (part? : β → Option α) (rule : Rule α) : Rule β :=
  fun b => (part? b).bind rule

/-- The violation that a check has found. -/
def violation? {α : Type} : Except Violation α → Option Violation
  | .ok _ => none
  | .error v => some v

namespace Auth

/-- Whether the credentials are those of a client. -/
def IsClient (a : Auth) : Prop := a.kind = "" ∨ a.kind = "client"

instance (a : Auth) : Decidable a.IsClient := inferInstanceAs (Decidable (_ ∨ _))

def paramsRule : Rule Auth := fun a =>
  if a.params.any (·.text ≠ "") then none else some .paramsMissing

def kindRule : Rule Auth := fun a =>
  if a.IsClient ∨ a.kind = "internal" then none else some .unsupportedAuthType

def urlRule : Rule Auth := fun a => if a.IsClient ∧ a.url = "" then some .urlMissing else none

def readableUrlRule : Rule Auth := fun a =>
  if a.IsClient then
    match Url.ofText a.url with
    | .ok _ => none
    | .error fault => some (.invalidUrl fault)
  else none

def readableParamsRule : Rule Auth := fun a =>
  if a.kind = "internal" then
    a.params.bind fun b =>
      match InternalParams.record.codec.ofText b.text with
      | .ok _ => none
      | .error refusal => some (.invalidAuthParams refusal)
  else none

def rules : List (Rule Auth) :=
  [paramsRule, kindRule, urlRule, readableUrlRule, readableParamsRule]

end Auth

namespace Hello

def versionRule : Rule Hello := fun h =>
  if h.version = "1.0" then none else some (.unsupportedVersion h.version)

/-- The credentials that are asked for: those of a hello that does not resume a session. -/
def auth? (h : Hello) : Option Auth := if h.resumeId = "" then some h.auth else none

def rules : List (Rule Hello) := versionRule :: Auth.rules.map (Rule.on auth?)

end Hello

namespace Message

def dataRule : Rule Message := fun m =>
  if m.data.any (·.text ≠ "") then none else some .messageEmpty

def kindRule : Rule Message := fun m =>
  if m.recipient.kind ∈ ["room", "session", "user"] then none
  else some (.unsupportedRecipientType m.recipient.kind)

def sessionRule : Rule Message := fun m =>
  if m.recipient.kind = "session" ∧ m.recipient.sessionId = "" then some .sessionIdMissing else none

def userRule : Rule Message := fun m =>
  if m.recipient.kind = "user" ∧ m.recipient.userId = "" then some .userIdMissing else none

def rules : List (Rule Message) := [dataRule, kindRule, sessionRule, userRule]

end Message

namespace Frame

def typeRule : Rule Frame := fun f => if f.kind = "" then some .typeMissing else none

/-- Whether the slot is empty that the frame names and may not leave empty. -/
def LacksPayload (f : Frame) : Prop :=
  f.kind = "hello" ∧ f.hello = none ∨ f.kind = "room" ∧ f.room = none ∨
    f.kind = "message" ∧ f.message = none ∨ f.kind = "control" ∧ f.control = none

instance (f : Frame) : Decidable f.LacksPayload := inferInstanceAs (Decidable (_ ∨ _))

def payloadRule : Rule Frame := fun f =>
  if f.LacksPayload then some (.payloadMissing f.kind) else none

/-- The hello that the frame names. -/
def hello? (f : Frame) : Option Hello := if f.kind = "hello" then f.hello else none

/-- The message that the frame names, as a message or as a control message. -/
def message? (f : Frame) : Option Message :=
  if f.kind = "message" then f.message else if f.kind = "control" then f.control else none

/-- The rules of requests, in the order in which violations are reported. -/
def rules : List (Rule Frame) :=
  [typeRule, payloadRule] ++ Hello.rules.map (Rule.on hello?) ++
    Message.rules.map (Rule.on message?)

/-- The frame without the slots that it does not name. -/
def narrowed (f : Frame) : Frame where
  id := f.id
  kind := f.kind
  hello := if f.kind = "hello" then f.hello else none
  bye := if f.kind = "bye" then f.bye else none
  room := if f.kind = "room" then f.room else none
  message := if f.kind = "message" then f.message else none
  control := if f.kind = "control" then f.control else none

end Frame

/-! ## Rules in general -/

theorem violation?_eq_none_iff {α : Type} {e : Except Violation α} :
    violation? e = none ↔ ∃ a, e = .ok a := by
  cases e with
  | ok a => exact ⟨fun _ => ⟨a, rfl⟩, fun _ => rfl⟩
  | error v => simp [violation?]

theorem violation?_eq_some_iff {α : Type} {e : Except Violation α} {v : Violation} :
    violation? e = some v ↔ e = .error v := by
  cases e with
  | ok a => simp [violation?]
  | error w => simp [violation?]

/-- The rules for a part find what they find in the part, if it is there. -/
theorem firstBroken?_on {α β : Type} (part? : β → Option α) (rules : List (Rule α)) (b : β) :
    firstBroken? (rules.map (Rule.on part?)) b = (part? b).bind (firstBroken? rules) := by
  have hon (rule : Rule α) : Rule.on part? rule b = (part? b).bind rule := rfl
  rw [firstBroken?, List.findSome?_map]
  simp only [Function.comp_def, hon]
  cases part? b with
  | none => exact List.findSome?_eq_none_iff.mpr fun rule _ => rfl
  | some a => rfl

theorem firstBroken?_eq_none_iff {α : Type} {rules : List (Rule α)} {a : α} :
    firstBroken? rules a = none ↔ ∀ rule ∈ rules, rule a = none :=
  List.findSome?_eq_none_iff

theorem firstBroken?_cons {α : Type} (rule : Rule α) (rules : List (Rule α)) (a : α) :
    firstBroken? (rule :: rules) a = (rule a).or (firstBroken? rules a) := by
  rw [firstBroken?, List.findSome?_cons]
  cases rule a <;> rfl

/-- A rule that is broken exactly if a condition fails. -/
theorem ite_none_some_eq_none {p : Prop} [Decidable p] {v : Violation} :
    (if p then none else some v) = none ↔ p := by
  by_cases h : p <;> simp [h]

theorem ite_some_none_eq_none {p : Prop} [Decidable p] {v : Violation} :
    (if p then some v else none) = none ↔ ¬p := by
  by_cases h : p <;> simp [h]

/-! ## Blobs that are given -/

theorem present?_eq_some_iff {slot : Option Raw} {b : Raw} :
    present? slot = some b ↔ Given slot b := by
  rw [present?, Option.filter_eq_some_iff, decide_eq_true_iff]
  rfl

theorem present?_eq_none_iff {slot : Option Raw} :
    present? slot = none ↔ slot.any (·.text ≠ "") = false := by
  rw [present?, Option.filter_eq_none_iff]
  cases slot <;> simp

theorem exists_given_iff {slot : Option Raw} :
    (∃ b, Given slot b) ↔ slot.any (·.text ≠ "") = true := by
  cases slot with
  | none => exact ⟨nofun, nofun⟩
  | some b =>
    rw [Option.any_some, decide_eq_true_iff]
    exact ⟨fun ⟨c, hc, hne⟩ => by cases hc; exact hne, fun hne => ⟨b, rfl, hne⟩⟩

/-! ## Hellos -/

namespace Auth

variable {a : Auth}

theorem paramsRule_eq_none : paramsRule a = none ↔ ∃ b, Given a.params b := by
  rw [exists_given_iff]
  exact ite_none_some_eq_none

theorem kindRule_eq_none : kindRule a = none ↔ a.IsClient ∨ a.kind = "internal" :=
  ite_none_some_eq_none

theorem urlRule_eq_none : urlRule a = none ↔ (a.IsClient → a.url ≠ "") := by
  rw [urlRule, ite_some_none_eq_none, not_and]

theorem readableUrlRule_eq_none :
    readableUrlRule a = none ↔ (a.IsClient → ∃ url, Url.ofText a.url = .ok url) := by
  unfold readableUrlRule
  by_cases hkind : a.IsClient
  · cases Url.ofText a.url <;> simp [hkind]
  · simp [hkind]

theorem readableParamsRule_eq_none :
    readableParamsRule a = none ↔ (a.kind = "internal" → ∀ b, a.params = some b →
      ∃ p, InternalParams.record.codec.ofText b.text = .ok p) := by
  unfold readableParamsRule
  by_cases hkind : a.kind = "internal"
  · cases a.params with
    | none => simp [hkind]
    | some b => cases h : InternalParams.record.codec.ofText b.text <;> simp [hkind, h]
  · simp [hkind]

theorem isClient_ne_internal (h : a.IsClient) : a.kind ≠ "internal" := by
  rcases h with h | h <;> rw [h] <;> decide

/-- Credentials are complete exactly if they break no rule. -/
theorem complete_iff : a.Complete ↔ firstBroken? rules a = none := by
  simp only [rules, firstBroken?_eq_none_iff, List.forall_mem_cons, List.not_mem_nil,
    false_imp_iff, implies_true, and_true, paramsRule_eq_none, kindRule_eq_none, urlRule_eq_none,
    readableUrlRule_eq_none, readableParamsRule_eq_none]
  constructor
  · rintro (⟨params, url, given, kind, named, read⟩ | ⟨params, p, given, kind, read⟩)
    · exact ⟨⟨params, given⟩, .inl kind, fun _ => named, fun _ => ⟨url, read⟩,
        fun h => absurd h (isClient_ne_internal kind)⟩
    · refine ⟨⟨params, given⟩, .inr kind, fun h => absurd kind (isClient_ne_internal h),
        fun h => absurd kind (isClient_ne_internal h), fun _ b hb => ?_⟩
      cases hb.symm.trans given.1
      exact ⟨p, read⟩
  · rintro ⟨⟨params, given⟩, kind | kind, named, readUrl, readParams⟩
    · obtain ⟨url, read⟩ := readUrl kind
      exact .client params url given kind (named kind) read
    · obtain ⟨p, read⟩ := readParams kind params given.1
      exact .internal params p given kind read

theorem firstBroken?_of_absent (h : present? a.params = none) :
    firstBroken? rules a = some .paramsMissing := by
  have hparams : paramsRule a = some .paramsMissing :=
    if_neg (by rw [present?_eq_none_iff.mp h]; decide)
  rw [rules, firstBroken?_cons, hparams]
  rfl

theorem firstBroken?_of_unsupported {params : Raw} (given : Given a.params params)
    (hclient : ¬a.IsClient) (hinternal : a.kind ≠ "internal") :
    firstBroken? rules a = some .unsupportedAuthType := by
  have hparams : paramsRule a = none := paramsRule_eq_none.mpr ⟨params, given⟩
  have hkind : kindRule a = some .unsupportedAuthType := if_neg (not_or_intro hclient hinternal)
  rw [rules, firstBroken?_cons, firstBroken?_cons, hparams, hkind]
  rfl

/-- The check of a client's credentials reports the first rule that is broken. -/
theorem violation?_client {params : Raw} (given : Given a.params params) (kind : a.IsClient) :
    violation? (a.client params) = firstBroken? rules a := by
  have hparams : paramsRule a = none := paramsRule_eq_none.mpr ⟨params, given⟩
  have hkind : kindRule a = none := kindRule_eq_none.mpr (.inl kind)
  have hinternal : readableParamsRule a = none :=
    readableParamsRule_eq_none.mpr fun h => absurd h (isClient_ne_internal kind)
  simp only [rules, firstBroken?_cons, hparams, hkind, hinternal, Option.none_or]
  unfold Auth.client urlRule readableUrlRule
  by_cases hurl : a.url = ""
  · simp [hurl, kind, violation?]
  · cases Url.ofText a.url <;> simp [hurl, kind, violation?, firstBroken?]

/-- The check of internal credentials reports the first rule that is broken. -/
theorem violation?_internal {params : Raw} (given : Given a.params params)
    (kind : a.kind = "internal") :
    violation? (Auth.internal params) = firstBroken? rules a := by
  have hnot : ¬a.IsClient := fun h => isClient_ne_internal h kind
  have hparams : paramsRule a = none := paramsRule_eq_none.mpr ⟨params, given⟩
  have hkind : kindRule a = none := kindRule_eq_none.mpr (.inr kind)
  have hurl : urlRule a = none := urlRule_eq_none.mpr fun h => absurd h hnot
  have hread : readableUrlRule a = none := readableUrlRule_eq_none.mpr fun h => absurd h hnot
  simp only [rules, firstBroken?_cons, hparams, hkind, hurl, hread, Option.none_or]
  unfold Auth.internal readableParamsRule
  rw [if_pos kind, given.1, Option.bind_some]
  cases InternalParams.record.codec.ofText params.text <;> rfl

end Auth

namespace Hello

theorem complete_iff {h : Hello} : h.Complete ↔ firstBroken? rules h = none := by
  rw [rules, firstBroken?_cons, Option.or_eq_none_iff, firstBroken?_on, auth?]
  have hversion : versionRule h = none ↔ h.version = "1.0" := ite_none_some_eq_none
  rw [hversion]
  by_cases hresume : h.resumeId = ""
  · rw [if_pos hresume, Option.bind_some, ← Auth.complete_iff]
    exact ⟨fun ⟨version, opens⟩ => ⟨version, opens.resolve_left (not_not_intro hresume)⟩,
      fun ⟨version, complete⟩ => ⟨version, .inr complete⟩⟩
  · rw [if_neg hresume]
    exact ⟨fun ⟨version, _⟩ => ⟨version, rfl⟩, fun ⟨version, _⟩ => ⟨version, .inl hresume⟩⟩

/-- The check of a hello reports the first rule that is broken. -/
theorem violation?_credentials (h : Hello) :
    violation? h.credentials = firstBroken? rules h := by
  rw [rules, firstBroken?_cons, firstBroken?_on, auth?, versionRule]
  unfold credentials helloVersion
  by_cases hversion : h.version = "1.0"
  case neg =>
    rw [if_pos hversion, if_neg hversion]
    rfl
  rw [if_neg (not_not_intro hversion), if_pos hversion, Option.none_or]
  by_cases hresume : h.resumeId = ""
  case neg =>
    rw [if_pos hresume, if_neg hresume]
    rfl
  rw [if_neg (not_not_intro hresume), if_pos hresume, Option.bind_some]
  split
  · next hnone =>
    rw [Auth.firstBroken?_of_absent hnone]
    rfl
  · next params hsome =>
    have given : Given h.auth.params params := present?_eq_some_iff.mp hsome
    by_cases hclient : h.auth.IsClient
    · have hname : AuthKind.ofName h.auth.kind = .ok .client := if_pos hclient
      rw [← Auth.violation?_client given hclient, hname]
      cases h.auth.client params <;> rfl
    by_cases hinternal : h.auth.kind = "internal"
    · have hname : AuthKind.ofName h.auth.kind = .ok .internal :=
        (if_neg hclient).trans (if_pos hinternal)
      rw [← Auth.violation?_internal given hinternal, hname]
      cases Auth.internal params <;> rfl
    · have hname : AuthKind.ofName h.auth.kind = .error .unsupportedAuthType :=
        (if_neg hclient).trans (if_neg hinternal)
      rw [Auth.firstBroken?_of_unsupported given hclient hinternal, hname]
      rfl

end Hello

/-! ## Messages -/

namespace Message

variable {m : Message}

theorem dataRule_eq_none : dataRule m = none ↔ ∃ b, Given m.data b := by
  rw [exists_given_iff]
  exact ite_none_some_eq_none

theorem kindRule_eq_none :
    kindRule m = none ↔ m.recipient.kind ∈ ["room", "session", "user"] :=
  ite_none_some_eq_none

theorem sessionRule_eq_none :
    sessionRule m = none ↔ (m.recipient.kind = "session" → m.recipient.sessionId ≠ "") := by
  rw [sessionRule, ite_some_none_eq_none, not_and]

theorem userRule_eq_none :
    userRule m = none ↔ (m.recipient.kind = "user" → m.recipient.userId ≠ "") := by
  rw [userRule, ite_some_none_eq_none, not_and]

/-- A message is complete exactly if it breaks no rule. -/
theorem complete_iff : m.Complete ↔ firstBroken? rules m = none := by
  simp only [rules, firstBroken?_eq_none_iff, List.forall_mem_cons, List.not_mem_nil,
    false_imp_iff, implies_true, and_true, dataRule_eq_none, kindRule_eq_none, sessionRule_eq_none,
    userRule_eq_none]
  constructor
  · rintro ⟨given, kind | ⟨kind, id_ne⟩ | ⟨kind, id_ne⟩⟩ <;> simp [*]
  · rintro ⟨given, kind, session, user⟩
    simp only [List.mem_cons, List.not_mem_nil, or_false] at kind
    rcases kind with kind | kind | kind
    · exact ⟨given, .room kind⟩
    · exact ⟨given, .session kind (session kind)⟩
    · exact ⟨given, .user kind (user kind)⟩

/-- The check of a recipient reports the first rule that is broken, the data being there. -/
theorem violation?_recipient (given : ∃ b, Given m.data b) :
    violation? m.recipient.check = firstBroken? rules m := by
  simp only [rules, firstBroken?_cons, dataRule_eq_none.mpr given, Option.none_or]
  unfold Recipient.check kindRule sessionRule userRule
  by_cases hroom : m.recipient.kind = "room"
  · simp [hroom, violation?, firstBroken?]
  by_cases hsession : m.recipient.kind = "session"
  · by_cases hid : m.recipient.sessionId = "" <;> simp [hsession, hid, violation?, firstBroken?]
  by_cases huser : m.recipient.kind = "user"
  · by_cases hid : m.recipient.userId = "" <;> simp [huser, hid, violation?, firstBroken?]
  · simp [hroom, hsession, huser, violation?]

/-- The check of a message reports the first rule that is broken. -/
theorem violation?_check (m : Message) : violation? m.check = firstBroken? rules m := by
  unfold check
  split
  · next hnone =>
    have hdata : dataRule m = some .messageEmpty :=
      if_neg (by rw [present?_eq_none_iff.mp hnone]; decide)
    rw [rules, firstBroken?_cons, hdata]
    rfl
  · next b hsome => exact violation?_recipient ⟨b, present?_eq_some_iff.mp hsome⟩

end Message

/-! ## Frames -/

/-- The rules of the payload that a frame holds. -/
def Payload.broken? : Payload → Option Violation
  | .hello h => firstBroken? Hello.rules h
  | .message m | .control m => firstBroken? Message.rules m
  | .bye _ | .room _ | .other _ => none

theorem Payload.complete_iff {p : Payload} : p.Complete ↔ p.broken? = none := by
  cases p with
  | hello h => exact Hello.complete_iff
  | message m | control m => exact Message.complete_iff
  | bye b | room r | other kind => exact ⟨fun _ => rfl, fun _ => trivial⟩

theorem Payload.violation?_check (p : Payload) : violation? p.check = p.broken? := by
  cases p with
  | hello h =>
    have hcheck : violation? (Payload.hello h).check = violation? h.credentials := by
      rw [check]
      cases h.credentials <;> rfl
    exact hcheck.trans h.violation?_credentials
  | message m | control m => exact m.violation?_check
  | bye b | room r | other kind => rfl

/-- A payload is valid exactly if it is complete. -/
theorem Payload.check_eq_ok_iff {p : Payload} : p.check = .ok () ↔ p.Complete := by
  rw [complete_iff, ← p.violation?_check, violation?_eq_none_iff]
  exact ⟨fun h => ⟨(), h⟩, fun ⟨⟨⟩, h⟩ => h⟩

namespace Frame

theorem firstBroken?_rules (f : Frame) :
    firstBroken? rules f =
      ((typeRule f).or (payloadRule f)).or ((f.hello?.bind (firstBroken? Hello.rules)).or
        (f.message?.bind (firstBroken? Message.rules))) := by
  rw [← firstBroken?_on, ← firstBroken?_on]
  simp only [rules, List.cons_append, List.nil_append, firstBroken?_cons,
    Option.or_assoc]
  simp only [firstBroken?, List.findSome?_append]

/-- A payload that has been found decides alone what is reported. -/
theorem violation?_checkedPayload_of_ok {f : Frame} {p : Payload} (h : f.payload = .ok p) :
    violation? f.checkedPayload = p.broken? := by
  rw [← p.violation?_check, checkedPayload, h]
  cases hcheck : p.check <;> simp [violation?, bind, Except.bind, hcheck]

/-- The check of a frame reports the first rule that is broken. -/
theorem violation?_checkedPayload (f : Frame) :
    violation? f.checkedPayload = firstBroken? rules f := by
  rw [firstBroken?_rules]
  -- By kind: the rules of the other kinds have no part to look at, and find nothing.
  obtain ⟨id, kind, hello, bye, room, message, control⟩ := f
  by_cases hempty : kind = ""
  · cases hempty
    rfl
  by_cases hhello : kind = "hello"
  · cases hhello
    cases hello with
    | none => rfl
    | some h =>
      rw [violation?_checkedPayload_of_ok (p := .hello h) rfl]
      exact Option.or_none.symm
  by_cases hbye : kind = "bye"
  · cases hbye
    rfl
  by_cases hroom : kind = "room"
  · cases hroom
    cases room <;> rfl
  by_cases hmessage : kind = "message"
  · cases hmessage
    cases message with
    | none => rfl
    | some m => exact violation?_checkedPayload_of_ok (p := .message m) rfl
  by_cases hcontrol : kind = "control"
  · cases hcontrol
    cases control with
    | none => rfl
    | some m => exact violation?_checkedPayload_of_ok (p := .control m) rfl
  · rw [violation?_checkedPayload_of_ok (p := .other kind) (by simp [payload, *])]
    simp [typeRule, payloadRule, LacksPayload, hello?, message?, Payload.broken?, *]

theorem checkedPayload_eq_ok_iff {f : Frame} {p : Payload} :
    f.checkedPayload = .ok p ↔ f.payload = .ok p ∧ p.check = .ok () := by
  rw [checkedPayload, bind_eq_ok]
  constructor
  · rintro ⟨q, hpayload, h⟩
    obtain ⟨⟨⟩, hcheck, hq⟩ := bind_eq_ok.mp h
    cases hq
    exact ⟨hpayload, hcheck⟩
  · rintro ⟨hpayload, hcheck⟩
    exact ⟨p, hpayload, bind_eq_ok.mpr ⟨(), hcheck, rfl⟩⟩

/-- The slots that a frame does not name are not looked at. -/
theorem payload_narrowed (f : Frame) : f.narrowed.payload = f.payload := by
  simp only [payload, narrowed]
  refine ite_congr rfl (fun _ => rfl) fun _ => ite_congr rfl (fun h => ?_) fun _ =>
    ite_congr rfl (fun h => ?_) fun _ => ite_congr rfl (fun h => ?_) fun _ =>
    ite_congr rfl (fun h => ?_) fun _ => ite_congr rfl (fun h => ?_) fun _ => rfl
  all_goals rw [if_pos h]

end Frame

theorem Request.ofFrame_eq_ok_iff {f : Frame} {m : Request} :
    Request.ofFrame f = .ok m ↔ m.id = f.requestId ∧ f.checkedPayload = .ok m.payload := by
  unfold Request.ofFrame
  cases f.checkedPayload with
  | error v => exact ⟨nofun, nofun⟩
  | ok p =>
    obtain ⟨id, payload⟩ := m
    simp [eq_comm]

theorem Request.ofFrame_eq_error_iff {f : Frame} {e : Rejection} :
    Request.ofFrame f = .error e ↔
      ∃ v, e = .invalid f.requestId v ∧ f.checkedPayload = .error v := by
  unfold Request.ofFrame
  cases f.checkedPayload with
  | error v => simp [eq_comm]
  | ok p => exact ⟨nofun, nofun⟩

/-- A frame is read as a request exactly if the grammar has a payload for it: the request has this
    payload, which is valid, and the id of the frame, if that is not empty. Otherwise the frame is
    refused for the first rule that it breaks, under the same id. What stands in the slots that the
    frame does not name makes no difference. -/
theorem ofFrame_grammar :
    (∀ f m, Request.ofFrame f = .ok m ↔ m.id = f.id.filter (· ≠ "") ∧ f.Grammar m.payload) ∧
    (∀ f m, Request.ofFrame f = .ok m → m.payload.check = .ok ()) ∧
    (∀ f e, Request.ofFrame f = .error e ↔
      ∃ v, e = .invalid (f.id.filter (· ≠ "")) v ∧ firstBroken? Frame.rules f = some v) ∧
    ∀ f : Frame, Request.ofFrame f.narrowed = Request.ofFrame f := by
  refine ⟨fun f m => ?_, fun f m h => ?_, fun f e => ?_, fun f => ?_⟩
  · rw [Request.ofFrame_eq_ok_iff, Frame.checkedPayload_eq_ok_iff, Frame.payload_eq_ok_iff,
      Payload.check_eq_ok_iff]
    exact ⟨fun ⟨hid, holds, complete⟩ => ⟨hid, holds, complete⟩,
      fun ⟨hid, holds, complete⟩ => ⟨hid, holds, complete⟩⟩
  · exact (Frame.checkedPayload_eq_ok_iff.mp (Request.ofFrame_eq_ok_iff.mp h).2).2
  · simp only [Request.ofFrame_eq_error_iff, ← Frame.violation?_checkedPayload,
      violation?_eq_some_iff]
    rfl
  · have hchecked : f.narrowed.checkedPayload = f.checkedPayload := by
      rw [Frame.checkedPayload, f.payload_narrowed]
      rfl
    have hid : f.narrowed.requestId = f.requestId := rfl
    rw [Request.ofFrame, hchecked, hid]
    rfl

/-- A frame that joins a room, with an empty id and a hello of a wrong version. -/
def crowdedFrame : Frame :=
  ⟨some "", "room", some ⟨"2.0", "", [], .empty⟩, none, some ⟨"lobby", ""⟩, none, none⟩

/-- A hello without parameters, and with a kind of credentials that is not known. -/
def bareHello : Frame :=
  ⟨some "1", "hello", some ⟨"1.0", "", [], ⟨"sso", none, ""⟩⟩, none, none, none, none⟩

theorem ofFrame_grammar_samples :
    (Request.ofFrame crowdedFrame = .ok ⟨none, .room ⟨"lobby", ""⟩⟩ ∧
      crowdedFrame.Grammar (.room ⟨"lobby", ""⟩) ∧
      (Payload.room ⟨"lobby", ""⟩).check = .ok ()) ∧
    Frame.rules.filterMap (· bareHello) = [.paramsMissing, .unsupportedAuthType] ∧
      Request.ofFrame bareHello = .error (.invalid (some "1") .paramsMissing) := by
  have hread : Request.ofFrame crowdedFrame = .ok ⟨none, .room ⟨"lobby", ""⟩⟩ := rfl
  have hfirst : firstBroken? Frame.rules bareHello = some .paramsMissing := rfl
  exact ⟨⟨hread, ((ofFrame_grammar.1 _ _).mp hread).2, ofFrame_grammar.2.1 _ _ hread⟩, rfl,
    (ofFrame_grammar.2.2.1 _ _).mpr ⟨_, rfl, hfirst⟩⟩

end Switchboard.Inbound
