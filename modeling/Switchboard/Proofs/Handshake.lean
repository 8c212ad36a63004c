import Switchboard.Proofs.Inbound.Slots
import Switchboard.Proofs.Tenancy.WellFormed
/-
  From the text of a hello to the secret that verifies it. The credentials of a hello that has been
  read are there, since the same check was made when it was read (`Hello.granted_of_ofText`); the
  parameters of a client are the piece of the text that stands under `hello`, `auth`, `params`
  (`params_standsAt`); and the registry finds the same backend by the URL in the credentials as by
  the text of the URL. `hello_authorised` puts this together.
-/
namespace Switchboard.Inbound

open Switchboard.Json
open Switchboard.Settings (Source)
open Switchboard.Tenancy

/-! ## Credentials -/

/-- The credentials that a hello is granted: none if it resumes a session, and else those of its
    kind. -/
inductive Hello.Granted (h : Hello) : Option Credentials → Prop
  | resumed (resumes : h.resumeId ≠ "") : Granted h none
  | client {params : Raw} {url : Url} (opens : h.resumeId = "") (kind : h.auth.IsClient)
      (given : Given h.auth.params params) (read : Url.ofText h.auth.url = .ok url) :
      Granted h (some (.client url params))
  | internal {params : Raw} {p : InternalParams} (opens : h.resumeId = "")
      (kind : h.auth.kind = "internal") (given : Given h.auth.params params)
      (read : InternalParams.record.codec.ofText params.text = .ok p) :
      Granted h (some (.internal p))

theorem Auth.client_eq_ok {a : Auth} {params : Raw} {c : Credentials}
    (h : a.client params = .ok c) : ∃ url, Url.ofText a.url = .ok url ∧ c = .client url params := by
  unfold Auth.client at h
  split at h
  · cases h
  · split at h
    · next url hurl =>
      cases h
      exact ⟨url, hurl, rfl⟩
    · cases h

theorem Auth.internal_eq_ok {params : Raw} {c : Credentials} (h : Auth.internal params = .ok c) :
    ∃ p, InternalParams.record.codec.ofText params.text = .ok p ∧ c = .internal p := by
  unfold Auth.internal at h
  split at h
  · next p hp =>
    cases h
    exact ⟨p, hp, rfl⟩
  · cases h

theorem AuthKind.ofName_eq_ok {name : String} {kind : AuthKind}
    (h : AuthKind.ofName name = .ok kind) :
    (kind = .client ∧ (name = "" ∨ name = "client")) ∨ (kind = .internal ∧ name = "internal") := by
  unfold AuthKind.ofName at h
  split at h
  · next hclient =>
    cases h
    exact .inl ⟨rfl, hclient⟩
  · split at h
    · next hinternal =>
      cases h
      exact .inr ⟨rfl, hinternal⟩
    · cases h

theorem Hello.granted_of_credentials {h : Hello} {c : Option Credentials}
    (hc : h.credentials = .ok c) : h.Granted c := by
  unfold Hello.credentials at hc
  split at hc
  · cases hc
  split at hc
  · next hresume =>
    cases hc
    exact .resumed hresume
  · next hresume =>
    have hopens : h.resumeId = "" := not_not.mp hresume
    split at hc
    · cases hc
    · next params hparams =>
      have hgiven := present?_eq_some_iff.mp hparams
      obtain ⟨kind, hkind, hc⟩ := bind_eq_ok.mp hc
      rcases AuthKind.ofName_eq_ok hkind with ⟨rfl, hname⟩ | ⟨rfl, hname⟩
      · obtain ⟨d, hd, hc⟩ := bind_eq_ok.mp hc
        obtain ⟨url, hurl, rfl⟩ := Auth.client_eq_ok hd
        cases hc
        exact .client hopens hname hgiven hurl
      · obtain ⟨d, hd, hc⟩ := bind_eq_ok.mp hc
        obtain ⟨p, hp, rfl⟩ := Auth.internal_eq_ok hd
        cases hc
        exact .internal hopens hname hgiven hp

/-- The credentials of a hello that has been read are there. -/
theorem Hello.granted_of_ofText {text : String} {id : Option String} {h : Hello}
    (hread : Request.ofText text = .ok ⟨id, .hello h⟩) :
    ∃ c, h.credentials = .ok c ∧ h.Granted c := by
  have hvalid : (do let _ ← h.credentials : Except Violation Unit) = .ok () :=
    (sendable_of_ofText hread).valid
  obtain ⟨c, hc, -⟩ := bind_eq_ok.mp hvalid
  exact ⟨c, hc, granted_of_credentials hc⟩

/-! ## The parameters in the text -/

theorem Frame.hello_readAt {d : Nat} {s rest : List Char} {f : Frame} {h : Hello}
    (hread : Frame.record.codec.read d s = .ok (f, rest)) (hslot : f.hello = some h) :
    ∃ d t r, Inside "hello" 2 s t ∧ Hello.record.codec.read d (skipBlanks t) = .ok (h, r) := by
  obtain ⟨-, ⟨_, _, hello, _⟩, hmake, -, -, hhello, -⟩ :=
    Record.readAt Frame.whole_fields (by decide) hread
  have heq : hello = some h := (congrArg Frame.hello hmake).trans hslot
  subst heq
  rcases hhello with habsent | ⟨d, t, r, hinside, hvalue⟩
  · cases habsent
  · exact ⟨d, t, r, hinside, (read_of_optional_some hvalue).1⟩

/-- Credentials with parameters are not those that stand for absent ones. -/
theorem Hello.auth_readAt {d : Nat} {s rest : List Char} {h : Hello} {params : Raw}
    (hread : Hello.record.codec.read d s = .ok (h, rest)) (hparams : h.auth.params = some params) :
    ∃ d t r, Inside "auth" 3 s t ∧ Auth.record.codec.read d t = .ok (h.auth, r) := by
  obtain ⟨-, ⟨_, _, _, auth, _⟩, hmake, -, -, -, hauth, -⟩ :=
    Record.readAt Hello.whole_fields (by decide) hread
  have heq : auth = h.auth := congrArg Hello.auth hmake
  subst heq
  rcases hauth with habsent | ⟨d, t, r, hinside, hvalue⟩
  · rw [← Option.some.inj habsent] at hparams
    cases hparams
  · exact ⟨d, t, r, hinside, hvalue⟩

theorem Auth.params_readAt {d : Nat} {s rest : List Char} {a : Auth} {params : Raw}
    (hread : Auth.record.codec.read d s = .ok (a, rest)) (hparams : a.params = some params) :
    ∃ t r, Inside "params" 1 s t ∧ Json.raw (skipBlanks t) = .ok (params, r) := by
  obtain ⟨-, ⟨_, slot, _⟩, hmake, -, hslot, -⟩ :=
    Record.readAt Auth.whole_fields (by decide) hread
  have heq : slot = some params := (congrArg Auth.params hmake).trans hparams
  subst heq
  rcases hslot with habsent | ⟨d, t, r, hinside, hvalue⟩
  · cases habsent
  · exact ⟨t, r, hinside, (read_of_optional_some hvalue).1⟩

/-- The path of the parameters of a hello. -/
def paramsPath : List (String × Nat) := [("hello", 2), ("auth", 3), ("params", 1)]

/-- The parameters of a hello stand under their path in the text that it is read from. -/
theorem params_standsAt {text : String} {id : Option String} {h : Hello} {params : Raw}
    (hread : Request.ofText text = .ok ⟨id, .hello h⟩) (hparams : h.auth.params = some params) :
    params.StandsAt paramsPath text.toList := by
  obtain ⟨f, rest, hframe, -, hholds⟩ := Request.exists_frame hread
  cases hholds with
  | hello h kind slot =>
    obtain ⟨_, t, _, hhello, hread⟩ := Frame.hello_readAt hframe slot
    obtain ⟨_, u, _, hauth, hread⟩ := Hello.auth_readAt hread hparams
    obtain ⟨v, r, hplace, hraw⟩ := Auth.params_readAt hread hparams
    exact ⟨t, hhello, u, hauth.of_skipBlanks, v, hplace, r, raw_skipBlanks v ▸ hraw⟩

/-! ## The secret -/

/-- A registry after reloads finds the secret of the URL in a text as that of the first entry under
    its host key that claims it, or else, if it allows all hosts, as that of the shared one. -/
theorem secret?_reloadAll (start : Source) (run : List Source) {text : String} {url : Url}
    (hread : Url.ofText text = .ok url) :
    let r := (Registry.ofSource start).1.reloadAll run
    r.secret? (some url) = (r.resolveText? text).map (·.backend.secret) ∧
      r.secret? (some url) =
        (((r.hosts.row url.hostKey).find? (·.backend.claims url.normalized)).or
          (if r.allowAll then r.shared else none)).map (·.backend.secret) ∧
      (r.allowAll = true → ∃ e, r.shared = some e ∧ e.backend = .shared r.commonSecret) := by
  intro r
  refine ⟨?_, ?_, ?_⟩
  · unfold Registry.resolveText?
    rw [hread]
    rfl
  · rw [Registry.secret?, Option.bind_some, resolve?_eq_or]
    rfl
  · obtain ⟨hallow, hcommon, hshared⟩ := frame_reloadAll (Registry.ofSource start).1 run
    intro hall
    rw [show r.allowAll = _ from hallow, allowAll_ofSource] at hall
    rw [show r.shared = _ from hshared, show r.commonSecret = _ from hcommon,
      ofSource_of_allowsAllHosts hall]
    exact ⟨_, rfl, rfl⟩

/-- **A hello that is read is authorised as it asks.** Its credentials are there. They are none
    exactly if it resumes a session, and internal exactly if it does not and is of that kind.
    Otherwise they are those of a client: the URL that its text names, and as parameters the value
    under `hello`, `auth`, `params`, character by character. In every registry, after any reloads,
    this URL has the secret of what the text resolves to: that of the first entry under its host key
    that claims it, or else, if all hosts are allowed, of the entry that all hosts share, or none. -/
theorem hello_authorised {text : String} {id : Option String} {h : Hello}
    (hread : Request.ofText text = .ok ⟨id, .hello h⟩) :
    ∃ c, h.credentials = .ok c ∧ (c = none ↔ h.resumeId ≠ "") ∧
      ((∃ p, c = some (.internal p)) ↔ h.resumeId = "" ∧ h.auth.kind = "internal") ∧
      (h.resumeId = "" → h.auth.kind ≠ "internal" → ∃ url params,
        c = some (.client url params) ∧ Url.ofText h.auth.url = .ok url ∧
        h.auth.params = some params ∧ params.StandsAt paramsPath text.toList ∧
        params.text.toList <:+: text.toList ∧
        ∀ (start : Source) (run : List Source),
          let r := (Registry.ofSource start).1.reloadAll run
          r.secret? (some url) = (r.resolveText? h.auth.url).map (·.backend.secret) ∧
            r.secret? (some url) =
              (((r.hosts.row url.hostKey).find? (·.backend.claims url.normalized)).or
                (if r.allowAll then r.shared else none)).map (·.backend.secret) ∧
            (r.allowAll = true →
              ∃ e, r.shared = some e ∧ e.backend = .shared r.commonSecret)) := by
  obtain ⟨c, hc, hgranted⟩ := Hello.granted_of_ofText hread
  refine ⟨c, hc, ?_⟩
  cases hgranted with
  | resumed resumes => simp [resumes]
  | client opens kind given read =>
    refine ⟨by simp [opens], by simp [Auth.isClient_ne_internal kind], fun _ _ => ?_⟩
    have hstands := params_standsAt hread given.1
    exact ⟨_, _, rfl, read, given.1, hstands, hstands.infix,
      fun start run => secret?_reloadAll start run read⟩
  | internal opens kind given read => simp [opens, kind]

/-- A hello with blanks around and inside its parameters. -/
def spacedHelloText : String :=
  "\x7b\"type\":\"hello\",\"hello\":\x7b\"version\":\"1.0\",\"auth\":"
    ++ "\x7b\"params\" : [1, null] ,\"url\":\"https://h/a\"\x7d\x7d\x7d"

def spacedHello : Hello := ⟨"1.0", "", [], ⟨"", some ⟨"[1, null]"⟩, "https://h/a"⟩⟩

theorem hello_authorised_spaced :
    Request.ofText spacedHelloText = .ok ⟨none, .hello spacedHello⟩ ∧
      ∃ url, spacedHello.credentials = .ok (some (.client url ⟨"[1, null]"⟩)) ∧
        Raw.StandsAt ⟨"[1, null]"⟩ paramsPath spacedHelloText.toList ∧
        ∀ start run, let r := (Registry.ofSource start).1.reloadAll run
          r.secret? (some url) = (r.resolveText? "https://h/a").map (·.backend.secret) := by
  have hread : Request.ofText spacedHelloText = .ok ⟨none, .hello spacedHello⟩ := by rfl
  obtain ⟨c, hc, -, -, hclient⟩ := hello_authorised hread
  obtain ⟨url, params, rfl, -, hparams, hstands, -, hsecret⟩ := hclient rfl (by decide)
  cases hparams
  exact ⟨hread, url, hc, hstands, fun start run => (hsecret start run).1⟩

end Switchboard.Inbound
