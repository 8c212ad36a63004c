import Switchboard.Proofs.Tenancy.Answers
/-
  The host table is only an index. `scan` asks the listed ids one after the other and never builds a
  table: it passes over incomplete sections and returns the first backend under the URL's host key
  whose URL the asked one starts with. `resolve?_eq_scan` says that a registry of listed backends
  answers every URL like this scan: grouping by hosts changes the cost of a look-up, not its answer.
-/
namespace Switchboard.Tenancy

open Switchboard.Settings (Source)

/-- Asks ids one after the other for the backend of a URL. -/
def scan (s : Source) (u : Url) : List String → Option Backend
  | [] => none
  | id :: rest =>
    match completeSection? s id with
    | none => scan s u rest
    | some (url, secret) =>
      if url.hostKey = u.hostKey ∧ url.normalized.toList <+: u.normalized.toList then
        some ⟨id, url.normalized, .ofText secret, false⟩
      else scan s u rest

/-- A backend claims the texts that start with its URL; the empty URL starts every text. -/
theorem claims_iff_starts {b : Backend} {text : String} :
    b.claims text = true ↔ b.url.toList <+: text.toList := by
  have hbegins : Text.begins b.url.toList text.toList = true ↔ b.url.toList <+: text.toList := by
    rw [Text.begins_iff]
    constructor
    · rintro ⟨r, hr⟩
      exact ⟨r, hr.symm⟩
    · rintro ⟨r, hr⟩
      exact ⟨r, hr.symm⟩
  unfold Backend.claims
  rw [Bool.or_eq_true, hbegins]
  constructor
  · rintro (hempty | h)
    · rw [String.isEmpty_iff.mp hempty]
      exact List.nil_prefix
    · exact h
  · exact Or.inr

/-- The first claim in a table of placed backends is that of the first one placed under the host key
    of the URL that claims it. -/
theorem firstClaim?_ofList (placed : List Placed) (u : Url) :
    (HostTable.ofList placed).firstClaim? u =
      (placed.find? fun p => p.1 = u.hostKey && p.2.claims u.normalized).map (·.2) := by
  unfold HostTable.firstClaim?
  rw [HostTable.row_ofList, List.find?_map, List.find?_filter]
  simp only [Function.comp_apply, decide_eq_true_eq, Bool.decide_and, Bool.decide_eq_true]

/-- The scan finds what is found among the backends of the complete sections. -/
theorem scan_eq_find? (s : Source) (u : Url) (ids : List String) :
    scan s u ids =
      ((ids.filterMap fun id => (configured s id).toOption).find? fun p =>
        p.1 = u.hostKey && p.2.claims u.normalized).map (·.2) := by
  induction ids with
  | nil => rfl
  | cons id rest ih =>
    rw [scan, List.filterMap_cons, toOption_configured]
    cases hsection : completeSection? s id with
    | none => exact ih
    | some p =>
      obtain ⟨url, secret⟩ := p
      have hclaims : (Backend.ofUrl id url (.ofText secret)).claims u.normalized = true ↔
          url.normalized.toList <+: u.normalized.toList := claims_iff_starts
      dsimp only [Option.map_some]
      split
      · next h =>
        rw [List.find?_cons_of_pos]
        · rfl
        · rw [hclaims.mpr h.2, decide_eq_true h.1]; rfl
      · next h =>
        rw [List.find?_cons_of_neg, ih]
        intro hp
        rw [Bool.and_eq_true, decide_eq_true_eq, hclaims] at hp
        exact h hp

/-- **The table is only an index.** Of settings that list backends and do not allow all hosts, every
    URL belongs to the backend that the scan of the listed ids finds, and to none if it finds none;
    a text is answered like the URL in it, and a text without one is not answered. -/
theorem resolve?_eq_scan (s : Source) (hall : (s.flag? mainSection "allowall").getD false = false)
    (hlists : listsBackends s = true) :
    (∀ u, ((Registry.ofSource s).1.resolve? u).map (·.backend) = scan s u (backendIds s)) ∧
      ∀ text, ((Registry.ofSource s).1.resolveText? text).map (·.backend) =
        match Url.ofText text with
        | .ok u => scan s u (backendIds s)
        | .error _ => none := by
  have hurl : ∀ u, ((Registry.ofSource s).1.resolve? u).map (·.backend) =
      scan s u (backendIds s) := by
    intro u
    rw [backend_resolve?, fallback?_ofSource hall, ofSource_of_listsBackends hall hlists,
      backends_ofBackends, Option.map_none, Option.or_none, scan_eq_find?]
    exact firstClaim?_ofList (placedBackends s) u
  refine ⟨hurl, ?_⟩
  intro text
  unfold Registry.resolveText?
  cases Url.ofText text with
  | ok u => exact hurl u
  | error fault => rfl

/-- Two hosts in turns, with an id that is repeated and a section without a secret. -/
def alternating : Source := textSettings
  [("backend", [("backends", "open, outer, far, outer, inner, near")]),
    ("far", [("url", "https://g/a"), ("secret", "third")]),
    ("inner", [("url", "https://h/a/b"), ("secret", "second")]),
    ("near", [("url", "https://g:443"), ("secret", "fourth")]),
    ("open", [("url", "https://h/")]),
    ("outer", [("url", "https://h/a"), ("secret", "first")])]

theorem resolve?_eq_scan_alternating :
    (alternating.flag? mainSection "allowall").getD false = false ∧
      listsBackends alternating = true ∧
      ((Registry.ofSource alternating).1.resolve? (urlOnH "/a/b/c")).map (·.backend) =
        some ⟨"outer", "https://h/a/", .ofText "first", false⟩ ∧
      ((Registry.ofSource alternating).1.resolveText? "https://G/b").map (·.backend) =
        some ⟨"near", "https://g/", .ofText "fourth", false⟩ := by
  have hall : (alternating.flag? mainSection "allowall").getD false = false := by decide
  have hlists : listsBackends alternating = true := by decide
  obtain ⟨hurl, htext⟩ := resolve?_eq_scan alternating hall hlists
  refine ⟨hall, hlists, ?_, ?_⟩
  · rw [hurl]
    decide +kernel
  · rw [htext]
    decide +kernel

end Switchboard.Tenancy
