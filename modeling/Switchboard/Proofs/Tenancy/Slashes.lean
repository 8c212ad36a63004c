import Switchboard.Proofs.Tenancy.Suffixes
/-
  Slashes at the end of URLs make no difference. In settings the slash is added before a URL is read,
  so a section with it and a section without it are one to every reader (`configured_slashed`), and
  so are the registries and reloads made of the settings. For a request it is added before backends
  are asked, so both forms of a URL have one normal text (`normalized_slashed`). And as the URL of a
  backend ends with a slash, what it starts is whole segments: the text between two slashes is
  matched in full or not at all (`claims_iff_segments`).
-/
namespace Switchboard

/-- Whether a text ends with a slash. -/
def EndsWithSlash (s : String) : Prop := s.toList.getLast? = some '/'

instance (s : String) : Decidable (EndsWithSlash s) := inferInstanceAs (Decidable (_ = _))

theorem withSlash_of_ends {s : String} (h : EndsWithSlash s) : withSlash s = s := if_pos h

theorem withSlash_of_not_ends {s : String} (h : ¬EndsWithSlash s) : withSlash s = s.push '/' :=
  if_neg h

theorem endsWithSlash_push (s : String) : EndsWithSlash (s.push '/') := by
  unfold EndsWithSlash
  rw [String.toList_push, List.getLast?_concat]

/-- A slash that is there already is not added again. -/
theorem withSlash_push {s : String} (h : ¬EndsWithSlash s) : withSlash (s.push '/') = withSlash s := by
  rw [withSlash_of_ends (endsWithSlash_push s), withSlash_of_not_ends h]

namespace Tenancy

open Switchboard.Settings (Source)
open Switchboard.Text (pieces)

/-! ## Settings -/

/-- Settings that some URLs have been given a slash in: the values under the key of the URL are the
    same, or a text that does not end with a slash has got one; all other values are the same. -/
structure Slashed (s s' : Source) : Prop where
  text?_eq : ∀ sec key, key ≠ "url" → s'.text? sec key = s.text? sec key
  flag?_eq : ∀ sec key, key ≠ "url" → s'.flag? sec key = s.flag? sec key
  url? : ∀ sec, s'.text? sec "url" = s.text? sec "url" ∨
    ∃ raw, s.text? sec "url" = some raw ∧ raw ≠ "" ∧ ¬EndsWithSlash raw ∧
      s'.text? sec "url" = some (raw.push '/')

section

variable {s s' : Source} (h : Slashed s s')

include h

/-- A section reads the same with and without the slash, be it complete or not. -/
theorem configured_slashed (id : String) : configured s' id = configured s id := by
  have hsecret : s'.text? id "secret" = s.text? id "secret" := h.text?_eq id _ (by decide)
  unfold configured
  rw [hsecret]
  rcases h.url? id with heq | ⟨raw, hraw, hne, hends, hraw'⟩
  · rw [heq]
  · have hgiven : nonEmpty? (some raw) = some raw := by
      apply Option.filter_eq_some_iff.mpr
      simpa using hne
    have hgiven' : nonEmpty? (some (raw.push '/')) = some (raw.push '/') := by
      apply Option.filter_eq_some_iff.mpr
      simp
    rw [hraw, hraw', hgiven, hgiven']
    dsimp only
    rw [withSlash_push hends]

theorem placedBackends_slashed : placedBackends s' = placedBackends s := by
  unfold placedBackends
  rw [backendIds_congr (h.text?_eq _ _ (by decide))]
  simp only [configured_slashed h]

theorem configuredNotices_slashed : configuredNotices s' = configuredNotices s := by
  unfold configuredNotices
  rw [backendIds_congr (h.text?_eq _ _ (by decide))]
  simp only [configured_slashed h]

/-- The registry and the notices are the same, whatever the mode. -/
theorem ofSource_slashed : Registry.ofSource s' = Registry.ofSource s := by
  have hlists : listsBackends s' = listsBackends s :=
    listsBackends_congr (h.text?_eq _ _ (by decide))
  have hallowed : Registry.allowedSetting s' = Registry.allowedSetting s :=
    allowedSetting_congr (h.text?_eq _ _ (by decide))
  have hsecret : Registry.sharedSecret s' = Registry.sharedSecret s := by
    unfold Registry.sharedSecret
    rw [h.text?_eq _ _ (by decide)]
  unfold Registry.ofSource Registry.ofAllowAll Registry.ofBackends Registry.ofAllowed stampedTable
  rw [h.flag?_eq _ _ (by decide), hlists, hallowed, hsecret, placedBackends_slashed h,
    configuredNotices_slashed h]

theorem reload_slashed (r : Registry) : r.reload s' = r.reload s := by
  have hlists : listsBackends s' = listsBackends s :=
    listsBackends_congr (h.text?_eq _ _ (by decide))
  unfold Registry.reload stampedTable
  rw [hlists, placedBackends_slashed h, configuredNotices_slashed h]

end

/-! ## Requests -/

theorem normalized_slashed {u v : Url} (hu : ¬EndsWithSlash u.text) (hv : v.text = u.text.push '/') :
    v.normalized = u.normalized := by
  unfold Url.normalized
  rw [hv, withSlash_push hu]

theorem resolve?_slashed (r : Registry) {u v : Url} (hkey : u.hostKey = v.hostKey)
    (hu : ¬EndsWithSlash u.text) (hv : v.text = u.text.push '/') : r.resolve? u = r.resolve? v := by
  have hlisted : r.listed? u = r.listed? v := by
    unfold Registry.listed?
    rw [hkey, normalized_slashed hu hv]
  unfold Registry.resolve?
  rw [hlisted]

/-! ## Segments -/

/-- The texts between the slashes of a text. -/
def segments (s : String) : List (List Char) := pieces '/' s.toList

theorem segments_push (s : String) : segments (s.push '/') = segments s ++ [[]] := by
  unfold segments
  rw [String.toList_push, Text.pieces_append_mark]
  rfl

/-- The text before the slash at the end. -/
theorem exists_push_of_ends {s : String} (h : EndsWithSlash s) : ∃ t : String, s = t.push '/' := by
  obtain ⟨cs, hcs⟩ := List.getLast?_eq_some_iff.mp h
  refine ⟨String.ofList cs, ?_⟩
  rw [← String.toList_inj, String.toList_push, hcs, String.toList_ofList]

/-- A backend whose URL ends with a slash claims a URL that does not exactly if the segments of its
    own before the slash are the first ones of the other. -/
theorem claims_iff_segments {b : Backend} (hb : EndsWithSlash b.url) {u : Url}
    (hu : ¬EndsWithSlash u.text) :
    b.claims u.normalized = true ↔ (segments b.url).dropLast <+: segments u.text := by
  obtain ⟨t, ht⟩ := exists_push_of_ends hb
  rw [claims_iff_starts, Url.normalized, withSlash_of_not_ends hu, ht, segments_push,
    List.dropLast_concat, String.toList_push, String.toList_push]
  exact Text.append_mark_prefix_iff

/-! ## Slashes -/

/-- **A slash at the end of a URL makes no difference.** Settings with and without it make the same
    registry with the same notices, and the same reload of any registry. Two URLs of one host that
    differ by it belong to the same entry of any registry, or both to none. And a listed backend,
    whose URL ends with a slash, claims a URL without one exactly if it starts the text of this with
    a slash; that is if its segments are the first of the other's, so that no segment is claimed in
    part. -/
theorem trailing_slash_immaterial :
    (∀ s s' : Source, Slashed s s' → Registry.ofSource s' = Registry.ofSource s ∧
      ∀ r : Registry, r.reload s' = r.reload s) ∧
    (∀ (r : Registry) (u v : Url), u.hostKey = v.hostKey → ¬EndsWithSlash u.text →
      v.text = u.text.push '/' → r.resolve? u = r.resolve? v) ∧
    ∀ (id : String) (url : Url) (secret : Secret) (u : Url), ¬EndsWithSlash u.text →
      let b := Backend.ofUrl id url secret
      EndsWithSlash b.url ∧
        (b.claims u.normalized = true ↔ b.url.toList <+: (u.text.push '/').toList) ∧
        (b.claims u.normalized = true ↔ (segments b.url).dropLast <+: segments u.text) := by
  refine ⟨fun s s' h => ⟨ofSource_slashed h, reload_slashed h⟩, ?_, ?_⟩
  · intro r u v hkey hu hv
    exact resolve?_slashed r hkey hu hv
  · intro id url secret u hu b
    have hb : EndsWithSlash b.url := getLast?_normalized url
    refine ⟨hb, ?_, claims_iff_segments hb hu⟩
    rw [claims_iff_starts, Url.normalized, withSlash_of_not_ends hu]

/-- One tenant, with its URL as it is written in the settings. -/
def tenantAt (url : String) : Source := textSettings
  [("a", [("url", url), ("secret", "s")]), ("backend", [("backends", "a")])]

theorem slashed_tenantAt : Slashed (tenantAt "https://h/a") (tenantAt "https://h/a/") := by
  constructor
  case text?_eq | flag?_eq =>
    intro sec key hkey
    simp only [tenantAt, textSettings, Settings.Snapshot.source, value?_texts, Directory.find?]
    split_ifs <;> simp [Directory.find?, Ne.symm hkey]
  case url? =>
    intro sec
    by_cases hsec : sec = "a"
    · subst hsec
      exact .inr ⟨"https://h/a", rfl, by decide, by decide, rfl⟩
    · left
      simp only [tenantAt, textSettings, Settings.Snapshot.source, value?_texts, Directory.find?,
        if_neg (Ne.symm hsec)]

theorem trailing_slash_immaterial_tenantAt :
    let s := tenantAt "https://h/a"
    let s' := tenantAt "https://h/a/"
    let r := (Registry.ofSource s).1
    Slashed s s' ∧ Registry.ofSource s' = Registry.ofSource s ∧
      r.resolve? (urlOnH "/a") = r.resolve? (urlOnH "/a/") ∧
      (r.resolve? (urlOnH "/a")).map (·.backend.id) = some "a" ∧
      (Backend.ofUrl "a" (urlOnH "/a") (.ofText "s")).claims (urlOnH "/ab").normalized = false := by
  intro s s' r
  obtain ⟨hsettings, hrequests, hsegments⟩ := trailing_slash_immaterial
  refine ⟨slashed_tenantAt, (hsettings s s' slashed_tenantAt).1,
    hrequests r _ _ rfl (by decide) (by decide), by decide +kernel, ?_⟩
  obtain ⟨-, -, hclaims⟩ := hsegments "a" (urlOnH "/a") (.ofText "s") (urlOnH "/ab") (by decide)
  exact eq_false_of_ne_true fun h => absurd (hclaims.mp h) (by decide +kernel)

end Tenancy

end Switchboard
