import Switchboard.Proofs.Tenancy.Accounting
import Switchboard.Proofs.Tenancy.Scan
/-
  When the order of the listed backends makes no difference. Two prefixes of one text are prefixes of
  each other, so of backends whose URLs do not overlap (`Apart`) at most one claims a URL
  (`eq_of_claims`). A search for the only claim finds the same in any order (`find?_eq_of_perm`),
  and settings that list the same ids place the same backends in some order
  (`perm_placedBackends`). Hence `resolve?_reordered`: listed in another order, backends that do not
  overlap answer every URL alike.
-/
namespace Switchboard.Tenancy

open Switchboard.Settings (Source)

/-- No URL of a placed backend starts with that of another one under the same host key. -/
def Apart (placed : List Placed) : Prop :=
  ∀ p ∈ placed, ∀ q ∈ placed, p.1 = q.1 → p.2.url.toList <+: q.2.url.toList → p = q

/-- Of backends that do not overlap no two claim the same text. -/
theorem eq_of_claims {placed : List Placed} (hapart : Apart placed) {p q : Placed}
    (hp : p ∈ placed) (hq : q ∈ placed) (hhost : p.1 = q.1) {text : String}
    (hpt : p.2.claims text = true) (hqt : q.2.claims text = true) : p = q := by
  rcases List.prefix_or_prefix_of_prefix (claims_iff_starts.mp hpt) (claims_iff_starts.mp hqt) with
    hpq | hqp
  · exact hapart p hp q hq hhost hpq
  · exact (hapart q hq p hp hhost.symm hqp).symm

/-- A list without repetitions whose elements are all equal has at most one. -/
theorem length_le_one {α : Type} {l : List α} (hnodup : l.Nodup) (h : ∀ a ∈ l, ∀ b ∈ l, a = b) :
    l.length ≤ 1 := by
  match l with
  | [] => exact Nat.zero_le 1
  | [_] => exact Nat.le_refl 1
  | a :: b :: rest =>
    have hab : a = b := h a List.mem_cons_self b (List.mem_cons_of_mem a List.mem_cons_self)
    exact absurd (hab ▸ List.mem_cons_self) (List.nodup_cons.mp hnodup).1

/-- The only element with a property is found in any order. -/
theorem find?_eq_of_perm {α : Type} {l l' : List α} {p : α → Bool} (hperm : l.Perm l')
    (hone : (l.filter p).length ≤ 1) : l.find? p = l'.find? p := by
  have hfilter : (l.filter p).Perm (l'.filter p) := hperm.filter p
  have heq : l.filter p = l'.filter p := by
    match hl : l.filter p with
    | [] =>
      rw [hl] at hfilter
      exact hfilter.nil_eq
    | [a] =>
      rw [hl] at hfilter
      exact List.singleton_perm.mp hfilter
    | a :: b :: rest =>
      rw [hl] at hone
      exact absurd hone (by simp)
  rw [← List.head?_filter, ← List.head?_filter, heq]

/-! ## Listed backends -/

theorem completeSection?_congr {s t : Source} {id : String} (hurl : s.text? id "url" = t.text? id "url")
    (hsecret : s.text? id "secret" = t.text? id "secret") :
    completeSection? s id = completeSection? t id := by
  unfold completeSection?
  rw [hurl, hsecret]

/-- Settings that list the same ids with the same sections place the same backends. -/
theorem perm_placedBackends {s t : Source} (hids : (backendIds s).Perm (backendIds t))
    (hsections : ∀ id ∈ backendIds s, s.text? id "url" = t.text? id "url" ∧
      s.text? id "secret" = t.text? id "secret") :
    (placedBackends s).Perm (placedBackends t) := by
  have hplaced : placedBackends s = (backendIds s).filterMap fun id => (configured t id).toOption := by
    unfold placedBackends
    refine List.filterMap_congr fun id hid => ?_
    obtain ⟨hurl, hsecret⟩ := hsections id hid
    rw [toOption_configured, toOption_configured, completeSection?_congr hurl hsecret]
  rw [hplaced]
  exact hids.filterMap _

/-- The backends that claim a URL, of those under its host key. -/
def claimants (t : HostTable Backend) (u : Url) : List Backend :=
  (t.row u.hostKey).filter (·.claims u.normalized)

/-- At most one of the listed backends claims a URL, if they do not overlap. -/
theorem length_claimants_le_one {s : Source} (hapart : Apart (placedBackends s)) (u : Url) :
    (claimants (configuredTable s) u).length ≤ 1 := by
  have hrow : claimants (configuredTable s) u =
      ((placedBackends s).filter fun p => p.2.claims u.normalized && p.1 = u.hostKey).map (·.2) := by
    unfold claimants configuredTable
    rw [HostTable.row_ofList, List.filter_map, List.filter_filter]
    rfl
  rw [hrow, List.length_map]
  refine length_le_one ((nodup_placedBackends s).filter _) fun p hp q hq => ?_
  obtain ⟨hp, hpu⟩ := List.mem_filter.mp hp
  obtain ⟨hq, hqu⟩ := List.mem_filter.mp hq
  rw [Bool.and_eq_true, decide_eq_true_eq] at hpu hqu
  exact eq_of_claims hapart hp hq (hpu.2.trans hqu.2.symm) hpu.1 hqu.1

/-- **When the order makes no difference.** Two settings that list the same ids in whatever order,
    with the same sections, and whose backends do not overlap, give every URL to the same backend,
    or both to none; and at most one of the backends under the host key of a URL claims it. -/
theorem resolve?_reordered (s t : Source)
    (hs : (s.flag? mainSection "allowall").getD false = false) (hslists : listsBackends s = true)
    (ht : (t.flag? mainSection "allowall").getD false = false) (htlists : listsBackends t = true)
    (hids : (backendIds s).Perm (backendIds t))
    (hsections : ∀ id ∈ backendIds s, s.text? id "url" = t.text? id "url" ∧
      s.text? id "secret" = t.text? id "secret")
    (hapart : Apart (placedBackends s)) (u : Url) :
    let r := (Registry.ofSource s).1
    let r' := (Registry.ofSource t).1
    (r.resolve? u).map (·.backend) = (r'.resolve? u).map (·.backend) ∧
      (claimants r.hosts.backends u).length ≤ 1 ∧ (claimants r'.hosts.backends u).length ≤ 1 := by
  intro r r'
  have htable : r.hosts.backends = configuredTable s := by
    rw [← backends_ofBackends, ← ofSource_of_listsBackends hs hslists]
  have htable' : r'.hosts.backends = configuredTable t := by
    rw [← backends_ofBackends, ← ofSource_of_listsBackends ht htlists]
  have hperm : (placedBackends s).Perm (placedBackends t) := perm_placedBackends hids hsections
  have hapart' : Apart (placedBackends t) := fun p hp q hq =>
    hapart p (hperm.mem_iff.mpr hp) q (hperm.mem_iff.mpr hq)
  have hrow : ((configuredTable s).row u.hostKey).Perm ((configuredTable t).row u.hostKey) := by
    unfold configuredTable
    rw [HostTable.row_ofList, HostTable.row_ofList]
    exact (hperm.filter _).map _
  have hclaims := length_claimants_le_one hapart u
  refine ⟨?_, by rw [htable]; exact hclaims, by rw [htable']; exact length_claimants_le_one hapart' u⟩
  rw [backend_resolve?, backend_resolve?, fallback?_ofSource hs, fallback?_ofSource ht, htable, htable']
  exact congrArg (Option.or · none) (find?_eq_of_perm hrow hclaims)

/-- Two tenants side by side on one host, and one on another, listed in some order. -/
def sideBySide (order : String) : Source := textSettings
  [("backend", [("backends", order)]),
    ("far", [("url", "https://g/"), ("secret", "third")]),
    ("left", [("url", "https://h/a"), ("secret", "first")]),
    ("right", [("url", "https://h/ab/"), ("secret", "second")])]

theorem resolve?_reordered_sideBySide :
    let r := (Registry.ofSource (sideBySide "left, right, far")).1
    let r' := (Registry.ofSource (sideBySide "far,right,,left,far")).1
    Apart (placedBackends (sideBySide "left, right, far")) ∧
      (r.resolve? (urlOnH "/ab/c")).map (·.backend) =
        (r'.resolve? (urlOnH "/ab/c")).map (·.backend) ∧
      (r'.resolve? (urlOnH "/ab/c")).map (·.backend) =
        some ⟨"right", "https://h/ab/", .ofText "second", false⟩ := by
  intro r r'
  have hplaced : placedBackends (sideBySide "left, right, far") =
      [("h", ⟨"left", "https://h/a/", .ofText "first", false⟩),
        ("h", ⟨"right", "https://h/ab/", .ofText "second", false⟩),
        ("g", ⟨"far", "https://g/", .ofText "third", false⟩)] := by
    decide +kernel
  have hapart : Apart (placedBackends (sideBySide "left, right, far")) := by
    rw [hplaced]
    unfold Apart
    decide +kernel
  have h := resolve?_reordered (sideBySide "left, right, far") (sideBySide "far,right,,left,far")
    (by decide) (by decide) (by decide) (by decide) (by decide +kernel) (by decide +kernel) hapart
    (urlOnH "/ab/c")
  exact ⟨hapart, h.1, by decide +kernel⟩

end Switchboard.Tenancy
