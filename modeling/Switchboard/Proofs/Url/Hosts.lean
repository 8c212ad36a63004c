import Switchboard.Proofs.Json.Leaves
import Switchboard.Url.Reader
/-
  URLs of network schemes have hosts. An empty host is refused where a host is read
  (`ne_of_readHost`), so every authority of such a scheme has one (`host_ne_of_readAuthority`), and
  with it every URL (`isSome_host?_of_network`). A text that starts with `https://` is always taken
  for such a URL, whatever follows (`isSome_host?_of_https`).
-/
namespace Switchboard.Url

open Switchboard.Json (bind_eq_ok)

/-! ## Hosts -/

theorem ne_of_bracketed {s : List Char} {h : Host} (hread : bracketed s = .ok h) :
    h ≠ .name "" := by
  unfold bracketed at hread
  split at hread
  · split at hread
    · cases hread
      nofun
    · cases hread
  · cases hread

theorem ne_of_ofSpecial {s : List Char} {h : Host} (hread : Host.ofSpecial s = .ok h) :
    h ≠ .name "" := by
  unfold Host.ofSpecial at hread
  split at hread
  · exact ne_of_bracketed hread
  · split at hread
    · cases hread
    · cases hread
    · next domain hne _ =>
      split at hread
      · split at hread
        · cases hread
          nofun
        · cases hread
      · cases hread
        intro hname
        have hempty := String.ofList_eq_empty_iff.mp (Host.name.inj hname)
        exact hne hempty

/-- The host of a network scheme is never empty. -/
theorem ne_of_readHost {s : List Char} {h : Host} (hread : readHost .network s = .ok h) :
    h ≠ .name "" := by
  unfold readHost at hread
  rw [if_pos (by decide)] at hread
  split at hread
  · cases hread
  · exact ne_of_ofSpecial hread

/-! ## Authorities -/

variable {scheme : String}

theorem host_ne_of_readServer (hk : SchemeKind.of scheme = .network) {user : String}
    {s left : List Char} {a : Authority} (hread : readServer scheme user s = .ok (a, left)) :
    a.host ≠ .name "" := by
  unfold readServer at hread
  dsimp only at hread
  rw [hk] at hread
  obtain ⟨host, hhost, hread⟩ := bind_eq_ok.mp hread
  have hne := ne_of_readHost hhost
  split at hread
  · cases hread
    exact hne
  · rw [if_neg hne] at hread
    obtain ⟨⟨port, rest⟩, -, hread⟩ := bind_eq_ok.mp hread
    cases hread
    exact hne

theorem host_ne_of_readAuthority (hk : SchemeKind.of scheme = .network) {s rest left : List Char}
    {a : Authority} (hread : readAuthority scheme s rest = .ok (a, left)) :
    a.host ≠ .name "" := by
  unfold readAuthority at hread
  split at hread
  · obtain ⟨⟨b, remaining⟩, hserver, hread⟩ := bind_eq_ok.mp hread
    cases hread
    exact host_ne_of_readServer hk hserver
  · split at hread
    · cases hread
    · obtain ⟨⟨b, remaining⟩, hserver, hread⟩ := bind_eq_ok.mp hread
      have hne := host_ne_of_readServer hk hserver
      dsimp only at hread
      rw [if_neg fun h => hne h.1] at hread
      cases hread
      exact hne

/-! ## URLs -/

theorem isSome_host?_of_readAfterSlashes (hk : SchemeKind.of scheme = .network) {s : List Char}
    {u : Url} (hread : readAfterSlashes scheme s = .ok u) : u.host?.isSome = true := by
  unfold readAfterSlashes at hread
  obtain ⟨⟨a, rest⟩, hauthority, hread⟩ := bind_eq_ok.mp hread
  cases hread
  have hne := host_ne_of_readAuthority hk hauthority
  have hhost : (readPathSuffix scheme (some a) rest).host? = some a.host := by
    unfold host?
    exact if_neg hne
  rw [hhost]
  rfl

/-- A URL that is read from a text with a network scheme in front has a host. -/
theorem isSome_host?_of_network {text : String} {s : List Char} {u : Url}
    (hscheme : spanScheme? (cleaned text.toList) = some (scheme, s))
    (hk : SchemeKind.of scheme = .network) (hread : ofText text = .ok u) :
    u.host?.isSome = true := by
  unfold ofText at hread
  rw [hscheme] at hread
  dsimp only at hread
  rw [hk] at hread
  exact isSome_host?_of_readAfterSlashes hk hread

/-- What stands between an `h` and a slash loses nothing but tabs and line breaks. -/
theorem cleaned_between (s : List Char) :
    cleaned ('h' :: s ++ ['/']) =
      'h' :: (s.filter fun c => !(c == '\t' || c == '\n' || c == '\r')) ++ ['/'] := by
  unfold cleaned
  dsimp only
  rw [List.cons_append, List.dropWhile_cons_of_neg (by decide), ← List.cons_append,
    List.reverse_append, List.reverse_singleton, List.singleton_append,
    List.dropWhile_cons_of_neg (by decide), List.reverse_cons, List.reverse_reverse,
    List.filter_append]
  rfl

/-- Every text with `https://` in front names a host, if it can be read at all. -/
theorem isSome_host?_of_https {host : List Char} {u : Url}
    (hread : ofText ("https://" ++ String.ofList host ++ "/") = .ok u) :
    u.host?.isSome = true := by
  have htext : ("https://" ++ String.ofList host ++ "/").toList =
      'h' :: ("ttps://".toList ++ host) ++ ['/'] := by
    simp
  have hscheme : ∃ s, spanScheme? (cleaned ("https://" ++ String.ofList host ++ "/").toList) =
      some ("https", s) := by
    rw [htext, cleaned_between, List.filter_append]
    exact ⟨_, rfl⟩
  obtain ⟨s, hscheme⟩ := hscheme
  exact isSome_host?_of_network hscheme (by decide) hread

end Switchboard.Url
