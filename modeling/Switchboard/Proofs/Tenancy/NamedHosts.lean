import Switchboard.Proofs.Tenancy.Allowed
import Switchboard.Proofs.Text.Lists
/-
  Lists of hosts. Every piece of the list between two commas names a host by what stands before its
  first slash (`hostPart`). It gives the key of that host if it can be read (`fst_allowedHost`), and
  warnings of what is left out: of a path, and of a host that cannot be read (`snd_allowedHost`).
  Both keep the order of the pieces. A piece that is not blank has a slash or names a host, and a
  host is read or not; so no such piece is passed over in silence (`accounted_of_mem`).
-/
namespace Switchboard

/-- The hostname that a notice names. -/
def Notice.hostname? (n : Notice) : Option String := n.fields.lookup "hostname"

namespace Tenancy

open Switchboard.Text

/-! ## One piece -/

/-- The host that a piece names: what stands before the first slash, without blanks around the
    piece. -/
def hostPart (piece : List Char) : List Char := (trim piece).takeWhile (· ≠ '/')

/-- The key of a host, if there is a host and it can be read behind `https://`. -/
def keyOf? (host : List Char) : Option String :=
  if host = [] then none else (Url.ofText (hostUrl host)).toOption.map Url.hostKey

/-- The warning that a piece has more than a host. -/
def pathWarnings (piece : List Char) : List Notice :=
  if '/' ∈ piece then [.pathRemoved (String.ofList (trim piece))] else []

/-- The warning that a host cannot be read. -/
def hostWarnings (host : List Char) : List Notice :=
  if host = [] then []
  else
    match Url.ofText (hostUrl host) with
    | .ok _ => []
    | .error fault => [.hostnameInvalid (String.ofList host) fault]

theorem keyOf?_eq_some_iff {host : List Char} {key : String} :
    keyOf? host = some key ↔ host ≠ [] ∧ ∃ u, Url.ofText (hostUrl host) = .ok u ∧ key = u.hostKey := by
  unfold keyOf?
  by_cases hnil : host = []
  · simp [hnil]
  · cases hread : Url.ofText (hostUrl host) with
    | error fault => simp [hnil, Except.toOption]
    | ok u => simp [hnil, Except.toOption, eq_comm]

theorem slash_mem_trim {piece : List Char} : '/' ∈ trim piece ↔ '/' ∈ piece := mem_trim (by decide)

theorem hostPart_of_no_slash {piece : List Char} (h : '/' ∉ piece) : hostPart piece = trim piece := by
  unfold hostPart
  rw [List.takeWhile_eq_self_iff]
  intro c hc
  exact decide_eq_true fun hslash => slash_mem_trim.not.mpr h (hslash ▸ hc)

theorem snd_bareHost (text : List Char) :
    (bareHost text).2 = if '/' ∈ text then [.pathRemoved (String.ofList text)] else [] := by
  unfold bareHost
  by_cases hslash : '/' ∈ text
  · rw [if_pos hslash]
    obtain ⟨host, path, rfl, hhost⟩ := List.eq_append_cons_of_mem hslash
    rw [cut_append hhost]
  · rw [if_neg hslash, cut_of_not_mem hslash]

theorem fst_allowedHost (piece : List Char) :
    (allowedHost (trim piece)).1 = keyOf? (hostPart piece) := by
  apply Option.ext
  intro key
  rw [fst_allowedHost_eq_some_iff, keyOf?_eq_some_iff]
  rfl

theorem snd_allowedHost (piece : List Char) :
    (allowedHost (trim piece)).2 = pathWarnings piece ++ hostWarnings (hostPart piece) := by
  have hpath : (bareHost (trim piece)).2 = pathWarnings piece := by
    rw [snd_bareHost]
    simp only [slash_mem_trim]
    rfl
  have hhost : (bareHost (trim piece)).1 = hostPart piece := fst_bareHost (trim piece)
  unfold allowedHost hostWarnings
  dsimp only
  rw [hpath, hhost]
  by_cases hnil : hostPart piece = []
  · rw [if_pos hnil, hnil, List.append_nil]
    rfl
  · rw [if_neg hnil, if_neg (List.isEmpty_iff.not.mpr hnil)]
    cases Url.ofText (hostUrl (hostPart piece)) with
    | ok u => rw [List.append_nil]
    | error fault => rfl

/-! ## The list -/

theorem allowedHosts_eq_distinct (raw : String) :
    allowedHosts raw =
      distinct ((raw.toList.splitOn ',').filterMap fun piece => keyOf? (hostPart piece)) := by
  unfold allowedHosts trimmedPieces
  rw [pieces_eq_splitOn, List.filterMap_map]
  exact congrArg distinct (List.filterMap_congr fun piece _ => fst_allowedHost piece)

theorem allowedNotices_eq_flatMap (raw : String) :
    allowedNotices raw =
      (raw.toList.splitOn ',').flatMap fun piece =>
        pathWarnings piece ++ hostWarnings (hostPart piece) := by
  unfold allowedNotices trimmedPieces
  rw [pieces_eq_splitOn, List.flatMap_map]
  exact List.flatMap_congr fun piece _ => snd_allowedHost piece

theorem level_allowedNotices {raw : String} {n : Notice} (h : n ∈ allowedNotices raw) :
    n.level = .warn := by
  rw [allowedNotices_eq_flatMap] at h
  obtain ⟨piece, -, hn⟩ := List.mem_flatMap.mp h
  rcases List.mem_append.mp hn with hn | hn
  · unfold pathWarnings at hn
    split at hn
    · rw [List.mem_singleton.mp hn]
      rfl
    · cases hn
  · unfold hostWarnings at hn
    split at hn
    · cases hn
    · split at hn
      · cases hn
      · rw [List.mem_singleton.mp hn]
        rfl

/-- What becomes of a piece of a list: the key of the host that it names is in the result, or there
    is a warning that names the piece. -/
inductive Accounted (raw : String) (piece : List Char) : Prop
  | kept (u : Url) (read : Url.ofText (hostUrl (hostPart piece)) = .ok u)
    (listed : u.hostKey ∈ allowedHosts raw)
  | warned (n : Notice) (made : n ∈ allowedNotices raw) (level : n.level = .warn)
    (names : n.hostname? = some (String.ofList (trim piece)))

/-- No piece is passed over in silence, unless it is blank. -/
theorem accounted_of_mem {raw : String} {piece : List Char} (hpiece : piece ∈ raw.toList.splitOn ',')
    (hblank : ¬Blanks piece) : Accounted raw piece := by
  have hwarned {n : Notice} (hn : n ∈ pathWarnings piece ++ hostWarnings (hostPart piece))
      (hnames : n.hostname? = some (String.ofList (trim piece))) : Accounted raw piece := by
    have hmade : n ∈ allowedNotices raw := by
      rw [allowedNotices_eq_flatMap]
      exact List.mem_flatMap.mpr ⟨piece, hpiece, hn⟩
    exact .warned n hmade (level_allowedNotices hmade) hnames
  by_cases hslash : '/' ∈ piece
  · refine hwarned (n := .pathRemoved (String.ofList (trim piece))) ?_ rfl
    unfold pathWarnings
    rw [if_pos hslash]
    exact List.mem_append_left _ (List.mem_singleton_self _)
  · have hne : hostPart piece ≠ [] := by
      rw [hostPart_of_no_slash hslash]
      exact trim_eq_nil_iff.not.mpr hblank
    cases hread : Url.ofText (hostUrl (hostPart piece)) with
    | ok u =>
      refine .kept u hread ?_
      rw [allowedHosts_eq_distinct, mem_distinct]
      exact List.mem_filterMap.mpr ⟨piece, hpiece, keyOf?_eq_some_iff.mpr ⟨hne, u, hread, rfl⟩⟩
    | error fault =>
      refine hwarned (n := .hostnameInvalid (String.ofList (hostPart piece)) fault) ?_ ?_
      · unfold hostWarnings
        rw [if_neg hne, hread]
        exact List.mem_append_right _ (List.mem_singleton_self _)
      · rw [hostPart_of_no_slash hslash]
        rfl

/-- **Lists of hosts are read exactly and never in silence.** The result has the keys of the hosts
    that the pieces between the commas name, as far as they can be read, in the order in which these
    keys first occur, each once and none of them empty. The warnings are, piece by piece, that of a
    path that is left out and that of a host that cannot be read. So every piece that is not blank
    either has its key in the result or has been warned of. -/
theorem allowedHosts_accounted (raw : String) :
    let between := raw.toList.splitOn ','
    (∀ piece ∈ between, Trims piece (trim piece)) ∧
      ((allowedHosts raw).Nodup ∧ "" ∉ allowedHosts raw) ∧
      Firsts (between.filterMap fun piece => keyOf? (hostPart piece)) (allowedHosts raw) ∧
      allowedNotices raw =
        between.flatMap (fun piece => pathWarnings piece ++ hostWarnings (hostPart piece)) ∧
      (∀ n ∈ allowedNotices raw, n.level = .warn) ∧
      ∀ piece ∈ between, ¬Blanks piece → Accounted raw piece := by
  intro between
  refine ⟨fun piece _ => trims_trim piece, ⟨nodup_distinct _, ?_⟩, ?_, allowedNotices_eq_flatMap raw,
    fun _ => level_allowedNotices, fun _ => accounted_of_mem⟩
  · exact fun hempty => ne_of_mem_allowedHosts hempty rfl
  · rw [allowedHosts_eq_distinct]
    exact firsts_distinct _

/-- Of this list one host is named twice, in another case and with the port that `https` implies; one
    comes with a path, and one is no host. A blank piece and a path of its own name none. -/
def mixedNames : String := " G , h/x/y,, g:443, /only, [/z "

theorem allowedHosts_accounted_mixed :
    allowedHosts mixedNames = ["g", "h"] ∧
      allowedNotices mixedNames = [.pathRemoved "h/x/y", .pathRemoved "/only", .pathRemoved "[/z",
        .hostnameInvalid "[" .invalidIpv6] ∧
      Trims " g:443".toList "g:443".toList ∧ Accounted mixedNames " g:443".toList ∧
      (Notice.hostnameInvalid "[" .invalidIpv6).level = .warn := by
  have hmem : " g:443".toList ∈ mixedNames.toList.splitOn ',' := by
    rw [← pieces_eq_splitOn]
    decide
  have hblank : ¬Blanks " g:443".toList := by decide
  have hnotices : allowedNotices mixedNames = [.pathRemoved "h/x/y", .pathRemoved "/only",
      .pathRemoved "[/z", .hostnameInvalid "[" .invalidIpv6] := by
    decide +kernel
  obtain ⟨htrims, -, -, -, hlevel, haccounted⟩ := allowedHosts_accounted mixedNames
  exact ⟨by decide +kernel, hnotices, htrims _ hmem, haccounted _ hmem hblank,
    hlevel _ (by rw [hnotices]; decide)⟩

end Tenancy

end Switchboard
