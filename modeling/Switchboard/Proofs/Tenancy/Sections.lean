import Switchboard.Proofs.Tenancy.Tables
/-
  Sections of listed backends. A section is complete if it has a URL that is not empty, can be read
  and names a host, and a secret that is not empty (`completeSection?`). The listed backends are
  those of the complete sections (`toOption_configured`), and the table has exactly these under
  the host keys of their URLs (`mem_row_configuredTable`).
-/
namespace Switchboard.Tenancy

open Switchboard.Settings (Source)

/-! ## Settings of all backends -/

section

variable {s t : Source}

theorem listsBackends_congr (h : s.text? mainSection "backends" = t.text? mainSection "backends") :
    listsBackends s = listsBackends t := by
  unfold listsBackends
  rw [h]

theorem backendIds_congr (h : s.text? mainSection "backends" = t.text? mainSection "backends") :
    backendIds s = backendIds t := by
  unfold backendIds
  rw [h]

theorem allowedSetting_congr (h : s.text? mainSection "allowed" = t.text? mainSection "allowed") :
    Registry.allowedSetting s = Registry.allowedSetting t := by
  unfold Registry.allowedSetting
  rw [h]

end

/-! ## Complete sections -/

/-- The URL and the secret in the section of an id, if the section is complete. -/
def completeSection? (s : Source) (id : String) : Option (Url × String) := do
  let raw ← (s.text? id "url").filter (· ≠ "")
  let url ← (Url.ofText (withSlash raw)).toOption.filter (·.host?.isSome)
  let secret ← (s.text? id "secret").filter (· ≠ "")
  return (url, secret)

theorem nonEmpty?_eq (t : Option String) : nonEmpty? t = t.filter (· ≠ "") := by
  unfold nonEmpty?
  congr 1
  funext x
  by_cases h : x = ""
  · rw [h]; rfl
  · simp [h]

/-- A listed backend is what its section gives, if the section is complete. -/
theorem toOption_configured (s : Source) (id : String) :
    (configured s id).toOption = (completeSection? s id).map fun p =>
      (p.1.hostKey, Backend.ofUrl id p.1 (.ofText p.2)) := by
  unfold configured completeSection?
  rw [nonEmpty?_eq, nonEmpty?_eq]
  cases (s.text? id "url").filter (· ≠ "") with
  | none => rfl
  | some raw =>
    cases hu : Url.ofText (withSlash raw) with
    | error fault => simp [hu, Except.toOption]
    | ok url =>
      cases hh : url.host? with
      | none => simp [hu, hh, Except.toOption, Option.filter_some]
      | some host =>
        cases (s.text? id "secret").filter (· ≠ "") <;>
          simp [hu, hh, Except.toOption, Option.filter_some]

theorem mem_placedBackends {s : Source} {p : Placed} :
    p ∈ placedBackends s ↔ ∃ id ∈ backendIds s, ∃ url secret,
      completeSection? s id = some (url, secret) ∧
        p = (url.hostKey, Backend.ofUrl id url (.ofText secret)) := by
  unfold placedBackends
  simp only [List.mem_filterMap, toOption_configured, Option.map_eq_some_iff, Prod.exists]
  constructor
  · rintro ⟨id, hid, url, secret, hsec, rfl⟩
    exact ⟨id, hid, url, secret, hsec, rfl⟩
  · rintro ⟨id, hid, url, secret, hsec, rfl⟩
    exact ⟨id, hid, url, secret, hsec, rfl⟩

/-- Under a host key the table has the backends of the complete sections whose URLs have this key. -/
theorem mem_row_configuredTable {s : Source} {host : String} {b : Backend} :
    b ∈ (configuredTable s).row host ↔ ∃ id ∈ backendIds s, ∃ url secret,
      completeSection? s id = some (url, secret) ∧ host = url.hostKey ∧
        b = Backend.ofUrl id url (.ofText secret) := by
  unfold configuredTable
  rw [HostTable.mem_row_ofList, mem_placedBackends]
  simp only [Prod.mk.injEq]

theorem completeSection?_secret_ne {s : Source} {id : String} {url : Url} {secret : String}
    (h : completeSection? s id = some (url, secret)) : secret ≠ "" := by
  unfold completeSection? at h
  obtain ⟨raw, -, h⟩ := Option.bind_eq_some_iff.mp h
  obtain ⟨url', -, h⟩ := Option.bind_eq_some_iff.mp h
  obtain ⟨secret', hs, h⟩ := Option.bind_eq_some_iff.mp h
  cases h
  simpa using (Option.filter_eq_some_iff.mp hs).2

/-- Only the empty text makes an empty secret. -/
theorem bytes_ofText_eq_nil {t : String} : (Secret.ofText t).bytes = [] ↔ t = "" := by
  unfold Secret.ofText
  rw [List.flatMap_eq_nil_iff]
  constructor
  · intro h
    rw [← String.toList_eq_nil_iff, List.eq_nil_iff_forall_not_mem]
    intro c hc
    exact String.utf8EncodeChar_ne_nil (h c hc)
  · rintro rfl c hc
    cases hc

/-! ## Samples -/

/-- Settings whose values are all texts. -/
def textSettings (sections : List (String × List (String × String))) : Source :=
  Settings.Snapshot.source ⟨sections.map fun (name, entries) =>
    (name, .table (entries.map fun (key, text) => (key, .text text)))⟩

/-- What settings given as texts have under a section and a key. -/
theorem value?_texts (sections : List (String × List (String × String))) (sec key : String) :
    Settings.Snapshot.value? ⟨sections.map fun (name, entries) =>
        (name, .table (entries.map fun (key, text) => (key, .text text)))⟩ sec key =
      ((Directory.find? sec sections).bind (Directory.find? key)).map .text := by
  have hsection := Directory.find?_map (fun _ (entries : List (String × String)) =>
    Toml.Value.table (entries.map fun (key, text) => (key, .text text))) sec sections
  unfold Settings.Snapshot.value?
  dsimp only
  rw [hsection]
  cases Directory.find? sec sections with
  | none => rfl
  | some entries => exact Directory.find?_map (fun _ => Toml.Value.text) key entries

/-- A URL of the host `h`. -/
def urlOnH (path : String) : Url := ⟨"https", some ⟨"", .name "h", none⟩, path, none, none⟩

end Switchboard.Tenancy
