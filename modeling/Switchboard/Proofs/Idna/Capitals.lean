import Switchboard.Idna.Composition
import Switchboard.Idna.Mapping
import Switchboard.Proofs.Text.Splitting
/-
  What the tables of host names say about capital letters. A composed character may have a capital
  letter of ASCII among its parts, so `hasCapital` takes in all code points for which this could be
  so. No character is mapped to such a code point, and each one beyond ASCII is mapped to something
  else (`capital_free_of_mapChar?`); a composed character with such a first part is one itself
  (`sound_of_mem_composites`).

  A table is checked line by line: a line is given to the kernel as a list of characters, since it
  is slow at taking a string apart.
-/
namespace Switchboard.Idna

open Switchboard.Text

/-! ## Checking tables -/

/-- Whether all words of a line satisfy a test. -/
def lineHolds (test : List Char → Bool) (line : List Char) : Bool := (pieces ' ' line).all test

/-- Whether all words of a table satisfy a test. -/
def TableHolds (test : List Char → Bool) (table : List String) : Prop :=
  ∀ w ∈ tableWords table, test w = true

section

variable {test : List Char → Bool} {line : List Char} {table : List String}

theorem tableHolds_nil : TableHolds test [] := nofun

theorem tableHolds_cons (hline : lineHolds test line = true) (htable : TableHolds test table) :
    TableHolds test (String.ofList line :: table) := by
  intro w hw
  unfold tableWords at hw
  rw [List.flatMap_cons, String.toList_ofList, List.mem_append] at hw
  rcases hw with hw | hw
  · exact List.all_eq_true.mp hline w hw
  · exact htable w hw

end

/-! ## Capitals -/

/-- The ranges of the capitals, in ascending order, each with the distance from one to the next. -/
def capitalRanges : List (Nat × Nat × Nat) :=
  [ (0x41, 0x5A, 1), (0xC0, 0xD6, 1), (0xD8, 0xDE, 1), (0x100, 0x136, 2), (0x139, 0x147, 2),
    (0x14A, 0x176, 2), (0x178, 0x178, 1), (0x179, 0x17D, 2), (0x1A0, 0x1A0, 1),
    (0x1AF, 0x1AF, 1), (0x1CD, 0x1DB, 2), (0x1DE, 0x1EE, 2), (0x1F4, 0x1F4, 1),
    (0x1F8, 0x21E, 2), (0x226, 0x232, 2), (0x1E00, 0x1E94, 2), (0x1EA0, 0x1EF8, 2) ]

/-- Whether a code point is a capital letter of ASCII, or might be composed of one and marks. -/
def hasCapital (n : Nat) : Bool :=
  n ≤ 0x1EF8 && match capitalRanges.find? fun r => n ≤ r.2.1 with
    | some (first, _, step) => first ≤ n && (n - first) % step == 0
    | none => false

/-- Whether a number is the code point of a character that has no capital. -/
def isCapitalFree (n : Nat) : Bool := decide n.isValidChar && !hasCapital n

theorem toNat_ofNat {n : Nat} (h : n.isValidChar) : (Char.ofNat n).toNat = n := by
  unfold Char.ofNat
  rw [dif_pos h]
  rfl

theorem hasCapital_ofNat {n : Nat} (h : isCapitalFree n = true) :
    hasCapital (Char.ofNat n).toNat = false := by
  unfold isCapitalFree at h
  rw [Bool.and_eq_true, decide_eq_true_iff, Bool.not_eq_true'] at h
  rw [toNat_ofNat h.1, h.2]

/-! ## Composed characters -/

/-- What is known of a composed character: it lies beyond ASCII, its second part is a mark, and its
    first part has no capital unless it has one itself. -/
structure Composite.Sound (k : Composite) : Prop where
  whole_valid : k.whole.isValidChar
  first_valid : k.first.isValidChar
  second_valid : k.second.isValidChar
  whole_large : 0xC0 ≤ k.whole
  second_large : 0x300 ≤ k.second
  second_small : hasCapital k.second = false
  first_capital : hasCapital k.first = true → hasCapital k.whole = true

instance (k : Composite) : Decidable k.Sound :=
  decidable_of_iff
    (k.whole.isValidChar ∧ k.first.isValidChar ∧ k.second.isValidChar ∧ 0xC0 ≤ k.whole ∧
      0x300 ≤ k.second ∧ hasCapital k.second = false ∧
      (hasCapital k.first = true → hasCapital k.whole = true))
    ⟨fun ⟨a, b, c, d, e, f, g⟩ => ⟨a, b, c, d, e, f, g⟩,
      fun ⟨a, b, c, d, e, f, g⟩ => ⟨a, b, c, d, e, f, g⟩⟩

theorem compositeTable_holds :
    TableHolds (fun w => decide (Composite.ofText w).Sound) compositeTable := by
  unfold compositeTable
  repeat with_reducible refine tableHolds_cons (by decide +kernel) ?_
  exact tableHolds_nil

/-- All composed characters of the table are sound. -/
theorem sound_of_mem_composites {k : Composite} (h : k ∈ composites) : k.Sound := by
  obtain ⟨w, hw, rfl⟩ := List.mem_map.mp h
  exact of_decide_eq_true (compositeTable_holds w hw)

/-! ## Mapped characters -/

/-- All code points to which a range may be mapped. -/
def Mapped.images (m : Mapped) : List Nat :=
  match m.rule with
  | .shift target => (List.range (m.range.last - m.range.first + 1)).map (target + ·)
  | .alternate target => (List.range ((m.range.last - m.range.first) / 2 + 1)).map (target + 2 * ·)
  | .constant targets => targets

theorem mem_images {m : Mapped} {n x : Nat} {ns : List Nat} (h : m.image? n = some ns)
    (hx : x ∈ ns) : x ∈ m.images := by
  unfold Mapped.image? at h
  unfold Mapped.images
  split at h
  · cases h
  · cases hrule : m.rule with
    | shift target =>
      rw [hrule] at h
      cases h
      cases List.mem_singleton.mp hx
      exact List.mem_map.mpr ⟨n - m.range.first, List.mem_range.mpr (by omega), rfl⟩
    | alternate target =>
      rw [hrule] at h
      dsimp only at h
      split at h
      · cases h
        cases List.mem_singleton.mp hx
        exact List.mem_map.mpr ⟨(n - m.range.first) / 2, List.mem_range.mpr (by omega), by omega⟩
      · cases h
    | constant targets =>
      rw [hrule] at h
      cases h
      exact hx

/-- Whether a word of the table maps to characters without capitals only. -/
def mapsToCapitalFree (w : List Char) : Bool :=
  match Mapped.ofText? w with
  | some m => m.images.all isCapitalFree
  | none => true

theorem mappingTable_holds : TableHolds mapsToCapitalFree mappingTable := by
  unfold mappingTable
  repeat with_reducible refine tableHolds_cons (by decide +kernel) ?_
  exact tableHolds_nil

/-- No character is mapped to one with a capital. -/
theorem isCapitalFree_image {m : Mapped} (hm : m ∈ mappedRanges) {n x : Nat} {ns : List Nat}
    (h : m.image? n = some ns) (hx : x ∈ ns) : isCapitalFree x = true := by
  obtain ⟨w, hw, hword⟩ := List.mem_filterMap.mp hm
  have hall := mappingTable_holds w hw
  unfold mapsToCapitalFree at hall
  rw [hword] at hall
  exact List.all_eq_true.mp hall x (mem_images h hx)

/-! ## Capitals beyond ASCII -/

/-- The rules that map the capitals beyond ASCII. -/
def capitalRules : List (String × Mapped) :=
  [ ("c0-d6>e0", ⟨⟨0xC0, 0xD6⟩, .shift 0xE0⟩), ("d8-de>f8", ⟨⟨0xD8, 0xDE⟩, .shift 0xF8⟩),
    ("100-12e/101", ⟨⟨0x100, 0x12E⟩, .alternate 0x101⟩),
    ("130=69.307", ⟨⟨0x130, 0x130⟩, .constant [0x69, 0x307]⟩),
    ("132-133=69.6a", ⟨⟨0x132, 0x133⟩, .constant [0x69, 0x6A]⟩),
    ("134-136/135", ⟨⟨0x134, 0x136⟩, .alternate 0x135⟩),
    ("139-13d/13a", ⟨⟨0x139, 0x13D⟩, .alternate 0x13A⟩),
    ("13f-140=6c.b7", ⟨⟨0x13F, 0x140⟩, .constant [0x6C, 0xB7]⟩),
    ("141-147/142", ⟨⟨0x141, 0x147⟩, .alternate 0x142⟩),
    ("14a-176/14b", ⟨⟨0x14A, 0x176⟩, .alternate 0x14B⟩),
    ("178=ff", ⟨⟨0x178, 0x178⟩, .constant [0xFF]⟩),
    ("179-17d/17a", ⟨⟨0x179, 0x17D⟩, .alternate 0x17A⟩),
    ("1a0-1a4/1a1", ⟨⟨0x1A0, 0x1A4⟩, .alternate 0x1A1⟩),
    ("1af=1b0", ⟨⟨0x1AF, 0x1AF⟩, .constant [0x1B0]⟩),
    ("1cd-1db/1ce", ⟨⟨0x1CD, 0x1DB⟩, .alternate 0x1CE⟩),
    ("1de-1ee/1df", ⟨⟨0x1DE, 0x1EE⟩, .alternate 0x1DF⟩),
    ("1f4=1f5", ⟨⟨0x1F4, 0x1F4⟩, .constant [0x1F5]⟩),
    ("1f8-21e/1f9", ⟨⟨0x1F8, 0x21E⟩, .alternate 0x1F9⟩),
    ("222-232/223", ⟨⟨0x222, 0x232⟩, .alternate 0x223⟩),
    ("1e00-1e94/1e01", ⟨⟨0x1E00, 0x1E94⟩, .alternate 0x1E01⟩),
    ("1ea0-1efe/1ea1", ⟨⟨0x1EA0, 0x1EFE⟩, .alternate 0x1EA1⟩) ]

deriving instance DecidableEq for CodeRange, Rule, Mapped

theorem capitalRules_read :
    ∀ p ∈ capitalRules, Mapped.ofText? p.1.toList = some p.2 := by
  decide +kernel

theorem capitalRules_cover :
    ∀ r ∈ capitalRanges, ∀ x < r.2.1 + 1 - r.1, x % r.2.2 = 0 → 0x80 ≤ r.1 + x →
      capitalRules.any (fun p => (p.2.image? (r.1 + x)).isSome) = true := by
  decide +kernel

/-- Whether a table has all words of a list. -/
def TableHas (words : List String) (table : List String) : Prop :=
  ∀ w ∈ words, w.toList ∈ tableWords table

section

variable {words : List String} {line : List Char} {table : List String}

theorem tableHas_nil : TableHas [] table := nofun

theorem tableHas_skip (htable : TableHas words table) :
    TableHas words (String.ofList line :: table) := by
  intro w hw
  unfold tableWords
  rw [List.flatMap_cons]
  exact List.mem_append_right _ (htable w hw)

theorem tableHas_cons {w : String} (hline : (pieces ' ' line).contains w.toList = true)
    (htable : TableHas words (String.ofList line :: table)) :
    TableHas (w :: words) (String.ofList line :: table) := by
  intro x hx
  rcases List.mem_cons.mp hx with rfl | hx
  · unfold tableWords
    rw [List.flatMap_cons, String.toList_ofList]
    exact List.mem_append_left _ (List.contains_iff_mem.mp hline)
  · exact htable x hx

end

theorem capitalRules_listed : TableHas (capitalRules.map (·.1)) mappingTable := by
  unfold mappingTable
  repeat first
    | exact tableHas_nil
    | refine tableHas_cons (by decide +kernel) ?_
    | refine tableHas_skip ?_

/-- A capital beyond ASCII is mapped. -/
theorem exists_image_of_hasCapital {n : Nat} (h : hasCapital n = true) (hn : 0x80 ≤ n) :
    ∃ m ∈ mappedRanges, (m.image? n).isSome = true := by
  unfold hasCapital at h
  rw [Bool.and_eq_true] at h
  obtain ⟨-, h⟩ := h
  split at h
  · next first last step hfound =>
    have hmem := List.mem_of_find?_eq_some hfound
    have hlast : n ≤ last := of_decide_eq_true
      (List.find?_some (p := fun r : Nat × Nat × Nat => decide (n ≤ r.2.1)) hfound)
    simp only [Bool.and_eq_true, decide_eq_true_eq, beq_iff_eq] at h
    have hcover := capitalRules_cover _ hmem (n - first) (by dsimp only; omega) h.2
    dsimp only at hcover
    rw [Nat.add_sub_cancel' h.1] at hcover
    obtain ⟨p, hp, himage⟩ := List.any_eq_true.mp (hcover hn)
    exact ⟨p.2, List.mem_filterMap.mpr
      ⟨_, capitalRules_listed p.1 (List.mem_map_of_mem hp), capitalRules_read p hp⟩, himage⟩
  · cases h

/-! ## What mapping leaves -/

/-- Nothing that a character of a name is mapped to has a capital. -/
theorem capital_free_of_mapChar? {c : Char} {r : List Char} (h : mapChar? c = some r) :
    ∀ d ∈ r, hasCapital d.toNat = false := by
  intro d hd
  unfold mapChar? at h
  split at h
  · cases h
    cases List.mem_singleton.mp hd
    exact forall_ascii (p := fun c => hasCapital c.toLower.toNat = false) (by decide)
      (by assumption)
  · next hlarge =>
    split at h
    · cases h
    · split at h
      · next ns hfound =>
        cases h
        obtain ⟨m, hm, himage⟩ := List.exists_of_findSome?_eq_some hfound
        obtain ⟨x, hx, rfl⟩ := List.mem_map.mp hd
        exact hasCapital_ofNat (isCapitalFree_image hm himage hx)
      · next hnone =>
        cases h
        cases List.mem_singleton.mp hd
        refine eq_false_of_ne_true fun hcapital => ?_
        obtain ⟨m, hm, himage⟩ := exists_image_of_hasCapital hcapital (by omega)
        rw [List.findSome?_eq_none_iff.mp hnone m hm] at himage
        cases himage

end Switchboard.Idna
