import Switchboard.Url.Host
/-
  Encoded text is in normal form: it has no character of the set by which it was encoded
  (`percentEncode_clean`), and text that has none is encoded as itself (`percentEncode_of_clean`).
  Text without percent signs is decoded to itself (`utf8?_percentDecode`).
-/
namespace Switchboard.Url

/-- The characters in which bytes are encoded. -/
def encodedChars : List Char := "%0123456789ABCDEF".toList

theorem mem_encodeByte {b : UInt8} {c : Char} (h : c ∈ encodeByte b) : c ∈ encodedChars := by
  have hdigit : ∀ d < 16, upperDigit d ∈ encodedChars := by decide
  have hb : b.toNat < 256 := b.toNat_lt
  simp only [encodeByte, List.mem_cons, List.not_mem_nil, or_false] at h
  rcases h with rfl | rfl | rfl
  · decide
  · exact hdigit _ (by omega)
  · exact hdigit _ (by omega)

theorem mem_percentEncode {set : Char → Bool} {s : List Char} {c : Char}
    (h : c ∈ percentEncode set s) : c ∈ encodedChars ∨ (c ∈ s ∧ set c = false) := by
  obtain ⟨d, hd, hc⟩ := List.mem_flatMap.mp h
  split at hc
  · obtain ⟨b, -, hb⟩ := List.mem_flatMap.mp hc
    exact .inl (mem_encodeByte hb)
  · next hset =>
    cases List.mem_singleton.mp hc
    exact .inr ⟨hd, eq_false_of_ne_true hset⟩

/-- Encoded text has no character of the set. -/
theorem percentEncode_clean {set : Char → Bool} (hset : ∀ c ∈ encodedChars, set c = false)
    (s : List Char) : ∀ c ∈ percentEncode set s, set c = false := fun c hc =>
  (mem_percentEncode hc).elim (hset c) (·.2)

/-- Text that has no character of the set is encoded as itself. -/
theorem percentEncode_of_clean {set : Char → Bool} {s : List Char} (h : ∀ c ∈ s, set c = false) :
    percentEncode set s = s := by
  induction s with
  | nil => rfl
  | cons c s ih =>
    have hc : set c = false := h c List.mem_cons_self
    have hs := ih fun d hd => h d (List.mem_cons_of_mem c hd)
    unfold percentEncode at hs ⊢
    rw [List.flatMap_cons, hc, hs]
    rfl

/-! ## The sets -/

theorem clean_of_any {set : Char → Bool} {s : List Char} (h : s.any set = false) :
    ∀ c ∈ s, set c = false := fun c hc => eq_false_of_ne_true (List.any_eq_false.mp h c hc)

theorem isControl_clean : ∀ c ∈ encodedChars, isControl c = false := clean_of_any (by decide)

theorem inPath_clean : ∀ c ∈ encodedChars, inPath c = false := clean_of_any (by decide)

theorem inUserInfo_clean : ∀ c ∈ encodedChars, inUserInfo c = false := clean_of_any (by decide)

theorem isControl_of_inPath {c : Char} (h : inPath c = false) : isControl c = false := by
  simp only [inPath, inFragment, Bool.or_eq_false_iff] at h
  exact h.1.1

/-! ## Decoding -/

theorem utf8?_utf8Encode (s : List Char) : utf8? (s.flatMap String.utf8EncodeChar) = some s := by
  have hbytes : (⟨(s.flatMap String.utf8EncodeChar).toArray⟩ : ByteArray) =
      (String.ofList s).toByteArray := by
    rw [String.toByteArray_ofList]
    apply ByteArray.ext
    rw [List.utf8Encode, List.data_toByteArray]
  have hvalid := (String.ofList s).isValidUTF8
  have hread : String.fromUTF8 (String.ofList s).toByteArray hvalid = String.ofList s := rfl
  unfold utf8? String.fromUTF8?
  rw [hbytes, dif_pos hvalid, hread, Option.map_some, String.toList_ofList]

/-- Text without percent signs is decoded to itself. -/
theorem percentDecode_of_not_mem {s : List Char} (h : '%' ∉ s) :
    percentDecode s = s.flatMap String.utf8EncodeChar := by
  induction s with
  | nil => rfl
  | cons c s ih =>
    obtain ⟨hc, hs⟩ := List.ne_and_not_mem_of_not_mem_cons h
    rw [List.flatMap_cons, percentDecode, ih hs]
    intro _ _ _ hpercent
    exact absurd hpercent.symm hc

theorem utf8?_percentDecode {s : List Char} (h : '%' ∉ s) : utf8? (percentDecode s) = some s := by
  rw [percentDecode_of_not_mem h, utf8?_utf8Encode]

end Switchboard.Url
