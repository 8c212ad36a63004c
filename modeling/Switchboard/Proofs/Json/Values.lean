import Switchboard.Json.Value
import Switchboard.Proofs.Directory
import Switchboard.Proofs.Json.Codecs
/-
  Values of any kind. What a reader builds is stored in one form: whole numbers are in the range and
  members stand in the order of their names (`stored_of_reads`). A stored value without rounded
  numbers comes back from its text (`Value.Plain.takes`), unless an object in it is taken for an
  enclosed value because its first name is the reserved one.
-/
namespace Switchboard.Json

namespace Value

/-- A value as it is kept: whole numbers are in the range, names ascend. -/
inductive Stored : Value → Prop
  | null : Stored .null
  | flag (b : Bool) : Stored (.flag b)
  | whole {n : Int} (h : InRange n) : Stored (.number (.whole n))
  | real (x : Decimal.Binary64) : Stored (.number (.real x))
  | text (s : String) : Stored (.text s)
  | list {vs : List Value} (h : ∀ v ∈ vs, Stored v) : Stored (.list vs)
  | object {ms : Object} (hnames : Directory.Ascending ms) (h : ∀ m ∈ ms, Stored m.2) :
    Stored (.object ms)

/-- A value without rounded numbers, nested at most `depth` deep. -/
inductive Plain : Nat → Value → Prop
  | null (depth : Nat) : Plain depth .null
  | flag (depth : Nat) (b : Bool) : Plain depth (.flag b)
  | whole (depth : Nat) (n : Int) : Plain depth (.number (.whole n))
  | text (depth : Nat) (s : String) : Plain depth (.text s)
  | list {depth : Nat} {vs : List Value} (h : ∀ v ∈ vs, Plain depth v) :
    Plain (depth + 1) (.list vs)
  | object {depth : Nat} {ms : Object} (h : ∀ m ∈ ms, Plain depth m.2) :
    Plain (depth + 1) (.object ms)

/-- A value in which no object has the reserved name as its first. -/
inductive Unreserved : Value → Prop
  | null : Unreserved .null
  | flag (b : Bool) : Unreserved (.flag b)
  | number (n : Number) : Unreserved (.number n)
  | text (s : String) : Unreserved (.text s)
  | list {vs : List Value} (h : ∀ v ∈ vs, Unreserved v) : Unreserved (.list vs)
  | object {ms : Object} (hfirst : ms.names.head? ≠ some reservedName)
    (h : ∀ m ∈ ms, Unreserved m.2) : Unreserved (.object ms)

theorem stored_list {vs : List Value} : Stored (.list vs) ↔ ∀ v ∈ vs, Stored v :=
  ⟨fun | .list h => h, .list⟩

theorem stored_object {ms : Object} :
    Stored (.object ms) ↔ Directory.Ascending ms ∧ ∀ m ∈ ms, Stored m.2 :=
  ⟨fun | .object hnames h => ⟨hnames, h⟩, fun h => .object h.1 h.2⟩

theorem unreserved_list {vs : List Value} : Unreserved (.list vs) ↔ ∀ v ∈ vs, Unreserved v :=
  ⟨fun | .list h => h, .list⟩

theorem unreserved_object {ms : Object} : Unreserved (.object ms) ↔
    ms.names.head? ≠ some reservedName ∧ ∀ m ∈ ms, Unreserved m.2 :=
  ⟨fun | .object hfirst h => ⟨hfirst, h⟩, fun h => .object h.1 h.2⟩

/-! ## Written values -/

theorem writeAll_eq_map (vs : List Value) : writeAll vs = vs.map write := by
  induction vs with
  | nil => rfl
  | cons v vs ih => rw [writeAll, ih, List.map_cons]

/-- The members that are written, by name. -/
def pairs (ms : Object) : List (String × List Char) := ms.map fun m => (m.1, write m.2)

theorem writeMembers_eq_pairs (ms : Object) : writeMembers ms = (pairs ms).map writePair := by
  induction ms with
  | nil => rfl
  | cons m ms ih =>
    obtain ⟨name, v⟩ := m
    rw [writeMembers, ih]
    rfl

theorem writeInt_eq_cons (n : Int) :
    ∃ c t, Decimal.writeInt n = c :: t ∧ (c = '-' || c.isDigit) = true := by
  cases n with
  | negSucc n => exact ⟨'-', _, rfl, rfl⟩
  | ofNat n =>
    obtain ⟨c, t, hds⟩ := List.exists_cons_of_ne_nil (Decimal.digitsOf_ne_nil n)
    have hc : c.isDigit := Decimal.isDigit_of_mem_digitsOf (hds ▸ List.mem_cons_self)
    exact ⟨c, t, hds, by rw [hc, Bool.or_true]⟩

/-- A character that starts a number starts nothing else. -/
theorem ne_of_number {c x : Char} (hc : (c = '-' || c.isDigit) = true)
    (hx : (x = '-' || x.isDigit) = false) : c ≠ x := by
  rintro rfl
  rw [hc] at hx
  cases hx

theorem opens_writeInt (n : Int) {x : Char} (hx : (x = '-' || x.isDigit) = false) :
    Opens x (Decimal.writeInt n) := by
  obtain ⟨c, t, hwrite, hc⟩ := writeInt_eq_cons n
  refine ⟨c, t, hwrite, ?_, ne_of_number hc hx⟩
  rw [isBlank, Bool.or_eq_false_iff, Bool.or_eq_false_iff, Bool.or_eq_false_iff]
  have hne : ∀ y, (y = '-' || y.isDigit) = false → (c == y) = false :=
    fun y hy => beq_false_of_ne (ne_of_number hc hy)
  exact ⟨⟨⟨hne _ rfl, hne _ rfl⟩, hne _ rfl⟩, hne _ rfl⟩

/-- No value starts with a bracket that closes one, and only `null` with its first letter. -/
theorem Plain.opens {depth : Nat} {v : Value} (h : Plain depth v) {x : Char}
    (hx : x = ']' ∨ x = 'n' ∧ v ≠ .null) : Opens x (write v) := by
  cases h with
  | null =>
    rcases hx with rfl | ⟨-, hne⟩
    · exact ⟨_, _, rfl, rfl, by decide⟩
    · exact absurd rfl hne
  | flag _ b => cases b <;> rcases hx with rfl | ⟨rfl, -⟩ <;> exact ⟨_, _, rfl, rfl, by decide⟩
  | whole _ n => rcases hx with rfl | ⟨rfl, -⟩ <;> exact opens_writeInt n rfl
  | text _ s => rcases hx with rfl | ⟨rfl, -⟩ <;> exact opens_writeString (by decide) s
  | list h => rcases hx with rfl | ⟨rfl, -⟩ <;> exact ⟨_, _, rfl, rfl, by decide⟩
  | object h => rcases hx with rfl | ⟨rfl, -⟩ <;> exact ⟨_, _, rfl, rfl, by decide⟩

/-! ## From values to texts and back -/

section

variable {enclosed : String → Except Refusal Value} {inner : Option (Reader Value)}

theorem takes_null : Takes (readWith enclosed inner) writeNull .null := fun _ _ => rfl

theorem takes_flag (b : Bool) : Takes (readWith enclosed inner) (writeFlag b) (.flag b) := by
  cases b <;> exact fun _ _ => rfl

theorem takes_whole {n : Int} (h : InRange n) :
    Takes (readWith enclosed inner) (Decimal.writeInt n) (.number (.whole n)) := by
  intro rest hrest
  have hread := takes_writeInt h rest hrest
  have hskip := (opens_writeInt n (x := 'n') rfl).skipBlanks rest
  obtain ⟨c, t, hwrite, hc⟩ := writeInt_eq_cons n
  rw [hwrite, List.cons_append] at hread hskip ⊢
  rw [readWith, hskip]
  dsimp only
  rw [if_neg (ne_of_number hc rfl), if_neg (ne_of_number hc rfl), if_neg (ne_of_number hc rfl),
    if_pos hc, hread]
  rfl

theorem takes_text (t : String) : Takes (readWith enclosed inner) (writeString t) (.text t) := by
  intro rest _
  have hread := stringTail_written t rest
  rw [writeString_append, readWith, skipBlanks_cons (show isBlank '"' = false from rfl)]
  simp [hread, bind, Except.bind]

end

theorem takes_list {enclosed : String → Except Refusal Value} {inner : Reader Value}
    {vs : List Value} (h : ∀ v ∈ vs, Takes inner (write v) v ∧ Opens ']' (write v)) :
    Takes (readWith enclosed (some inner)) (write (.list vs)) (.list vs) := by
  intro rest _
  have hread := items_writeList h rest
  have hwrite : write (.list vs) ++ rest = '[' :: (joined (vs.map write) ++ ']' :: rest) := by
    simp [write, writeAll_eq_map, Json.writeList]
  rw [hwrite, readWith, skipBlanks_cons (show isBlank '[' = false from rfl)]
  simp [hread, bind, Except.bind, -List.length_append, -List.length_cons]

/-- The members of an object whose names ascend are put one behind the other. -/
theorem leads_pairs {inner : Reader Value} {done ms : Object}
    (hnames : Directory.Ascending (done ++ ms)) (h : ∀ m ∈ ms, Takes inner (write m.2) m.2) :
    Leads (readMember inner) done (pairs ms) (done ++ ms) := by
  induction ms generalizing done with
  | nil =>
    rw [List.append_nil]
    exact .nil done
  | cons m ms ih =>
    obtain ⟨name, v⟩ := m
    have hinsert : done.insert name v = done ++ [(name, v)] := by
      apply Directory.insert_eq_append
      intro p hp
      unfold Directory.Ascending at hnames
      rw [List.map_append, List.pairwise_append] at hnames
      exact hnames.2.2 _ (List.mem_map_of_mem hp) _ List.mem_cons_self
    have happend : done ++ (name, v) :: ms = done.insert name v ++ ms := by
      rw [hinsert, List.append_assoc]
      rfl
    rw [happend] at hnames ⊢
    refine .cons (fun rest hrest => ?_) (ih hnames fun m hm => h m (List.mem_cons_of_mem _ hm))
    have hread := h _ List.mem_cons_self rest hrest
    simp only [readMember, colon, List.cons_append,
      skipBlanks_cons (show isBlank ':' = false from rfl), hread, bind, Except.bind]

theorem readObject_written {inner : Reader Value} {ms : Object}
    (hnames : Directory.Ascending ms) (h : ∀ m ∈ ms, Takes inner (write m.2) m.2)
    (rest : List Char) :
    readObject inner (joined ((pairs ms).map writePair) ++ '\x7d' :: rest) = .ok (ms, rest) :=
  members_writeObject (@leads_pairs inner [] ms hnames h) rest

theorem afterReserved?_written {ms : Object} (hfirst : ms.names.head? ≠ some reservedName)
    (rest : List Char) :
    afterReserved? (joined ((pairs ms).map writePair) ++ '\x7d' :: rest) = none := by
  cases ms with
  | nil => rfl
  | cons m ms =>
    have hne : m.1 ≠ reservedName := fun hname => hfirst (congrArg some hname)
    rw [pairs, List.map_cons, List.map_cons, joined_cons, List.append_assoc, writePair_append,
      afterReserved?, nextName_first]
    simp only [stringTail_written, if_neg hne]

theorem write_object_append (ms : Object) (rest : List Char) :
    write (.object ms) ++ rest =
      '\x7b' :: (joined ((pairs ms).map writePair) ++ '\x7d' :: rest) := by
  simp [write, writeMembers_eq_pairs, writeObject]

theorem takes_object {enclosed : String → Except Refusal Value} {inner : Reader Value}
    {ms : Object} (hnames : Directory.Ascending ms) (hfirst : ms.names.head? ≠ some reservedName)
    (h : ∀ m ∈ ms, Takes inner (write m.2) m.2) :
    Takes (readWith enclosed (some inner)) (write (.object ms)) (.object ms) := by
  intro rest _
  have hread := readObject_written hnames h rest
  have hreserved := afterReserved?_written hfirst rest
  rw [write_object_append, readWith, skipBlanks_cons (show isBlank '\x7b' = false from rfl)]
  simp [hreserved, hread, bind, Except.bind]

theorem takes_readUsing {enclosed : String → Except Refusal Value} {v : Value}
    (h : ∀ inner, Takes (readWith enclosed inner) (write v) v) (d : Nat) :
    Takes (readUsing enclosed d) (write v) v := by
  cases d <;> exact h _

/-- A stored value is read as it is written if it is plain and not nested too deep. -/
theorem Plain.takes {k d : Nat} {v : Value} (h : Plain k v) (hstored : Stored v)
    (hfree : Unreserved v) (hk : k ≤ d) (enclosed : String → Except Refusal Value) :
    Takes (readUsing enclosed d) (write v) v := by
  induction h generalizing d with
  | null => exact takes_readUsing (fun _ => takes_null) d
  | flag _ b => exact takes_readUsing (fun _ => takes_flag b) d
  | whole _ n =>
    cases hstored with
    | whole hn => exact takes_readUsing (fun _ => takes_whole hn) d
  | text _ s => exact takes_readUsing (fun _ => takes_text s) d
  | list h ih =>
    obtain ⟨d, rfl⟩ := Nat.exists_eq_add_one_of_ne_zero (Nat.ne_zero_of_lt hk)
    have hitems := stored_list.mp hstored
    have hfrees := unreserved_list.mp hfree
    refine takes_list fun v hv => ⟨?_, (h v hv).opens (.inl rfl)⟩
    exact ih v hv (hitems v hv) (hfrees v hv) (Nat.le_of_succ_le_succ hk)
  | object h ih =>
    obtain ⟨d, rfl⟩ := Nat.exists_eq_add_one_of_ne_zero (Nat.ne_zero_of_lt hk)
    obtain ⟨hnames, hmembers⟩ := stored_object.mp hstored
    obtain ⟨hfirst, hfrees⟩ := unreserved_object.mp hfree
    refine takes_object hnames hfirst fun m hm => ?_
    exact ih m hm (hmembers m hm) (hfrees m hm) (Nat.le_of_succ_le_succ hk)

/-! ## From texts to values -/

section

variable {enclosed : String → Except Refusal Value} {inner : Option (Reader Value)}

theorem stored_of_readObject {inner : Reader Value}
    (hinner : ∀ s v r, inner s = .ok (v, r) → Stored v) {s r : List Char} {ms : Object}
    (h : readObject inner s = .ok (ms, r)) : Stored (.object ms) := by
  have hempty : Stored (.object []) := .object (List.Pairwise.nil) fun _ hm => nomatch hm
  refine of_members (P := fun ms => Stored (.object ms)) ?_ hempty h
  intro name ms s next r hms hread
  obtain ⟨t, -, hread⟩ := bind_eq_ok.mp hread
  obtain ⟨⟨v, u⟩, hvalue, hread⟩ := bind_eq_ok.mp hread
  cases hread
  obtain ⟨hnames, hmembers⟩ := stored_object.mp hms
  refine .object (Directory.ascending_insert hnames name v) fun m hm => ?_
  rcases Directory.mem_insert hm with rfl | hm
  · exact hinner _ _ _ hvalue
  · exact hmembers m hm

theorem stored_of_readWith (henclosed : ∀ t v, enclosed t = .ok v → Stored v)
    (hinner : ∀ reader ∈ inner, ∀ s v r, reader s = .ok (v, r) → Stored v) {s r : List Char}
    {v : Value} (h : readWith enclosed inner s = .ok (v, r)) : Stored v := by
  unfold readWith at h
  split at h
  · cases h
  split at h
  · obtain ⟨_, -, h⟩ := bind_eq_ok.mp h
    cases h
    exact .null
  split at h
  · obtain ⟨_, -, h⟩ := bind_eq_ok.mp h
    cases h
    exact .flag true
  split at h
  · obtain ⟨_, -, h⟩ := bind_eq_ok.mp h
    cases h
    exact .flag false
  split at h
  · obtain ⟨⟨n, t⟩, hnumber, h⟩ := bind_eq_ok.mp h
    cases h
    cases n with
    | whole n => exact .whole (inRange_of_number hnumber)
    | real x => exact .real x
  split at h
  · obtain ⟨⟨t, u⟩, -, h⟩ := bind_eq_ok.mp h
    cases h
    exact .text t
  split at h
  · split at h
    · cases h
    · next reader =>
      obtain ⟨⟨vs, t⟩, hitems, h⟩ := bind_eq_ok.mp h
      cases h
      exact .list (forall_of_items (hinner reader rfl) hitems)
  split at h
  · split at h
    · cases h
    · next reader =>
      split at h
      · obtain ⟨t, -, h⟩ := bind_eq_ok.mp h
        obtain ⟨⟨u, w⟩, -, h⟩ := bind_eq_ok.mp h
        dsimp only at h
        split at h
        · next henc =>
          obtain ⟨_, -, h⟩ := bind_eq_ok.mp h
          cases h
          exact henclosed _ _ henc
        · cases h
      · obtain ⟨⟨ms, t⟩, hobject, h⟩ := bind_eq_ok.mp h
        cases h
        exact stored_of_readObject (hinner reader rfl) hobject
  · cases h

theorem stored_of_readUsing (henclosed : ∀ t v, enclosed t = .ok v → Stored v) (d : Nat)
    {s r : List Char} {v : Value} (h : readUsing enclosed d s = .ok (v, r)) : Stored v := by
  induction d generalizing s v r with
  | zero =>
    exact stored_of_readWith henclosed (fun _ hnone => absurd hnone (Option.not_mem_none _)) h
  | succ d ih =>
    refine stored_of_readWith henclosed ?_ h
    rintro reader hreader s v r hread
    cases hreader
    exact ih hread

end

theorem stored_of_ofEnclosed (fuel : Nat) {t : String} {v : Value}
    (h : ofEnclosed fuel t = .ok v) : Stored v := by
  induction fuel generalizing t v with
  | zero => cases h
  | succ fuel ih =>
    obtain ⟨d, s, r, hread⟩ := reads_of_ofText h
    exact stored_of_readUsing (fun t v => ih) d hread

theorem stored_of_read {d : Nat} {s r : List Char} {v : Value} (h : read d s = .ok (v, r)) :
    Stored v := stored_of_readUsing (fun _ _ => stored_of_ofEnclosed _) d h

end Value

/-! ## Codecs -/

theorem stored_of_reads {v : Value} (h : Codec.value.Reads v) : v.Stored :=
  let ⟨_, _, _, hread⟩ := h
  Value.stored_of_read hread

theorem stored_of_reads_object {ms : Object} (h : Codec.object.Reads ms) :
    (Value.object ms).Stored := by
  obtain ⟨d, s, r, hread⟩ := h
  simp only [Codec.object] at hread
  split at hread
  · split at hread
    · cases hread
    · exact Value.stored_of_readObject (fun _ _ _ => Value.stored_of_read) hread
  · cases hread

namespace Value

theorem Plain.restores {k d : Nat} {v : Value} (h : v.Plain k) (hstored : v.Stored)
    (hfree : v.Unreserved) (hk : k ≤ d) : Codec.value.Restores d v :=
  fun rest hrest => h.takes hstored hfree hk _ rest hrest

/-- Where an object is wanted, its own first name may be the reserved one. -/
theorem Plain.restores_object {k d : Nat} {ms : Object} (h : (Value.object ms).Plain k)
    (hstored : (Value.object ms).Stored) (hfree : ∀ m ∈ ms, m.2.Unreserved) (hk : k ≤ d) :
    Codec.object.Restores d ms := by
  intro rest _
  obtain ⟨hnames, hmembers⟩ := stored_object.mp hstored
  cases h with
  | object hplain =>
    obtain ⟨d, rfl⟩ := Nat.exists_eq_add_one_of_ne_zero (Nat.ne_zero_of_lt hk)
    have hinner : ∀ m ∈ ms, Takes (read d) (write m.2) m.2 := fun m hm =>
      (hplain m hm).restores (hmembers m hm) (hfree m hm) (Nat.le_of_succ_le_succ hk)
    have hread := readObject_written hnames hinner rest
    have hwrite : writeObject (writeMembers ms) ++ rest =
        '\x7b' :: (joined ((pairs ms).map writePair) ++ '\x7d' :: rest) :=
      write_object_append ms rest
    simp only [hwrite, Codec.object, skipBlanks_cons (show isBlank '\x7b' = false from rfl), hread]

end Value

end Switchboard.Json
