import Switchboard.Proofs.Json.Accepted
import Switchboard.Proofs.Json.Members
/-
  Lists, item by item. A record is also read from a list of its fields in order. As with the members
  of an object, what it makes depends on the items alone, each as it is on its own
  (`Record.ofText_listText`): an item for each field, the last ones perhaps absent, and none left
  over (`Fields.ofItems?`). A text that is read as a record holds an object or a list and nothing
  else, so this and the account of the members together say of every text what is read from it
  (`Record.ofText_eq_ok_iff`), and of every value inside a text (`Record.valueOf?_eq_some_iff`).
-/
namespace Switchboard.Json

/-! ## The next item -/

theorem nextItem_padded {p : Padded} (h : p.Spaced) (hv : ValueText p.text) (s : List Char) :
    nextItem true (p.all ++ s) = .ok (.next (p.text ++ (p.after ++ s))) := by
  have hskip := skipBlanks_padded h hv s
  obtain ⟨c, t, htext, -, hne⟩ := hv.opens (.inl rfl)
  rw [htext, List.cons_append] at hskip ⊢
  exact nextItem_of_item hskip hne

theorem nextItem_comma_padded {after : List Char} (hafter : Blanks after) {p : Padded}
    (h : p.Spaced) (hv : ValueText p.text) (s : List Char) :
    nextItem false (after ++ ',' :: (p.all ++ s)) = .ok (.next (p.text ++ (p.after ++ s))) := by
  have hskip := skipBlanks_padded h hv s
  obtain ⟨c, t, htext, -, hne⟩ := hv.opens (.inl rfl)
  rw [htext, List.cons_append] at hskip ⊢
  exact nextItem_of_comma (skipBlanks_blanks_cons hafter rfl _) hskip hne

namespace Fields

variable {ts : List Type}

/-! ## Items for fields -/

/-- The values of fields that the items of a list make, in order. -/
def ofItems? (d : Nat) {ts : List Type} : Fields ts → List (List Char) → Option (Tuple ts)
  | .nil, [] => some ()
  | .nil, _ :: _ => none
  | .cons f fs, [] => ((Fields.cons f fs).absents 0).toOption
  | .cons f fs, v :: vs =>
    (f.codec.valueOf? d v).bind fun a => (fs.ofItems? d vs).map fun as => (a, as)

theorem ofItems?_nil_eq_some_iff {d : Nat} {vs : List (List Char)} {as : Tuple []} :
    Fields.nil.ofItems? d vs = some as ↔ vs = [] := by
  cases vs with
  | nil => exact ⟨fun _ => rfl, fun _ => rfl⟩
  | cons v vs => exact ⟨nofun, nofun⟩

theorem ofItems?_cons_eq_some_iff {α : Type} {f : Field α} {fs : Fields ts} {d : Nat}
    {v : List Char} {vs : List (List Char)} {a : α} {as : Tuple ts} :
    (Fields.cons f fs).ofItems? d (v :: vs) = some (a, as) ↔
      f.codec.valueOf? d v = some a ∧ fs.ofItems? d vs = some as := by
  simp only [ofItems?, Option.bind_eq_some_iff, Option.map_eq_some_iff, Prod.mk.injEq]
  constructor
  · rintro ⟨b, hb, bs, hbs, rfl, rfl⟩
    exact ⟨hb, hbs⟩
  · rintro ⟨ha, has⟩
    exact ⟨a, ha, as, has, rfl, rfl⟩

/-- Whether fields may be absent does not depend on where they stand. -/
theorem absents_toOption (fs : Fields ts) (i j : Nat) :
    (fs.absents i).toOption = (fs.absents j).toOption := by
  induction fs generalizing i j with
  | nil => rfl
  | cons f fs ih =>
    simp only [absents]
    cases f.absent with
    | none => rfl
    | some a =>
      rw [toOption_bind, toOption_bind, ih (i + 1) (j + 1)]

variable {short : Nat → Cause} {d index : Nat} {s r : List Char}

/-- At the end of a list the fields that are left have to be absent. -/
theorem ofItems_done {α : Type} {f : Field α} {fs : Fields ts}
    (hnext : nextItem (index == 0) s = .ok (.done r)) :
    ((Fields.cons f fs).ofItems short d index s).toOption =
      ((Fields.cons f fs).ofItems? d []).map (·, r) := by
  rw [ofItems, hnext, toOption_bind, toOption_ok, Option.bind_some, ofItems?,
    absents_toOption _ 0 index]
  dsimp only
  cases (Fields.cons f fs).absents index <;> rfl

/-- An item is read for the first of the fields as it is on its own, and then the next ones. -/
theorem ofItems_next {α : Type} {f : Field α} {fs : Fields ts} (hlocal : f.codec.Local)
    (hwhole : f.codec.Whole) {v u : List Char} (hv : ValueText v) (hu : Stops u)
    (hnext : nextItem (index == 0) s = .ok (.next (v ++ u))) {vs : List (List Char)}
    (hrest : (fs.ofItems short d (index + 1) u).toOption = (fs.ofItems? d vs).map (·, r)) :
    ((Fields.cons f fs).ofItems short d index s).toOption =
      ((Fields.cons f fs).ofItems? d (v :: vs)).map (·, r) := by
  have hvalue := Codec.read_value (d := d) hlocal hwhole hv blanks_nil hu
  rw [List.nil_append] at hvalue
  rw [ofItems, hnext, toOption_bind, toOption_ok, Option.bind_some]
  dsimp only
  rw [toOption_bind, hvalue, Option.bind_map, ofItems?, Option.map_bind]
  congr 1
  funext a
  rw [Function.comp_apply, toOption_bind, hrest, Option.bind_map]
  cases fs.ofItems? d vs <;> rfl

/-- After the last field nothing but the closing bracket may come. -/
theorem ofItems_nil_of_ne {c : Char} {t : List Char} (hskip : skipBlanks s = c :: t) (hc : c ≠ ']')
    (v : List Char) (vs : List (List Char)) :
    (Fields.nil.ofItems short d index s).toOption = (Fields.nil.ofItems? d (v :: vs)).map (·, r) := by
  rw [ofItems, toOption_bind]
  cases hclose : closeList s with
  | error f => rfl
  | ok u =>
    have hbracket := closeList_eq_ok hclose
    rw [hskip] at hbracket
    exact absurd (List.cons.inj hbracket).1 hc

theorem ofItems_nil_done {b : List Char} (hb : Blanks b) :
    (Fields.nil.ofItems short d index (b ++ ']' :: r)).toOption =
      (Fields.nil.ofItems? d []).map (·, r) := by
  have hclose : closeList (b ++ ']' :: r) = .ok r := by
    unfold closeList
    rw [skipBlanks_blanks_cons hb rfl]
    rfl
  rw [ofItems, hclose]
  rfl

/-- Only blanks before the closing bracket: no item is left for the fields. -/
theorem ofItems_end (fs : Fields ts) {b : List Char} (hb : Blanks b) (r : List Char) :
    (fs.ofItems short d index (b ++ ']' :: r)).toOption = (fs.ofItems? d []).map (·, r) := by
  cases fs with
  | nil => exact ofItems_nil_done hb
  | cons f fs =>
    apply ofItems_done
    unfold nextItem
    rw [skipBlanks_blanks_cons hb rfl]
    rfl

/-- The items after the first are read one after the other. -/
theorem ofItems_pieces {fs : Fields ts} (hlocal : fs.Local) (hwhole : fs.Whole)
    {items : List Padded} (spaced : ∀ p ∈ items, p.Spaced) (values : ∀ p ∈ items, ValueText p.text)
    {after : List Char} (hafter : Blanks after) (hindex : index ≠ 0) (r : List Char) :
    (fs.ofItems short d index
        (after ++ ((items.map (·.all)).flatMap (',' :: ·) ++ ']' :: r))).toOption =
      (fs.ofItems? d (items.map (·.text))).map (·, r) := by
  induction fs generalizing items after index with
  | nil =>
    cases items with
    | nil => exact ofItems_nil_done hafter
    | cons p items => exact ofItems_nil_of_ne (skipBlanks_blanks_cons hafter rfl _) (by decide) _ _
  | cons f fs ih =>
    cases items with
    | nil => exact ofItems_end _ hafter r
    | cons p items =>
      obtain ⟨hfield, hfields⟩ := hlocal
      obtain ⟨hfieldWhole, hfieldsWhole⟩ := hwhole
      obtain ⟨hp, hitems⟩ := List.forall_mem_cons.mp spaced
      obtain ⟨hv, hvs⟩ := List.forall_mem_cons.mp values
      have hrest := ih hfields hfieldsWhole hitems hvs hp.after (Nat.succ_ne_zero index)
      have hstops := @stops_after .list _ hp.after rfl (items.map (·.all)) r
      have hnext := nextItem_comma_padded hafter hp hv
        ((items.map (·.all)).flatMap (',' :: ·) ++ ']' :: r)
      rw [← beq_false_of_ne hindex] at hnext
      rw [List.map_cons, List.flatMap_cons, List.append_assoc, List.cons_append]
      exact ofItems_next hfield hfieldWhole hv hstops hnext hrest

/-- All items of a list are read, up to its closing bracket. -/
theorem ofItems_between {fs : Fields ts} (hlocal : fs.Local) (hwhole : fs.Whole)
    {items : List Padded} (spaced : ∀ p ∈ items, p.Spaced) (values : ∀ p ∈ items, ValueText p.text)
    (between : Between (items.map (·.all)) s) (r : List Char) :
    (fs.ofItems short d 0 (s ++ ']' :: r)).toOption =
      (fs.ofItems? d (items.map (·.text))).map (·, r) := by
  rcases between with rfl | ⟨hnil, hb⟩
  · cases items with
    | nil => exact ofItems_end fs blanks_nil r
    | cons p items =>
      obtain ⟨hp, hitems⟩ := List.forall_mem_cons.mp spaced
      obtain ⟨hv, hvs⟩ := List.forall_mem_cons.mp values
      rw [List.map_cons, joined_cons, List.append_assoc, List.map_cons]
      cases fs with
      | nil =>
        obtain ⟨c, t, htext, -, hne⟩ := hv.opens (.inl rfl)
        have hskip := skipBlanks_padded hp hv ((items.map (·.all)).flatMap (',' :: ·) ++ ']' :: r)
        rw [htext, List.cons_append] at hskip
        exact ofItems_nil_of_ne hskip hne _ _
      | cons f fs =>
        have hstops := @stops_after .list _ hp.after rfl (items.map (·.all)) r
        have hnext : nextItem ((0 : Nat) == 0) _ = _ := nextItem_padded hp hv
          ((items.map (·.all)).flatMap (',' :: ·) ++ ']' :: r)
        refine ofItems_next hlocal.1 hwhole.1 hv hstops hnext ?_
        exact ofItems_pieces hlocal.2 hwhole.2 hitems hvs hp.after (Nat.succ_ne_zero 0) r
  · rw [List.map_eq_nil_iff.mp hnil]
    exact ofItems_end fs hb r

end Fields

/-! ## Whole texts -/

namespace Record

variable {α : Type} {r : Record α}

/-- The record that the items of a list make. -/
def ofItems? (r : Record α) (d : Nat) (vs : List (List Char)) : Option α :=
  (r.fields.ofItems? d vs).map r.make

/-- What is read from a text that holds a list depends on its items alone, each as it is on its
    own. -/
theorem ofText_listText (hlocal : r.fields.Local) (hwhole : r.fields.Whole) {text : String}
    {vs : List (List Char)} (h : ListText text.toList vs) :
    (r.codec.ofText text).toOption = r.ofItems? (deepest - 1) vs := by
  generalize hchars : text.toList = chars at h
  cases h with
  | @intro items before s after hbefore hafter between spaced values =>
    refine Codec.ofText_of_read ?_ hafter
    have hread : r.codec.read deepest (before ++ '[' :: (s ++ ']' :: after)) =
        r.ofList (deepest - 1) (s ++ ']' :: after) := by
      simp only [codec, skipBlanks_blanks_cons hbefore (show isBlank '[' = false from rfl)]
      rfl
    rw [hchars, hread, ofList, toOption_bind,
      Fields.ofItems_between hlocal hwhole spaced values between, Option.bind_map, ofItems?,
      Option.map_map]
    cases r.fields.ofItems? (deepest - 1) (items.map (·.text)) <;> rfl

/-- A text that is read as a record holds an object or a list. -/
theorem objectText_or_listText (hwhole : r.fields.Whole) (hnames : r.fields.names.Nodup)
    {text : String} {a : α} (h : r.codec.ofText text = .ok a) :
    (∃ ms, ObjectText text.toList ms) ∨ ∃ vs, ListText text.toList vs := by
  obtain ⟨rest, hread, hend⟩ := read_of_ofText h
  have hrest := blanks_of_skipBlanks hend
  obtain ⟨as, -, ⟨ns, hobject, -⟩ | ⟨vs, hlist, -⟩⟩ := readForm hwhole hnames hread
  · obtain ⟨ms, hms, -⟩ := hobject.objectText hrest
    exact .inl ⟨ms, hms⟩
  · obtain ⟨items, hitems, -⟩ := hlist.listText hrest
    exact .inr ⟨items, hitems⟩

/-- **What is read from a text as a record** is made by the members of the object that it holds, or
    by the items of the list; no other text is read. -/
theorem ofText_eq_ok_iff (hlocal : r.fields.Local) (hwhole : r.fields.Whole)
    (hnames : r.fields.names.Nodup) {text : String} {a : α} :
    r.codec.ofText text = .ok a ↔
      (∃ ms, ObjectText text.toList ms ∧ r.ofMembers? (deepest - 1) ms = some a) ∨
      ∃ vs, ListText text.toList vs ∧ r.ofItems? (deepest - 1) vs = some a := by
  rw [← toOption_eq_some_iff]
  constructor
  · intro h
    rcases objectText_or_listText hwhole hnames (toOption_eq_some_iff.mp h) with
      ⟨ms, hms⟩ | ⟨vs, hvs⟩
    · exact .inl ⟨ms, hms, ofText_toOption hlocal hwhole hms ▸ h⟩
    · exact .inr ⟨vs, hvs, ofText_listText hlocal hwhole hvs ▸ h⟩
  · rintro (⟨ms, hms, h⟩ | ⟨vs, hvs, h⟩)
    · exact (ofText_toOption hlocal hwhole hms).trans h
    · exact (ofText_listText hlocal hwhole hvs).trans h

/-- What is read as a record from a value inside brackets that leave enough. -/
theorem valueOf?_eq_some_iff (hlocal : r.fields.Local) (hwhole : r.fields.Whole)
    (hnames : r.fields.names.Nodup) {n : Nat} (hshallow : r.codec.Shallow n) {d : Nat} (hd : n ≤ d)
    (hdeepest : n ≤ deepest) {v : List Char} (hv : ValueText v) {a : α} :
    r.codec.valueOf? d v = some a ↔
      (∃ ms, ObjectText v ms ∧ r.ofMembers? (deepest - 1) ms = some a) ∨
      ∃ vs, ListText v vs ∧ r.ofItems? (deepest - 1) vs = some a := by
  rw [valueOf?_eq_ofText (whole hwhole hnames) hshallow hd hdeepest hv, toOption_eq_some_iff,
    ofText_eq_ok_iff hlocal hwhole hnames, String.toList_ofList]

end Record

end Switchboard.Json
