import Switchboard.Proofs.Text.Splitting
import Switchboard.Proofs.Url.Encoding
import Switchboard.Url.Path
/-
  Paths in normal form. While a path is built it is that of a directory whose segments are settled:
  encoded, without slashes, and none of them dots (`directory`, `Settled`). Each step keeps this
  (`appendSegment_true`, `appendSegment_false`), so what is built in the end is in normal form
  (`normal_readPath`). A path in normal form is built again from its own text (`readPath_again`),
  except where a file's path starts with a drive letter, which is then taken for one
  (`drive_readPath`).
-/
namespace Switchboard.Url

open Switchboard.Text

/-! ## Segments and directories -/

/-- A segment in normal form: it has no slash and no character that is encoded in paths, and does
    not stand for a directory. -/
structure Settled (k : SchemeKind) (segment : List Char) : Prop where
  clean : ∀ c ∈ segment, inPath c = false
  noSlash : ∀ c ∈ segment, isSlash k c = false
  notSingle : isSingleDot segment = false
  notDouble : isDoubleDot segment = false

/-- The path of a directory: every segment is followed by a slash. -/
def directory (segments : List (List Char)) : List Char :=
  '/' :: segments.flatMap (· ++ ['/'])

theorem directory_append (xs ys : List (List Char)) :
    directory (xs ++ ys) = directory xs ++ ys.flatMap (· ++ ['/']) := by
  rw [directory, directory, List.flatMap_append, List.cons_append]

theorem directory_concat (xs : List (List Char)) (x : List Char) :
    directory (xs ++ [x]) = directory xs ++ x ++ ['/'] := by
  rw [directory_append, List.flatMap_singleton, List.append_assoc]

theorem directory_ends (xs : List (List Char)) : ∃ s, directory xs = s ++ ['/'] := by
  rcases List.eq_nil_or_concat xs with rfl | ⟨ys, y, rfl⟩
  · exact ⟨[], rfl⟩
  · rw [List.concat_eq_append]
    exact ⟨directory ys ++ y, directory_concat ys y⟩

theorem endsWithSlash_directory (xs : List (List Char)) : endsWithSlash (directory xs) = true := by
  obtain ⟨s, hs⟩ := directory_ends xs
  rw [endsWithSlash, hs, List.getLast?_concat]
  rfl

theorem settled_nil (k : SchemeKind) : Settled k [] := ⟨nofun, nofun, rfl, rfl⟩

theorem ne_slash_of_isSlash {k : SchemeKind} {c : Char} (h : isSlash k c = false) : c ≠ '/' := by
  rintro rfl
  cases h

theorem Settled.slash_not_mem {k : SchemeKind} {x : List Char} (h : Settled k x) : '/' ∉ x :=
  fun hmem => ne_slash_of_isSlash (h.noSlash _ hmem) rfl

theorem ne_mark_of_inPath {c : Char} (h : inPath c = false) : c ≠ '?' ∧ c ≠ '#' := by
  constructor <;>
  · rintro rfl
    cases h

/-! ## Going up -/

theorem splitLastSlash_append (s : List Char) {x : List Char} (hx : '/' ∉ x) :
    splitLastSlash (s ++ ['/'] ++ x) = (s ++ ['/'], x) := by
  have htail : ((s ++ ['/'] ++ x).reverse.takeWhile (· ≠ '/')).reverse = x := by
    rw [List.append_assoc, List.singleton_append, afterLast_append hx]
  unfold splitLastSlash
  rw [htail]
  dsimp only
  rw [List.length_append, Nat.add_sub_cancel, List.take_left]

theorem splitLastSlash_directory (xs : List (List Char)) {x : List Char} (hx : '/' ∉ x) :
    splitLastSlash (directory xs ++ x) = (directory xs, x) := by
  obtain ⟨s, hs⟩ := directory_ends xs
  rw [hs, splitLastSlash_append s hx]

theorem isNormalDriveLetter_directory (xs : List (List Char)) (x : List Char) :
    isNormalDriveLetter (directory xs ++ x) = false := by
  unfold directory isNormalDriveLetter
  rw [List.cons_append]
  split
  · next heq =>
    cases (List.cons.inj heq).1
    rfl
  · rfl

theorem popSegment_directory (k : SchemeKind) (xs : List (List Char)) {x : List Char}
    (hx : '/' ∉ x) (hdrive : isNormalDriveLetter x = false) :
    popSegment k (directory xs ++ x) = directory xs := by
  have hpath : ¬((directory xs ++ x).isEmpty = true ∨
      (k = .file ∧ isNormalDriveLetter (directory xs ++ x) = true)) := by
    rw [isNormalDriveLetter_directory]
    simp [directory]
  unfold popSegment
  rw [if_neg hpath, splitLastSlash_directory xs hx]
  dsimp only
  rw [if_neg (by simp [hdrive])]

theorem startsWithDrive_of_normal {x : List Char} (h : isNormalDriveLetter x = true) :
    startsWithDrive ('/' :: x ++ ['/']) = true := by
  unfold isNormalDriveLetter at h
  split at h
  · next c => simp [startsWithDrive, isDriveLetter, h]
  · cases h

/-- Going up from a directory leads to that directory or to the one that it is in. -/
theorem ascend_directory (k : SchemeKind) {xs : List (List Char)} (hxs : ∀ x ∈ xs, '/' ∉ x)
    (slash : Bool) : ∃ ys, ys <+: xs ∧ ascend k (directory xs) slash = directory ys := by
  suffices h : ∃ ys, ys <+: xs ∧ popSegment k (dropSlash (directory xs)) = directory ys by
    obtain ⟨ys, hstart, hpop⟩ := h
    refine ⟨ys, hstart, ?_⟩
    unfold ascend
    rw [hpop]
    dsimp only
    rw [endsWithSlash_directory, Bool.not_true, Bool.and_false, if_neg Bool.false_ne_true]
  have hstay : popSegment k (directory xs) = directory xs := by
    have := popSegment_directory k xs (x := []) (by simp) rfl
    rwa [List.append_nil] at this
  rcases List.eq_nil_or_concat xs with rfl | ⟨ys, y, rfl⟩
  · exact ⟨[], List.prefix_rfl, hstay⟩
  · rw [List.concat_eq_append] at hxs hstay ⊢
    have hy : '/' ∉ y := hxs y (by simp)
    have hdrop : dropSlash (directory (ys ++ [y])) =
        if startsWithDrive ('/' :: y ++ ['/']) = true then directory (ys ++ [y])
        else directory ys ++ y := by
      have hne : (directory ys).isEmpty = false := rfl
      unfold dropSlash
      rw [if_pos (endsWithSlash_directory _)]
      simp only [directory_concat, List.dropLast_concat, splitLastSlash_directory ys hy, hne]
      simp
    rw [hdrop]
    split
    · exact ⟨ys ++ [y], List.prefix_rfl, hstay⟩
    · next hdrive =>
      refine ⟨ys, List.prefix_append ys [y], popSegment_directory k ys hy ?_⟩
      exact eq_false_of_ne_true fun h => hdrive (startsWithDrive_of_normal h)

/-! ## One more segment -/

theorem noSlash_percentEncode {k : SchemeKind} {segment : List Char}
    (h : ∀ c ∈ segment, isSlash k c = false) :
    ∀ c ∈ percentEncode inPath segment, isSlash k c = false := by
  have hencoded : ∀ c ∈ encodedChars, isSlash k c = false :=
    clean_of_any (by cases k <;> decide)
  intro c hc
  rcases mem_percentEncode hc with hc | ⟨hc, -⟩
  · exact hencoded c hc
  · exact h c hc

/-- A letter is neither encoded nor a slash. -/
theorem letter_clean (k : SchemeKind) {c : Char} (h : c.isAlpha = true) :
    inPath c = false ∧ isSlash k c = false :=
  forall_ascii (p := fun c => c.isAlpha = true → inPath c = false ∧ isSlash k c = false)
    (by cases k <;> decide) (lt_of_isAlpha h) h

theorem isSingleDot_iff {s : List Char} :
    isSingleDot s = true ↔ lowerAscii s = ['.'] ∨ lowerAscii s = ['%', '2', 'e'] := by
  unfold isSingleDot
  rw [List.contains_iff_mem, List.mem_cons, List.mem_singleton, ← String.toList_inj,
    ← String.toList_inj, String.toList_ofList]
  rfl

theorem isDoubleDot_iff {s : List Char} :
    isDoubleDot s = true ↔ lowerAscii s = ['.', '.'] ∨ lowerAscii s = ['%', '2', 'e', '.'] ∨
      lowerAscii s = ['.', '%', '2', 'e'] ∨ lowerAscii s = ['%', '2', 'e', '%', '2', 'e'] := by
  unfold isDoubleDot
  rw [List.contains_iff_mem, List.mem_cons, List.mem_cons, List.mem_cons, List.mem_singleton,
    ← String.toList_inj, ← String.toList_inj, ← String.toList_inj, ← String.toList_inj,
    String.toList_ofList]
  rfl

/-- A drive letter in normal form is settled. -/
theorem settled_drive (k : SchemeKind) {c : Char} (h : c.isAlpha = true) : Settled k [c, ':'] := by
  obtain ⟨hpath, hslash⟩ := letter_clean k h
  have hcolon : isSlash k ':' = false := by cases k <;> rfl
  constructor
  · intro d hd
    simp only [List.mem_cons, List.not_mem_nil, or_false] at hd
    rcases hd with rfl | rfl
    · exact hpath
    · rfl
  · intro d hd
    simp only [List.mem_cons, List.not_mem_nil, or_false] at hd
    rcases hd with rfl | rfl
    · exact hslash
    · exact hcolon
  · exact eq_false_of_ne_true (by simp [isSingleDot_iff, lowerAscii])
  · exact eq_false_of_ne_true (by simp [isDoubleDot_iff, lowerAscii])

theorem isDriveLetter_iff {s : List Char} :
    isDriveLetter s = true ↔ ∃ c d, s = [c, d] ∧ c.isAlpha = true ∧ (d = ':' ∨ d = '|') := by
  unfold isDriveLetter
  split
  · next c d =>
    rw [Bool.and_eq_true, Bool.or_eq_true, beq_iff_eq, beq_iff_eq]
    refine ⟨fun h => ⟨c, d, rfl, h⟩, ?_⟩
    rintro ⟨c, d, heq, h⟩
    cases heq
    exact h
  · next h =>
    refine ⟨nofun, ?_⟩
    rintro ⟨c, d, rfl, -⟩
    exact absurd rfl (h c d)

theorem length_directory_eq_one {xs : List (List Char)} : (directory xs).length = 1 ↔ xs = [] := by
  cases xs with
  | nil => simp [directory]
  | cons x xs => simp [directory]

/-- A segment leads to a directory, or is put behind the one that it is in. -/
theorem appendSegment_directory {k : SchemeKind} {xs : List (List Char)}
    (hxs : ∀ x ∈ xs, Settled k x) {segment : List Char}
    (hsegment : ∀ c ∈ segment, isSlash k c = false) (slash : Bool) :
    (∃ ys, (∀ y ∈ ys, Settled k y) ∧
      appendSegment k (directory xs) segment slash = directory ys) ∨
    ∃ x, Settled k x ∧ appendSegment k (directory xs) segment slash =
      directory xs ++ x ++ if slash then ['/'] else [] := by
  unfold appendSegment
  dsimp only
  split
  · obtain ⟨ys, hstart, hys⟩ := ascend_directory k (fun x hx => (hxs x hx).slash_not_mem) slash
    exact .inl ⟨ys, fun y hy => hxs y (hstart.subset hy), hys⟩
  · next hdouble =>
    split
    · rw [endsWithSlash_directory, if_pos rfl]
      exact .inl ⟨xs, hxs, rfl⟩
    · next hsingle =>
      split
      · next hdrive =>
        obtain ⟨-, hlength, hdrive⟩ := hdrive
        obtain ⟨c, d, hsplit, hc, -⟩ := isDriveLetter_iff.mp hdrive
        cases length_directory_eq_one.mp hlength
        refine .inr ⟨[c, ':'], settled_drive k hc, ?_⟩
        simp [hsplit]
      · exact .inr ⟨_, ⟨percentEncode_clean inPath_clean segment, noSlash_percentEncode hsegment,
          eq_false_of_ne_true hsingle, eq_false_of_ne_true hdouble⟩, rfl⟩

theorem appendSegment_false {k : SchemeKind} {xs : List (List Char)}
    (hxs : ∀ x ∈ xs, Settled k x) {segment : List Char}
    (hsegment : ∀ c ∈ segment, isSlash k c = false) :
    ∃ ys y, (∀ x ∈ ys, Settled k x) ∧ Settled k y ∧
      appendSegment k (directory xs) segment false = directory ys ++ y := by
  rcases appendSegment_directory hxs hsegment false with ⟨ys, hys, h⟩ | ⟨x, hx, h⟩
  · exact ⟨ys, [], hys, settled_nil k, h.trans (List.append_nil _).symm⟩
  · exact ⟨xs, x, hxs, hx, h.trans (List.append_nil _)⟩

theorem appendSegment_true {k : SchemeKind} {xs : List (List Char)}
    (hxs : ∀ x ∈ xs, Settled k x) {segment : List Char}
    (hsegment : ∀ c ∈ segment, isSlash k c = false) :
    ∃ ys, (∀ x ∈ ys, Settled k x) ∧
      appendSegment k (directory xs) segment true = directory ys := by
  rcases appendSegment_directory hxs hsegment true with ⟨ys, hys, h⟩ | ⟨x, hx, h⟩
  · exact ⟨ys, hys, h⟩
  · refine ⟨xs ++ [x], fun y hy => ?_, h.trans (directory_concat xs x).symm⟩
    rcases List.mem_append.mp hy with hy | hy
    · exact hxs y hy
    · rw [List.mem_singleton.mp hy]
      exact hx

/-! ## Building a path -/

theorem noSlash_reverse {k : SchemeKind} {s : List Char} (h : ∀ c ∈ s, isSlash k c = false) :
    ∀ c ∈ s.reverse, isSlash k c = false := fun c hc => h c (List.mem_reverse.mp hc)

/-- A rest that is empty or starts with the mark of a query or of a fragment. -/
def Marked (s : List Char) : Prop := ∀ c ∈ s.head?, c = '?' ∨ c = '#'

/-- What is built in a directory is settled. -/
theorem settled_read {k : SchemeKind} (s : List Char) {xs : List (List Char)}
    (hxs : ∀ x ∈ xs, Settled k x) (segment : List Char)
    (hsegment : ∀ c ∈ segment, isSlash k c = false) (drive : Bool) :
    ∃ ys y, (∀ x ∈ ys, Settled k x) ∧ Settled k y ∧
      (PathState.read k ⟨directory xs, drive⟩ segment s).1.path = directory ys ++ y ∧
      Marked (PathState.read k ⟨directory xs, drive⟩ segment s).2 := by
  induction s generalizing xs segment drive with
  | nil =>
    obtain ⟨ys, y, hys, hy, hlast⟩ := appendSegment_false hxs (noSlash_reverse hsegment)
    exact ⟨ys, y, hys, hy, hlast, nofun⟩
  | cons c s ih =>
    unfold PathState.read
    split
    · next hmark =>
      obtain ⟨ys, y, hys, hy, hlast⟩ := appendSegment_false hxs (noSlash_reverse hsegment)
      refine ⟨ys, y, hys, hy, hlast, fun d hd => ?_⟩
      cases hd
      exact hmark
    · split
      · obtain ⟨ys, hys, hnext⟩ := appendSegment_true hxs (noSlash_reverse hsegment)
        rw [PathState.add, hnext]
        exact ih hys [] nofun _
      · next hslash =>
        refine ih hxs (c :: segment) (fun d hd => ?_) drive
        rcases List.mem_cons.mp hd with rfl | hd
        · exact eq_false_of_ne_true hslash
        · exact hsegment d hd

/-! ## Building a settled path again -/

/-- The characters of a settled segment are collected as they stand. -/
theorem read_segment {k : SchemeKind} {x : List Char} (hx : Settled k x) (state : PathState)
    (segment r : List Char) :
    state.read k segment (x ++ r) = state.read k (x.reverse ++ segment) r := by
  obtain ⟨hclean, hslash, -, -⟩ := hx
  induction x generalizing segment with
  | nil => rfl
  | cons c x ih =>
    obtain ⟨hquery, hfragment⟩ := ne_mark_of_inPath (hclean c List.mem_cons_self)
    have hc := hslash c List.mem_cons_self
    rw [List.cons_append, PathState.read, if_neg (by simp [hquery, hfragment]), hc,
      if_neg Bool.false_ne_true, ih _ (fun d hd => hclean d (List.mem_cons_of_mem c hd))
        (fun d hd => hslash d (List.mem_cons_of_mem c hd))]
    simp

theorem appendSegment_settled {k : SchemeKind} {xs : List (List Char)} {x : List Char}
    (hx : Settled k x) (hdrive : xs = [] → k = .file → isDriveLetter x = false) (slash : Bool) :
    appendSegment k (directory xs) x slash = directory xs ++ x ++ if slash then ['/'] else [] := by
  have hletter : ¬(k = .file ∧ (directory xs).length = 1 ∧ isDriveLetter x = true) := by
    rintro ⟨hk, hlength, h⟩
    rw [hdrive (length_directory_eq_one.mp hlength) hk] at h
    cases h
  unfold appendSegment
  rw [percentEncode_of_clean hx.clean]
  dsimp only
  rw [hx.notDouble, hx.notSingle, if_neg Bool.false_ne_true, if_neg Bool.false_ne_true,
    if_neg hletter]

/-- Where a segment does not make a file's path start with a drive letter. -/
def NoDrive (k : SchemeKind) (xs : List (List Char)) (x : List Char) : Prop :=
  xs = [] → k = .file → isDriveLetter x = false

theorem add_settled {k : SchemeKind} {xs : List (List Char)} {x : List Char}
    (hx : Settled k x) (hdrive : NoDrive k xs x) (drive slash : Bool) :
    PathState.add k ⟨directory xs, drive⟩ x slash =
      ⟨directory xs ++ x ++ (if slash then ['/'] else []), drive⟩ := by
  have htakes : takesDrive k (directory xs) x = false := by
    unfold takesDrive
    rw [percentEncode_of_clean hx.clean]
    by_cases h : xs = [] ∧ k = .file
    · rw [hdrive h.1 h.2, Bool.and_false]
    · simp only [Bool.and_eq_false_iff, beq_eq_false_iff_ne, ne_eq, length_directory_eq_one]
      exact .inl (Decidable.not_and_iff_or_not.mp fun hand => h ⟨hand.2, hand.1⟩)
  unfold PathState.add
  rw [appendSegment_settled hx hdrive, htakes, Bool.or_false]

/-- A settled path is built from its own text, in any directory. -/
theorem read_settled {k : SchemeKind} {xs ys : List (List Char)} {y : List Char}
    (hys : ∀ x ∈ ys, Settled k x) (hy : Settled k y)
    (hdrive : ∀ x ∈ (ys ++ [y]).head?, NoDrive k xs x) (drive : Bool) :
    PathState.read k ⟨directory xs, drive⟩ [] (ys.flatMap (· ++ ['/']) ++ y) =
      (⟨directory (xs ++ ys) ++ y, drive⟩, []) := by
  induction ys generalizing xs with
  | nil =>
    have hread := read_segment hy ⟨directory xs, drive⟩ [] []
    rw [List.append_nil, List.append_nil] at hread
    rw [List.flatMap_nil, List.nil_append, hread, PathState.read, List.reverse_reverse,
      add_settled hy (hdrive y rfl), List.append_nil, if_neg Bool.false_ne_true, List.append_nil]
  | cons x ys ih =>
    have hx := hys x List.mem_cons_self
    rw [List.flatMap_cons, List.append_assoc, List.append_assoc, read_segment hx,
      List.append_nil, List.singleton_append, PathState.read, if_neg (by decide),
      if_pos (by cases k <;> rfl), List.reverse_reverse, add_settled hx (hdrive x rfl), if_pos rfl,
      ← directory_concat, ih (fun z hz => hys z (List.mem_cons_of_mem x hz)), List.append_assoc,
      List.singleton_append]
    intro z _ hnil
    exact absurd hnil (by simp)

/-! ## Whole paths -/

/-- A path in normal form. The path of a file does not start with two slashes. -/
def NormalPath (k : SchemeKind) (path : List Char) : Prop :=
  ∃ xs x, path = directory xs ++ x ∧ (∀ y ∈ xs, Settled k y) ∧ Settled k x ∧
    (k = .file → xs.head? ≠ some [])

theorem dropWhile_slash {y : List Char} (hy : '/' ∉ y) (r : List Char) (h : y = [] → r = []) :
    (y ++ r).dropWhile (· == '/') = y ++ r := by
  cases y with
  | nil => rw [h rfl]; rfl
  | cons c y =>
    have hc : ¬(c == '/') = true := fun h => hy (eq_of_beq h ▸ List.mem_cons_self)
    exact List.dropWhile_cons_of_neg hc

/-- A path with one slash at its start stays. -/
theorem filePath_self {xs : List (List Char)} {x : List Char} (hxs : ∀ y ∈ xs, '/' ∉ y)
    (hx : '/' ∉ x) (hhead : xs.head? ≠ some []) :
    filePath (directory xs ++ x) = directory xs ++ x := by
  cases xs with
  | nil =>
    have h := dropWhile_slash hx [] fun _ => rfl
    rw [List.append_nil] at h
    simp [filePath, directory, h]
  | cons y xs =>
    have hy : y ≠ [] := by simpa using hhead
    have h := dropWhile_slash (hxs y List.mem_cons_self) ('/' :: (xs.flatMap (· ++ ['/']) ++ x))
      fun hnil => absurd hnil hy
    simp [filePath, directory, h]

theorem filePath_directory {xs : List (List Char)} {x : List Char} (hxs : ∀ y ∈ xs, '/' ∉ y)
    (hx : '/' ∉ x) :
    ∃ ys, ys <:+ xs ∧ ys.head? ≠ some [] ∧ filePath (directory xs ++ x) = directory ys ++ x := by
  induction xs with
  | nil => exact ⟨[], List.suffix_rfl, nofun, filePath_self hxs hx nofun⟩
  | cons y xs ih =>
    by_cases hy : y = []
    · obtain ⟨ys, hsuffix, hhead, hpath⟩ := ih fun z hz => hxs z (List.mem_cons_of_mem y hz)
      refine ⟨ys, hsuffix.trans (List.suffix_cons y xs), hhead, ?_⟩
      rw [← hpath, hy]
      simp [filePath, directory]
    · have hhead : (y :: xs).head? ≠ some [] := by simpa using hy
      exact ⟨y :: xs, List.suffix_rfl, hhead, filePath_self hxs hx hhead⟩

/-- Every path that is built is in normal form. -/
theorem normal_readPath (k : SchemeKind) (s : List Char) :
    NormalPath k (readPath k ['/'] s).1.path ∧ Marked (readPath k ['/'] s).2 := by
  have hnone : ∀ x ∈ [], Settled k x := nofun
  obtain ⟨xs, x, hxs, hx, hpath, hmarked⟩ := settled_read s hnone [] nofun false
  change (PathState.read k ⟨['/'], false⟩ [] s).1.path = _ at hpath
  change Marked (PathState.read k ⟨['/'], false⟩ [] s).2 at hmarked
  unfold readPath
  dsimp only
  split
  · next hk =>
    obtain ⟨ys, hsuffix, hhead, hfile⟩ :=
      filePath_directory (fun y hy => (hxs y hy).slash_not_mem) hx.slash_not_mem
    dsimp only
    rw [hpath, hfile]
    exact ⟨⟨ys, x, rfl, fun y hy => hxs y (hsuffix.subset hy), hx, fun _ => hhead⟩, hmarked⟩
  · next hk => exact ⟨⟨xs, x, hpath, hxs, hx, fun h => absurd h hk⟩, hmarked⟩

theorem startsWithDrive_append {y r : List Char}
    (hy : ∀ c ∈ y, ['/', '\\', '?', '#'].contains c = false) (hr : ∀ c ∈ r.head?, c = '/') :
    startsWithDrive ('/' :: (y ++ r)) = isDriveLetter y := by
  match y, r with
  | [], [] => rfl
  | [], [_] => rfl
  | [], c :: d :: _ =>
    cases hr c rfl
    rfl
  | [c], [] => rfl
  | [c], d :: r =>
    cases hr d rfl
    simp [startsWithDrive, isDriveLetter]
  | [c, d], [] => simp [startsWithDrive]
  | [c, d], e :: r =>
    cases hr e rfl
    simp [startsWithDrive]
  | c :: d :: e :: y, r =>
    have he := hy e (by simp)
    simp only [List.cons_append, startsWithDrive, he, Bool.and_false]
    rfl

/-- The path of a file starts with a drive letter exactly if its first segment is one. -/
theorem startsWithDrive_directory {xs : List (List Char)} {x : List Char}
    (hxs : ∀ y ∈ xs, Settled .file y) (hx : Settled .file x) :
    ∀ y ∈ (xs ++ [x]).head?, startsWithDrive (directory xs ++ x) = isDriveLetter y := by
  have hplain : ∀ {y}, Settled .file y → ∀ c ∈ y, ['/', '\\', '?', '#'].contains c = false := by
    intro y hy c hc
    have hslash := hy.noSlash c hc
    obtain ⟨hquery, hfragment⟩ := ne_mark_of_inPath (hy.clean c hc)
    have hback : c ≠ '\\' := by
      rintro rfl
      cases hslash
    simp [ne_slash_of_isSlash hslash, hback, hquery, hfragment]
  intro y hy
  cases xs with
  | nil =>
    cases hy
    have := startsWithDrive_append (r := []) (hplain hx) nofun
    rwa [List.append_nil] at this
  | cons z xs =>
    obtain rfl : z = y := Option.some.inj hy
    have := startsWithDrive_append (r := '/' :: (xs.flatMap (· ++ ['/']) ++ x))
      (hplain (hxs z List.mem_cons_self)) (by simp)
    rw [← this]
    simp [directory]

/-- A path in normal form is built again from its text, unless it is that of a file and starts with
    a drive letter. -/
theorem readPath_again {k : SchemeKind} {path : List Char} (h : NormalPath k path)
    (hdrive : k = .file → startsWithDrive path = false) :
    ∃ t, path = '/' :: t ∧ readPath k ['/'] t = (⟨path, false⟩, []) := by
  obtain ⟨xs, x, rfl, hxs, hx, hhead⟩ := h
  refine ⟨xs.flatMap (· ++ ['/']) ++ x, rfl, ?_⟩
  have hno : ∀ y ∈ (xs ++ [x]).head?, NoDrive k [] y := by
    rintro y hy - hk
    subst hk
    rw [← startsWithDrive_directory hxs hx y hy, hdrive rfl]
  have hread : PathState.read k ⟨['/'], false⟩ [] (xs.flatMap (· ++ ['/']) ++ x) =
      (⟨directory xs ++ x, false⟩, []) := read_settled hxs hx hno false
  unfold readPath
  rw [hread]
  dsimp only
  split
  · next hk =>
    rw [filePath_self (fun y hy => (hxs y hy).slash_not_mem) hx.slash_not_mem (hhead hk)]
  · rfl

/-- A drive letter that has been met is not forgotten. -/
theorem drive_read {k : SchemeKind} (s : List Char) {state : PathState} {segment : List Char}
    (h : state.drive = true) : (state.read k segment s).1.drive = true := by
  induction s generalizing state segment with
  | nil => simp [PathState.read, PathState.add, h]
  | cons c s ih =>
    unfold PathState.read
    split
    · simp [PathState.add, h]
    · split
      · exact ih (by simp [PathState.add, h])
      · exact ih h

/-- A file's path that starts with a drive letter is taken for one on a drive when it is built again
    from its text. -/
theorem drive_readPath {path : List Char} (h : NormalPath .file path)
    (hdrive : startsWithDrive path = true) :
    ∃ t, path = '/' :: t ∧ (readPath .file ['/'] t).1.drive = true := by
  obtain ⟨xs, x, rfl, hxs, hx, -⟩ := h
  refine ⟨xs.flatMap (· ++ ['/']) ++ x, rfl, ?_⟩
  obtain ⟨y, hy⟩ : ∃ y, (xs ++ [x]).head? = some y :=
    ⟨_, List.head?_eq_some_head (List.concat_ne_nil x xs)⟩
  rw [startsWithDrive_directory hxs hx y hy] at hdrive
  have htakes : Settled .file y → takesDrive .file ['/'] y = true := by
    intro hsettled
    rw [takesDrive, percentEncode_of_clean hsettled.clean, hdrive]
    rfl
  unfold readPath
  dsimp only
  rw [if_pos rfl]
  change (PathState.read .file ⟨['/'], false⟩ [] (xs.flatMap (· ++ ['/']) ++ x)).1.drive = true
  cases xs with
  | nil =>
    cases hy
    have hread := read_segment hx ⟨['/'], false⟩ [] []
    rw [List.append_nil, List.append_nil] at hread
    rw [List.flatMap_nil, List.nil_append, hread, PathState.read, List.reverse_reverse]
    simp [PathState.add, htakes hx]
  | cons z xs =>
    obtain rfl : z = y := Option.some.inj hy
    have hz := hxs z List.mem_cons_self
    rw [List.flatMap_cons, List.append_assoc, List.append_assoc, read_segment hz,
      List.append_nil, List.singleton_append, PathState.read, if_neg (by decide),
      if_pos (by rfl), List.reverse_reverse]
    exact drive_read _ (by simp [PathState.add, htakes hz])

end Switchboard.Url
