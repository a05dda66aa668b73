import CodeStyle.Text.Bytes
import Mathlib.Tactic.Common

/-!
# Boundaries of characters

A boundary of a text is the byte length of what stands in front of some place between two of its
characters. Cutting succeeds exactly at boundaries, and two of them in order cut a text into three
pieces. Prefixes of one text are told apart by their byte lengths.
-/
namespace CodeStyle.Text

/-- Whether a byte offset stands between two characters of a text or at one of its ends. -/
def isBoundary (text : List Char) (n : Nat) : Bool := (dropBytes? text n).isSome

theorem byteLength_eq_zero_iff {cs : List Char} : byteLength cs = 0 ↔ cs = [] := by
  cases cs with
  | nil => simp
  | cons c cs =>
    have := c.utf8Size_pos
    simp only [byteLength_cons, reduceCtorEq, iff_false]
    omega

theorem dropBytes?_eq_some_iff {text after : List Char} {n : Nat} :
    dropBytes? text n = some after ↔
      ∃ before, text = before ++ after ∧ byteLength before = n := by
  constructor
  · intro h
    induction text, n using dropBytes?.induct with
    | case1 cs => exact ⟨[], by simpa [dropBytes?] using h, rfl⟩
    | case2 n => simp [dropBytes?] at h
    | case3 c cs n hc ih =>
      simp only [dropBytes?, hc, if_true] at h
      obtain ⟨before, rfl, hn⟩ := ih h
      exact ⟨c :: before, rfl, by simp only [byteLength_cons]; omega⟩
    | case4 c cs n hc => simp [dropBytes?, hc] at h
  · rintro ⟨before, rfl, rfl⟩
    exact dropBytes?_append before after

theorem takeBytes?_eq_some_iff {text before : List Char} {n : Nat} :
    takeBytes? text n = some before ↔
      ∃ after, text = before ++ after ∧ byteLength before = n := by
  constructor
  · intro h
    induction text, n using takeBytes?.induct generalizing before with
    | case1 cs =>
      obtain rfl : before = [] := by simpa [takeBytes?] using h.symm
      exact ⟨cs, rfl, rfl⟩
    | case2 n => simp [takeBytes?] at h
    | case3 c cs n hc ih =>
      simp only [takeBytes?, hc, if_true, Option.map_eq_some_iff] at h
      obtain ⟨taken, ht, rfl⟩ := h
      obtain ⟨after, rfl, hn⟩ := ih ht
      exact ⟨after, rfl, by simp only [byteLength_cons]; omega⟩
    | case4 c cs n hc => simp [takeBytes?, hc] at h
  · rintro ⟨after, rfl, rfl⟩
    exact takeBytes?_append before after

theorem isBoundary_iff {text : List Char} {n : Nat} :
    isBoundary text n = true ↔ ∃ before after, text = before ++ after ∧ byteLength before = n := by
  simp only [isBoundary, Option.isSome_iff_exists, dropBytes?_eq_some_iff]
  exact exists_comm

@[simp] theorem isBoundary_zero (text : List Char) : isBoundary text 0 = true := by
  simp [isBoundary, dropBytes?]

@[simp] theorem isBoundary_append (before after : List Char) :
    isBoundary (before ++ after) (byteLength before) = true := by
  simp [isBoundary, dropBytes?_append]

@[simp] theorem isBoundary_byteLength (text : List Char) :
    isBoundary text (byteLength text) = true := by
  simpa using isBoundary_append text []

theorem dropBytes?_append_add (a b : List Char) (n : Nat) :
    dropBytes? (a ++ b) (byteLength a + n) = dropBytes? b n := by
  induction a with
  | nil => simp
  | cons c a ih =>
    have hc := c.utf8Size_pos
    obtain ⟨k, hk⟩ : ∃ k, byteLength (c :: a) + n = k + 1 :=
      ⟨byteLength (c :: a) + n - 1, by simp only [byteLength_cons]; omega⟩
    have hle : c.utf8Size ≤ k + 1 := by rw [← hk, byteLength_cons]; omega
    have hsub : k + 1 - c.utf8Size = byteLength a + n := by rw [← hk, byteLength_cons]; omega
    simp only [List.cons_append, hk, dropBytes?, hle, if_true, hsub, ih]

theorem isBoundary_append_add (a b : List Char) (n : Nat) :
    isBoundary (a ++ b) (byteLength a + n) = isBoundary b n := by
  simp only [isBoundary, dropBytes?_append_add]

theorem le_byteLength_of_isBoundary {text : List Char} {n : Nat} (h : isBoundary text n = true) :
    n ≤ byteLength text := by
  obtain ⟨before, after, rfl, rfl⟩ := isBoundary_iff.mp h
  rw [byteLength_append]
  exact Nat.le_add_right _ _

/-- A slice is a piece of the text between what its offsets measure. -/
theorem slice?_eq_some_iff {text piece : List Char} {start stop : Nat} :
    slice? text start stop = some piece ↔
      ∃ before after, text = before ++ (piece ++ after) ∧ byteLength before = start ∧
        start + byteLength piece = stop := by
  constructor
  · intro h
    simp only [slice?] at h
    split at h
    · obtain ⟨rest, hd, ht⟩ := Option.bind_eq_some_iff.mp h
      obtain ⟨before, rfl, hb⟩ := dropBytes?_eq_some_iff.mp hd
      obtain ⟨after, rfl, hp⟩ := takeBytes?_eq_some_iff.mp ht
      exact ⟨before, after, rfl, hb, by omega⟩
    · contradiction
  · rintro ⟨before, after, rfl, rfl, rfl⟩
    rw [← List.append_assoc]
    exact slice?_append before piece after

/-- Of two prefixes of a text the one with fewer bytes is a prefix of the other. -/
theorem exists_append_of_byteLength_le {a b c d : List Char} (h : a ++ b = c ++ d)
    (hle : byteLength a ≤ byteLength c) : ∃ m, c = a ++ m ∧ b = m ++ d := by
  rcases List.append_eq_append_iff.mp h with ⟨m, rfl, rfl⟩ | ⟨m, rfl, rfl⟩
  · exact ⟨m, rfl, rfl⟩
  · rw [byteLength_append] at hle
    obtain rfl : m = [] := byteLength_eq_zero_iff.mp (by omega)
    exact ⟨[], by simp, rfl⟩

/-- Two boundaries in order cut a text into three pieces. -/
theorem exists_pieces {text : List Char} {start stop : Nat} (hle : start ≤ stop)
    (hstart : isBoundary text start = true) (hstop : isBoundary text stop = true) :
    ∃ before piece after, text = before ++ (piece ++ after) ∧ byteLength before = start ∧
      start + byteLength piece = stop := by
  obtain ⟨before, rest, rfl, rfl⟩ := isBoundary_iff.mp hstart
  obtain ⟨upto, after, h, rfl⟩ := isBoundary_iff.mp hstop
  obtain ⟨piece, rfl, rfl⟩ := exists_append_of_byteLength_le h hle
  exact ⟨before, piece, after, rfl, rfl, (byteLength_append before piece).symm⟩

/-- Cutting succeeds between two boundaries in order. -/
theorem exists_slice?_iff {text : List Char} {start stop : Nat} :
    (∃ piece, slice? text start stop = some piece) ↔
      start ≤ stop ∧ isBoundary text start = true ∧ isBoundary text stop = true := by
  constructor
  · rintro ⟨piece, h⟩
    obtain ⟨before, after, rfl, rfl, rfl⟩ := slice?_eq_some_iff.mp h
    refine ⟨Nat.le_add_right _ _, isBoundary_append _ _, ?_⟩
    rw [← byteLength_append, ← List.append_assoc]
    exact isBoundary_append _ _
  · rintro ⟨hle, hstart, hstop⟩
    obtain ⟨before, piece, after, h⟩ := exists_pieces hle hstart hstop
    exact ⟨piece, slice?_eq_some_iff.mpr ⟨before, after, h⟩⟩

end CodeStyle.Text
