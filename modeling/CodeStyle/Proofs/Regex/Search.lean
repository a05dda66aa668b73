import CodeStyle.Regex.Search
import Mathlib.Data.Nat.Bitwise

/-!
# What a search finds

A search moves sets of positions, kept as the bits of a number. Each expression takes a set to the
positions at which its matches from the set end. A repetition without a bound is followed for as many
rounds as the text has positions; that is enough, because a round that makes no progress can be left
out and every other one goes on by at least one character. So a search answers whether there is a
match between some two positions.
-/
namespace CodeStyle.Regex

section Sets

theorem testBit_foldl_lor {p : Nat → Bool} (is : List Nat) (set j : Nat) :
    (is.foldl (fun set i => if p i then set ||| (1 <<< i) else set) set).testBit j = true ↔
      set.testBit j = true ∨ j ∈ is ∧ p j = true := by
  induction is generalizing set with
  | nil => simp
  | cons i is ih =>
    rw [List.foldl_cons, ih, List.mem_cons]
    by_cases hp : p i = true
    · have hone : (1 <<< i).testBit j = true ↔ j = i := by
        rw [Nat.one_shiftLeft, Nat.testBit_two_pow, decide_eq_true_eq, eq_comm]
      rw [if_pos hp, Nat.testBit_lor, Bool.or_eq_true, hone]
      constructor
      · rintro ((h | rfl) | h)
        · exact .inl h
        · exact .inr ⟨.inl rfl, hp⟩
        · exact .inr ⟨.inr h.1, h.2⟩
      · rintro (h | ⟨rfl | h, hj⟩)
        · exact .inl (.inl h)
        · exact .inl (.inr rfl)
        · exact .inr ⟨h, hj⟩
    · have hne : p j = true → j ≠ i := fun hj he => hp (he ▸ hj)
      rw [if_neg hp]
      grind

theorem testBit_positions {size : Nat} {p : Nat → Bool} {i : Nat} :
    (positions size p).testBit i = true ↔ i ≤ size ∧ p i = true := by
  rw [positions, testBit_foldl_lor, List.mem_range, Nat.lt_succ_iff]
  simp

theorem testBit_without {a b i : Nat} :
    (without a b).testBit i = true ↔ a.testBit i = true ∧ b.testBit i = false := by
  rw [without, Nat.testBit_xor, Nat.testBit_land]
  cases a.testBit i <;> cases b.testBit i <;> simp

theorem ne_zero_iff_exists_testBit {set : Nat} : set ≠ 0 ↔ ∃ i, set.testBit i = true := by
  refine ⟨Nat.exists_testBit_of_ne_zero, ?_⟩
  rintro ⟨i, hi⟩ rfl
  simp at hi

end Sets

namespace Expr

variable {α β : Type} {charAt : α → Nat → Prop} {lookAt : β → Nat → Prop} {a b : Expr α β}
  {i j k m n : Nat} {max : Option Nat}

theorem matches_empty_iff : Matches charAt lookAt empty i j ↔ i = j := by
  constructor
  · rintro ⟨⟩
    rfl
  · rintro rfl
    exact .empty i

theorem matches_char_iff {t : α} :
    Matches charAt lookAt (char t) i j ↔ charAt t i ∧ j = i + 1 := by
  constructor
  · rintro ⟨⟩
    exact ⟨‹_›, rfl⟩
  · rintro ⟨h, rfl⟩
    exact .char h

theorem matches_look_iff {t : β} : Matches charAt lookAt (look t) i j ↔ lookAt t i ∧ i = j := by
  constructor
  · rintro ⟨⟩
    exact ⟨‹_›, rfl⟩
  · rintro ⟨h, rfl⟩
    exact .look h

theorem matches_seq_iff :
    Matches charAt lookAt (seq a b) i k ↔
      ∃ j, Matches charAt lookAt a i j ∧ Matches charAt lookAt b j k := by
  constructor
  · intro h
    cases h with
    | seq ha hb => exact ⟨_, ha, hb⟩
  · rintro ⟨j, ha, hb⟩
    exact .seq ha hb

theorem matches_alt_iff :
    Matches charAt lookAt (alt a b) i j ↔
      Matches charAt lookAt a i j ∨ Matches charAt lookAt b i j := by
  constructor
  · intro h
    cases h with
    | altLeft h => exact .inl h
    | altRight h => exact .inr h
  · rintro (h | h)
    · exact .altLeft h
    · exact .altRight h

theorem Matches.le {r : Expr α β} (h : Matches charAt lookAt r i j) : i ≤ j := by
  induction h with
  | empty => exact Nat.le_refl _
  | char => exact Nat.le_succ _
  | look => exact Nat.le_refl _
  | seq _ _ iha ihb => exact Nat.le_trans iha ihb
  | altLeft _ ih => exact ih
  | altRight _ ih => exact ih
  | repDone => exact Nat.le_refl _
  | repMust _ _ iha ihr => exact Nat.le_trans iha ihr
  | repMay _ _ iha ihr => exact Nat.le_trans iha ihr
  | repMore _ _ iha ihr => exact Nat.le_trans iha ihr

/-- A match that starts in a text ends in it if characters are tested in front of its end. -/
theorem Matches.le_size {size : Nat} (hsize : ∀ t i, charAt t i → i < size) {r : Expr α β}
    (h : Matches charAt lookAt r i j) (hi : i ≤ size) : j ≤ size := by
  induction h with
  | empty => exact hi
  | char h => exact hsize _ _ h
  | look => exact hi
  | seq _ _ iha ihb => exact ihb (iha hi)
  | altLeft _ ih => exact ih hi
  | altRight _ ih => exact ih hi
  | repDone => exact hi
  | repMust _ _ iha ihr => exact ihr (iha hi)
  | repMay _ _ iha ihr => exact ihr (iha hi)
  | repMore _ _ iha ihr => exact ihr (iha hi)

section Repetition

theorem matches_rep_succ_iff :
    Matches charAt lookAt (rep a (m + 1) max) i k ↔
      ∃ j, Matches charAt lookAt a i j ∧ Matches charAt lookAt (rep a m (max.map (· - 1))) j k := by
  constructor
  · intro h
    cases h with
    | repMust ha hr => exact ⟨_, ha, hr⟩
  · rintro ⟨j, ha, hr⟩
    exact .repMust ha hr

theorem matches_rep_zero_iff : Matches charAt lookAt (rep a 0 (some 0)) i k ↔ i = k := by
  constructor
  · intro h
    cases h
    rfl
  · rintro rfl
    exact .repDone i

theorem matches_rep_some_succ_iff :
    Matches charAt lookAt (rep a 0 (some (n + 1))) i k ↔
      i = k ∨ ∃ j, Matches charAt lookAt a i j ∧ Matches charAt lookAt (rep a 0 (some n)) j k := by
  constructor
  · intro h
    cases h with
    | repDone => exact .inl rfl
    | repMay ha hr => exact .inr ⟨_, ha, hr⟩
  · rintro (rfl | ⟨j, ha, hr⟩)
    · exact .repDone i
    · exact .repMay ha hr

/-- A round more may be allowed. -/
theorem Matches.rep_some_succ (h : Matches charAt lookAt (rep a 0 (some n)) i k) :
    Matches charAt lookAt (rep a 0 (some (n + 1))) i k := by
  induction n generalizing i with
  | zero =>
    rw [matches_rep_zero_iff.mp h]
    exact .repDone k
  | succ n ih =>
    rcases matches_rep_some_succ_iff.mp h with rfl | ⟨j, ha, hr⟩
    · exact .repDone i
    · exact .repMay ha (ih hr)

/-- What no round leads out of is not left by any number of them. -/
theorem Matches.of_rep_some {p : Nat → Prop} (hp : ∀ i j, p i → Matches charAt lookAt a i j → p j)
    (h : Matches charAt lookAt (rep a 0 (some n)) i k) (hi : p i) : p k := by
  induction n generalizing i with
  | zero => exact matches_rep_zero_iff.mp h ▸ hi
  | succ n ih =>
    rcases matches_rep_some_succ_iff.mp h with rfl | ⟨j, ha, hr⟩
    · exact hi
    · exact ih hr (hp i j hi ha)

/-- What at most so many rounds match, any number of them does. -/
theorem Matches.rep_none (h : Matches charAt lookAt (rep a 0 (some n)) i k) :
    Matches charAt lookAt (rep a 0 none) i k := by
  induction n generalizing i with
  | zero =>
    rw [matches_rep_zero_iff.mp h]
    exact .repDone k
  | succ n ih =>
    rcases matches_rep_some_succ_iff.mp h with rfl | ⟨j, ha, hr⟩
    · exact .repDone i
    · exact .repMore ha (ih hr)

/-- Rounds that make no progress can be left out, so a match needs at most as many rounds as it
takes characters. -/
theorem Matches.rep_some_of_le {r : Expr α β} (h : Matches charAt lookAt r i k)
    (hr : r = rep a 0 none) (hle : k ≤ i + n) : Matches charAt lookAt (rep a 0 (some n)) i k := by
  induction h generalizing n with
  | repDone i => exact .repDone i
  | @repMore _ i j k ha hrest _ ih =>
    cases hr
    have hij := ha.le
    by_cases hstay : i = j
    · subst hstay
      exact ih rfl hle
    · have hjk := hrest.le
      obtain ⟨n, rfl⟩ : ∃ n', n = n' + 1 := ⟨n - 1, by omega⟩
      exact .repMay ha (ih rfl (by omega))
  | empty => cases hr
  | char => cases hr
  | look => cases hr
  | seq => cases hr
  | altLeft => cases hr
  | altRight => cases hr
  | repMust => cases hr
  | repMay => cases hr

end Repetition

section Steps

/-- Whether all members of a set are positions of a text of some size. -/
def Within (size set : Nat) : Prop := ∀ i, set.testBit i = true → i ≤ size

/-- Whether a step takes each set of positions of a text to where an expression takes its
members. -/
def Follows (charAt : α → Nat → Prop) (lookAt : β → Nat → Prop) (size : Nat) (a : Expr α β)
    (step : Nat → Nat) : Prop :=
  ∀ {set : Nat}, Within size set → ∀ {j : Nat},
    (step set).testBit j = true ↔ ∃ i, set.testBit i = true ∧ Matches charAt lookAt a i j

variable {size set seen last : Nat} {step : Nat → Nat}

theorem Follows.within (h : Follows charAt lookAt size a step)
    (hsize : ∀ t i, charAt t i → i < size) (hset : Within size set) : Within size (step set) := by
  intro j hj
  obtain ⟨i, hi, ha⟩ := (h hset).mp hj
  exact ha.le_size hsize (hset i hi)

/-- Going on from what was reached last reaches what so many rounds match, as long as everything
else that has been reached has been gone on from before. -/
theorem Follows.testBit_reach (h : Follows charAt lookAt size a step)
    (hsize : ∀ t i, charAt t i → i < size) (hseen : Within size seen)
    (hlast : ∀ i, last.testBit i = true → seen.testBit i = true)
    (hdone : ∀ i j, seen.testBit i = true → last.testBit i = false →
      Matches charAt lookAt a i j → seen.testBit j = true) :
    (reach step n seen last).testBit k = true ↔
      ∃ i, seen.testBit i = true ∧ Matches charAt lookAt (rep a 0 (some n)) i k := by
  induction n generalizing seen last with
  | zero => simp [reach, matches_rep_zero_iff]
  | succ n ih =>
    have hwithin : Within size last := fun i hi => hseen i (hlast i hi)
    have hnew : ∀ j, (without (step last) seen).testBit j = true →
        ∃ i, seen.testBit i = true ∧ Matches charAt lookAt a i j := by
      intro j hj
      obtain ⟨i, hi, ha⟩ := (h hwithin).mp (testBit_without.mp hj).1
      exact ⟨i, hlast i hi, ha⟩
    have hfound : ∀ i j, seen.testBit i = true → Matches charAt lookAt a i j →
        seen.testBit j = true ∨ (without (step last) seen).testBit j = true := by
      intro i j hi ha
      by_cases hj : seen.testBit j = true
      · exact .inl hj
      · refine .inr (testBit_without.mpr ⟨?_, by simpa using hj⟩)
        by_cases hl : last.testBit i = true
        · exact (h hwithin).mpr ⟨i, hl, ha⟩
        · exact absurd (hdone i j hi (by simpa using hl) ha) hj
    rw [reach]
    by_cases hnext : without (step last) seen = 0
    · -- nothing new is reached, so what has been reached is closed under further rounds
      rw [hnext, if_pos rfl]
      have hclosed : ∀ i j, seen.testBit i = true → Matches charAt lookAt a i j →
          seen.testBit j = true := by
        intro i j hi ha
        simpa [hnext] using hfound i j hi ha
      constructor
      · exact fun hk => ⟨k, hk, .repDone k⟩
      · rintro ⟨i, hi, hr⟩
        exact hr.of_rep_some hclosed hi
    · have hunion : ∀ i, (seen ||| without (step last) seen).testBit i = true ↔
          seen.testBit i = true ∨ (without (step last) seen).testBit i = true := by
        simp
      rw [if_neg hnext, ih]
      · constructor
        · rintro ⟨i, hi, hr⟩
          rcases (hunion i).mp hi with hi | hi
          · exact ⟨i, hi, hr.rep_some_succ⟩
          · obtain ⟨i', hi', ha⟩ := hnew i hi
            exact ⟨i', hi', .repMay ha hr⟩
        · rintro ⟨i, hi, hr⟩
          rcases matches_rep_some_succ_iff.mp hr with rfl | ⟨j, ha, hr⟩
          · exact ⟨i, (hunion i).mpr (.inl hi), .repDone i⟩
          · exact ⟨j, (hunion j).mpr (hfound i j hi ha), hr⟩
      · intro i hi
        rcases (hunion i).mp hi with hi | hi
        · exact hseen i hi
        · obtain ⟨i', hi', ha⟩ := hnew i hi
          exact ha.le_size hsize (hseen i' hi')
      · exact fun i hi => (hunion i).mpr (.inr hi)
      · intro i j hi hold ha
        have hi' := ((hunion i).mp hi).resolve_right (by simp [hold])
        exact (hunion j).mpr (hfound i j hi' ha)

theorem Follows.step_zero (h : Follows charAt lookAt size a step) : step 0 = 0 := by
  by_contra hne
  obtain ⟨j, hj⟩ := ne_zero_iff_exists_testBit.mp hne
  have hnone : Within size 0 := by
    intro i hi
    simp at hi
  obtain ⟨i, hi, -⟩ := (h hnone).mp hj
  simp at hi

theorem iterate_zero_right (step : Nat → Nat) (n : Nat) : iterate step n 0 = 0 := by
  cases n <;> simp [iterate]

theorem Follows.iterate_succ (h : Follows charAt lookAt size a step) (n set : Nat) :
    iterate step (n + 1) set = iterate step n (step set) := by
  by_cases hset : set = 0
  · simp [hset, h.step_zero, iterate_zero_right]
  · rw [iterate, if_neg hset]

/-- The number of rounds that are followed behind those that must be made. -/
def rounds (size min : Nat) : Option Nat → Nat
  | none => size + 1
  | some n => n - min

theorem rounds_pred (size min : Nat) (max : Option Nat) :
    rounds size min (max.map (· - 1)) = rounds size (min + 1) max := by
  cases max with
  | none => rfl
  | some n => simp only [rounds, Option.map_some]; omega

/-- Behind the rounds that must be made come those that may be made. -/
theorem Follows.rep (h : Follows charAt lookAt size a step)
    (hsize : ∀ t i, charAt t i → i < size) (min : Nat) (max : Option Nat) :
    Follows charAt lookAt size (rep a min max) fun set =>
      reach step (rounds size min max) (iterate step min set) (iterate step min set) := by
  intro set hset k
  induction min generalizing set max with
  | zero =>
    have hfirst : ∀ i j, set.testBit i = true → set.testBit i = false →
        Matches charAt lookAt a i j → set.testBit j = true := by
      intro i j hi hno
      rw [hi] at hno
      contradiction
    simp only [iterate]
    rw [h.testBit_reach hsize hset (fun _ hi => hi) hfirst]
    cases max with
    | some n => rfl
    | none =>
      refine exists_congr fun i => and_congr_right fun hi => ?_
      constructor
      · exact Matches.rep_none
      · intro hr
        have hk := hr.le_size hsize (hset i hi)
        exact hr.rep_some_of_le rfl (Nat.le_add_left_of_le (Nat.le_succ_of_le hk))
  | succ min ih =>
    have hrest := ih (max.map (· - 1)) (h.within hsize hset)
    simp only [h.iterate_succ, ← rounds_pred, matches_rep_succ_iff]
    rw [hrest]
    simp only [h hset]
    constructor
    · rintro ⟨j, ⟨i, hi, ha⟩, hr⟩
      exact ⟨i, hi, j, ha, hr⟩
    · rintro ⟨i, hi, j, ha, hr⟩
      exact ⟨j, ⟨i, hi, ha⟩, hr⟩

end Steps

/-- An expression takes a set of positions to where its matches from there end. -/
theorem follows_advance {size : Nat} {f : α → Nat} {g : β → Nat}
    (hsize : ∀ t i, charAt t i → i < size) (hchar : ∀ t i, (f t).testBit i = true ↔ charAt t i)
    (hlook : ∀ t i, (g t).testBit i = true ↔ i ≤ size ∧ lookAt t i) (r : Expr α β) :
    Follows charAt lookAt size r ((r.map f g).advance size) := by
  induction r with
  | empty =>
    intro set _ j
    simp [map, advance, matches_empty_iff]
  | char t =>
    intro set _ j
    simp only [map, advance, Nat.testBit_shiftLeft, Nat.testBit_land, Bool.and_eq_true,
      decide_eq_true_eq, hchar, matches_char_iff]
    constructor
    · rintro ⟨hj, hset, ht⟩
      exact ⟨j - 1, hset, ht, by omega⟩
    · rintro ⟨i, hset, ht, rfl⟩
      exact ⟨Nat.le_add_left 1 i, hset, ht⟩
  | look t =>
    intro set hset j
    simp only [map, advance, Nat.testBit_land, Bool.and_eq_true, hlook, matches_look_iff]
    constructor
    · rintro ⟨hj, -, ht⟩
      exact ⟨j, hj, ht, rfl⟩
    · rintro ⟨i, hi, ht, rfl⟩
      exact ⟨hi, hset i hi, ht⟩
  | seq a b iha ihb =>
    intro set hset j
    simp only [map, advance, ihb (iha.within hsize hset), iha hset, matches_seq_iff]
    constructor
    · rintro ⟨k, ⟨i, hi, ha⟩, hb⟩
      exact ⟨i, hi, k, ha, hb⟩
    · rintro ⟨i, hi, k, ha, hb⟩
      exact ⟨k, ⟨i, hi, ha⟩, hb⟩
  | alt a b iha ihb =>
    intro set hset j
    simp only [map, advance, Nat.testBit_lor, Bool.or_eq_true, iha hset, ihb hset,
      matches_alt_iff, and_or_left, exists_or]
  | rep a min max ih => exact ih.rep hsize min max

end Expr

/-- Whether a character of a text passes a test. -/
def CharAt (text : List Char) (s : CharSet) (i : Nat) : Prop :=
  ∃ c, text[i]? = some c ∧ s.contains c = true

/-- Whether a test holds at a position of a text. -/
def LookAt (text : List Char) (l : Look) (i : Nat) : Prop := l.holds text.toArray i = true

/-- Whether an expression matches what stands between two positions of a text. -/
abbrev MatchesIn (text : List Char) (r : Regex) (i j : Nat) : Prop :=
  Expr.Matches (CharAt text) (LookAt text) r i j

variable {text : List Char} {r : Regex}

theorem CharAt.lt_length (s : CharSet) (i : Nat) (h : CharAt text s i) : i < text.length := by
  obtain ⟨c, hc, -⟩ := h
  exact (List.getElem?_eq_some_iff.mp hc).1

theorem testBit_positions_charAt (s : CharSet) (i : Nat) :
    (positions text.toArray.size fun i => (text.toArray[i]?).any s.contains).testBit i = true ↔
      CharAt text s i := by
  rw [testBit_positions, List.getElem?_toArray, Option.any_eq_true, List.size_toArray, CharAt]
  refine and_iff_right_of_imp ?_
  rintro ⟨c, hc, -⟩
  exact Nat.le_of_lt (List.getElem?_eq_some_iff.mp hc).1

/-- A search answers whether an expression matches somewhere in a text. -/
theorem isMatch_iff : isMatch r text = true ↔ ∃ i j, i ≤ text.length ∧ MatchesIn text r i j := by
  have hfollows : Expr.Follows (CharAt text) (LookAt text) text.length r
      ((onText text.toArray r).advance text.length) :=
    Expr.follows_advance CharAt.lt_length testBit_positions_charAt (fun _ _ => testBit_positions) r
  have hall : Expr.Within text.length (positions text.length fun _ => true) :=
    fun i hi => (testBit_positions.mp hi).1
  have hset : isMatch r text = true ↔ (onText text.toArray r).advance text.length
      (positions text.length fun _ => true) ≠ 0 := by
    simp [isMatch]
  rw [hset, ne_zero_iff_exists_testBit]
  constructor
  · rintro ⟨j, hj⟩
    obtain ⟨i, hi, h⟩ := (hfollows hall).mp hj
    exact ⟨i, j, (testBit_positions.mp hi).1, h⟩
  · rintro ⟨i, j, hi, h⟩
    exact ⟨j, (hfollows hall).mpr ⟨i, testBit_positions.mpr ⟨hi, rfl⟩, h⟩⟩

end CodeStyle.Regex
