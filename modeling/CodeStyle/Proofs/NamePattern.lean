import CodeStyle.NamePattern
import CodeStyle.Proofs.Regex.Enclosed
import CodeStyle.Proofs.Regex.Whole

/-!
# Name patterns and what they stand for alone

A pattern for names is read between anchors, as a part of a longer pattern. A name is to match it as
a whole just if the pattern read alone matches from the first character of the name to the last.
-/
namespace CodeStyle

namespace Regex

def Reading.initial : Reading := ⟨[], .start, {}, []⟩

/-- A pattern read to its end, however deeply it nests. -/
def readWhole? (pattern : List Char) : Option Part :=
  readParts (pattern.length + 1) .initial pattern

theorem read?_eq (pattern : List Char) : read? pattern = (readWhole? pattern).bind fun part =>
    if part.depth ≤ maximumDepth then some part.expr else none := rfl

/-- Whether a pattern ends in a comment: with what closes a group behind it, it can still be read,
because the comment goes on to the end. -/
def EndsInComment (pattern : List Char) : Prop := (readWhole? (pattern ++ closing)).isSome

/-- What stands in front of a pattern that is put between anchors. -/
def opening : List Char := ['^', '(', '?', ':']

/-- The group that is open around a pattern between anchors. -/
def anchorFrame : GroupFrame := ⟨⟨[], [⟨.look .textStart, 0, true⟩]⟩, {}⟩

variable {n : Nat} {cs pattern : List Char} {part : Part}

theorem step?_caret (r : Reading) (cs : List Char) :
    r.step? ('^' :: cs) = some (r.pushExpr (.look r.flags.caret), cs) := rfl

theorem step?_group (r : Reading) (h : r.flags.verbose = false) (cs : List Char) :
    r.step? ('(' :: '?' :: ':' :: cs) = some (r.enter r.flags, cs) := by
  have hopen : r.step? ('(' :: '?' :: ':' :: cs) = r.openGroup? ('?' :: ':' :: cs) := rfl
  rw [hopen, r.openGroup?_eq, h, skip_false]
  rfl

theorem readParts_opening : readParts (n + 2) .initial (opening ++ cs) =
    readParts n (Reading.initial.within anchorFrame) cs := by
  have htext : opening ++ cs = '^' :: '(' :: '?' :: ':' :: cs := rfl
  rw [htext, readParts_cons (skip_false _), step?_caret, Option.bind_some,
    readParts_cons (skip_false _), step?_group _ rfl, Option.bind_some]
  rfl

theorem readWhole?_anchored (pattern : List Char) : readWhole? (opening ++ (pattern ++ closing)) =
    readParts (pattern.length + 5) (Reading.initial.within anchorFrame) (pattern ++ closing) := by
  have hlength : (opening ++ (pattern ++ closing)).length + 1 = pattern.length + 5 + 2 := by
    simp [opening, closing]
  rw [readWhole?, hlength, readParts_opening]

theorem enclosed_readWhole? (h : ¬ClosesUnopened .initial pattern) :
    Enclosed anchorFrame (readWhole? pattern) (readWhole? (pattern ++ closing))
      (readWhole? (opening ++ (pattern ++ closing))) := by
  have hlength : (pattern ++ closing).length = pattern.length + 2 := List.length_append
  have hbehind : readWhole? (pattern ++ closing) =
      readParts (pattern.length + 5) .initial (pattern ++ closing) :=
    readParts_congr (Nat.lt_succ_self _) (by omega)
  rw [readWhole?_anchored, hbehind]
  exact enclosed_readParts h (Nat.lt_succ_self _) (by omega)

/-- Between anchors a pattern nests two levels deeper. -/
theorem depth_closeOn_anchorFrame (part : Part) :
    (anchorFrame.closeOn part).depth = part.depth + 2 := by
  simp [anchorFrame, GroupFrame.closeOn, Group.push, Group.whole, Group.branch, deepest]

theorem expr_closeOn_anchorFrame (part : Part) : (anchorFrame.closeOn part).expr =
    .seqs (.look .textStart :: ([part.expr] ++ [.look .textEnd])) := rfl

/-- The anchors take two states. -/
theorem size_anchored (r : Regex) :
    size (.seqs (.look .textStart :: ([r] ++ [.look .textEnd]))) = size r + 2 * stateBytes := by
  simp only [size, Expr.seqs, List.singleton_append, Expr.bytes]
  omega

end Regex

namespace NamePattern

open Regex

theorem toList_anchored (pattern : String) :
    (anchored pattern).toList = opening ++ (pattern.toList ++ closing) := by
  simp [anchored, opening, closing]

/-- The expression that a part of a pattern stands for between anchors. -/
def between (pattern : String) (part : Part) : NamePattern :=
  ⟨pattern, .seqs (.look .textStart :: ([part.expr] ++ [.look .textEnd]))⟩

/-- An expression between anchors accepts the names that it matches from the first character to
the last. -/
theorem accepts_between_iff {pattern name : String} {part : Part} :
    (between pattern part).accepts name = true ↔
      MatchesIn name.toList part.expr 0 name.toList.length :=
  isMatch_seqs_iff

/-- Whether a pattern is within the limits for patterns with anchors around it. The limit of the size
is approximate, because sizes are estimated. -/
def FitsLimits (part : Part) : Prop :=
  part.depth + 2 ≤ maximumDepth ∧ size part.expr + 2 * stateBytes ≤ maximumBytes

variable {pattern : String} {part : Part}

theorem read_of_readWhole?_eq_none
    (h : readWhole? (opening ++ (pattern.toList ++ closing)) = none) :
    read pattern = .error (.pattern (invalid pattern malformed)) := by
  rw [read, toList_anchored, read?_eq, h]
  rfl

theorem read_of_readWhole?_eq_some
    (h : readWhole? (opening ++ (pattern.toList ++ closing)) = some (anchorFrame.closeOn part)) :
    read pattern = if part.depth + 2 ≤ maximumDepth then
        if size part.expr + 2 * stateBytes ≤ maximumBytes then .ok (between pattern part)
        else .error (.pattern (invalid pattern oversized))
      else .error (.pattern (invalid pattern malformed)) := by
  rw [read, toList_anchored, read?_eq, h, Option.bind_some, depth_closeOn_anchorFrame,
    expr_closeOn_anchorFrame, ← size_anchored]
  by_cases hdepth : part.depth + 2 ≤ maximumDepth
  · rw [if_pos hdepth, if_pos hdepth]
    rfl
  · rw [if_neg hdepth, if_neg hdepth]

theorem read_eq_ok_iff {q : NamePattern}
    (h : readWhole? (opening ++ (pattern.toList ++ closing)) = some (anchorFrame.closeOn part)) :
    read pattern = .ok q ↔ FitsLimits part ∧ q = between pattern part := by
  rw [read_of_readWhole?_eq_some h, FitsLimits]
  split
  · split
    · simp_all [eq_comm]
    · simp_all
  · simp_all

/-- A pattern that can be read alone can be used for names just if it does not end in a comment and
leaves the limits room for the anchors; then it accepts the names that it matches alone from the
first character to the last. One that cannot be read alone cannot be used either, unless it closes a
group that it has not opened. -/
theorem exists_read_iff_and_accepts_iff (pattern : String) :
    (∀ part, readWhole? pattern.toList = some part →
      ((∃ q, read pattern = .ok q) ↔ ¬EndsInComment pattern.toList ∧ FitsLimits part) ∧
      ∀ q, read pattern = .ok q → ∀ name : String, q.accepts name = true ↔
        MatchesIn name.toList part.expr 0 name.toList.length) ∧
    (readWhole? pattern.toList = none → ¬ClosesUnopened .initial pattern.toList →
      read pattern = .error (.pattern (invalid pattern malformed))) := by
  refine ⟨fun part hpart => ?_, fun hnone hcloses => ?_⟩
  · have henclosed := enclosed_readWhole? (not_closesUnopened_of_readParts hpart)
    rw [hpart] at henclosed
    rw [EndsInComment]
    generalize readWhole? (pattern.toList ++ closing) = behind at henclosed ⊢
    generalize hinside : readWhole? (opening ++ (pattern.toList ++ closing)) = inside at henclosed
    cases henclosed with
    | closed =>
      refine ⟨?_, fun q hq name => ?_⟩
      · simp [read_eq_ok_iff hinside]
      · obtain ⟨-, rfl⟩ := (read_eq_ok_iff hinside).mp hq
        exact accepts_between_iff
    | commented =>
      rw [read_of_readWhole?_eq_none hinside]
      simp
  · have henclosed := enclosed_readWhole? hcloses
    rw [hnone] at henclosed
    generalize hinside : readWhole? (opening ++ (pattern.toList ++ closing)) = inside at henclosed
    cases henclosed with
    | refused => exact read_of_readWhole?_eq_none hinside

/-- The usual pattern for classes is used as it stands. -/
theorem accepts_capitalized_iff : ∃ part q, readWhole? "[A-Z][a-zA-Z]*".toList = some part ∧
    read "[A-Z][a-zA-Z]*" = .ok q ∧ ∀ name : String, q.accepts name = true ↔
      MatchesIn name.toList part.expr 0 name.toList.length := by
  have halone : (readWhole? "[A-Z][a-zA-Z]*".toList).isSome = true := by decide +kernel
  have hread : (read "[A-Z][a-zA-Z]*").toBool = true := by decide +kernel
  obtain ⟨part, hpart⟩ := Option.isSome_iff_exists.mp halone
  cases hq : read "[A-Z][a-zA-Z]*" with
  | error e => simp [hq, Except.toBool] at hread
  | ok q =>
    have haccepts := ((exists_read_iff_and_accepts_iff "[A-Z][a-zA-Z]*").1 part hpart).2 q hq
    exact ⟨part, q, hpart, rfl, haccepts⟩

/-- A pattern that is refused alone, because it closes a group that it has not opened, can be used
for names, and then accepts names by their start. -/
theorem exists_read_and_accepts_unopened : Regex.read? "a)|(?:b".toList = none ∧
    ∃ q, read "a)|(?:b" = .ok q ∧ q.accepts "axyz" = true := by
  refine ⟨by decide +kernel, ?_⟩
  have haccepts : (read "a)|(?:b").toOption.any (·.accepts "axyz") = true := by decide +kernel
  cases hq : read "a)|(?:b" with
  | error e => simp [hq, Except.toOption] at haccepts
  | ok q =>
    rw [hq] at haccepts
    exact ⟨q, rfl, haccepts⟩

/-- A pattern that is read alone cannot be used if a comment swallows what closes the group. -/
example : (Regex.read? "(?x)a#b".toList).isSome = true ∧ (read "(?x)a#b").toBool = false := by
  decide +kernel

end NamePattern

end CodeStyle
