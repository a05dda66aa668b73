import CodeStyle.Proofs.Rule.Form
import CodeStyle.Regex.Notation
import Mathlib

/-!
# Patterns of layouts

The patterns of layouts are built from words and what stands between them. Written down they are
read one character after the other, which only groups them in another way. So the written patterns
accept the texts that are well formed as heads, as bodies and as blocks that hold nothing.
-/
namespace CodeStyle.Layout

open Regex

/-- Whether a pattern is read as an expression that accepts the same texts as another. -/
def Denotes (pattern : String) (r : Regex) : Prop :=
  ∃ read, read? pattern.toList = some read ∧ ∀ text, isMatch read text = isMatch r text

/-- The patterns of layouts as they are written. -/
def writtenPatterns : List (String × Regex) :=
  [("^for \\(\\S.*; .*; .*\\) \\\x7b$", forHead),
    ("^if \\(\\S(.*\\S)?\\) \\\x7b$", conditionHead "if"),
    ("^while \\(\\S(.*\\S)?\\) \\\x7b$", conditionHead "while"),
    ("^switch \\(\\S(.*\\S)?\\) \\\x7b$", conditionHead "switch"),
    ("^try \\\x7b$", plainHead "try"),
    ("^catch \\(\\S(.*\\S)?\\) \\\x7b$", conditionHead "catch"),
    ("^finally \\\x7b$", plainHead "finally"),
    ("^\\\x7b(.|\\n)*\\\x7d$", braced),
    ("^\\\x7b\\s*\\\x7d$", blankBraces)]

variable {pattern keyword : String}

/-- The tests on the characters of a word. -/
def letters (word : String) : List Regex := word.toList.map fun c => .char (.single c)

/-- A pattern that is read as single parts denotes them in groups. -/
theorem denotes_of_read? {pieces : List (List Regex)}
    (h : read? pattern.toList = some (whole pieces.flatten)) :
    Denotes pattern (whole (pieces.map .seqs)) :=
  ⟨_, h, isMatch_flatten_eq pieces⟩

theorem denotes_plainHead (h : read? pattern.toList =
    some (whole [letters (keyword ++ " \x7b")].flatten)) : Denotes pattern (plainHead keyword) :=
  denotes_of_read? h

theorem denotes_conditionHead (h : read? pattern.toList = some (whole
      [letters (keyword ++ " ("), [visible], [.opt (.seq (.star onLine) visible)],
        letters ") \x7b"].flatten)) :
    Denotes pattern (conditionHead keyword) :=
  denotes_of_read? h

theorem denotes_forHead (h : read? pattern.toList = some (whole
      [letters "for (", [visible], [.star onLine], letters "; ", [.star onLine], letters "; ",
        [.star onLine], letters ") \x7b"].flatten)) :
    Denotes pattern forHead :=
  denotes_of_read? h

theorem denotes_of_mem_writtenPatterns : ∀ p ∈ writtenPatterns, Denotes p.1 p.2 := by
  simp only [writtenPatterns, List.forall_mem_cons, List.not_mem_nil, false_implies, implies_true,
    and_true]
  refine ⟨denotes_forHead ?_, denotes_conditionHead ?_, denotes_conditionHead ?_,
    denotes_conditionHead ?_, denotes_plainHead ?_, denotes_conditionHead ?_, denotes_plainHead ?_,
    ⟨braced, ?_, fun _ => rfl⟩, ⟨blankBraces, ?_, fun _ => rfl⟩⟩ <;> cbv

/-- Each pattern is read as written, and what it accepts is of one form: a keyword with a brace, a
keyword with a condition, a loop with its three parts, any text in braces, white space in braces. -/
theorem exists_read?_and_isMatch_iff (text : List Char) :
    (∀ p ∈ writtenPatterns,
        ∃ r, read? p.1.toList = some r ∧ isMatch r text = isMatch p.2 text) ∧
      (∀ keyword, isMatch (plainHead keyword) text = true ↔ text = (keyword ++ " \x7b").toList) ∧
      (∀ keyword, isMatch (conditionHead keyword) text = true ↔
        ∃ c, IsCondition c ∧ text = (keyword ++ " (").toList ++ (c ++ ") \x7b".toList)) ∧
      (isMatch forHead text = true ↔
        ∃ c, IsLoopControl c ∧ text = "for (".toList ++ (c ++ ") \x7b".toList)) ∧
      (isMatch braced text = true ↔
        2 ≤ text.length ∧ text.head? = some '\x7b' ∧ text.getLast? = some '\x7d') ∧
      (isMatch blankBraces text = true ↔
        ∃ inner, (∀ c ∈ inner, Text.isBlank c = true) ∧
          text = '\x7b' :: (inner ++ ['\x7d'])) := by
  refine ⟨fun p hp => ?_, fun _ => isMatch_plainHead_iff, fun _ => isMatch_conditionHead_iff,
    isMatch_forHead_iff, isMatch_braced_iff.trans inBraces_iff, isMatch_blankBraces_iff⟩
  obtain ⟨r, hr, hmatch⟩ := denotes_of_mem_writtenPatterns p hp
  exact ⟨r, hr, hmatch text⟩

/-- A condition may itself look like the end of a head. -/
theorem isMatch_of_condition_with_brace :
    ∃ p ∈ writtenPatterns, p.2 = conditionHead "if" ∧ IsCondition "a) \x7b".toList ∧
      ∃ r, read? p.1.toList = some r ∧ isMatch r "if (a) \x7b) \x7b".toList = true := by
  have hcondition : IsCondition "a) \x7b".toList :=
    ⟨by decide, ⟨'a', rfl, by decide +kernel⟩, ⟨'\x7b', rfl, by decide +kernel⟩⟩
  obtain ⟨hread, -, hhead, -⟩ := exists_read?_and_isMatch_iff "if (a) \x7b) \x7b".toList
  have hmem : (_, conditionHead "if") ∈ writtenPatterns :=
    List.mem_cons_of_mem _ List.mem_cons_self
  obtain ⟨r, hr, hmatch⟩ := hread _ hmem
  exact ⟨_, hmem, rfl, hcondition, r, hr,
    hmatch.trans ((hhead "if").mpr ⟨_, hcondition, by decide⟩)⟩

end CodeStyle.Layout
