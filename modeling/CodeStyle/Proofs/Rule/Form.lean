import CodeStyle.Proofs.Regex.Language
import CodeStyle.Proofs.Rule.Head

/-!
# Forms of heads and bodies

Which texts match the patterns of layouts. A head is a keyword, what stands in parentheses behind a
space, and a brace behind another: for a condition a text on one line without white space at its
ends, for a loop with three parts such a text with two separators in it. A body matches its pattern
if it starts and ends with a brace, whatever stands in between.
-/
namespace CodeStyle.Layout

open Regex

variable {text : List Char} {keyword : String}

section Words

theorem describes_chars (word : List Char) :
    Describes (.seqs (word.map fun c => .char (.single c))) fun part => part = word := by
  induction word with
  | nil => exact describes_empty
  | cons c word ih =>
    refine (describes_char.seqs_cons ih).congr fun part => ?_
    simp only [contains_single_iff]
    constructor
    · rintro ⟨_, _, rfl, ⟨d, rfl, rfl⟩, rfl⟩
      rfl
    · rintro rfl
      exact ⟨[c], word, rfl, ⟨c, rfl, rfl⟩, rfl⟩

/-- A fixed text matches nothing but itself. -/
theorem describes_fixed (word : String) : Describes (fixed word) fun part => part = word.toList :=
  describes_chars word.toList

theorem describes_onLine : Describes onLine fun part => ∃ c, part = [c] ∧ c ≠ '\n' :=
  describes_char.congr fun part => by simp [CharSet.contains, ← contains_single_iff]

/-- Any text on one line. -/
theorem describes_star_onLine : Describes (.star onLine) fun part => '\n' ∉ part :=
  describes_onLine.star.congr fun _ => List.forall_mem_ne'

theorem describes_visible :
    Describes visible fun part => ∃ c, part = [c] ∧ Text.isBlank c = false :=
  describes_char.congr fun part => by simp [CharSet.contains, CharSet.space, Text.isBlank]

/-- A keyword and a brace is the only text of its form. -/
theorem isMatch_plainHead_iff :
    isMatch (plainHead keyword) text = true ↔ text = (keyword ++ " \x7b").toList :=
  @Describes.isMatch_iff [_] _ (describes_fixed _) text

/-- A pattern between two fixed texts is that of the texts that stand between them. -/
theorem isMatch_between_iff {opening closing : String} {parts : List Regex}
    {p : List Char → Prop} (hparts : Describes (.seqs parts) p) :
    isMatch (whole ([fixed opening] ++ (parts ++ [fixed closing]))) text = true ↔
      ∃ c, p c ∧ text = opening.toList ++ (c ++ closing.toList) := by
  have hclosing : Describes (.seqs (parts ++ [fixed closing])) _ :=
    hparts.seqs_append (describes_fixed closing)
  have hopening := (describes_fixed opening).seqs_cons hclosing
  rw [whole, List.singleton_append, hopening.isMatch_iff]
  constructor
  · rintro ⟨_, _, rfl, rfl, c, _, rfl, hc, rfl⟩
    exact ⟨c, hc, rfl⟩
  · rintro ⟨c, hc, rfl⟩
    exact ⟨_, _, rfl, rfl, c, _, rfl, hc, rfl⟩

end Words

section Bodies

/-- A text in braces. -/
def InBraces (text : List Char) : Prop := ∃ inner, text = '\x7b' :: (inner ++ ['\x7d'])

/-- Any character can stand between braces, a line feed as well as others. -/
theorem describes_between :
    Describes (.alt onLine (fixed "\n")) fun part => ∃ c, part = [c] ∧ True := by
  refine (describes_onLine.alt (describes_fixed "\n")).congr fun part => ?_
  constructor
  · rintro (⟨c, rfl, -⟩ | rfl)
    · exact ⟨c, rfl, trivial⟩
    · exact ⟨'\n', rfl, trivial⟩
  · rintro ⟨c, rfl, -⟩
    by_cases hc : c = '\n'
    · exact .inr (congrArg (fun d => [d]) hc)
    · exact .inl ⟨c, rfl, hc⟩

/-- The pattern for bodies is that of all texts in braces, over any number of lines. -/
theorem isMatch_braced_iff : isMatch braced text = true ↔ InBraces text := by
  refine (@isMatch_between_iff text "\x7b" "\x7d" [_] _ describes_between.star).trans ?_
  simp only [implies_true, true_and, InBraces]
  rfl

theorem inBraces_iff : InBraces text ↔
    2 ≤ text.length ∧ text.head? = some '\x7b' ∧ text.getLast? = some '\x7d' := by
  constructor
  · rintro ⟨inner, rfl⟩
    refine ⟨by simp, rfl, ?_⟩
    rw [← List.cons_append, List.getLast?_concat]
  · rintro ⟨hlength, hfirst, hlast⟩
    obtain ⟨rest, rfl⟩ := List.head?_eq_some_iff.mp hfirst
    obtain ⟨front, hfront⟩ := List.getLast?_eq_some_iff.mp hlast
    cases front with
    | nil => simp [hfront] at hlength
    | cons c inner =>
      obtain ⟨-, rfl⟩ := List.cons.inj hfront
      exact ⟨inner, rfl⟩

/-- The pattern for blocks that hold nothing is that of white space in braces. -/
theorem isMatch_blankBraces_iff : isMatch blankBraces text = true ↔
    ∃ inner, (∀ c ∈ inner, Text.isBlank c = true) ∧ text = '\x7b' :: (inner ++ ['\x7d']) :=
  @isMatch_between_iff text "\x7b" "\x7d" [_] _ describes_char.star

end Bodies

section Heads

/-- What may stand between the parentheses of a head: a text on one line that neither starts nor
ends in white space. -/
structure IsCondition (c : List Char) : Prop where
  oneLine : '\n' ∉ c
  first : ∃ x, c.head? = some x ∧ Text.isBlank x = false
  last : ∃ x, c.getLast? = some x ∧ Text.isBlank x = false

theorem describes_condition :
    Describes (.seqs [visible, .opt (.seq (.star onLine) visible)]) IsCondition := by
  have hmore : Describes (.seqs [.opt (.seq (.star onLine) visible)]) _ :=
    (describes_star_onLine.seq describes_visible).opt
  refine (describes_visible.seqs_cons hmore).congr fun c => ?_
  constructor
  · rintro ⟨_, _, rfl, ⟨x, rfl, hx⟩, rfl | ⟨middle, _, rfl, hmiddle, y, rfl, hy⟩⟩
    · exact ⟨by simpa using (Text.ne_lineFeed_of_isBlank hx).symm, ⟨x, rfl, hx⟩, x, rfl, hx⟩
    · refine ⟨?_, ⟨x, rfl, hx⟩, y, List.getLast?_concat (l := [x] ++ middle), hy⟩
      simp [(Text.ne_lineFeed_of_isBlank hx).symm, (Text.ne_lineFeed_of_isBlank hy).symm, hmiddle]
  · rintro ⟨honeLine, ⟨x, hfirst, hx⟩, y, hlast, hy⟩
    obtain ⟨rest, rfl⟩ := List.head?_eq_some_iff.mp hfirst
    refine ⟨[x], rest, rfl, ⟨x, rfl, hx⟩, ?_⟩
    -- The first character is the last one as well if nothing follows it.
    rcases List.eq_nil_or_concat' rest with rfl | ⟨middle, z, rfl⟩
    · exact .inl rfl
    · rw [← List.cons_append, List.getLast?_concat, Option.some.injEq] at hlast
      subst hlast
      exact .inr ⟨middle, [z], rfl, fun hmem => honeLine (by simp [hmem]), z, rfl, hy⟩

/-- The head with a condition is a keyword, the condition in parentheses behind a space, and a brace
behind another. -/
theorem isMatch_conditionHead_iff : isMatch (conditionHead keyword) text = true ↔
    ∃ c, IsCondition c ∧ text = (keyword ++ " (").toList ++ (c ++ ") \x7b".toList) :=
  isMatch_between_iff describes_condition

/-- What may stand between the parentheses of a loop with three parts: a text on one line that does
not start in white space, with two separators behind its first character. -/
structure IsLoopControl (c : List Char) : Prop where
  oneLine : '\n' ∉ c
  first : ∃ x, c.head? = some x ∧ Text.isBlank x = false
  separated : ∃ start condition update : List Char,
    c.tail = start ++ ("; ".toList ++ (condition ++ ("; ".toList ++ update)))

theorem describes_loopControl : Describes (.seqs [visible, .star onLine, fixed "; ", .star onLine,
    fixed "; ", .star onLine]) IsLoopControl := by
  have hlast : Describes (.seqs [.star onLine]) _ := describes_star_onLine
  have hsecond := describes_star_onLine.seqs_cons ((describes_fixed "; ").seqs_cons hlast)
  have hfirst := describes_star_onLine.seqs_cons ((describes_fixed "; ").seqs_cons hsecond)
  refine (describes_visible.seqs_cons hfirst).congr fun c => ?_
  constructor
  · rintro ⟨_, _, rfl, ⟨x, rfl, hx⟩, start, _, rfl, hstart, _, _, rfl, rfl, condition, _, rfl,
      hcondition, _, update, rfl, rfl, hupdate⟩
    refine ⟨?_, ⟨x, rfl, hx⟩, start, condition, update, rfl⟩
    simp [(Text.ne_lineFeed_of_isBlank hx).symm, hstart, hcondition, hupdate]
  · rintro ⟨honeLine, ⟨x, hhead, hx⟩, start, condition, update, htail⟩
    obtain ⟨rest, rfl⟩ := List.head?_eq_some_iff.mp hhead
    obtain rfl : rest = _ := htail
    simp only [List.mem_cons, List.mem_append, not_or] at honeLine
    exact ⟨[x], _, rfl, ⟨x, rfl, hx⟩, start, _, rfl, honeLine.2.1, _, _, rfl, rfl, condition, _, rfl,
      honeLine.2.2.2.1, _, update, rfl, rfl, honeLine.2.2.2.2.2⟩

/-- The head of a loop with three parts is the keyword, the parts in parentheses behind a space, and
a brace behind another. -/
theorem isMatch_forHead_iff : isMatch forHead text = true ↔
    ∃ c, IsLoopControl c ∧ text = "for (".toList ++ (c ++ ") \x7b".toList) :=
  isMatch_between_iff describes_loopControl

theorem isSuffix_of_isMatch_conditionHead (h : isMatch (conditionHead keyword) text = true) :
    ") \x7b".toList <:+ text := by
  obtain ⟨c, -, rfl⟩ := isMatch_conditionHead_iff.mp h
  exact (List.suffix_append c _).trans (List.suffix_append _ _)

theorem isSuffix_of_isMatch_forHead (h : isMatch forHead text = true) :
    ") \x7b".toList <:+ text := by
  obtain ⟨c, -, rfl⟩ := isMatch_forHead_iff.mp h
  exact (List.suffix_append c _).trans (List.suffix_append _ _)

end Heads

end CodeStyle.Layout
