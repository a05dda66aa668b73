import CodeStyle.Proofs.Rule.Check
import CodeStyle.Proofs.Rule.Overlay
import CodeStyle.Proofs.Rule.Visit
import CodeStyle.Rule.Registry
import CodeStyle.Proofs.Text.Rows

/-!
# Lines behind spaces

The rule about the indentation of C reports, with its own number, every line that holds more than
spaces and starts behind a number of them that is no multiple of the width, unless it goes on with a
star. A line that starts with a tab has no spaces in front and so needs no exception. The one for the
star is meant for comments, but it is made by the text alone: a statement that starts with a star is
passed over like the line of a comment.
-/
namespace CodeStyle

namespace Indentation

/-- Whether a line goes on with a character behind a number of spaces. -/
def GoesOnWith (line : List Char) (n : Nat) (c : Char) : Prop :=
  c ≠ ' ' ∧ ∃ rest, line = List.replicate n ' ' ++ c :: rest

variable {line : List Char} {width n m : Nat} {c d : Char}

theorem takeWhile_spaces (h : c ≠ ' ') (rest : List Char) :
    (List.replicate n ' ' ++ c :: rest).takeWhile (· == ' ') = List.replicate n ' ' := by
  have hspaces : ∀ x ∈ List.replicate n ' ', (x == ' ') = true := by simp
  rw [List.takeWhile_append_of_pos hspaces, List.takeWhile_cons_of_neg (by simpa using h),
    List.append_nil]

theorem dropWhile_spaces (h : c ≠ ' ') (rest : List Char) :
    (List.replicate n ' ' ++ c :: rest).dropWhile (· == ' ') = c :: rest := by
  have hspaces : ∀ x ∈ List.replicate n ' ', (x == ' ') = true := by simp
  rw [List.dropWhile_append_of_pos hspaces, List.dropWhile_cons_of_neg (by simpa using h)]

/-- A line holds nothing but spaces, or it goes on with a character behind some. -/
theorem eq_replicate_or_goesOnWith (line : List Char) :
    line = List.replicate line.length ' ' ∨ ∃ n c, GoesOnWith line n c := by
  induction line with
  | nil => exact .inl rfl
  | cons x line ih =>
    by_cases hx : x = ' '
    · subst hx
      obtain hblank | ⟨n, c, hc, rest, hline⟩ := ih
      · exact .inl (congrArg (' ' :: ·) hblank)
      · exact .inr ⟨n + 1, c, hc, rest, congrArg (' ' :: ·) hline⟩
    · exact .inr ⟨0, x, hx, line, rfl⟩

theorem GoesOnWith.unique (h : GoesOnWith line n c) (h' : GoesOnWith line m d) :
    n = m ∧ c = d := by
  obtain ⟨hc, rest, rfl⟩ := h
  obtain ⟨hd, rest', heq⟩ := h'
  have hspaces := congrArg (List.takeWhile (· == ' ')) heq
  have hbehind := congrArg (List.dropWhile (· == ' ')) heq
  rw [takeWhile_spaces hc, takeWhile_spaces hd] at hspaces
  rw [dropWhile_spaces hc, dropWhile_spaces hd] at hbehind
  exact ⟨by simpa using congrArg List.length hspaces, (List.cons.inj hbehind).1⟩

/-- Only a line that starts with a tab has one in front of everything else. -/
theorem GoesOnWith.head?_ne_tab (h : GoesOnWith line n c) (hn : ¬ width ∣ n) :
    line.head? ≠ some '\t' := by
  obtain ⟨-, rest, rfl⟩ := h
  cases n with
  | zero => exact absurd (Nat.dvd_zero width) hn
  | succ n => simp [List.replicate_succ]

/-- A line is out of place if it goes on with something other than a star. -/
theorem GoesOnWith.isAligned_eq_false_iff (h : GoesOnWith line n c) :
    isAligned width line = false ↔ ¬ width ∣ n ∧ c ≠ '*' := by
  have htab : ¬ width ∣ n → line.head? ≠ some '\t' := h.head?_ne_tab
  obtain ⟨hc, rest, rfl⟩ := h
  have hdepth : depth (List.replicate n ' ' ++ c :: rest) = n := by
    rw [depth, takeWhile_spaces hc, List.length_replicate]
  have hmod : width ∣ n ↔ n % width = 0 := Nat.dvd_iff_mod_eq_zero
  rw [isAligned, concerns, hdepth, dropWhile_spaces hc, hmod]
  rw [hmod] at htab
  simp only [Bool.or_eq_false_iff, Bool.not_eq_false', Bool.and_eq_true, bne_iff_ne,
    beq_eq_false_iff_ne]
  exact ⟨fun h => ⟨h.2, h.1.2⟩, fun h => ⟨⟨htab h.1, h.2⟩, h.1⟩⟩

theorem isAligned_eq_false_iff : isAligned width line = false ↔
    ∃ n c, GoesOnWith line n c ∧ ¬ width ∣ n ∧ c ≠ '*' := by
  constructor
  · intro h
    obtain hblank | ⟨n, c, hgoes⟩ := eq_replicate_or_goesOnWith line
    · have hconcerns : concerns line = false := by
        rw [concerns, hblank, List.dropWhile_replicate]
        simp
      rw [isAligned, hconcerns] at h
      contradiction
    · exact ⟨n, c, hgoes, hgoes.isAligned_eq_false_iff.mp h⟩
  · rintro ⟨n, c, hgoes, hplace⟩
    exact hgoes.isAligned_eq_false_iff.mpr hplace

/-- What is reported in a source are the lines that are out of place, each with its own number. -/
theorem mem_inspect_iff {s : Source} {v : Violation} : v ∈ inspect width s ↔ ∃ i line n c,
    s.lines[i]? = some line ∧ GoesOnWith line n c ∧ ¬ width ∣ n ∧ c ≠ '*' ∧
      v = ⟨s.path, i + 1, message s.path width (i + 1)⟩ := by
  rw [inspect, mem_misaligned_iff]
  simp only [isAligned_eq_false_iff, Nat.add_comm 1]
  constructor
  · rintro ⟨i, line, hline, ⟨n, c, hgoes, hn, hc⟩, hv⟩
    exact ⟨i, line, n, c, hline, hgoes, hn, hc, hv⟩
  · rintro ⟨i, line, n, c, hline, hgoes, hn, hc, hv⟩
    exact ⟨i, line, hline, ⟨n, c, hgoes, hn, hc⟩, hv⟩

/-- The lines that are reported are in order, none twice. -/
theorem pairwise_misaligned (path : String) (width number : Nat) (lines : List (List Char)) :
    (misaligned path width number lines).Pairwise fun v w => v.line < w.line := by
  induction lines generalizing number with
  | nil => exact .nil
  | cons line lines ih =>
    rw [misaligned]
    split
    · exact ih (number + 1)
    · refine .cons (fun w hw => ?_) (ih (number + 1))
      obtain ⟨i, -, -, -, rfl⟩ := mem_misaligned_iff.mp hw
      have hlt : number < number + 1 + i := by omega
      exact hlt

end Indentation

namespace Source

/-- Whether a line, counted from zero, begins inside a comment of the tree. -/
def BeginsInComment (s : Source) (i : Nat) : Prop :=
  ∃ head rest, s.text = head ++ rest ∧ Text.Ended head ∧ head.count '\n' = i ∧
    ∃ t, SyntaxTree.IsNodeOf s.tree t ∧ t.isComment = true ∧
      t.info.start < Text.byteLength head ∧ Text.byteLength head < t.info.stop

/-- Whether a line, counted from zero, goes on with a character behind a number of spaces that is no
multiple of a width, though it neither starts with a tab nor begins inside a comment. -/
def IsMisplaced (s : Source) (width i : Nat) (c : Char) : Prop :=
  ∃ line n, s.lines[i]? = some line ∧ Indentation.GoesOnWith line n c ∧ ¬ width ∣ n ∧
    line.head? ≠ some '\t' ∧ ¬ s.BeginsInComment i

end Source

namespace RuleEntry

open Indentation (GoesOnWith)

/-- A block may ask for any width. -/
theorem ofBlock_nativeIndentation (width : Nat) :
    Settings.ofBlock nativeIndentation (some (.mapping [(.string "indentation", .int width)])) =
      .ok ⟨true, .indenting "indentation" width⟩ :=
  Settings.ofBlock_number rfl (by decide) width

/-- For every width the rule reports the lines that start behind a number of spaces that is no
multiple of it, each once and in order, but none that goes on with a star. So it reports all of those
outside of comments exactly if none of them goes on with a star. -/
theorem check_nativeIndentation (width : Nat) (hwidth : 1 ≤ width) :
    Settings.ofBlock nativeIndentation (some (.mapping [(.string "indentation", .int width)])) =
      .ok ⟨true, .indenting "indentation" width⟩ ∧
    ∀ block enabled,
      Settings.ofBlock nativeIndentation block = .ok ⟨enabled, .indenting "indentation" width⟩ →
      ∃ rule, nativeIndentation.build block = .ok rule ∧
        ∀ disk path s, disk.source path = .ok s → s.parses = true →
          ∃ vs, rule.check disk path = .ok vs ∧ vs.Pairwise (fun v w => v.line < w.line) ∧
            (∀ v, v ∈ vs ↔ ∃ i line n c, s.lines[i]? = some line ∧ GoesOnWith line n c ∧
              ¬ width ∣ n ∧ c ≠ '*' ∧ v = ⟨path, i + 1, Indentation.message path width (i + 1)⟩) ∧
            ((∀ i c, s.IsMisplaced width i c → ∃ v ∈ vs, v.line = i + 1) ↔
              ∀ i c, s.IsMisplaced width i c → c ≠ '*') := by
  refine ⟨ofBlock_nativeIndentation width, fun block enabled hsettings => ?_⟩
  have hcheck : Criterion.check .native (.indenting "indentation" width) =
      .ok (.ofSource fun _ s => .ok (Indentation.inspect width s)) := by
    rw [Criterion.check, if_neg (by omega)]
  refine ⟨_, build_eq_ok_iff.mpr ⟨_, _, hsettings, hcheck, rfl⟩, fun disk path s hs hparses => ?_⟩
  obtain rfl : s.path = path := (Disk.find_of_source_eq_ok hs).1
  have hfound : Check.ofSource (fun _ s => .ok (Indentation.inspect width s)) disk s.path =
      .ok (Indentation.inspect width s) := Check.ofSource_eq hs hparses
  refine ⟨_, hfound, Indentation.pairwise_misaligned _ _ _ _, ?_⟩
  refine ⟨fun v => Indentation.mem_inspect_iff, ?_, ?_⟩
  · intro hall i c hplace
    obtain ⟨v, hv, hnumber⟩ := hall i c hplace
    obtain ⟨line, n, hline, hgoes, -⟩ := hplace
    obtain ⟨j, line', m, d, hline', hgoes', -, hd, rfl⟩ := Indentation.mem_inspect_iff.mp hv
    obtain rfl : j = i := Nat.succ.inj hnumber
    obtain rfl := Option.some.inj (hline.symm.trans hline')
    exact (hgoes.unique hgoes').2 ▸ hd
  · intro hstars i c hplace
    have hc := hstars i c hplace
    obtain ⟨line, n, hline, hgoes, hn, -⟩ := hplace
    exact ⟨_, Indentation.mem_inspect_iff.mpr ⟨i, line, n, c, hline, hgoes, hn, hc, rfl⟩, rfl⟩

/-- A function with a statement that starts with a star and one that does not, both behind two
spaces. -/
def twoStatements : Source where
  path := "a.c"
  text := "void f(int *p) \x7b\n  *p = 1;\n  return;\n\x7d\n".toList
  tree :=
    .named "translation_unit" none 0 39 [
      .named "function_definition" none 0 38 [
        .named "primitive_type" (some "type") 0 4 [],
        .named "function_declarator" (some "declarator") 5 14 [
          .named "identifier" (some "declarator") 5 6 [],
          .named "parameter_list" (some "parameters") 6 14 [
            .token "(" 6,
            .named "parameter_declaration" none 7 13 [
              .named "primitive_type" (some "type") 7 10 [],
              .named "pointer_declarator" (some "declarator") 11 13 [
                .token "*" 11,
                .named "identifier" (some "declarator") 12 13 []]],
            .token ")" 13]],
        .named "compound_statement" (some "body") 15 38 [
          .token "\x7b" 15,
          .named "expression_statement" none 19 26 [
            .named "assignment_expression" none 19 25 [
              .named "pointer_expression" (some "left") 19 21 [
                .node { kind := "*", field := some "operator", isNamed := false,
                        start := 19, stop := 20 } [],
                .named "identifier" (some "argument") 20 21 []],
              .node { kind := "=", field := some "operator", isNamed := false,
                      start := 22, stop := 23 } [],
              .named "number_literal" (some "right") 24 25 []],
            .token ";" 25],
          .named "return_statement" none 29 36 [
            .token "return" 29,
            .token ";" 35],
          .token "\x7d" 37]]]

def twoStatementsDisk : Disk := ⟨[.file "a.c" (.text twoStatements.text twoStatements.tree)]⟩

theorem source_twoStatementsDisk : twoStatementsDisk.source "a.c" = .ok twoStatements :=
  Disk.source_eq_ok_of_singleton (by decide) (by decide) _ _

/-- The statement that starts with no star is reported in the third line. -/
theorem check_twoStatements_of_return : 1 ≤ 4 ∧ ∃ rule,
    nativeIndentation.build none = .ok rule ∧ ∃ vs, rule.check twoStatementsDisk "a.c" = .ok vs ∧
      ∃ v ∈ vs, v.line = 3 ∧ v.message = "Not 4 spaces of indentation used at 'a.c' line 3." := by
  have hwidth : 1 ≤ 4 := by decide
  obtain ⟨-, hbuilt⟩ := check_nativeIndentation 4 hwidth
  obtain ⟨rule, hbuild, hcheck⟩ := hbuilt none true rfl
  obtain ⟨vs, hvs, -, hmem, -⟩ := hcheck _ _ _ source_twoStatementsDisk rfl
  have hgoes : GoesOnWith "  return;".toList 2 'r' := ⟨by decide, "eturn;".toList, rfl⟩
  exact ⟨hwidth, rule, hbuild, vs, hvs, _,
    (hmem _).mpr ⟨2, _, 2, 'r', rfl, hgoes, by decide, by decide, rfl⟩, rfl, by decide⟩

/-- The tree of the function has no comment. -/
theorem isComment_eq_false_of_isNodeOf_twoStatements :
    ∀ t, SyntaxTree.IsNodeOf twoStatements.tree t → t.isComment = false := by
  simp [twoStatements, SyntaxTree.forall_isNodeOf_node_iff, SyntaxTree.named, SyntaxTree.token,
    SyntaxTree.isComment, SyntaxTree.commentKinds, SyntaxTree.kind]

/-- The statement that starts with a star is not reported, though it stands in no comment. -/
theorem check_twoStatements_of_star : nativeIndentation ∈ Registry.all ∧
    twoStatements.parses = true ∧ twoStatements.tree.fits twoStatements.text = true ∧
    twoStatements.IsMisplaced 4 1 '*' ∧ ∃ rule, nativeIndentation.build none = .ok rule ∧
      ∃ vs, rule.check twoStatementsDisk "a.c" = .ok vs ∧ ∀ v ∈ vs, v.line ≠ 2 := by
  have hregistered : nativeIndentation ∈ Registry.all := by
    simp [Registry.all, Registry.nativeRules, nativeIndentation]
  have hgoes : GoesOnWith "  *p = 1;".toList 2 '*' := ⟨by decide, "p = 1;".toList, rfl⟩
  have houtside : ¬ twoStatements.BeginsInComment 1 := by
    rintro ⟨-, -, -, -, -, t, ht, hcomment, -⟩
    rw [isComment_eq_false_of_isNodeOf_twoStatements t ht] at hcomment
    contradiction
  have hfound : Check.ofSource (fun _ s => .ok (Indentation.inspect 4 s)) twoStatementsDisk "a.c" =
      .ok (Indentation.inspect 4 twoStatements) := Check.ofSource_eq source_twoStatementsDisk rfl
  refine ⟨hregistered, rfl, rfl, ⟨_, 2, rfl, hgoes, by decide, by decide, houtside⟩, _, rfl, _,
    hfound, fun v hv hline => ?_⟩
  obtain ⟨i, line, n, c, hi, hother, -, hc, rfl⟩ := Indentation.mem_inspect_iff.mp hv
  obtain rfl : i = 1 := Nat.succ.inj hline
  obtain rfl := Option.some.inj hi
  exact hc (hgoes.unique hother).2.symm

end RuleEntry

end CodeStyle
