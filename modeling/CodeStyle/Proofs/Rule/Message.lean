import CodeStyle.Proofs.Rule.Check
import CodeStyle.Proofs.Rule.Visit
import CodeStyle.Proofs.Text.OneLine
import CodeStyle.Report.Human

/-!
# Messages on one line

A message says what is wrong in fixed words, and may quote the source: a name, or pieces of a text
that does not parse. It is on one line if what it quotes is.
-/
namespace CodeStyle

theorem isOneLine_toString (s : String) : IsOneLine (toString s) ↔ IsOneLine s := Iff.rfl

namespace NameSubject

variable {subject : NameSubject} {name pattern : String} {p : NamePattern} {s : Source}

theorem isOneLine_message :
    IsOneLine (subject.message name pattern) ↔ IsOneLine name ∧ IsOneLine pattern := by
  have hwords : ∀ word ∈ ["Class name", "Constant name", "Class variable", "Method name",
      "Variable name", "Variable", " '", "' does not follow Pattern: ", "Package ",
      " doesn't match the pattern ", "Function ", " does not match pattern "], IsOneLine word := by
    simp [IsOneLine]
  simp only [List.forall_mem_cons] at hwords
  delta message
  cases subject <;> simp only [isOneLine_append, hwords, true_and, and_true]

/-- The violations of a walk are in the file, with messages on one line if the names that are not
accepted are. -/
theorem forall_isOneLine_iff {vs : List Violation} (hpattern : IsOneLine p.text)
    (h : s.tree.walk (fun t => .ok (subject.visit p s t)) = (.ok vs : Except CheckError _)) :
    (∀ v ∈ vs, v.file = s.path) ∧ ((∀ v ∈ vs, IsOneLine v.message) ↔
      ∀ t ∈ s.tree.preorder, ∀ u ∈ subject.uses t,
        p.accepts (s.stringOf u.name) = false → IsOneLine (s.stringOf u.name)) := by
  have hmem := SyntaxTree.mem_of_walk_eq_ok_iff h
  simp only [Except.ok.injEq, exists_eq_left', mem_visit_iff] at hmem
  refine ⟨fun v hv => ?_, ?_⟩
  · obtain ⟨t, -, u, -, -, rfl⟩ := (hmem v).mp hv
    rfl
  · simp only [hmem]
    constructor
    · intro hall t ht u hu haccepts
      exact (isOneLine_message.mp (hall _ ⟨t, ht, u, hu, haccepts, rfl⟩)).1
    · rintro hall v ⟨t, ht, u, hu, haccepts, rfl⟩
      exact isOneLine_message.mpr ⟨hall t ht u hu haccepts, hpattern⟩

end NameSubject

namespace NodeQuantity

variable {q : NodeQuantity} {name : String} {count max : Nat} {s : Source}

theorem isOneLine_message : IsOneLine (q.message name count max) ↔ IsOneLine name := by
  delta message
  cases q <;>
    simp only [isOneLine_append, isOneLine_toString, isOneLine_toString_nat, and_true] <;>
    simp [IsOneLine]

/-- The violations of a walk are in the file, with messages on one line if the names of what has a
count above the maximum are. -/
theorem forall_isOneLine_iff {vs : List Violation}
    (h : s.tree.walk (fun t => .ok (q.visit max s t)) = (.ok vs : Except CheckError _)) :
    (∀ v ∈ vs, v.file = s.path) ∧ ((∀ v ∈ vs, IsOneLine v.message) ↔
      ∀ t ∈ s.tree.preorder, q.kinds.contains t.kind = true →
        (∃ n, q.count? s t = some n ∧ max < n) → IsOneLine (q.nameOf s t)) := by
  have hmem := SyntaxTree.mem_of_walk_eq_ok_iff h
  simp only [Except.ok.injEq, exists_eq_left', mem_visit_iff] at hmem
  refine ⟨fun v hv => ?_, ?_⟩
  · obtain ⟨t, -, -, n, -, -, rfl⟩ := (hmem v).mp hv
    rfl
  · simp only [hmem]
    constructor
    · rintro hall t ht hkind ⟨n, hn, hmax⟩
      exact isOneLine_message.mp (hall _ ⟨t, ht, hkind, n, hn, hmax, rfl⟩)
    · rintro hall v ⟨t, ht, hkind, n, hn, hmax, rfl⟩
      exact isOneLine_message.mpr (hall t ht hkind ⟨n, hn, hmax⟩)

end NodeQuantity

namespace TextQuantity

variable {path : String}

theorem isOneLine_tooManyLines (h : IsOneLine path) (count max : Nat) :
    IsOneLine (tooManyLines path count max) := by
  delta tooManyLines
  simp only [isOneLine_append, isOneLine_toString, isOneLine_toString_nat, h, and_true]
  simp [IsOneLine]

theorem isOneLine_lineTooLong (h : IsOneLine path) (line length max : Nat) :
    IsOneLine (lineTooLong path line length max) := by
  delta lineTooLong
  simp only [isOneLine_append, isOneLine_toString, isOneLine_toString_nat, h, and_true]
  simp [IsOneLine]

/-- The violations by long lines are in the file, and their messages quote nothing but its path. -/
theorem of_mem_longLines (h : IsOneLine path) {max number : Nat} {lines : List (List Char)}
    {v : Violation} (hv : v ∈ longLines path max number lines) :
    v.file = path ∧ IsOneLine v.message := by
  obtain ⟨i, line, -, -, rfl⟩ := mem_longLines_iff.mp hv
  exact ⟨rfl, isOneLine_lineTooLong h _ _ _⟩

theorem of_mem_inspect {q : TextQuantity} {max : Nat} {s : Source} (h : IsOneLine s.path)
    {v : Violation} (hv : v ∈ q.inspect max s) : v.file = s.path ∧ IsOneLine v.message := by
  cases q with
  | lines =>
    simp only [inspect] at hv
    split at hv
    · contradiction
    · obtain rfl := List.mem_singleton.mp hv
      exact ⟨rfl, isOneLine_tooManyLines h _ _⟩
  | lineLength => exact of_mem_longLines h hv

end TextQuantity

theorem Indentation.isOneLine_message {path : String} (h : IsOneLine path) (width line : Nat) :
    IsOneLine (message path width line) := by
  delta message
  simp only [isOneLine_append, isOneLine_toString, isOneLine_toString_nat, h, and_true]
  simp [IsOneLine]

/-- The violations by misaligned lines are in the file, and their messages quote nothing but its
path. -/
theorem Indentation.of_mem_misaligned {path : String} (h : IsOneLine path) {width number : Nat}
    {lines : List (List Char)} {v : Violation} (hv : v ∈ misaligned path width number lines) :
    v.file = path ∧ IsOneLine v.message := by
  obtain ⟨i, line, -, -, rfl⟩ := mem_misaligned_iff.mp hv
  exact ⟨rfl, isOneLine_message h _ _⟩

theorem Layout.isOneLine_message (l : Layout) : IsOneLine l.message := by
  cases l <;> simp [message, IsOneLine]

theorem Layout.of_mem_visit {l : Layout} {language : Language} {quote : Quote} {s : Source}
    {t : SyntaxTree} {vs : List Violation} (h : l.visit language quote s t = .ok vs) {v : Violation}
    (hv : v ∈ vs) : v.file = s.path ∧ IsOneLine v.message := by
  obtain ⟨-, -, rfl⟩ := (mem_visit_iff h).mp hv
  exact ⟨rfl, l.isOneLine_message⟩

theorem NamePattern.text_of_read_eq_ok {pattern : String} {p : NamePattern}
    (h : NamePattern.read pattern = .ok p) : p.text = pattern := by
  unfold NamePattern.read at h
  split at h
  · split at h
    · rw [← Except.ok.inj h]
    · contradiction
  · contradiction

theorem Check.isOneLine_unparsed {problems : String} :
    IsOneLine (unparsed problems) ↔ IsOneLine problems := by
  have hword : IsOneLine "Failed to parse file: " := by simp [IsOneLine]
  delta unparsed
  simp only [isOneLine_append, hword, true_and]

namespace Source

variable {s : Source} {t : SyntaxTree}

/-- The text that the wording of a problem quotes. -/
def problemQuote (s : Source) (t : SyntaxTree) : String :=
  if t.info.isMissing then t.kind else String.ofList (Text.trim ((s.textOf t).take 20))

theorem isOneLine_problemText : IsOneLine (s.problemText t) ↔ IsOneLine (s.problemQuote t) := by
  have hwords : ∀ word ∈ ["line ", ", col ", ": ", "missing `", "unexpected `", "`"],
      IsOneLine word := by
    simp [IsOneLine]
  simp only [List.forall_mem_cons] at hwords
  delta problemText problemQuote
  cases t.info.isMissing <;>
    simp only [Bool.false_eq_true, if_false, if_true, isOneLine_append, isOneLine_toString,
      isOneLine_toString_nat, hwords, true_and, and_true]

/-- The problems of a source are on one line if the texts are that they quote. -/
theorem isOneLine_problemLine : IsOneLine s.problemLine ↔
    ∀ t ∈ SyntaxTree.collect [] s.tree, IsOneLine (s.problemQuote t) := by
  have hwords : ∀ word ∈ ["[", ", ", "]"], IsOneLine word := by decide
  simp only [List.forall_mem_cons] at hwords
  rw [problemLine, isOneLine_append, isOneLine_append, isOneLine_intercalate hwords.2.1]
  simp only [hwords, true_and, and_true, problemTexts, List.forall_mem_map, isOneLine_problemText]

end Source

namespace Criterion

/-- Whether the pattern of a criterion, if it has one, is on one line. -/
def HasOneLinePattern : Criterion → Prop
  | naming _ _ pattern => IsOneLine pattern
  | _ => True

/-- Whether a violation of a criterion in a source that parses quotes a text: a name that the pattern
does not accept, or the name of what has a count above the maximum. -/
def Quotes (c : Criterion) (s : Source) (text : String) : Prop :=
  match c with
  | naming subject _ pattern => ∃ p, NamePattern.read pattern = .ok p ∧
      ∃ t ∈ s.tree.preorder, ∃ u ∈ subject.uses t, s.stringOf u.name = text ∧ p.accepts text = false
  | counting q _ max => ∃ t ∈ s.tree.preorder, q.kinds.contains t.kind = true ∧
      (∃ n, q.count? s t = some n ∧ max < n) ∧ q.nameOf s t = text
  | _ => False

/-- Whether a violation of a criterion in a file quotes a text. In a text that does not parse this is
the text of a problem. -/
def QuotesIn (c : Criterion) (disk : Disk) (path text : String) : Prop :=
  ∃ s, disk.source path = .ok s ∧
    if s.parses then c.Quotes s text
    else ∃ t ∈ SyntaxTree.collect [] s.tree, s.problemQuote t = text

variable {c : Criterion} {language : Language} {check : Check} {disk : Disk} {path : String}
  {s : Source} {vs : List Violation}

/-- What a criterion finds in a source that parses is in its file. A message is on one line if what
it quotes is. -/
theorem forall_isOneLine_of_parses (hcheck : c.check language = .ok check)
    (hpattern : c.HasOneLinePattern) (hpath : IsOneLine path) (hs : disk.source path = .ok s)
    (hparses : s.parses = true) (hvs : check disk path = .ok vs) :
    (∀ v ∈ vs, v.file = path) ∧
      ((∀ v ∈ vs, IsOneLine v.message) ↔ ∀ text, c.Quotes s text → IsOneLine text) := by
  obtain rfl : s.path = path := (Disk.find_of_source_eq_ok hs).1
  cases c with
  | naming subject key pattern =>
    obtain ⟨p, hp, rfl⟩ := Except.map_eq_ok_iff.mp hcheck
    rw [Check.ofSource_eq hs hparses] at hvs
    have hpatternText : IsOneLine p.text := by
      rw [NamePattern.text_of_read_eq_ok hp]
      exact hpattern
    obtain ⟨hfile, hmessages⟩ := NameSubject.forall_isOneLine_iff hpatternText hvs
    refine ⟨hfile, hmessages.trans ?_⟩
    simp only [Quotes, hp, Except.ok.injEq, exists_eq_left']
    constructor
    · rintro hall text ⟨t, ht, u, hu, rfl, haccepts⟩
      exact hall t ht u hu haccepts
    · intro hall t ht u hu haccepts
      exact hall _ ⟨t, ht, u, hu, rfl, haccepts⟩
  | counting q key max =>
    rw [← Except.ok.inj hcheck, Check.ofSource_eq hs hparses] at hvs
    obtain ⟨hfile, hmessages⟩ := NodeQuantity.forall_isOneLine_iff hvs
    refine ⟨hfile, hmessages.trans ?_⟩
    constructor
    · rintro hall text ⟨t, ht, hkind, hcount, rfl⟩
      exact hall t ht hkind hcount
    · intro hall t ht hkind hcount
      exact hall _ ⟨t, ht, hkind, hcount, rfl⟩
  | measuring q key max =>
    rw [← Except.ok.inj hcheck, Check.ofSource_eq hs hparses] at hvs
    obtain rfl := Except.ok.inj hvs
    have hall (v : Violation) (hv : v ∈ q.inspect max s) := TextQuantity.of_mem_inspect hpath hv
    exact ⟨fun v hv => (hall v hv).1, fun _ _ => False.elim, fun _ v hv => (hall v hv).2⟩
  | indenting key width =>
    rw [Criterion.check] at hcheck
    split at hcheck
    · contradiction
    · rw [← Except.ok.inj hcheck, Check.ofSource_eq hs hparses] at hvs
      obtain rfl := Except.ok.inj hvs
      have hall (v : Violation) (hv : v ∈ Indentation.inspect width s) :=
        Indentation.of_mem_misaligned hpath hv
      exact ⟨fun v hv => (hall v hv).1, fun _ _ => False.elim, fun _ v hv => (hall v hv).2⟩
  | laying l =>
    rw [check_laying_eq hcheck hs hparses] at hvs
    have hall (v : Violation) (hv : v ∈ vs) : v.file = s.path ∧ IsOneLine v.message := by
      obtain ⟨t, -, more, hmore, hv⟩ := (SyntaxTree.mem_of_walk_eq_ok_iff hvs v).mp hv
      exact Layout.of_mem_visit hmore hv
    exact ⟨fun v hv => (hall v hv).1, fun _ _ => False.elim, fun _ v hv => (hall v hv).2⟩

/-- What a criterion finds in any file that can be read. -/
theorem forall_isOneLine_iff (hcheck : c.check language = .ok check)
    (hpattern : c.HasOneLinePattern) (hpath : IsOneLine path) (hvs : check disk path = .ok vs) :
    (∀ v ∈ vs, v.file = path) ∧
      ((∀ v ∈ vs, IsOneLine v.message) ↔ ∀ text, c.QuotesIn disk path text → IsOneLine text) := by
  cases hs : disk.source path with
  | error fault =>
    obtain ⟨inspect, rfl⟩ := exists_ofSource_of_check_eq_ok hcheck
    have hquotes (text : String) : ¬ c.QuotesIn disk path text := by simp [QuotesIn, hs]
    simp only [Check.ofSource, hs] at hvs
    cases fault with
    | notText =>
      obtain rfl := Except.ok.inj hvs
      have hmessage : IsOneLine (Check.unparsed ("[" ++ ReadFault.notText.message ++ "]")) :=
        Check.isOneLine_unparsed.mpr (by simp [ReadFault.message, IsOneLine])
      simp [Violation.ofFile, hmessage, hquotes]
    | _ => contradiction
  | ok s =>
    cases hparses : s.parses with
    | true =>
      have hparsed := forall_isOneLine_of_parses hcheck hpattern hpath hs hparses hvs
      simpa [QuotesIn, hs, hparses] using hparsed
    | false =>
      obtain ⟨inspect, rfl⟩ := exists_ofSource_of_check_eq_ok hcheck
      simp only [Check.ofSource, hs, hparses, Bool.false_eq_true, if_false] at hvs
      obtain rfl := Except.ok.inj hvs
      have hmessage : IsOneLine (Check.unparsed s.problemLine) ↔
          ∀ t ∈ SyntaxTree.collect [] s.tree, IsOneLine (s.problemQuote t) :=
        Check.isOneLine_unparsed.trans Source.isOneLine_problemLine
      simp [Violation.ofFile, QuotesIn, hs, hparses, hmessage]

end Criterion

/-- A violation is printed as one line if its message is on one line. -/
theorem isLine_violationLine {v : Violation} (h : IsOneLine v.file) :
    IsLine (Report.violationLine v) ↔ IsOneLine v.message := by
  have hwords : ∀ word ∈ ["  ", " at ", ":"], IsOneLine word := by decide
  simp only [List.forall_mem_cons] at hwords
  rw [Report.violationLine, isLine_append_lineFeed, Violation.text, Violation.location]
  simp only [isOneLine_append, isOneLine_toString_nat, hwords, h, true_and, and_true]

/-- A rule with a pattern on one line, if it has one, prints the violations in a file with a path on
one line as one line each, unless it quotes a text that is not on one line. -/
theorem RuleEntry.isLine_violationLine_iff {e : RuleEntry} {block : Option Yaml}
    {settings : Settings} {rule : Rule} {disk : Disk} {path : String} {vs : List Violation}
    (hsettings : Settings.ofBlock e block = .ok settings) (hbuild : e.build block = .ok rule)
    (hpattern : settings.criterion.HasOneLinePattern) (hpath : IsOneLine path)
    (hvs : rule.check disk path = .ok vs) :
    (∀ v ∈ vs, v.file = path ∧
      (IsLine (Report.violationLine v) ↔ IsOneLine v.message)) ∧
    ((∀ v ∈ vs, IsOneLine v.message) ↔
      ∀ text, settings.criterion.QuotesIn disk path text → IsOneLine text) := by
  have hcheck := check_eq_ok_of_build_eq_ok hsettings hbuild
  obtain ⟨hfile, hmessages⟩ := Criterion.forall_isOneLine_iff hcheck hpattern hpath hvs
  refine ⟨fun v hv => ⟨hfile v hv, isLine_violationLine ?_⟩, hmessages⟩
  rwa [hfile v hv]

section Broken

/-- The head of a function whose parameters are not closed. -/
def openHead : Source where
  path := "b.c"
  text := "int main( \x7b\n    return 0\n".toList
  tree :=
    .node { kind := "translation_unit", hasError := true, start := 0, stop := 25 } [
      .node { kind := "ERROR", hasError := true, start := 0, stop := 24 } [
        .named "primitive_type" (some "type") 0 3 [],
        .named "identifier" none 4 8 [],
        .token "(" 8,
        .token "\x7b" 10,
        .token "return" 16,
        .named "number_literal" none 23 24 []]]

def openHeadDisk : Disk := ⟨[.file "b.c" (.text openHead.text openHead.tree)]⟩

/-- The rule about the number of lines, as it is registered for C. -/
def nativeLinesEntry : RuleEntry := .native "MaxLines" (.measuring .lines "maxLines" 2000)

theorem source_openHeadDisk : openHeadDisk.source "b.c" = .ok openHead :=
  Disk.source_eq_ok_of_singleton (by decide) (by decide) _ _

/-- What every rule finds in the file: the first twenty characters of the text, which reach into the
second line. -/
def unexpectedHead : Violation :=
  .ofFile "b.c" "Failed to parse file: [line 1, col 1: unexpected `int main( \x7b\n    retu`]"

theorem check_openHeadDisk {e : RuleEntry} {block : Option Yaml} {rule : Rule}
    (h : e.build block = .ok rule) :
    rule.check openHeadDisk "b.c" = .ok [unexpectedHead] := by
  obtain ⟨c, hcheck, -⟩ := RuleEntry.exists_criterion_of_build_eq_ok h
  obtain ⟨inspect, hinspect⟩ := Criterion.exists_ofSource_of_check_eq_ok hcheck
  have hparses : openHead.parses = false := rfl
  have hmessage : Check.unparsed openHead.problemLine = unexpectedHead.message := by decide +kernel
  simp [hinspect, Check.ofSource, source_openHeadDisk, hparses, hmessage, unexpectedHead,
    Violation.ofFile]

theorem not_isOneLine_unexpectedHead : ¬ IsOneLine unexpectedHead.message := by
  simp [unexpectedHead, Violation.ofFile, IsOneLine]

/-- The rule is registered and left as it is, the path is on one line, and yet the violation is
printed on two lines. -/
theorem not_isLine_unexpectedHead :
    IsOneLine "b.c" ∧ nativeLinesEntry ∈ Registry.all ∧ ∃ rule,
      nativeLinesEntry.build none = .ok rule ∧
      rule.check openHeadDisk "b.c" = .ok [unexpectedHead] ∧
      ¬ IsOneLine unexpectedHead.message ∧ ¬ IsLine (Report.violationLine unexpectedHead) := by
  have hpath : IsOneLine "b.c" := by decide
  have hregistered : nativeLinesEntry ∈ Registry.all := by
    simp [Registry.all, Registry.nativeRules, nativeLinesEntry]
  obtain ⟨rule, hbuild⟩ : ∃ rule, nativeLinesEntry.build none = .ok rule := ⟨_, rfl⟩
  exact ⟨hpath, hregistered, rule, hbuild, check_openHeadDisk hbuild, not_isOneLine_unexpectedHead,
    fun hline => not_isOneLine_unexpectedHead ((isLine_violationLine hpath).mp hline)⟩

/-- The violation quotes a text that is not on one line. -/
theorem exists_quotesIn_openHeadDisk :
    Settings.ofBlock nativeLinesEntry none = .ok { criterion := nativeLinesEntry.criterion } ∧
      nativeLinesEntry.criterion.HasOneLinePattern ∧ IsOneLine "b.c" ∧ ∃ rule vs,
        nativeLinesEntry.build none = .ok rule ∧ rule.check openHeadDisk "b.c" = .ok vs ∧
        (∃ v ∈ vs, ¬ IsLine (Report.violationLine v)) ∧
        ∃ text, nativeLinesEntry.criterion.QuotesIn openHeadDisk "b.c" text ∧ ¬ IsOneLine text := by
  have hsettings : Settings.ofBlock nativeLinesEntry none =
      .ok { criterion := nativeLinesEntry.criterion } := rfl
  have hpattern : nativeLinesEntry.criterion.HasOneLinePattern := trivial
  have hpath : IsOneLine "b.c" := by decide
  obtain ⟨rule, hbuild⟩ : ∃ rule, nativeLinesEntry.build none = .ok rule := ⟨_, rfl⟩
  have hcheck := check_openHeadDisk hbuild
  obtain ⟨hlines, hmessages⟩ :=
    RuleEntry.isLine_violationLine_iff hsettings hbuild hpattern hpath hcheck
  have hmem : unexpectedHead ∈ [unexpectedHead] := List.mem_cons_self
  refine ⟨hsettings, hpattern, hpath, rule, _, hbuild, hcheck, ⟨_, hmem, fun hline => ?_⟩, ?_⟩
  · exact not_isOneLine_unexpectedHead ((hlines _ hmem).2.mp hline)
  · by_contra hnone
    simp only [not_exists, not_and, not_not] at hnone
    exact not_isOneLine_unexpectedHead (hmessages.mpr hnone _ hmem)

end Broken

end CodeStyle
