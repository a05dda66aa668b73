import CodeStyle.Proofs.Rule.Definition
import CodeStyle.Proofs.Rule.SharedKey
import CodeStyle.Proofs.SyntaxTree.Address

/-!
# Limits

What a rule with a limit reports are the measurements of a file that exceed the limit. What is
measured does not depend on the limit, so a higher one leaves out some reports and makes none.
-/
namespace CodeStyle

open SyntaxTree

/-- What is measured: a file, one of its lines, or a node of its tree. -/
inductive MeasuredItem
  | file
  | line (number : Nat)
  | node (address : List Nat)
deriving DecidableEq

/-- A measured item with its count, the line at which it is reported and the wording of a report for
a limit. -/
structure Measurement where
  item : MeasuredItem
  line : Nat
  count : Nat
  wording : (limit : Nat) → String

namespace Measurement

/-- Whether a count is above a limit. -/
def exceeds (limit : Nat) (x : Measurement) : Bool := decide (limit < x.count)

/-- The report of a measurement in a file. -/
def report (path : String) (limit : Nat) (x : Measurement) : Violation :=
  ⟨path, x.line, x.wording limit⟩

/-- The measurement of a line with a number. -/
def ofLine (path : String) (line : List Char × Nat) : Measurement :=
  ⟨.line line.2, line.2, line.1.length, TextQuantity.lineTooLong path line.2 line.1.length⟩

end Measurement

/-- What a criterion with a limit measures in a source. -/
inductive Measures (s : Source) : Criterion → Measurement → Prop
  | file {key : String} {max : Nat} : Measures s (.measuring .lines key max)
      ⟨.file, 0, s.lines.length, TextQuantity.tooManyLines s.path s.lines.length⟩
  | line {key : String} {max i : Nat} {line : List Char} (hline : s.lines[i]? = some line) :
      Measures s (.measuring .lineLength key max)
        ⟨.line (i + 1), i + 1, line.length, TextQuantity.lineTooLong s.path (i + 1) line.length⟩
  | node {q : NodeQuantity} {key : String} {max count : Nat} {address : List Nat} {t : SyntaxTree}
      (hvisited : IsVisited s.tree address t) (hkind : t.kind ∈ q.kinds)
      (hcount : q.count? s t = some count) : Measures s (.counting q key max)
        ⟨.node address, s.line t, count, q.message (q.nameOf s t) count⟩

namespace NodeQuantity

/-- The measurement of a node at an address, if the quantity is counted there. -/
def measurement? (q : NodeQuantity) (s : Source) (p : List Nat × SyntaxTree) :
    Option Measurement :=
  if q.kinds.contains p.2.kind then
    (q.count? s p.2).map fun count =>
      ⟨.node p.1, s.line p.2, count, q.message (q.nameOf s p.2) count⟩
  else none

/-- A node is reported if its measurement exceeds the limit. -/
theorem visit_eq (q : NodeQuantity) (max : Nat) (s : Source) (p : List Nat × SyntaxTree) :
    q.visit max s p.2 = (((q.measurement? s p).filter (Measurement.exceeds max)).map
      (Measurement.report s.path max)).toList := by
  unfold visit measurement?
  split
  · cases q.count? s p.2 with
    | none => rfl
    | some count =>
      rw [Option.map_some, Option.filter_some]
      by_cases hle : count ≤ max
      · simp [Measurement.exceeds, hle, Nat.not_lt.mpr hle]
      · simp [Measurement.exceeds, Measurement.report, hle, Nat.not_le.mp hle]
  · rfl

end NodeQuantity

namespace TextQuantity

/-- The reported lines are those whose measurements exceed the limit. -/
theorem longLines_eq (path : String) (max number : Nat) (lines : List (List Char)) :
    longLines path max number lines =
      (((lines.zipIdx number).map (Measurement.ofLine path)).filter (Measurement.exceeds max)).map
        (Measurement.report path max) := by
  induction lines generalizing number with
  | nil => rfl
  | cons line lines ih =>
    rw [longLines, ih, List.zipIdx_cons, List.map_cons, List.filter_cons]
    by_cases hle : line.length ≤ max
    · simp [Measurement.exceeds, Measurement.ofLine, hle, Nat.not_lt.mpr hle]
    · simp [Measurement.exceeds, Measurement.ofLine, Measurement.report, hle, Nat.not_le.mp hle]

end TextQuantity

namespace Criterion

/-- Whether a criterion sets a limit to a quantity. -/
def isLimit : Criterion → Bool
  | counting .. => true
  | measuring .. => true
  | _ => false

/-- All measurements of a source, in the order of the reports. -/
def measurements (s : Source) : Criterion → List Measurement
  | counting q _ _ => s.tree.preorderAt.filterMap (q.measurement? s)
  | measuring .lines _ _ =>
    [⟨.file, 0, s.lines.length, TextQuantity.tooManyLines s.path s.lines.length⟩]
  | measuring .lineLength _ _ => (s.lines.zipIdx 1).map (Measurement.ofLine s.path)
  | _ => []

variable {c : Criterion} {s : Source} {x : Measurement}

theorem mem_measurements_iff : x ∈ c.measurements s ↔ Measures s c x := by
  constructor
  · intro h
    cases c with
    | counting q key max =>
      obtain ⟨p, hp, hx⟩ := List.mem_filterMap.mp h
      obtain ⟨hkind, hx⟩ := Option.ite_none_right_eq_some.mp hx
      obtain ⟨count, hcount, rfl⟩ := Option.map_eq_some_iff.mp hx
      exact .node (mem_preorderAt_iff.mp hp) (List.contains_iff_mem.mp hkind) hcount
    | measuring q key max =>
      cases q with
      | lines =>
        obtain rfl := List.mem_singleton.mp h
        exact .file
      | lineLength =>
        obtain ⟨⟨line, number⟩, hline, rfl⟩ := List.mem_map.mp h
        obtain ⟨hpos, hline⟩ := List.mem_zipIdx_iff_le_and_getElem?_sub.mp hline
        obtain ⟨i, rfl⟩ := Nat.exists_eq_add_of_le' hpos
        exact .line hline
    | naming => contradiction
    | indenting => contradiction
    | laying => contradiction
  · intro h
    cases h with
    | file => exact List.mem_singleton.mpr rfl
    | @line _ _ i line hline =>
      have hnumbered : (line, i + 1) ∈ s.lines.zipIdx 1 :=
        List.mem_zipIdx_iff_le_and_getElem?_sub.mpr ⟨Nat.le_add_left 1 i, hline⟩
      exact List.mem_map.mpr ⟨_, hnumbered, rfl⟩
    | node hvisited hkind hcount =>
      refine List.mem_filterMap.mpr ⟨_, mem_preorderAt_iff.mpr hvisited, ?_⟩
      rw [NodeQuantity.measurement?, if_pos (List.contains_iff_mem.mpr hkind), hcount]
      rfl

/-- No item is measured twice. -/
theorem nodup_measurements (c : Criterion) (s : Source) :
    ((c.measurements s).map Measurement.item).Nodup := by
  cases c with
  | counting q key max =>
    refine List.pairwise_map.mpr ?_
    refine s.tree.pairwise_preorderAt.filterMap _ fun p r hlt x hx y hy heq => ?_
    obtain ⟨-, hx⟩ := Option.ite_none_right_eq_some.mp hx
    obtain ⟨-, hy⟩ := Option.ite_none_right_eq_some.mp hy
    obtain ⟨i, -, rfl⟩ := Option.map_eq_some_iff.mp hx
    obtain ⟨j, -, rfl⟩ := Option.map_eq_some_iff.mp hy
    rw [MeasuredItem.node.inj heq] at hlt
    exact List.lt_irrefl _ hlt
  | measuring q key max =>
    cases q with
    | lines => exact List.pairwise_singleton _ _
    | lineLength =>
      have hnumbers : ((s.lines.zipIdx 1).map Prod.snd).Nodup := by
        rw [List.zipIdx_map_snd]
        exact List.nodup_range'
      rw [measurements, List.map_map]
      have hitems := hnumbers.map fun i j => MeasuredItem.line.inj
      rwa [List.map_map] at hitems
  | naming => exact List.nodup_nil
  | indenting => exact List.nodup_nil
  | laying => exact List.nodup_nil

theorem isLimit_withoutValue (c : Criterion) : c.withoutValue.isLimit = c.isLimit := by
  cases c <;> rfl

/-- What is measured does not depend on the limit. -/
theorem measurements_withoutValue (c : Criterion) (s : Source) :
    c.withoutValue.measurements s = c.measurements s := by
  cases c with
  | measuring q => cases q <;> rfl
  | _ => rfl

variable {disk : Disk} {path key : String} {limit : Nat}

/-- A file that parses is checked by reporting the measurements that exceed the limit. -/
theorem exists_check_limit_eq (language : Language) (hlimit : c.isLimit = true)
    (hoption : c.option? = some (key, .number limit)) (hs : disk.source path = .ok s)
    (hparses : s.parses = true) : ∃ check, c.check language = .ok check ∧
      check disk path = .ok (((c.measurements s).filter (Measurement.exceeds limit)).map
        (Measurement.report s.path limit)) := by
  cases c with
  | counting q key' max =>
    obtain ⟨rfl, rfl⟩ : key' = key ∧ max = limit := by simpa [option?] using hoption
    obtain ⟨check, hcheck⟩ : ∃ check, (counting q key' max).check language = .ok check := ⟨_, rfl⟩
    refine ⟨check, hcheck, ?_⟩
    rw [check_counting_eq hcheck hs hparses, measurements, ← map_snd_preorderAt, List.flatMap_map,
      List.filter_filterMap, List.map_filterMap, List.filterMap_eq_flatMap_toList]
    exact congrArg Except.ok (List.flatMap_congr fun p _ => q.visit_eq max s p)
  | measuring q key' max =>
    obtain ⟨rfl, rfl⟩ : key' = key ∧ max = limit := by simpa [option?] using hoption
    refine ⟨_, rfl, ?_⟩
    rw [Check.ofSource_eq hs hparses]
    cases q with
    | lines =>
      by_cases hle : s.lines.length ≤ max
      · simp [TextQuantity.inspect, measurements, Measurement.exceeds, hle, Nat.not_lt.mpr hle]
      · simp [TextQuantity.inspect, measurements, Measurement.exceeds, Measurement.report,
          Violation.ofFile, hle, Nat.not_le.mp hle]
    | lineLength => rw [TextQuantity.inspect, TextQuantity.longLines_eq, measurements]
  | naming => contradiction
  | indenting => contradiction
  | laying => contradiction

end Criterion

namespace Registry

/-- The names of the rules with a limit, without the suffixes of the languages. -/
def limitStems : List String :=
  ["MaxLines", "MaxLineLength", "LongParameterList", "MethodLength", "MethodPerClass"]

/-- The rules with these names are those with a limit. -/
theorem isLimit_iff {e : RuleEntry} (he : e ∈ all) :
    e.criterion.isLimit = true ↔ ∃ s ∈ limitStems, e.name = s ++ e.language.ruleSuffix := by
  have hall : ∀ e ∈ all, e.criterion.isLimit = true ↔ ∃ s ∈ limitStems, s.toList = stem e := by
    decide +kernel
  have hname (s : String) : e.name = s ++ e.language.ruleSuffix ↔ s.toList = stem e := by
    rw [name_eq_of_mem he, String.append_left_inj, ← String.toList_inj, String.toList_ofList]
    exact eq_comm
  simp only [hall e he, hname]

end Registry

section Limits

variable {e : RuleEntry} {block block' : Option Yaml} {settings settings' : Settings}
  {key key' : String} {limit limit' : Nat} {disk : Disk} {path : String} {s : Source}

/-- A rule with a limit is built with any limit and reports what exceeds it. -/
theorem RuleEntry.exists_build_limit_eq (he : e ∈ Registry.all)
    (hname : ∃ s ∈ Registry.limitStems, e.name = s ++ e.language.ruleSuffix)
    (hblock : Settings.ofBlock e block = .ok settings)
    (hlimit : settings.criterion.option? = some (key, .number limit))
    (hs : disk.source path = .ok s) (hparses : s.parses = true) :
    ∃ rule, e.build block = .ok rule ∧ rule.check disk path =
      .ok (((e.criterion.measurements s).filter (Measurement.exceeds limit)).map
        (Measurement.report s.path limit)) := by
  have hvalue := Settings.withoutValue_of_ofBlock hblock
  have hislimit : settings.criterion.isLimit = true := by
    rw [← Criterion.isLimit_withoutValue, hvalue, Criterion.isLimit_withoutValue]
    exact (Registry.isLimit_iff he).mpr hname
  obtain ⟨check, hcheck, hfound⟩ := Criterion.exists_check_limit_eq e.language
    hislimit hlimit hs hparses
  refine ⟨⟨e.name, e.language, settings.enabled, check⟩, ?_, ?_⟩
  · simp only [build, hblock, checkOf, hcheck]
  · rw [← Criterion.measurements_withoutValue, ← hvalue, Criterion.measurements_withoutValue]
    exact hfound

/-- A higher limit makes no reports: the lines reported under it are among those reported under the
lower one, in the same order. Under each limit exactly the items are reported that are measured
above it, so those that are reported under the lower one only are measured above that and not above
the higher one. -/
theorem RuleEntry.exists_checks_of_limit_le (he : e ∈ Registry.all)
    (hname : ∃ s ∈ Registry.limitStems, e.name = s ++ e.language.ruleSuffix)
    (hblock : Settings.ofBlock e block = .ok settings)
    (hlimit : settings.criterion.option? = some (key, .number limit))
    (hblock' : Settings.ofBlock e block' = .ok settings')
    (hlimit' : settings'.criterion.option? = some (key', .number limit')) (hle : limit ≤ limit')
    (hs : disk.source path = .ok s) (hparses : s.parses = true) :
    ∃ rule rule' vs vs', e.build block = .ok rule ∧ e.build block' = .ok rule' ∧
      rule.check disk path = .ok vs ∧ rule'.check disk path = .ok vs' ∧
      (vs'.map Violation.line).Sublist (vs.map Violation.line) ∧
      ∃ items items' : List Measurement,
        vs = items.map (Measurement.report path limit) ∧
        vs' = items'.map (Measurement.report path limit') ∧
        (items.map Measurement.item).Nodup ∧ items'.Sublist items ∧
        (∀ x, x ∈ items ↔ Measures s e.criterion x ∧ limit < x.count) ∧
        (∀ x, x ∈ items' ↔ Measures s e.criterion x ∧ limit' < x.count) ∧
        ∀ x ∈ items, x ∉ items' → limit < x.count ∧ x.count ≤ limit' := by
  obtain ⟨rule, hbuild, hfound⟩ := exists_build_limit_eq he hname hblock hlimit hs hparses
  obtain ⟨rule', hbuild', hfound'⟩ := exists_build_limit_eq he hname hblock' hlimit' hs hparses
  rw [(Disk.find_of_source_eq_ok hs).1] at hfound hfound'
  have hmem (m : Nat) (x : Measurement) :
      x ∈ (e.criterion.measurements s).filter (Measurement.exceeds m) ↔
        Measures s e.criterion x ∧ m < x.count := by
    rw [List.mem_filter, Criterion.mem_measurements_iff, Measurement.exceeds, decide_eq_true_eq]
  have hsub : ((e.criterion.measurements s).filter (Measurement.exceeds limit')).Sublist
      ((e.criterion.measurements s).filter (Measurement.exceeds limit)) := by
    refine List.monotone_filter_right _ fun x hx => ?_
    have hlt : limit' < x.count := of_decide_eq_true hx
    exact decide_eq_true (Nat.lt_of_le_of_lt hle hlt)
  refine ⟨rule, rule', _, _, hbuild, hbuild', hfound, hfound', ?_, _, _, rfl, rfl, ?_, hsub,
    hmem limit, hmem limit', fun x hx hx' => ?_⟩
  · rw [List.map_map, List.map_map]
    exact hsub.map Measurement.line
  · exact (e.criterion.nodup_measurements s).sublist (List.filter_sublist.map Measurement.item)
  · obtain ⟨hmeasured, hlt⟩ := (hmem limit x).mp hx
    have hnotabove : ¬ limit' < x.count := fun hlt' =>
      hx' ((hmem limit' x).mpr ⟨hmeasured, hlt'⟩)
    exact ⟨hlt, Nat.not_lt.mp hnotabove⟩

/-- The rule about the parameters of C, as it is registered. -/
def nativeParameters : RuleEntry :=
  .native "LongParameterList" (.counting .functionParameters "maximumParameters" 11)

/-- A block that sets its limit. -/
def parameterLimit (n : Nat) : Yaml := .mapping [(.string "maximumParameters", .int n)]

theorem ofBlock_parameterLimit (n : Nat) :
    Settings.ofBlock nativeParameters (some (parameterLimit n)) =
      .ok ⟨true, .counting .functionParameters "maximumParameters" n⟩ :=
  Settings.ofBlock_number rfl (by decide) n

/-- A function with two parameters is reported if one is allowed, not if two are. -/
theorem exists_checks_of_limit_le_openDefinition : nativeParameters ∈ Registry.all ∧
    (∃ s ∈ Registry.limitStems, nativeParameters.name = s ++ nativeParameters.language.ruleSuffix) ∧
    Settings.ofBlock nativeParameters (some (parameterLimit 1)) =
      .ok ⟨true, .counting .functionParameters "maximumParameters" 1⟩ ∧
    Settings.ofBlock nativeParameters (some (parameterLimit 2)) =
      .ok ⟨true, .counting .functionParameters "maximumParameters" 2⟩ ∧ 1 ≤ 2 ∧
    (definitionDisk openText openDefinition).source "l.c" =
      .ok (definitionSource openText openDefinition) ∧
    (definitionSource openText openDefinition).parses = true ∧
    ∃ rule rule' vs vs', nativeParameters.build (some (parameterLimit 1)) = .ok rule ∧
      nativeParameters.build (some (parameterLimit 2)) = .ok rule' ∧
      rule.check (definitionDisk openText openDefinition) "l.c" = .ok vs ∧
      rule'.check (definitionDisk openText openDefinition) "l.c" = .ok vs' ∧
      (vs'.map Violation.line).Sublist (vs.map Violation.line) ∧
      vs.map Violation.line = [1] ∧ vs' = [] := by
  have hregistered : nativeParameters ∈ Registry.all := by
    simp [Registry.all, Registry.nativeRules, nativeParameters]
  have hname : ∃ s ∈ Registry.limitStems,
      nativeParameters.name = s ++ nativeParameters.language.ruleSuffix :=
    ⟨"LongParameterList", by decide, rfl⟩
  have hle : 1 ≤ 2 := by decide
  have hs := source_definitionDisk openText openDefinition
  obtain ⟨rule, rule', vs, vs', hbuild, hbuild', hvs, hvs', hsub, -⟩ :=
    RuleEntry.exists_checks_of_limit_le hregistered hname (ofBlock_parameterLimit 1) rfl
      (ofBlock_parameterLimit 2) rfl hle hs rfl
  refine ⟨hregistered, hname, ofBlock_parameterLimit 1, ofBlock_parameterLimit 2, hle, hs, rfl,
    rule, rule', vs, vs', hbuild, hbuild', hvs, hvs', hsub, ?_, ?_⟩
  · obtain ⟨other, hother, hfound⟩ := RuleEntry.exists_build_limit_eq hregistered hname
      (ofBlock_parameterLimit 1) rfl hs rfl
    obtain rfl := Except.ok.inj (hbuild.symm.trans hother)
    rw [Except.ok.inj (hvs.symm.trans hfound)]
    decide +kernel
  · obtain ⟨other, hother, hfound⟩ := RuleEntry.exists_build_limit_eq hregistered hname
      (ofBlock_parameterLimit 2) rfl hs rfl
    obtain rfl := Except.ok.inj (hbuild'.symm.trans hother)
    rw [Except.ok.inj (hvs'.symm.trans hfound)]
    decide +kernel

end Limits

end CodeStyle
