import CodeStyle.Proofs.NamePattern
import CodeStyle.Proofs.Rule.Check
import CodeStyle.Proofs.Rule.Message
import CodeStyle.Proofs.SyntaxTree.Address

/-!
# Names of declarations

The rules of Java about constants, fields and local variables hold the names that declarations give
to a pattern, wherever the declarations stand. What they report is a list of places: one for every
name that the pattern does not match as a whole, the declarations in document order and the names
of each in the order in which it gives them.
-/
namespace CodeStyle

open SyntaxTree

namespace SyntaxTree

/-- Whether a node is the first child in a field, and its number. -/
structure IsFirstInField (t : SyntaxTree) (field : String) (k : Nat) (c : SyntaxTree) : Prop where
  at_number : t.children[k]? = some c
  in_field : c.inField field = true
  first : ∀ i < k, ∀ d, t.children[i]? = some d → d.inField field = false

/-- Whether the modifiers of a declaration, its first named child of that kind, hold `final`. -/
def CarriesFinal (t : SyntaxTree) : Prop :=
  ∃ before modifiers after, t.namedChildren = before ++ modifiers :: after ∧
    modifiers.kind = "modifiers" ∧ (∀ c ∈ before, c.kind ≠ "modifiers") ∧
      ∃ c ∈ modifiers.children, c.kind = "final"

/-- The first child in a field with its number. -/
def numberedField? (t : SyntaxTree) (field : String) : Option (SyntaxTree × Nat) :=
  t.children.zipIdx.find? fun p => p.1.inField field

variable {t c : SyntaxTree} {field : String} {k : Nat}

theorem map_fst_numberedField? (t : SyntaxTree) (field : String) :
    (t.numberedField? field).map Prod.fst = t.field? field := by
  have hfind := List.find?_map (p := inField field) (f := Prod.fst) (l := t.children.zipIdx)
  rw [List.zipIdx_map_fst] at hfind
  exact hfind.symm

theorem numberedField?_eq_some_iff :
    t.numberedField? field = some (c, k) ↔ t.IsFirstInField field k c := by
  rw [numberedField?, List.find?_eq_some_iff_getElem]
  simp only [List.getElem_zipIdx, Nat.zero_add, Prod.mk.injEq, List.length_zipIdx]
  constructor
  · rintro ⟨hfield, j, hj, ⟨hc, rfl⟩, hfirst⟩
    refine ⟨List.getElem?_eq_some_iff.mpr ⟨hj, hc⟩, hfield, fun i hi d hd => ?_⟩
    obtain ⟨hlt, rfl⟩ := List.getElem?_eq_some_iff.mp hd
    simpa using hfirst i hi
  · rintro ⟨hat, hfield, hfirst⟩
    obtain ⟨hlt, hc⟩ := List.getElem?_eq_some_iff.mp hat
    refine ⟨hfield, k, hlt, ⟨hc, rfl⟩, fun i hi => ?_⟩
    simpa using hfirst i hi _ (List.getElem?_eq_getElem (Nat.lt_trans hi hlt))

theorem isFinal_iff : t.isFinal = true ↔ t.CarriesFinal := by
  simp only [isFinal, CarriesFinal, firstChild?, Option.any_eq_true, List.find?_eq_some_iff_append,
    hasChild, List.any_eq_true, beq_iff_eq, List.contains_eq_mem, List.mem_singleton,
    decide_eq_true_eq, Bool.not_eq_true', decide_eq_false_iff_not]
  constructor
  · rintro ⟨m, ⟨hkind, before, after, heq, hbefore⟩, hfinal⟩
    exact ⟨before, m, after, heq, hkind, hbefore, hfinal⟩
  · rintro ⟨before, m, after, heq, hkind, hbefore, hfinal⟩
    exact ⟨m, ⟨hkind, before, after, heq, hbefore⟩, hfinal⟩

end SyntaxTree

/-- A place at which a declaration gives a name: the address of the declaration, the numbers of the
declarator in it and of the name in the declarator, and the nodes themselves. -/
structure NameSite where
  owner : List Nat
  declarator : Nat
  position : Nat
  declaration : SyntaxTree
  name : SyntaxTree

namespace NameSite

def address (site : NameSite) : List Nat := site.owner ++ [site.declarator, site.position]

/-- Whether a site comes before another: declarations stand in document order, and the names of a
declaration in the order of their declarators. -/
def Precedes (a b : NameSite) : Prop :=
  a.owner < b.owner ∨ a.owner = b.owner ∧ a.declarator < b.declarator

/-- Whether a site is one of a tree. -/
structure IsIn (root : SyntaxTree) (site : NameSite) : Prop where
  at_owner : root.nodeAt? site.owner = some site.declaration
  at_name : ∃ d, site.declaration.children[site.declarator]? = some d ∧
    d.inField "declarator" = true ∧ d.IsFirstInField "name" site.position site.name

/-- The sites of a node at an address. -/
def sitesIn (owner : List Nat) (t : SyntaxTree) : List NameSite :=
  t.children.zipIdx.filterMap fun d =>
    if d.1.inField "declarator" then
      (d.1.numberedField? "name").map fun n => ⟨owner, d.2, n.2, t, n.1⟩
    else none

/-- The sites of a tree. -/
def sites (root : SyntaxTree) : List NameSite :=
  root.preorderAt.flatMap fun p => sitesIn p.1 p.2

variable {a b site : NameSite} {root t : SyntaxTree} {owner : List Nat}

theorem mem_sitesIn_iff : site ∈ sitesIn owner t ↔ site.owner = owner ∧ site.declaration = t ∧
    ∃ d, t.children[site.declarator]? = some d ∧ d.inField "declarator" = true ∧
      d.IsFirstInField "name" site.position site.name := by
  simp only [sitesIn, List.mem_filterMap, List.mem_zipIdx_iff_getElem?,
    Option.ite_none_right_eq_some, Option.map_eq_some_iff, Prod.exists, numberedField?_eq_some_iff]
  constructor
  · rintro ⟨d, k, hd, hfield, n, i, hn, rfl⟩
    exact ⟨rfl, rfl, d, hd, hfield, hn⟩
  · rintro ⟨rfl, rfl, d, hd, hfield, hn⟩
    exact ⟨d, site.declarator, hd, hfield, site.name, site.position, hn, rfl⟩

/-- A node gives the names at its sites. -/
theorem map_name_sitesIn (owner : List Nat) (t : SyntaxTree) :
    (sitesIn owner t).map name = t.declaredNames := by
  have hnumbered : t.declaredNames = t.children.zipIdx.filterMap fun d =>
      if d.1.inField "declarator" then (d.1.numberedField? "name").map Prod.fst else none := by
    simp only [declaredNames, fields, List.filterMap_filter, map_fst_numberedField?]
    conv_lhs => rw [← List.zipIdx_map_fst 0 t.children, List.filterMap_map]
    rfl
  rw [hnumbered, sitesIn, List.map_filterMap]
  refine List.filterMap_congr fun d _ => ?_
  split
  · rw [Option.map_map]
    rfl
  · rfl

/-- The elements of a list stand in the order of their numbers. -/
theorem pairwise_zipIdx {α : Type} (l : List α) : l.zipIdx.Pairwise fun p q => p.2 < q.2 := by
  have hnumbers : (l.zipIdx.map Prod.snd).Pairwise (· < ·) := by
    rw [List.zipIdx_map_snd]
    exact List.pairwise_lt_range'
  exact List.pairwise_map.mp hnumbers

theorem pairwise_sitesIn (owner : List Nat) (t : SyntaxTree) :
    (sitesIn owner t).Pairwise Precedes := by
  refine (pairwise_zipIdx t.children).filterMap _ fun c d hlt a ha b hb => ?_
  obtain ⟨-, ha⟩ := Option.ite_none_right_eq_some.mp ha
  obtain ⟨-, hb⟩ := Option.ite_none_right_eq_some.mp hb
  obtain ⟨m, -, rfl⟩ := Option.map_eq_some_iff.mp ha
  obtain ⟨n, -, rfl⟩ := Option.map_eq_some_iff.mp hb
  exact .inr ⟨rfl, hlt⟩

/-- Where nothing stands below tokens, a walk comes past all sites. -/
theorem mem_sites_iff (htokens : root.hasLeafTokens = true) :
    site ∈ sites root ↔ site.IsIn root := by
  simp only [sites, List.mem_flatMap, Prod.exists, mem_preorderAt_iff, mem_sitesIn_iff]
  constructor
  · rintro ⟨owner, t, hvisited, rfl, rfl, hname⟩
    exact ⟨hvisited.at_address, hname⟩
  · intro h
    obtain ⟨d, hd, -⟩ := h.at_name
    have hchildren : site.declaration.children ≠ [] :=
      List.ne_nil_of_mem (List.mem_of_getElem? hd)
    exact ⟨site.owner, site.declaration,
      isVisited_of_hasLeafTokens htokens h.at_owner hchildren, rfl, rfl, h.at_name⟩

theorem pairwise_sites (root : SyntaxTree) : (sites root).Pairwise Precedes := by
  refine List.pairwise_flatMap.mpr ⟨fun p _ => pairwise_sitesIn p.1 p.2, ?_⟩
  refine root.pairwise_preorderAt.imp fun hlt a ha b hb => .inl ?_
  rwa [(mem_sitesIn_iff.mp ha).1, (mem_sitesIn_iff.mp hb).1]

/-- No two sites in order are the same name. -/
theorem Precedes.address_ne (h : a.Precedes b) : a.address ≠ b.address := by
  intro heq
  obtain ⟨howner, hnumbers⟩ := List.append_inj' heq rfl
  obtain ⟨hdeclarator, -⟩ := List.cons.inj hnumbers
  rcases h with hlt | ⟨-, hlt⟩
  · rw [howner] at hlt
    exact List.lt_irrefl _ hlt
  · omega

end NameSite

namespace NameSubject

/-- The subjects whose names are given by declarations of Java. -/
def declared : List NameSubject := [constant, field, localVariable]

/-- Whether the names that a declaration gives are those of a subject. -/
inductive Covers : NameSubject → SyntaxTree → Prop
  | constant {t : SyntaxTree} (hfinal : t.CarriesFinal)
      (hkind : t.kind = "field_declaration" ∨ t.kind = "local_variable_declaration") :
      Covers constant t
  | field {t : SyntaxTree} (hkind : t.kind = "field_declaration") : Covers field t
  | localVariable {t : SyntaxTree} (hkind : t.kind = "local_variable_declaration") :
      Covers localVariable t

variable {subject : NameSubject} {p : NamePattern} {s : Source} {t : SyntaxTree}

theorem uses_of_covers (h : subject.Covers t) :
    subject.uses t = t.declaredNames.map fun n => ⟨if subject = field then t else n, n⟩ := by
  cases h with
  | constant hfinal hkind =>
    rcases hkind with hkind | hkind <;>
      simp [uses, kinds, hkind, names, isFinal_iff.mpr hfinal, reportsName]
  | field hkind => simp [uses, kinds, hkind, names, reportsName]
  | localVariable hkind => simp [uses, kinds, hkind, names, reportsName]

theorem uses_of_not_covers (hsubject : subject ∈ declared) (h : ¬ subject.Covers t) :
    subject.uses t = [] := by
  simp only [declared, List.mem_cons, List.not_mem_nil, or_false] at hsubject
  rcases hsubject with rfl | rfl | rfl
  · by_cases hkind : t.kind = "field_declaration" ∨ t.kind = "local_variable_declaration"
    · have hfinal : t.isFinal = false := by
        by_contra hfinal
        exact h (.constant (isFinal_iff.mp (by simpa using hfinal)) hkind)
      simp [uses, names, hfinal]
    · simp [uses, kinds, hkind]
  · have hkind : ¬ t.kind = "field_declaration" := fun hkind => h (.field hkind)
    simp [uses, kinds, hkind]
  · have hkind : ¬ t.kind = "local_variable_declaration" := fun hkind => h (.localVariable hkind)
    simp [uses, kinds, hkind]

/-- What is reported for the name at a site. -/
def report (subject : NameSubject) (s : Source) (pattern : String) (site : NameSite) : Violation :=
  ⟨s.path, s.line (if subject = field then site.declaration else site.name),
    subject.message (s.stringOf site.name) pattern⟩

/-- A declaration is reported once for every name that the pattern does not accept. -/
theorem visit_of_covers (h : subject.Covers t) (owner : List Nat) :
    subject.visit p s t =
      ((NameSite.sitesIn owner t).filter fun site => !p.accepts (s.stringOf site.name)).map
        (subject.report s p.text) := by
  rw [visit, uses_of_covers h, ← NameSite.map_name_sitesIn owner t, List.map_map,
    List.filterMap_map, ← List.filterMap_eq_map, List.filterMap_filter]
  refine List.filterMap_congr fun site hsite => ?_
  obtain ⟨-, hdeclaration, -⟩ := NameSite.mem_sitesIn_iff.mp hsite
  simp only [Function.comp_apply, judge, report, hdeclaration]
  cases p.accepts (s.stringOf site.name) <;> rfl

end NameSubject

namespace NamePattern

open Regex

/-- A pattern that can be read alone accepts the names that it matches as a whole. -/
theorem accepts_iff_matchesIn {pattern : String} {part : Part} {q : NamePattern}
    (hpart : readWhole? pattern.toList = some part) (hq : read pattern = .ok q) (name : String) :
    q.accepts name = true ↔ MatchesIn name.toList part.expr 0 name.toList.length := by
  have henclosed := enclosed_readWhole? (not_closesUnopened_of_readParts hpart)
  rw [hpart] at henclosed
  generalize readWhole? (pattern.toList ++ closing) = behind at henclosed
  generalize hinside : readWhole? (opening ++ (pattern.toList ++ closing)) = inside at henclosed
  cases henclosed with
  | closed =>
    obtain ⟨-, rfl⟩ := (read_eq_ok_iff hinside).mp hq
    exact accepts_between_iff
  | commented =>
    rw [read_of_readWhole?_eq_none hinside] at hq
    contradiction

end NamePattern

section Checks

variable {subject : NameSubject} {key pattern : String} {language : Language} {check : Check}
  {disk : Disk} {path : String} {s : Source}

/-- What a rule about names reports is what it finds at each node. -/
theorem Criterion.check_naming_eq
    (hcheck : (Criterion.naming subject key pattern).check language = .ok check)
    (hs : disk.source path = .ok s) (hparses : s.parses = true) :
    ∃ p, NamePattern.read pattern = .ok p ∧
      check disk path = .ok (s.tree.preorder.flatMap (subject.visit p s)) := by
  obtain ⟨p, hp, rfl⟩ := Except.map_eq_ok_iff.mp hcheck
  exact ⟨p, hp, by rw [Check.ofSource_eq hs hparses, walk_ok_eq]⟩

/-- A rule about declared names reports each name that its pattern does not accept exactly once,
wherever in a file that parses it is declared, and nothing else. A pattern that can be read alone
accepts what it matches as a whole. The reports are grouped by declaration in document order, the
names of each in the order in which they are given. -/
theorem Criterion.exists_sites_and_check_eq (hsubject : subject ∈ NameSubject.declared)
    (hcheck : (Criterion.naming subject key pattern).check .java = .ok check)
    (hs : disk.source path = .ok s) (hparses : s.parses = true)
    (htokens : s.tree.hasLeafTokens = true) :
    ∃ (p : NamePattern) (sites : List NameSite), NamePattern.read pattern = .ok p ∧
      (∀ part, Regex.readWhole? pattern.toList = some part → ∀ name : String,
        p.accepts name = true ↔ Regex.MatchesIn name.toList part.expr 0 name.toList.length) ∧
      sites.Pairwise NameSite.Precedes ∧ (sites.map NameSite.address).Nodup ∧
      (∀ site, site ∈ sites ↔ site.IsIn s.tree ∧ subject.Covers site.declaration ∧
        ¬ p.accepts (s.stringOf site.name) = true) ∧
      check disk path = .ok (sites.map (subject.report s pattern)) := by
  classical
  obtain ⟨p, hp, hfound⟩ := check_naming_eq hcheck hs hparses
  let isReported (site : NameSite) : Bool :=
    decide (subject.Covers site.declaration) && !p.accepts (s.stringOf site.name)
  have hordered : ((NameSite.sites s.tree).filter isReported).Pairwise NameSite.Precedes :=
    (NameSite.pairwise_sites s.tree).filter isReported
  refine ⟨p, (NameSite.sites s.tree).filter isReported, hp,
    fun part hpart => NamePattern.accepts_iff_matchesIn hpart hp, hordered, ?_, fun site => ?_, ?_⟩
  · exact List.pairwise_map.mpr (hordered.imp NameSite.Precedes.address_ne)
  · rw [List.mem_filter, NameSite.mem_sites_iff htokens, Bool.and_eq_true, decide_eq_true_eq,
      Bool.not_eq_true', Bool.not_eq_true]
  · rw [hfound, ← map_snd_preorderAt, List.flatMap_map, NameSite.sites, List.filter_flatMap,
      List.map_flatMap]
    refine congrArg Except.ok (List.flatMap_congr fun node _ => ?_)
    have hdeclaration : ∀ site ∈ NameSite.sitesIn node.1 node.2, site.declaration = node.2 :=
      fun site hsite => (NameSite.mem_sitesIn_iff.mp hsite).2.1
    by_cases hcovers : subject.Covers node.2
    · rw [NameSubject.visit_of_covers hcovers node.1, NamePattern.text_of_read_eq_ok hp]
      congr 1
      refine List.filter_congr fun site hsite => ?_
      simp [isReported, hdeclaration site hsite, hcovers]
    · rw [NameSubject.visit, NameSubject.uses_of_not_covers hsubject hcovers]
      have hnone : (NameSite.sitesIn node.1 node.2).filter isReported = [] := by
        refine List.filter_eq_nil_iff.mpr fun site hsite => ?_
        simp [isReported, hdeclaration site hsite, hcovers]
      rw [hnone]
      rfl

end Checks

section Lambda

/-- A class with a field whose value is a lambda expression that declares a variable, and with
another field in the same declaration. -/
def lambdaFieldSource : Source where
  path := "A.java"
  text := "class A \x7b\n    F f = () -> \x7b int X = 1; \x7d, G;\n\x7d\n".toList
  tree := .named "program" none 0 47 [
    .named "class_declaration" none 0 46 [
      .token "class" 0,
      .named "identifier" (some "name") 6 7 [],
      .named "class_body" (some "body") 8 46 [
        .token "\x7b" 8,
        .named "field_declaration" none 14 44 [
          .named "type_identifier" (some "type") 14 15 [],
          .named "variable_declarator" (some "declarator") 16 40 [
            .named "identifier" (some "name") 16 17 [],
            .token "=" 18,
            .named "lambda_expression" (some "value") 20 40 [
              .named "formal_parameters" (some "parameters") 20 22 [.token "(" 20, .token ")" 21],
              .token "->" 23,
              .named "block" (some "body") 26 40 [
                .token "\x7b" 26,
                .named "local_variable_declaration" none 28 38 [
                  .named "integral_type" (some "type") 28 31 [.token "int" 28],
                  .named "variable_declarator" (some "declarator") 32 37 [
                    .named "identifier" (some "name") 32 33 [],
                    .token "=" 34,
                    .named "decimal_integer_literal" (some "value") 36 37 []],
                  .token ";" 37],
                .token "\x7d" 39]]],
          .token "," 40,
          .named "variable_declarator" (some "declarator") 42 43 [
            .named "identifier" (some "name") 42 43 []],
          .token ";" 43],
        .token "\x7d" 45]]]

def lambdaFieldDisk : Disk := ⟨[.file "A.java" (.text lambdaFieldSource.text lambdaFieldSource.tree)]⟩

theorem source_lambdaFieldDisk : lambdaFieldDisk.source "A.java" = .ok lambdaFieldSource :=
  Disk.source_eq_ok_of_singleton (by decide) (by decide) _ _

/-- The variable that the lambda expression declares is held to the pattern. -/
theorem exists_sites_and_check_eq_lambdaField : ∃ check part p, ∃ sites : List NameSite,
    NameSubject.localVariable ∈ NameSubject.declared ∧
      (Criterion.naming .localVariable "pattern" "[a-z]").check .java = .ok check ∧
      lambdaFieldDisk.source "A.java" = .ok lambdaFieldSource ∧ lambdaFieldSource.parses = true ∧
      lambdaFieldSource.tree.hasLeafTokens = true ∧
      NamePattern.read "[a-z]" = .ok p ∧ Regex.readWhole? "[a-z]".toList = some part ∧
      (∀ name : String, p.accepts name = true ↔
        Regex.MatchesIn name.toList part.expr 0 name.toList.length) ∧
      sites.Pairwise NameSite.Precedes ∧ (sites.map NameSite.address).Nodup ∧
      (∀ site, site ∈ sites ↔ site.IsIn lambdaFieldSource.tree ∧
        NameSubject.localVariable.Covers site.declaration ∧
        ¬ p.accepts (lambdaFieldSource.stringOf site.name) = true) ∧
      check lambdaFieldDisk "A.java" =
        .ok (sites.map (NameSubject.localVariable.report lambdaFieldSource "[a-z]")) := by
  have halone : (Regex.readWhole? "[a-z]".toList).isSome = true := by decide +kernel
  have hread : (NamePattern.read "[a-z]").toBool = true := by decide +kernel
  obtain ⟨part, hpart⟩ := Option.isSome_iff_exists.mp halone
  cases hp : NamePattern.read "[a-z]" with
  | error e => simp [hp, Except.toBool] at hread
  | ok q =>
    obtain ⟨check, hcheck⟩ : ∃ check,
        (Criterion.naming .localVariable "pattern" "[a-z]").check .java = .ok check :=
      Except.exists_map_eq_ok_iff.mpr ⟨q, hp⟩
    have hdeclared : NameSubject.localVariable ∈ NameSubject.declared := by decide
    obtain ⟨p, sites, hp', hwhole, hsites⟩ :=
      Criterion.exists_sites_and_check_eq hdeclared hcheck source_lambdaFieldDisk rfl rfl
    exact ⟨check, part, p, sites, hdeclared, hcheck, source_lambdaFieldDisk, rfl, rfl, hp ▸ hp',
      hpart, hwhole part hpart, hsites⟩

end Lambda

end CodeStyle
