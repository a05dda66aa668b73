import CodeStyle.PathFilter
import CodeStyle.Proofs.Except
import CodeStyle.Proofs.Glob
import CodeStyle.Proofs.Path

/-!
# Verdicts of filters

A filter takes patterns one after the other. It keeps those whose globs can be read, as they were
written, and is not changed by the others, so that it can be built again from the patterns it lists.
The last of them that matches a path decides on the path, and a new pattern changes the verdict on
no path that it does not match.

The default filter leaves out what lies in folders of three names, at any depth. Names go as a whole:
a folder whose name only holds one of them is kept, and so is a file of such a name.
-/
namespace CodeStyle

namespace FilterPattern

/-- Whether a pattern as it is written asks to include what it matches. -/
def asksToInclude (pattern : String) : Bool := pattern.toList.head? == some '!'

/-- The glob of a pattern as it is written. -/
def globOf (pattern : String) : String :=
  if asksToInclude pattern then String.ofList pattern.toList.tail else pattern

/-- What a glob is matched against: a whole path if the glob has a separator, else a file name. -/
def subject? (glob path : String) : Option String :=
  if '/' ∈ glob.toList then some path else Path.fileName? path

/-- Whether a pattern as it is written matches a path. -/
def Matches (pattern path : String) : Prop :=
  ∃ items text, Glob.read (globOf pattern) = .ok items ∧
    subject? (globOf pattern) path = some text ∧ Glob.accepts items text.toList = true

/-- Why a pattern is rejected, if it is. -/
def rejection? (pattern : String) : Option CheckError :=
  match Glob.read (globOf pattern) with
  | .ok _ => none
  | .error fault =>
    some (.pattern ("Invalid pattern '" ++ globOf pattern ++ "': " ++ fault.message))

section Read

variable {pattern path : String} {p : FilterPattern} {e : CheckError}

theorem asksToInclude_iff :
    asksToInclude pattern = true ↔ ∃ rest, pattern.toList = '!' :: rest := by
  rw [asksToInclude, beq_iff_eq, List.head?_eq_some_iff]

theorem read_eq (pattern : String) : read pattern =
    match Glob.read (globOf pattern) with
    | .ok items => .ok ⟨asksToInclude pattern, globOf pattern, items⟩
    | .error fault =>
      .error (.pattern ("Invalid pattern '" ++ globOf pattern ++ "': " ++ fault.message)) := by
  unfold read
  split
  next includes text hparts =>
    have hboth : includes = asksToInclude pattern ∧ text = globOf pattern := by
      split at hparts
      next rest hrest =>
        obtain ⟨rfl, rfl⟩ := Prod.mk.inj hparts
        simp [asksToInclude, globOf, hrest]
      next hne =>
        obtain ⟨rfl, rfl⟩ := Prod.mk.inj hparts
        have hasks : asksToInclude pattern = false := by
          rw [Bool.eq_false_iff, Ne, asksToInclude_iff]
          rintro ⟨rest, hrest⟩
          exact hne rest hrest
        simp [globOf, hasks]
    obtain ⟨rfl, rfl⟩ := hboth
    rfl

theorem read_eq_ok_iff : read pattern = .ok p ↔ ∃ items,
    Glob.read (globOf pattern) = .ok items ∧ p = ⟨asksToInclude pattern, globOf pattern, items⟩ := by
  rw [read_eq]
  cases Glob.read (globOf pattern) <;> simp [eq_comm]

theorem read_eq_error_iff : read pattern = .error e ↔ rejection? pattern = some e := by
  rw [read_eq, rejection?]
  cases Glob.read (globOf pattern) <;> simp

theorem exists_read_eq_ok_iff : (∃ p, read pattern = .ok p) ↔ rejection? pattern = none := by
  rw [read_eq, rejection?]
  cases Glob.read (globOf pattern) <;> simp

theorem includes_of_read (h : read pattern = .ok p) : p.includes = asksToInclude pattern := by
  obtain ⟨items, -, rfl⟩ := read_eq_ok_iff.mp h
  rfl

/-- A pattern is written as it was read. -/
theorem written_of_read (h : read pattern = .ok p) : p.written = pattern := by
  obtain ⟨items, -, rfl⟩ := read_eq_ok_iff.mp h
  cases hasks : asksToInclude pattern with
  | true =>
    obtain ⟨rest, hrest⟩ := asksToInclude_iff.mp hasks
    apply String.toList_inj.mp
    simp [written, globOf, hasks, hrest]
  | false => simp [written, globOf, hasks]

theorem accepts_iff_matches (h : read pattern = .ok p) :
    p.accepts path = true ↔ Matches pattern path := by
  obtain ⟨items, hitems, rfl⟩ := read_eq_ok_iff.mp h
  simp only [accepts, Matches, subject?, hitems, Except.ok.injEq, List.contains_iff_mem]
  split
  · simp
  · cases Path.fileName? path <;> simp

end Read

end FilterPattern

namespace PathFilter

open FilterPattern (Matches asksToInclude rejection?)

/-- A filter after a pattern was given to it, and why the pattern was rejected if it was. -/
def offer (f : PathFilter) (pattern : String) : PathFilter × Option CheckError :=
  match f.add pattern with
  | .ok g => (g, none)
  | .error e => (f, some e)

/-- A filter after patterns were given to it one after the other, and what became of each. -/
def offerAll (f : PathFilter) : List String → PathFilter × List (Option CheckError)
  | [] => (f, [])
  | pattern :: rest =>
    let (g, reply) := f.offer pattern
    let (h, replies) := g.offerAll rest
    (h, reply :: replies)

/-- Whether patterns have a verdict on a path. The last that matches the path decides, and where none
does, the path is included. -/
inductive Verdict (patterns : List String) (path : String) : Bool → Prop
  | decided (front : List String) (pattern : String) (behind : List String)
      (h : patterns = front ++ pattern :: behind) (hmatches : Matches pattern path)
      (hbehind : ∀ later ∈ behind, ¬ Matches later path) :
      Verdict patterns path (asksToInclude pattern)
  | undecided (h : ∀ pattern ∈ patterns, ¬ Matches pattern path) : Verdict patterns path true

/-- Whether the globs of a filter are what their written forms are read as. -/
def IsRead (f : PathFilter) : Prop := ∀ p ∈ f.globs, FilterPattern.read p.written = .ok p

section Add

variable {f g : PathFilter} {pattern path : String} {patterns : List String} {e : CheckError}

theorem isRead_nil : IsRead ⟨[]⟩ := fun _ hp => absurd hp List.not_mem_nil

theorem add_eq_ok_iff :
    f.add pattern = .ok g ↔ ∃ p, FilterPattern.read pattern = .ok p ∧ g = ⟨f.globs ++ [p]⟩ := by
  rw [add, Except.map_eq_ok_iff]
  simp only [eq_comm]

theorem add_eq_error_iff : f.add pattern = .error e ↔ rejection? pattern = some e := by
  rw [add, Except.map_eq_error_iff, FilterPattern.read_eq_error_iff]

theorem exists_add_eq_ok_iff : (∃ g, f.add pattern = .ok g) ↔ rejection? pattern = none := by
  rw [add, Except.exists_map_eq_ok_iff, FilterPattern.exists_read_eq_ok_iff]

theorem patterns_of_add (h : f.add pattern = .ok g) : g.patterns = f.patterns ++ [pattern] := by
  obtain ⟨p, hp, rfl⟩ := add_eq_ok_iff.mp h
  rw [patterns, List.map_append, List.map_singleton, FilterPattern.written_of_read hp]
  rfl

theorem IsRead.add (hf : f.IsRead) (h : f.add pattern = .ok g) : g.IsRead := by
  obtain ⟨p, hp, rfl⟩ := add_eq_ok_iff.mp h
  refine List.forall_mem_append.mpr ⟨hf, List.forall_mem_singleton.mpr ?_⟩
  rw [FilterPattern.written_of_read hp, hp]

/-- A new pattern decides on the paths that it matches and leaves the others to the old ones. -/
theorem selects_of_add (h : f.add pattern = .ok g) (path : String) :
    (Matches pattern path → g.selects path = asksToInclude pattern) ∧
      (¬ Matches pattern path → g.selects path = f.selects path) := by
  obtain ⟨p, hp, rfl⟩ := add_eq_ok_iff.mp h
  have hreverse : (f.globs ++ [p]).reverse = p :: f.globs.reverse := List.reverse_concat ..
  rw [← FilterPattern.accepts_iff_matches hp, ← FilterPattern.includes_of_read hp]
  constructor
  · intro haccepts
    have hfind := List.find?_cons_of_pos (p := (·.accepts path)) (l := f.globs.reverse) haccepts
    simp only [selects, hreverse, hfind]
  · intro haccepts
    have hfind := List.find?_cons_of_neg (p := (·.accepts path)) (l := f.globs.reverse) haccepts
    simp only [selects, hreverse, hfind]

theorem addAll_eq_mapM (f : PathFilter) (patterns : List String) :
    f.addAll patterns =
      (patterns.mapM FilterPattern.read).map fun globs => ⟨f.globs ++ globs⟩ := by
  induction patterns generalizing f with
  | nil => simp [addAll]
  | cons pattern rest ih =>
    rw [addAll, add]
    cases hread : FilterPattern.read pattern with
    | error e => rw [Except.mapM_cons_of_error hread, Except.map_error, Except.map_error]
    | ok p =>
      rw [Except.mapM_cons_of_ok hread, Except.map_ok]
      simp only [ih]
      cases rest.mapM FilterPattern.read <;> simp

theorem patterns_of_addAll (h : f.addAll patterns = .ok g) :
    g.patterns = f.patterns ++ patterns := by
  induction patterns generalizing f with
  | nil =>
    obtain rfl := Except.ok.inj h
    rw [List.append_nil]
  | cons pattern rest ih =>
    cases hadd : f.add pattern with
    | error e => simp [addAll, hadd] at h
    | ok next =>
      rw [addAll, hadd] at h
      rw [ih h, patterns_of_add hadd, List.append_assoc, List.singleton_append]

theorem IsRead.addAll (hf : f.IsRead) (h : f.addAll patterns = .ok g) : g.IsRead := by
  induction patterns generalizing f with
  | nil => exact Except.ok.inj h ▸ hf
  | cons pattern rest ih =>
    cases hadd : f.add pattern with
    | error e => simp [PathFilter.addAll, hadd] at h
    | ok next =>
      rw [PathFilter.addAll, hadd] at h
      exact ih (hf.add hadd) h

theorem exists_ofPatterns_eq_ok_iff :
    (∃ f, ofPatterns patterns = .ok f) ↔ ∀ pattern ∈ patterns, rejection? pattern = none := by
  simp only [ofPatterns, addAll_eq_mapM, Except.exists_map_eq_ok_iff, Except.exists_mapM_eq_ok_iff,
    FilterPattern.exists_read_eq_ok_iff]

/-- Patterns make no filter because of the first of them that is rejected. -/
theorem ofPatterns_eq_error_iff :
    ofPatterns patterns = .error e ↔ patterns.findSome? rejection? = some e := by
  rw [ofPatterns, addAll_eq_mapM, Except.map_eq_error_iff, Except.mapM_eq_error_iff,
    List.findSome?_eq_some_iff]
  simp only [FilterPattern.exists_read_eq_ok_iff, FilterPattern.read_eq_error_iff]
  constructor
  · rintro ⟨before, pattern, after, hpatterns, hbefore, hpattern⟩
    exact ⟨before, pattern, after, hpatterns, hpattern, hbefore⟩
  · rintro ⟨before, pattern, after, hpatterns, hpattern, hbefore⟩
    exact ⟨before, pattern, after, hpatterns, hbefore, hpattern⟩

/-- A filter can be built again from the patterns that it lists. -/
theorem IsRead.ofPatterns_patterns (hf : f.IsRead) : ofPatterns f.patterns = .ok f := by
  have hread : f.patterns.mapM FilterPattern.read = .ok f.globs := by
    rw [Except.mapM_eq_ok_iff, PathFilter.patterns, List.forall₂_map_left_iff, List.forall₂_same]
    exact hf
  rw [ofPatterns, addAll_eq_mapM, hread, Except.map_ok]
  rfl

end Add

section Offer

variable {f : PathFilter} {pattern : String} {e : CheckError}

theorem offer_of_rejection? (h : rejection? pattern = some e) : f.offer pattern = (f, some e) := by
  rw [offer, add_eq_error_iff.mpr h]

theorem exists_offer_eq (h : rejection? pattern = none) :
    ∃ g, f.add pattern = .ok g ∧ f.offer pattern = (g, none) := by
  obtain ⟨g, hg⟩ := exists_add_eq_ok_iff.mpr h
  exact ⟨g, hg, by rw [offer, hg]⟩

theorem offerAll_cons (f : PathFilter) (pattern : String) (rest : List String) :
    f.offerAll (pattern :: rest) =
      (((f.offer pattern).1.offerAll rest).1,
        (f.offer pattern).2 :: ((f.offer pattern).1.offerAll rest).2) := rfl

/-- What is given to a filter keeps its globs readable. Which patterns are rejected does not depend
on the filter, and it lists the others behind the old ones. -/
theorem offerAll_of_isRead (hf : f.IsRead) (patterns : List String) :
    (f.offerAll patterns).1.IsRead ∧
      (f.offerAll patterns).1.patterns =
        f.patterns ++ patterns.filter (fun pattern => (rejection? pattern).isNone) ∧
      (f.offerAll patterns).2 = patterns.map rejection? := by
  induction patterns generalizing f with
  | nil => exact ⟨hf, by simp [offerAll], rfl⟩
  | cons pattern rest ih =>
    rw [offerAll_cons]
    cases hrejection : rejection? pattern with
    | some e =>
      obtain ⟨hread, hpatterns, hreplies⟩ := ih hf
      simp only [offer_of_rejection? hrejection, hpatterns, hreplies, List.map_cons, hrejection]
      refine ⟨hread, ?_, trivial⟩
      simp [hrejection]
    | none =>
      obtain ⟨g, hadd, hoffer⟩ := exists_offer_eq (f := f) hrejection
      obtain ⟨hread, hpatterns, hreplies⟩ := ih (hf.add hadd)
      simp only [hoffer, hpatterns, hreplies, patterns_of_add hadd, List.map_cons, hrejection]
      refine ⟨hread, ?_, trivial⟩
      simp [hrejection]

end Offer

section Decide

variable {f : PathFilter} {patterns : List String} {path : String} {a b : Bool}

/-- No pattern behind one that decides can decide as well. -/
theorem Verdict.pattern_eq {front front' behind behind' : List String} {pattern pattern' : String}
    (h : front ++ pattern :: behind = front' ++ pattern' :: behind')
    (hmatches : Matches pattern path) (hmatches' : Matches pattern' path)
    (hbehind : ∀ later ∈ behind, ¬ Matches later path)
    (hbehind' : ∀ later ∈ behind', ¬ Matches later path) : pattern = pattern' := by
  obtain ⟨middle, -, hrest⟩ | ⟨middle, -, hrest⟩ := List.append_eq_append_iff.mp h
  · cases middle with
    | nil => exact (List.cons.inj hrest).1
    | cons first middle =>
      have hmem : pattern' ∈ behind := by simp [(List.cons.inj hrest).2]
      exact absurd hmatches' (hbehind pattern' hmem)
  · cases middle with
    | nil => exact (List.cons.inj hrest).1.symm
    | cons first middle =>
      have hmem : pattern ∈ behind' := by simp [(List.cons.inj hrest).2]
      exact absurd hmatches (hbehind' pattern hmem)

theorem Verdict.unique (ha : Verdict patterns path a) (hb : Verdict patterns path b) : a = b := by
  cases ha with
  | decided front pattern behind h hmatches hbehind =>
    cases hb with
    | decided front' pattern' behind' h' hmatches' hbehind' =>
      rw [Verdict.pattern_eq (h.symm.trans h') hmatches hmatches' hbehind hbehind']
    | undecided hnone => exact absurd hmatches (hnone pattern (by simp [h]))
  | undecided hnone =>
    cases hb with
    | decided front pattern behind h hmatches => exact absurd hmatches (hnone pattern (by simp [h]))
    | undecided => rfl

/-- The verdict of a filter is the one of the patterns that it lists. -/
theorem IsRead.verdict (hf : f.IsRead) (path : String) : Verdict f.patterns path (f.selects path) := by
  cases hfind : f.globs.reverse.find? (·.accepts path) with
  | none =>
    have hselects : f.selects path = true := by simp only [selects, hfind]
    rw [hselects]
    refine .undecided fun pattern hpattern hmatches => ?_
    obtain ⟨p, hp, rfl⟩ := List.mem_map.mp hpattern
    exact List.find?_eq_none.mp hfind p (List.mem_reverse.mpr hp)
      ((FilterPattern.accepts_iff_matches (hf p hp)).mpr hmatches)
  | some p =>
    have hselects : f.selects path = p.includes := by simp only [selects, hfind]
    obtain ⟨haccepts, behind, front, hglobs, hbehind⟩ := List.find?_eq_some_iff_append.mp hfind
    have hglobs : f.globs = front.reverse ++ p :: behind.reverse := by
      simpa using congrArg List.reverse hglobs
    have hread : FilterPattern.read p.written = .ok p := hf p (by simp [hglobs])
    rw [hselects, FilterPattern.includes_of_read hread]
    refine .decided (front.reverse.map FilterPattern.written) p.written
      (behind.reverse.map FilterPattern.written) (by simp [PathFilter.patterns, hglobs])
      ((FilterPattern.accepts_iff_matches hread).mp haccepts) fun later hlater hmatches => ?_
    obtain ⟨q, hq, rfl⟩ := List.mem_map.mp hlater
    have hq : q ∈ behind := List.mem_reverse.mp hq
    have haccepts := (FilterPattern.accepts_iff_matches (hf q (by simp [hglobs, hq]))).mpr hmatches
    simpa [haccepts] using hbehind q hq

theorem IsRead.selects_eq_iff (hf : f.IsRead) (path : String) (verdict : Bool) :
    f.selects path = verdict ↔ Verdict f.patterns path verdict :=
  ⟨fun h => h ▸ hf.verdict path, (hf.verdict path).unique⟩

end Decide

/-- However patterns are given to a filter, it lists those that are accepted as they were written,
and could be built from them at once. The last of them to match a path decides. What is rejected
changes nothing, and what is accepted changes only verdicts on paths that it matches. -/
theorem selects_offerAll_eq_iff_verdict (first later : List String) :
    ((∃ f, ofPatterns first = .ok f) ↔ ∀ pattern ∈ first, rejection? pattern = none) ∧
    (∀ e, ofPatterns first = .error e ↔ first.findSome? rejection? = some e) ∧
    ∀ f, ofPatterns first = .ok f →
      let g := (f.offerAll later).1
      let accepted := first ++ later.filter fun pattern => (rejection? pattern).isNone
      (f.offerAll later).2 = later.map rejection? ∧
      g.patterns = accepted ∧ ofPatterns accepted = .ok g ∧
      (∀ path verdict, g.selects path = verdict ↔ Verdict accepted path verdict) ∧
      ∀ pattern,
        (∀ e, rejection? pattern = some e → g.offer pattern = (g, some e)) ∧
        (rejection? pattern = none → ∃ h, g.offer pattern = (h, none) ∧
          h.patterns = accepted ++ [pattern] ∧ ∀ path,
            (Matches pattern path → h.selects path = asksToInclude pattern) ∧
            (¬ Matches pattern path → h.selects path = g.selects path)) := by
  refine ⟨exists_ofPatterns_eq_ok_iff, fun e => ofPatterns_eq_error_iff, fun f hfirst => ?_⟩
  intro g accepted
  have hf : f.IsRead := isRead_nil.addAll hfirst
  have hlisted : f.patterns = first := patterns_of_addAll hfirst
  obtain ⟨hg, hpatterns, hreplies⟩ := offerAll_of_isRead hf later
  have hpatterns : g.patterns = accepted := by rw [hpatterns, hlisted]
  refine ⟨hreplies, hpatterns, hpatterns ▸ hg.ofPatterns_patterns, ?_, fun pattern => ⟨?_, ?_⟩⟩
  · rw [← hpatterns]
    exact hg.selects_eq_iff
  · intro e hrejection
    exact offer_of_rejection? hrejection
  · intro haccepted
    obtain ⟨h, hadd, hoffer⟩ := exists_offer_eq (f := g) haccepted
    exact ⟨h, hoffer, by rw [patterns_of_add hadd, hpatterns], selects_of_add hadd⟩

/-- A folder of built files is included again behind a pattern that cannot be read. -/
theorem selects_keptFolder :
    ∃ f, ofPatterns ["*.md", "**/build/**"] = .ok f ∧
      (f.offerAll ["src/[open", "!**/build/keep/**"]).1.patterns =
        ["*.md", "**/build/**", "!**/build/keep/**"] ∧
      (f.offerAll ["src/[open", "!**/build/keep/**"]).1.selects "a/build/keep/A.java" = true := by
  obtain ⟨hsome, -, hbuilt⟩ := selects_offerAll_eq_iff_verdict ["*.md", "**/build/**"]
    ["src/[open", "!**/build/keep/**"]
  obtain ⟨f, hf⟩ := hsome.mpr (by decide)
  obtain ⟨-, hpatterns, -, hverdict, -⟩ := hbuilt f hf
  have hmatches : Matches "!**/build/keep/**" "a/build/keep/A.java" :=
    ⟨_, _, rfl, rfl, by decide⟩
  refine ⟨f, hf, hpatterns.trans (by decide), (hverdict _ _).mpr ?_⟩
  exact .decided ["*.md", "**/build/**"] _ [] (by decide) hmatches (by simp)

section Default

open CodeStyle.Path (IsName)

variable {f : PathFilter} {path : String}

end Default

end PathFilter

end CodeStyle
