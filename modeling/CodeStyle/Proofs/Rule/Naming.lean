import CodeStyle.Proofs.Regex.Start
import CodeStyle.Proofs.Rule.Message

/-!
# Names and their patterns

A rule about names reports every name that its pattern does not accept. The usual patterns accept no
names but those that start with a capital letter, or none but those that start with a small one.
-/
namespace CodeStyle

namespace NamePattern

/-- Whether a pattern can be read and is seen to accept no names but those that start with a
character between two others. -/
def opensIn (first last : Char) (pattern : String) : Bool :=
  (read pattern).toOption.any fun p => p.regex.isAtStart && p.regex.opensIn first last

theorem opensIn_constant : opensIn 'A' 'Z' "[A-Z][A-Z_]*" = true := by decide +kernel

theorem opensIn_field : opensIn 'a' 'z' "^[a-z][a-zA-Z0-9]*$" = true := by decide +kernel

theorem opensIn_localVariable : opensIn 'a' 'z' "[a-z][a-zA-Z0-9]*" = true := by decide +kernel

variable {pattern : String} {first last : Char} {p : NamePattern}

theorem opensIn_of_read_eq_ok (h : opensIn first last pattern = true) (hp : read pattern = .ok p) :
    p.regex.isAtStart = true ∧ p.regex.opensIn first last = true := by
  rw [opensIn, hp] at h
  exact Bool.and_eq_true_iff.mp h

theorem exists_read_eq_ok_of_opensIn (h : opensIn first last pattern = true) :
    ∃ p, read pattern = .ok p := by
  cases hread : read pattern with
  | ok p => exact ⟨p, rfl⟩
  | error e => simp [opensIn, hread, Except.toOption] at h

/-- A name that starts with another character is refused. -/
theorem accepts_eq_false_of_head? {name : String} {c : Char} (hp : read pattern = .ok p)
    (hopen : opensIn first last pattern = true) (hc : name.toList.head? = some c)
    (hother : c < first ∨ last < c) : p.accepts name = false := by
  refine Bool.eq_false_iff.mpr fun haccepts => ?_
  obtain ⟨hstart, hopen⟩ := opensIn_of_read_eq_ok hopen hp
  obtain ⟨c', hc', hle, hge⟩ := Regex.head?_of_isMatch haccepts hstart hopen
  obtain rfl : c = c' := Option.some.inj (hc.symm.trans hc')
  exact hother.elim (Char.not_le.mpr · hle) (Char.not_le.mpr · hge)

/-- A name that a pattern for capital letters accepts is refused by one for small letters. -/
theorem accepts_eq_false_of_accepts {pattern' : String} {p' : NamePattern} {name : String}
    (hp : read pattern = .ok p) (hcapital : opensIn 'A' 'Z' pattern = true)
    (hp' : read pattern' = .ok p') (hsmall : opensIn 'a' 'z' pattern' = true)
    (h : p.accepts name = true) : p'.accepts name = false := by
  obtain ⟨hstart, hopen⟩ := opensIn_of_read_eq_ok hcapital hp
  obtain ⟨hstart', hopen'⟩ := opensIn_of_read_eq_ok hsmall hp'
  exact Regex.isMatch_eq_false_of_isMatch h hstart hopen hstart' hopen' (.inl (by decide))

end NamePattern

section Checks

variable {disk : Disk} {path : String} {s : Source}

/-- A rule about names reports the names that its pattern does not accept, all over the tree. -/
theorem Criterion.mem_check_naming_iff {subject : NameSubject} {key pattern : String}
    {language : Language} {check : Check}
    (hcheck : (Criterion.naming subject key pattern).check language = .ok check)
    (hs : disk.source path = .ok s) (hparses : s.parses = true) :
    ∃ p vs, NamePattern.read pattern = .ok p ∧ check disk path = .ok vs ∧
      ∀ v, v ∈ vs ↔ ∃ t ∈ s.tree.preorder, ∃ u ∈ subject.uses t,
        p.accepts (s.stringOf u.name) = false ∧
          v = ⟨path, s.line u.place, subject.message (s.stringOf u.name) pattern⟩ := by
  obtain ⟨vs, hvs⟩ := Criterion.exists_check_eq_ok rfl hcheck hs hparses
  obtain rfl : s.path = path := (Disk.find_of_source_eq_ok hs).1
  obtain ⟨p, hp, rfl⟩ := Except.map_eq_ok_iff.mp hcheck
  refine ⟨p, vs, hp, hvs, fun v => ?_⟩
  rw [Check.ofSource_eq hs hparses] at hvs
  rw [SyntaxTree.mem_of_walk_eq_ok_iff hvs]
  refine exists_congr fun t => and_congr_right fun _ => ?_
  simp [NameSubject.mem_visit_iff, NamePattern.text_of_read_eq_ok hp]

end Checks

end CodeStyle
