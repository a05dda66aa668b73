import CodeStyle.Disk.Read
import CodeStyle.Proofs.Except

/-!
# What is read from a disk

A file that is read as a source holds the text of the source, and excerpts of the file are excerpts
of that text.
-/
namespace CodeStyle.Disk

variable {d : Disk} {path : String} {s : Source}

theorem find_of_source_eq_ok (h : d.source path = .ok s) :
    s.path = path ∧ ∃ name, d.find true path = .ok (.file name (.text s.text s.tree)) := by
  unfold source read at h
  split at h
  · rename_i name chars tree hfind
    obtain rfl : Source.mk path chars tree = s := Except.ok.inj h
    exact ⟨rfl, name, hfind⟩
  all_goals contradiction

/-- A file is quoted as its text. -/
theorem excerpt_eq_ofText (h : d.source path = .ok s) (span : Span) :
    d.excerpt path span = Excerpt.ofText path s.text span := by
  obtain ⟨-, name, hfind⟩ := find_of_source_eq_ok h
  simp [excerpt, lines, hfind, Content.lines, Excerpt.ofText]

/-- An entry of the working directory that is no link is found by its name. -/
theorem find_eq_ok_of_entry {e : Entry} (hsteps : steps path = [path])
    (hpath : path ≠ "" ∧ path ≠ "." ∧ path ≠ ".." ∧ isTooLong path = false)
    (hentry : Entry.below? d.entries [path] = some e)
    (hlink : ∀ name target, e ≠ .link name target) : d.find true path = .ok e := by
  obtain ⟨hempty, hdot, hup, hlong⟩ := hpath
  have hroute : d.route true false path = .ok [path] := by
    cases e with
    | link name target => exact absurd rfl (hlink name target)
    | _ =>
      simp [route, hempty, hlong, hsteps, follow, hdot, hup, hentry, Entry.below?, Entry.isFolder]
  simp [find, hroute, hentry]

/-- A path leads nowhere if its first step names no entry. -/
theorem find_eq_error_missing {first : String} {rest : List String}
    (hsteps : steps path = first :: rest)
    (hfirst : path ≠ "" ∧ isTooLong path = false ∧ first ≠ "" ∧ first ≠ "." ∧ first ≠ "..")
    (hentry : Entry.below? d.entries [first] = none) : d.find true path = .error .missing := by
  obtain ⟨hpath, hlong, hempty, hdot, hup⟩ := hfirst
  have hroute : d.route true false path = .error .missing := by
    simp [route, hpath, hlong, hsteps, follow, hempty, hdot, hup, hentry, Entry.below?,
      Entry.isFolder]
  simp [find, hroute]

theorem source_eq_ok_of_find {name : String} {chars : List Char} {tree : SyntaxTree}
    (hfind : d.find true path = .ok (.file name (.text chars tree))) :
    d.source path = .ok ⟨path, chars, tree⟩ := by
  simp [source, read, hfind]

/-- A file that is all that a disk holds is read as a source. -/
theorem source_eq_ok_of_singleton (hsteps : steps path = [path])
    (hpath : path ≠ "" ∧ path ≠ "." ∧ path ≠ ".." ∧ isTooLong path = false)
    (chars : List Char) (tree : SyntaxTree) :
    source ⟨[.file path (.text chars tree)]⟩ path = .ok ⟨path, chars, tree⟩ := by
  have hentry : Entry.below? [.file path (.text chars tree)] [path] =
      some (.file path (.text chars tree)) := by
    simp [Entry.below?, Entry.name]
  exact source_eq_ok_of_find
    (find_eq_ok_of_entry hsteps hpath hentry fun _ _ => Entry.noConfusion)

end CodeStyle.Disk
