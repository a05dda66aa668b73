import CodeStyle.Proofs.Excerpt.Existence
import CodeStyle.Proofs.SyntaxTree.Fit
import CodeStyle.SyntaxTree.Problems

/-!
# Nodes and the lines of their source

The tree counts bytes and line feeds, an excerpt looks for lines. Every node of a tree that fits
its text has an excerpt, except where the two disagree: a text that is empty or ends with a line
feed has a last row but no last line, and a line ends in front of the carriage return of its line
end.
-/
namespace CodeStyle.Source

open Text

/-- The nodes of a source that can be quoted from its text, and the errors of the others. -/
theorem exists_excerpt_span_iff {s : Source} (hfits : s.tree.fits s.text = true) {t : SyntaxTree}
    (ht : SyntaxTree.IsNodeOf s.tree t) :
    ((∃ excerpt, Excerpt.ofText s.path s.text (s.span t) = .ok excerpt) ↔
      (t.info.stop < byteLength s.text ∨ (s.stop t).column ≠ 0) ∧
        isInLineEnd s.text t.info.start = false ∧
        (isInLineEnd s.text t.info.stop = false ∨
          (s.start t).line ≠ (s.stop t).line ∧ (s.stop t).column = 1)) := by
  have hnode := ht.fits hfits
  obtain ⟨hstart, hstop, -⟩ := SyntaxTree.fits_iff.mp hnode
  have h := @Excerpt.exists_ofText_stopPosition_iff s.path _ _ _
    (SyntaxTree.start_le_stop hnode) hstart hstop
  simpa only [span, start, stop, startPosition, stopPosition, ne_eq, Nat.add_right_cancel_iff]
    using h

/-- Whether the text from the start of a node up to the first character of its body has an excerpt.
That character has to be a single byte of its line, or the first of a later line, of which nothing
is taken. -/
def HasHead (s : Source) (t body : SyntaxTree) : Prop :=
  isInLineEnd s.text t.info.start = false ∧
    (isLineByte s.text body.info.start = true ∨ (s.start t).line ≠ (s.start body).line ∧
      (s.start body).column = 1 ∧ body.info.start < byteLength s.text)

instance (s : Source) (t body : SyntaxTree) : Decidable (s.HasHead t body) :=
  inferInstanceAs (Decidable (_ ∧ _))

theorem exists_excerpt_head_iff {s : Source} (hfits : s.tree.fits s.text = true)
    {t body : SyntaxTree} (ht : SyntaxTree.IsNodeOf s.tree t) (hbody : body ∈ t.children) :
    (∃ excerpt, Excerpt.ofText s.path s.text ⟨s.start t, s.start body⟩ = .ok excerpt) ↔
      s.HasHead t body := by
  have hnode := ht.fits hfits
  obtain ⟨hchild, hle, -⟩ := SyntaxTree.fits_of_mem_children hnode hbody
  have h := @Excerpt.exists_ofText_startPosition_iff s.path _ _ _ hle
    (SyntaxTree.fits_iff.mp hnode).1 (SyntaxTree.fits_iff.mp hchild).1
  simpa only [HasHead, start, startPosition, ne_eq, Nat.add_right_cancel_iff, Nat.add_eq_right]
    using h

/-- A file with two fields and line ends of both kinds. -/
def twoFields : Source where
  path := "A.java"
  text := "int é;\r\nint b;\n".toList
  tree := .named "program" none 0 16 [
    .named "field_declaration" none 0 7 [],
    .named "field_declaration" none 9 15 []]

/-- Both fields can be quoted, the file as a whole cannot. -/
theorem twoFields_excerpts :
    twoFields.tree.fits twoFields.text = true ∧
      (∀ t ∈ twoFields.tree.children,
        ∃ excerpt, Excerpt.ofText "A.java" twoFields.text (twoFields.span t) = .ok excerpt) ∧
      ¬ ∃ excerpt,
        Excerpt.ofText "A.java" twoFields.text (twoFields.span twoFields.tree) = .ok excerpt :=
  have hfits : twoFields.tree.fits twoFields.text = true := by decide
  ⟨hfits, fun _ ht => (exists_excerpt_span_iff hfits (.child .root ht)).mpr (by
      rcases List.mem_cons.mp ht with rfl | ht
      · decide
      · rw [List.mem_singleton.mp ht]
        decide),
    fun h => absurd ((exists_excerpt_span_iff hfits .root).mp h) (by decide)⟩

/-- A file without any text. -/
def blank : Source := ⟨"A.java", [], .named "program" none 0 0 []⟩

/-- A text without lines parses, and its tree cannot be quoted. -/
theorem blank_past_end : blank.parses = true ∧ blank.tree.fits blank.text = true ∧
    Excerpt.ofText blank.path blank.text (blank.span blank.tree) =
      .error (.extraction "A.java" "line 1 is past the end of the file") :=
  ⟨rfl, rfl, rfl⟩

end CodeStyle.Source
