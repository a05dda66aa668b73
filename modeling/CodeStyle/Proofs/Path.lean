import CodeStyle.Language
import CodeStyle.Proofs.Violation

/-!
# Names behind a path

The name of an entry is one component, and joined to a path it comes behind the components of the
path, however the path ends. Paths with a common beginning compare by what follows it.
-/
namespace CodeStyle

theorem PathPart.compare_name_eq_lt {a b : String} (h : a < b) :
    compare (name a) (name b) = .lt := by
  show Ord.compare a b = .lt
  exact if_pos h

namespace Path

/-- Whether an entry of a folder can have a name: it is one piece of a path and stands for itself
there. -/
def IsName (text : String) : Prop :=
  '/' ∉ text.toList ∧ text ≠ "" ∧ text ≠ "." ∧ text ≠ ".."

instance (text : String) : Decidable (IsName text) :=
  inferInstanceAs (Decidable (_ ∧ _ ∧ _ ∧ _))

section Pieces

variable {path name : String}

theorem pieces_ne_nil (path : String) : pieces path ≠ [] := by
  intro hnil
  exact List.splitOn_ne_nil '/' path.toList (List.map_eq_nil_iff.mp hnil)

/-- A text without a separator is one piece. -/
theorem pieces_eq_singleton (h : '/' ∉ name.toList) : pieces name = [name] := by
  rw [pieces, List.splitOn_eq_singleton h, List.map_singleton, String.ofList_toList]

theorem pieces_append_separator (base path : String) :
    pieces (base ++ "/" ++ path) = pieces base ++ pieces path := by
  have hchars : (base ++ "/" ++ path).toList = base.toList ++ '/' :: path.toList := by
    simp [String.toList_append]
  rw [pieces, hchars, List.splitOn_append_cons_self, List.map_append]
  rfl

theorem pieces_eq_singleton_empty_iff : pieces path = [""] ↔ path = "" := by
  constructor
  · intro h
    obtain ⟨first, hsplit, hfirst⟩ := List.map_eq_singleton_iff.mp h
    obtain rfl : first = [] := by simpa using hfirst
    have hchars : ['/'].intercalate (path.toList.splitOn '/') = path.toList :=
      List.intercalate_splitOn '/'
    rw [hsplit] at hchars
    exact String.toList_eq_nil_iff.mp hchars.symm
  · rintro rfl
    rfl

/-- Texts without separators are the pieces of what they are joined to. -/
theorem pieces_intercalate {names : List String} (h : ∀ name ∈ names, '/' ∉ name.toList)
    (hne : names ≠ []) : pieces ("/".intercalate names) = names := by
  have hsplit : (("/".intercalate names).toList.splitOn '/') = names.map String.toList := by
    rw [String.toList_intercalate]
    refine List.splitOn_intercalate '/' (fun chars hchars => ?_) (by simpa using hne)
    obtain ⟨name, hname, rfl⟩ := List.mem_map.mp hchars
    exact h name hname
  rw [pieces, hsplit, List.map_map]
  simp [Function.comp_def]

end Pieces

theorem inner?_of_isName {name : String} (h : IsName name) : inner? name = some (.name name) := by
  obtain ⟨-, hempty, hhere, hup⟩ := h
  simp [inner?, hempty, hhere, hup]

/-- What follows a separator adds the components inside it. -/
theorem parts_append_separator (base path : String) :
    parts (base ++ "/" ++ path) =
      (if base = "" then [.root] else parts base) ++ (pieces path).filterMap inner? := by
  cases hpieces : pieces base with
  | nil => exact absurd hpieces (pieces_ne_nil base)
  | cons first rest =>
    have hbase : base = "" ↔ first = "" ∧ rest = [] := by
      rw [← pieces_eq_singleton_empty_iff, hpieces, List.cons.injEq]
    have hjoined : pieces (base ++ "/" ++ path) = first :: (rest ++ pieces path) := by
      rw [pieces_append_separator, hpieces, List.cons_append]
    have hmore : (rest ++ pieces path).isEmpty = false := by simp [pieces_ne_nil]
    simp only [parts, hjoined, hpieces, hbase, hmore, List.filterMap_append]
    by_cases hfirst : first = ""
    · cases rest <;> simp [hfirst]
    · by_cases hhere : first = "." <;> simp [hfirst, hhere]

theorem parts_of_isName {name : String} (h : IsName name) : parts name = [.name name] := by
  have hpieces : pieces name = [name] := pieces_eq_singleton h.1
  have hinner : inner? name = some (.name name) := inner?_of_isName h
  obtain ⟨-, hempty, hhere, -⟩ := h
  simp [parts, hpieces, hempty, hhere, hinner]

/-- A name that is joined to a path adds one component. -/
theorem parts_join {name : String} (base : String) (h : IsName name) :
    parts (join base name) = parts base ++ [.name name] := by
  have hlast : (pieces name).filterMap inner? = [.name name] := by
    simp [pieces_eq_singleton h.1, inner?_of_isName h]
  by_cases hempty : base = ""
  · rw [hempty, join, if_pos (by simp), String.empty_append, parts_of_isName h]
    rfl
  by_cases hend : base.endsWith "/" = true
  · obtain ⟨front, hfront⟩ : ∃ front, base = front ++ "/" := by
      rw [String.endsWith_eq_endsWith_toSlice, String.Slice.endsWith_string_iff] at hend
      obtain ⟨chars, hchars⟩ := hend
      refine ⟨String.ofList chars, String.toList_inj.mp ?_⟩
      simpa using hchars.symm
    have hbase : base = front ++ "/" ++ "" := by rw [hfront, String.append_empty]
    have hinside : (pieces "").filterMap inner? = [] := rfl
    rw [join, if_pos (by simp [hend]), hfront, parts_append_separator, hlast, ← hfront, hbase,
      parts_append_separator, hinside, List.append_nil]
  · rw [join, if_neg (by simp [hempty, hend]), parts_append_separator, if_neg hempty, hlast]

theorem fileName?_of_parts {path name : String} {front : List PathPart}
    (h : parts path = front ++ [.name name]) : fileName? path = some name := by
  simp [fileName?, h]

theorem compareParts_append_left (front as bs : List PathPart) :
    compareParts (front ++ as) (front ++ bs) = compareParts as bs := by
  induction front with
  | nil => rfl
  | cons part front ih =>
    have hself : part.compare part = .eq := Std.ReflCmp.compare_self
    rw [List.cons_append, List.cons_append, compareParts, hself, ih]
    rfl

end Path

/-- A file is checked if its name ends in one of three extensions, in any case of letters. -/
theorem Language.isSome_ofExtension?_iff {extension : String} :
    (ofExtension? extension).isSome = true ↔
      extension.map Char.toLower ∈ ["java", "c", "h"] := by
  unfold ofExtension?
  split <;> simp_all

end CodeStyle
