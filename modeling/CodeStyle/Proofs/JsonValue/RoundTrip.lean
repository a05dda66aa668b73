import CodeStyle.Proofs.JsonValue.Written

/-!
# Reading printed text

The space in an indented text stands where the format allows it, and text on one line has none. So
both are read back as the value they were printed from.
-/
namespace CodeStyle.JsonValue

/-- A value in which all numbers are whole numbers that are not negative. -/
inductive HasWholeNumbers : JsonValue → Prop
  | null : HasWholeNumbers null
  | bool (b : Bool) : HasWholeNumbers (bool b)
  | nat (n : Nat) : HasWholeNumbers (nat n)
  | string (s : String) : HasWholeNumbers (string s)
  | array {items : List JsonValue} (h : ∀ v ∈ items, HasWholeNumbers v) :
      HasWholeNumbers (array items)
  | object {fields : List (String × JsonValue)} (h : ∀ field ∈ fields, HasWholeNumbers field.2) :
      HasWholeNumbers (object fields)

theorem HasWholeNumbers.array_map {α : Type} {encode : α → JsonValue}
    (h : ∀ a, HasWholeNumbers (encode a)) (as : List α) :
    HasWholeNumbers (JsonValue.array (as.map encode)) := by
  refine .array fun item hitem => ?_
  obtain ⟨a, -, rfl⟩ := List.mem_map.mp hitem
  exact h a

theorem HasWholeNumbers.strings (ss : List String) : HasWholeNumbers (strings ss) :=
  .array_map .string ss

theorem compactItems_eq_map (items : List JsonValue) : compactItems items = items.map compact := by
  induction items with
  | nil => rfl
  | cons v items ih => rw [compactItems, ih, List.map_cons]

theorem compactFields_eq_map (fields : List (String × JsonValue)) :
    compactFields fields = fields.map fun field => quote field.1 ++ ":" ++ compact field.2 := by
  induction fields with
  | nil => rfl
  | cons field fields ih => rw [compactFields, ih, List.map_cons]

theorem prettyItems_eq_map (level : Nat) (items : List JsonValue) :
    prettyItems level items = items.map (pretty level) := by
  induction items with
  | nil => rfl
  | cons v items ih => rw [prettyItems, ih, List.map_cons]

theorem prettyFields_eq_map (level : Nat) (fields : List (String × JsonValue)) :
    prettyFields level fields =
      fields.map fun field => quote field.1 ++ ": " ++ pretty level field.2 := by
  induction fields with
  | nil => rfl
  | cons field fields ih => rw [prettyFields, ih, List.map_cons]

section Lists

variable {before colon after : List Char}

/-- Texts of items with commas between them, each behind the same space. -/
theorem areItems_intercalate (hbefore : IsGap before) (hafter : IsGap after)
    (text : JsonValue → List Char) {items : List JsonValue} (hne : items ≠ [])
    (h : ∀ v ∈ items, IsWritten v (text v)) :
    AreItems items (before ++ ((',' :: before).intercalate (items.map text) ++ after)) := by
  induction items with
  | nil => contradiction
  | cons v items ih =>
    obtain ⟨hv, hrest⟩ := List.forall_mem_cons.mp h
    cases items with
    | nil =>
      exact ⟨before, text v, after, [], by simp, hbefore, hv, hafter, .inl ⟨rfl, rfl⟩⟩
    | cons w items =>
      have hmore := ih (List.cons_ne_nil _ _) hrest
      exact ⟨before, text v, [], _, by simp, hbefore, hv, nofun, .inr ⟨List.cons_ne_nil _ _, _, rfl,
        hmore⟩⟩

/-- Texts of fields with commas between them, each behind the same space and with the same space
behind its colon. -/
theorem areFields_intercalate (hbefore : IsGap before) (hcolon : IsGap colon) (hafter : IsGap after)
    (text : JsonValue → List Char) {fields : List (String × JsonValue)} (hne : fields ≠ [])
    (h : ∀ field ∈ fields, IsWritten field.2 (text field.2)) :
    AreFields fields (before ++ ((',' :: before).intercalate
      (fields.map fun field => (quote field.1).toList ++ ':' :: (colon ++ text field.2)) ++
        after)) := by
  induction fields with
  | nil => contradiction
  | cons field fields ih =>
    obtain ⟨hv, hrest⟩ := List.forall_mem_cons.mp h
    cases fields with
    | nil =>
      exact ⟨before, colon, text field.2, after, [], by simp, hbefore, hcolon, hv, hafter,
        .inl ⟨rfl, rfl⟩⟩
    | cons other fields =>
      have hmore := ih (List.cons_ne_nil _ _) hrest
      exact ⟨before, colon, text field.2, [], _, by simp, hbefore, hcolon, hv, nofun,
        .inr ⟨List.cons_ne_nil _ _, _, rfl, hmore⟩⟩

end Lists

theorem isGap_newLine (level : Nat) : IsGap (newLine level).toList := by
  intro c hc
  have hcases : c = '\n' ∨ c = ' ' := by
    simp only [newLine, String.toList_append, String.toList_ofList, List.mem_append,
      List.mem_replicate] at hc
    exact hc.imp (by simp) And.right
  rcases hcases with rfl | rfl <;> rfl

theorem toList_bracket_nil (level : Nat) (opening closing : String) :
    (bracket level opening closing []).toList = opening.toList ++ closing.toList := by
  simp [bracket]

/-- The text between brackets, if there are parts. -/
theorem toList_bracket {level : Nat} {opening closing : String} {parts : List String}
    (h : parts ≠ []) :
    (bracket level opening closing parts).toList = opening.toList ++ ((newLine (level + 1)).toList ++
      ((',' :: (newLine (level + 1)).toList).intercalate (parts.map String.toList) ++
        (newLine level).toList) ++ closing.toList) := by
  have hempty : parts.isEmpty = false := by simpa using h
  simp [bracket, hempty, String.toList_intercalate, String.toList_append]

/-- An indented text writes its value. -/
theorem isWritten_pretty {v : JsonValue} (h : HasWholeNumbers v) (level : Nat) :
    IsWritten v (pretty level v).toList := by
  induction h generalizing level with
  | null => rfl
  | bool b => rfl
  | nat n => exact ⟨⟨n, rfl⟩, rfl⟩
  | string s => rfl
  | @array items _ ih =>
    rw [pretty, prettyItems_eq_map]
    by_cases hitems : items = []
    · subst hitems
      exact ⟨[], toList_bracket_nil level _ _, nofun⟩
    · rw [toList_bracket (by simpa using hitems), List.map_map]
      exact ⟨_, rfl, areItems_intercalate (isGap_newLine _) (isGap_newLine _) _ hitems
        fun v hv => ih v hv (level + 1)⟩
  | @object fields _ ih =>
    rw [pretty, prettyFields_eq_map]
    by_cases hfields : fields = []
    · subst hfields
      exact ⟨[], toList_bracket_nil level _ _, nofun⟩
    · rw [toList_bracket (by simpa using hfields), List.map_map]
      have htext : (String.toList ∘ fun field : String × JsonValue =>
          quote field.1 ++ ": " ++ pretty (level + 1) field.2) = fun field =>
            (quote field.1).toList ++ ':' :: ([' '] ++ (pretty (level + 1) field.2).toList) := by
        funext field
        simp
      have hspace : IsGap [' '] := by
        rintro c hc
        obtain rfl := List.mem_singleton.mp hc
        rfl
      rw [htext]
      exact ⟨_, rfl, areFields_intercalate (isGap_newLine _) hspace (isGap_newLine _)
        (fun v => (pretty (level + 1) v).toList) hfields
        fun field hfield => ih field hfield (level + 1)⟩

/-- A text on one line writes its value. -/
theorem isWritten_compact {v : JsonValue} (h : HasWholeNumbers v) : IsWritten v v.compact.toList := by
  have hnone : IsGap [] := nofun
  induction h with
  | null => rfl
  | bool b => rfl
  | nat n => exact ⟨⟨n, rfl⟩, rfl⟩
  | string s => rfl
  | @array items _ ih =>
    rw [compact, compactItems_eq_map]
    by_cases hitems : items = []
    · subst hitems
      exact ⟨[], by simp, hnone⟩
    · refine ⟨_, ?_, areItems_intercalate hnone hnone (fun v => v.compact.toList) hitems ih⟩
      simp [String.toList_intercalate, Function.comp_def]
  | @object fields _ ih =>
    rw [compact, compactFields_eq_map]
    by_cases hfields : fields = []
    · subst hfields
      exact ⟨[], by simp, hnone⟩
    · refine ⟨_, ?_, areFields_intercalate hnone hnone hnone (fun v => v.compact.toList) hfields ih⟩
      simp [String.toList_intercalate, Function.comp_def]

/-- A text that writes a value and nothing else is read as this value. -/
theorem read?_of_isWritten {v : JsonValue} {cs : List Char} (h : IsWritten v cs) :
    read? cs = some v := by
  have hread : readValue (2 * cs.length + 2) (cs ++ []) = some (v, []) :=
    readValue_of_isWritten v h (by omega) nofun
  rw [List.append_nil] at hread
  simp [read?, hread, skipSpace]

/-- Printing loses nothing. -/
theorem read?_pretty {v : JsonValue} (h : HasWholeNumbers v) : read? (v.pretty 0).toList = some v :=
  read?_of_isWritten (isWritten_pretty h 0)

end CodeStyle.JsonValue
