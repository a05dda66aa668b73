import CodeStyle.JsonValue.Printer
import CodeStyle.JsonValue.Reader
import Mathlib.Data.List.DropRight
import Mathlib.Data.List.TakeDrop

/-!
# Reading what has been written

A value is written with white space wherever the format allows it. Whatever space there is, reading
gives the value back. Indented text is one such form, so nothing is lost in it.
-/
namespace CodeStyle.JsonValue

/-- White space between the parts of a value. -/
def IsGap (cs : List Char) : Prop := ∀ c ∈ cs, isSpace c = true

/-- Whether what follows a number is no part of it. -/
def EndsNumber (rest : List Char) : Prop :=
  ∀ c ∈ rest.head?, c.isDigit = false ∧ c ≠ '.' ∧ c ≠ 'e' ∧ c ≠ 'E'

mutual

/-- Whether a text writes a value. Numbers are written as whole numbers. -/
def IsWritten : JsonValue → List Char → Prop
  | null, cs => cs = "null".toList
  | bool b, cs => cs = (boolText b).toList
  | number digits, cs => (∃ n : Nat, digits = toString n) ∧ cs = digits.toList
  | string s, cs => cs = (quote s).toList
  | array items, cs => ∃ inside, cs = '[' :: (inside ++ [']']) ∧ AreItems items inside
  | object fields, cs => ∃ inside, cs = '{' :: (inside ++ ['}']) ∧ AreFields fields inside

/-- Whether a text writes the items of an array. -/
def AreItems : List JsonValue → List Char → Prop
  | [], cs => IsGap cs
  | v :: items, cs => ∃ before text after tail, cs = before ++ (text ++ (after ++ tail)) ∧
      IsGap before ∧ IsWritten v text ∧ IsGap after ∧
      ((items = [] ∧ tail = []) ∨ (items ≠ [] ∧ ∃ more, tail = ',' :: more ∧ AreItems items more))

/-- Whether a text writes the fields of an object. -/
def AreFields : List (String × JsonValue) → List Char → Prop
  | [], cs => IsGap cs
  | (key, v) :: fields, cs => ∃ before colon text after tail,
      cs = before ++ ((quote key).toList ++ (':' :: (colon ++ (text ++ (after ++ tail))))) ∧
      IsGap before ∧ IsGap colon ∧ IsWritten v text ∧ IsGap after ∧
      ((fields = [] ∧ tail = []) ∨
        (fields ≠ [] ∧ ∃ more, tail = ',' :: more ∧ AreFields fields more))

end

section Gaps

variable {gap cs : List Char}

theorem skipSpace_gap_append (h : IsGap gap) : skipSpace (gap ++ cs) = skipSpace cs :=
  List.dropWhile_append_of_pos h

theorem eq_of_isSpace {c : Char} (h : isSpace c = true) :
    c = ' ' ∨ c = '\n' ∨ c = '\t' ∨ c = '\r' := by
  simpa [isSpace] using h

/-- Space is no digit. -/
theorem isSpace_of_isDigit {c : Char} (h : c.isDigit = true) : isSpace c = false := by
  by_contra hspace
  rcases eq_of_isSpace (by simpa using hspace) with rfl | rfl | rfl | rfl <;> contradiction

theorem skipSpace_cons {c : Char} (h : isSpace c = false) : skipSpace (c :: cs) = c :: cs := by
  simp [skipSpace, h]

/-- Space in front of a value is passed over. -/
theorem readValue_gap_append (h : IsGap gap) (fuel : Nat) :
    readValue fuel (gap ++ cs) = readValue fuel cs := by
  cases fuel with
  | zero => simp [readValue]
  | succ fuel => rw [readValue, readValue, skipSpace_gap_append h]

end Gaps

section Strings

variable {fuel : Nat} {done rest : List Char}

theorem hexNumber?_of_control : ∀ n < 0x20,
    Text.hexNumber? ['0', '0', Nat.digitChar (n / 16), Nat.digitChar (n % 16)] = some n := by
  decide

/-- A character stands for itself between quotes, or it is read back from an escape. -/
theorem escape_cases (c : Char) :
    (escape c = [c] ∧ c ≠ '"' ∧ c ≠ '\\' ∧ ¬ c.toNat < 0x20) ∨
      ∃ body, escape c = '\\' :: body ∧
        ∀ rest, readEscape? (body ++ rest) = some (c, rest) := by
  unfold escape
  split
  case h_8 =>
    rename_i hquote hbackslash _ _ _ _ _
    split
    · rename_i hcontrol
      refine .inr ⟨_, rfl, fun rest => ?_⟩
      have hchar : Text.charOf? c.toNat = some c := by
        have hvalid : c.toNat.isValidChar := c.valid
        rw [Text.charOf?, if_pos hvalid, Char.ofNat_toNat]
      have hnumber := hexNumber?_of_control c.toNat hcontrol
      simp only [List.cons_append, List.nil_append, readEscape?, readNumberEscape?, Text.hexPrefix?,
        List.take_succ_cons, List.take_zero, List.length_cons, List.length_nil, hnumber,
        if_true, hchar]
      have hplain : ¬ (0xd800 ≤ c.toNat ∧ c.toNat < 0xdc00) := by omega
      simp [hplain]
    · rename_i hplain
      exact .inl ⟨rfl, hquote, hbackslash, hplain⟩
  all_goals exact .inr ⟨_, rfl, fun rest => rfl⟩

/-- A text is read back from between quotes. -/
theorem readString_flatMap_escape (s : List Char) (hfuel : (s.flatMap escape).length < fuel) :
    readString fuel done (s.flatMap escape ++ '"' :: rest) =
      some (String.ofList (done.reverse ++ s), rest) := by
  induction s generalizing fuel done with
  | nil =>
    obtain ⟨fuel, rfl⟩ := Nat.exists_eq_add_one.mpr hfuel
    simp [readString]
  | cons c s ih =>
    obtain ⟨fuel, rfl⟩ := Nat.exists_eq_add_one.mpr (Nat.zero_lt_of_lt hfuel)
    rw [List.flatMap_cons, List.length_append] at hfuel
    rw [List.flatMap_cons, List.append_assoc]
    rcases escape_cases c with ⟨hself, hquote, hbackslash, hplain⟩ | ⟨body, hbody, hread⟩
    · have hrest := @ih fuel (c :: done) (by simp only [hself, List.length_singleton] at hfuel; omega)
      simp [hself, readString, hquote, hbackslash, hplain, hrest]
    · have hrest := @ih fuel (c :: done) (by simp only [hbody, List.length_cons] at hfuel; omega)
      simp [hbody, readString, hread, hrest]

theorem toList_quote (s : String) :
    (quote s).toList = '"' :: (s.toList.flatMap escape ++ ['"']) := by
  rw [quote, String.toList_ofList]

/-- A text between quotes is read back behind its first quote. -/
theorem readString_quote (s : String) :
    readString ((s.toList.flatMap escape ++ '"' :: rest).length + 1) []
      (s.toList.flatMap escape ++ '"' :: rest) = some (s, rest) := by
  rw [readString_flatMap_escape _ (by simp only [List.length_append]; omega)]
  simp

end Strings

section Numbers

variable {rest : List Char}

theorem toList_toString (n : Nat) : (toString n).toList = Nat.toDigits 10 n := by
  rw [Nat.toString_eq_ofList_toDigits, String.toList_ofList]

theorem readDigits?_append {digits : List Char} (hne : digits ≠ [])
    (hdigits : ∀ c ∈ digits, c.isDigit = true) (hrest : EndsNumber rest) :
    readDigits? (digits ++ rest) = some (digits, rest) := by
  have hspan : (digits ++ rest).span Char.isDigit = (digits, rest) := by
    rw [List.span_eq_takeWhile_dropWhile, List.takeWhile_append_of_pos hdigits,
      List.dropWhile_append_of_pos hdigits]
    cases rest with
    | nil => simp
    | cons c rest => simp [(hrest c rfl).1]
  rw [readDigits?, hspan]
  cases digits with
  | nil => contradiction
  | cons c digits => rfl

/-- No number but zero starts with a zero. -/
theorem head?_toDigits_ne_zero {n : Nat} (h : n ≠ 0) : (Nat.toDigits 10 n).head? ≠ some '0' := by
  induction n using Nat.strongRecOn with
  | ind n ih =>
    rw [Nat.toDigits_eq_if (by decide)]
    split
    · simpa using h
    · rename_i hlarge
      have hhead := ih (n / 10) (by omega) (by omega)
      have hsome : (Nat.toDigits 10 (n / 10)).head?.isSome := by simp [Nat.toDigits_ne_nil]
      rwa [List.head?_append, Option.or_of_isSome hsome]

theorem readWhole?_toDigits_append (n : Nat) (hrest : EndsNumber rest) :
    readWhole? (Nat.toDigits 10 n ++ rest) = some (Nat.toDigits 10 n, rest) := by
  have hdigits : ∀ c ∈ Nat.toDigits 10 n, c.isDigit = true := fun c hc =>
    Nat.isDigit_of_mem_toDigits (by decide) (by decide) hc
  by_cases hzero : n = 0
  · subst hzero
    cases rest with
    | nil => rfl
    | cons c rest => simp [readWhole?, (hrest c rfl).1]
  · have hhead := head?_toDigits_ne_zero hzero
    have hread := readDigits?_append Nat.toDigits_ne_nil hdigits hrest
    cases hcs : Nat.toDigits 10 n with
    | nil => exact absurd hcs Nat.toDigits_ne_nil
    | cons c cs =>
      have hc : c ≠ '0' := by simpa [hcs] using hhead
      rw [hcs] at hread
      simp [readWhole?, hc, ← hread]

theorem readFraction?_of_endsNumber (hrest : EndsNumber rest) :
    readFraction? rest = some ([], rest) := by
  cases rest with
  | nil => rfl
  | cons c rest => simp [readFraction?, (hrest c rfl).2.1]

theorem readExponent?_of_endsNumber (hrest : EndsNumber rest) :
    readExponent? rest = some ([], rest) := by
  cases rest with
  | nil => rfl
  | cons c rest => simp [readExponent?, (hrest c rfl).2.2]

/-- A whole number is read up to its last digit. -/
theorem readNumber?_toString_append (n : Nat) (hrest : EndsNumber rest) :
    readNumber? ((toString n).toList ++ rest) = some (nat n, rest) := by
  have hwhole := readWhole?_toDigits_append n hrest
  have hdigits : ∀ c ∈ Nat.toDigits 10 n, c.isDigit = true := fun c hc =>
    Nat.isDigit_of_mem_toDigits (by decide) (by decide) hc
  rw [toList_toString]
  cases hcs : Nat.toDigits 10 n with
  | nil => exact absurd hcs Nat.toDigits_ne_nil
  | cons c cs =>
    have hc : c ≠ '-' := by
      rintro rfl
      exact absurd (hdigits '-' (by simp [hcs])) (by decide)
    rw [hcs] at hwhole
    rw [List.cons_append] at hwhole ⊢
    simp [readNumber?, hc, hwhole, readFraction?_of_endsNumber hrest,
      readExponent?_of_endsNumber hrest, nat, ← hcs, Nat.repr_eq_ofList_toDigits]

end Numbers

section Values

variable {gap cs inside rest : List Char} {fuel : Nat}

/-- White space behind a number is no part of it. -/
theorem endsNumber_gap_append (hgap : IsGap gap) (h : EndsNumber rest) :
    EndsNumber (gap ++ rest) := by
  cases gap with
  | nil => exact h
  | cons c gap =>
    rintro d hd
    obtain rfl : c = d := by simpa using hd
    rcases eq_of_isSpace (hgap c List.mem_cons_self) with rfl | rfl | rfl | rfl <;> decide

theorem endsNumber_cons {c : Char} (h : c.isDigit = false ∧ c ≠ '.' ∧ c ≠ 'e' ∧ c ≠ 'E') :
    EndsNumber (c :: rest) := by
  rintro d hd
  obtain rfl : c = d := by simpa using hd
  exact h

/-- The text of a value starts with a character that neither is space nor ends an array. -/
theorem exists_cons_of_isWritten {v : JsonValue} (h : IsWritten v cs) :
    ∃ c tail, cs = c :: tail ∧ isSpace c = false ∧ c ≠ ']' := by
  cases v with
  | null => exact ⟨_, _, h, by decide, by decide⟩
  | bool b =>
    cases b
    · exact ⟨_, _, h, by decide, by decide⟩
    · exact ⟨_, _, h, by decide, by decide⟩
  | number digits =>
    obtain ⟨⟨n, rfl⟩, rfl⟩ := h
    rw [toList_toString]
    cases hcs : Nat.toDigits 10 n with
    | nil => exact absurd hcs Nat.toDigits_ne_nil
    | cons c tail =>
      have hdigit : c.isDigit = true :=
        Nat.isDigit_of_mem_toDigits (by decide) (by decide) (hcs ▸ List.mem_cons_self)
      refine ⟨c, tail, rfl, ?_, ?_⟩
      · exact isSpace_of_isDigit hdigit
      · rintro rfl
        contradiction
  | string s => exact ⟨_, _, (show cs = _ from h).trans (toList_quote s), by decide, by decide⟩
  | array items =>
    obtain ⟨inside, rfl, -⟩ := h
    exact ⟨_, _, rfl, by decide, by decide⟩
  | object fields =>
    obtain ⟨inside, rfl, -⟩ := h
    exact ⟨_, _, rfl, by decide, by decide⟩

theorem skipSpace_skipSpace : skipSpace (skipSpace cs) = skipSpace cs :=
  List.dropWhile_idempotent isSpace cs

theorem readValue_skipSpace : readValue fuel (skipSpace cs) = readValue fuel cs := by
  cases fuel with
  | zero => rfl
  | succ fuel => rw [readValue, readValue, skipSpace_skipSpace]

theorem readItems_skipSpace : readItems fuel (skipSpace cs) = readItems fuel cs := by
  cases fuel with
  | zero => rfl
  | succ fuel => rw [readItems, readItems, readValue_skipSpace]

theorem readFields_skipSpace : readFields fuel (skipSpace cs) = readFields fuel cs := by
  cases fuel with
  | zero => rfl
  | succ fuel =>
    cases fuel with
    | zero => rfl
    | succ fuel => rw [readFields, readFields, readField, readField, skipSpace_skipSpace]

theorem readValue_digit {c : Char} (h : c.isDigit = true) :
    readValue (fuel + 1) (c :: rest) = readNumber? (c :: rest) := by
  rw [readValue, skipSpace_cons (isSpace_of_isDigit h)]
  split
  case h_7 => rfl
  all_goals
    rename_i heq
    cases heq
    contradiction

theorem readValue_array (h : (skipSpace rest).head? ≠ some ']') :
    readValue (fuel + 1) ('[' :: rest) =
      (readItems fuel rest).map fun (items, rest) => (array items, rest) := by
  rw [readValue, skipSpace_cons (by decide)]
  simp only
  split
  · rename_i heq
    simp [heq] at h
  · rw [readItems_skipSpace]

theorem readValue_object (h : (skipSpace rest).head? ≠ some '\x7d') :
    readValue (fuel + 1) ('\x7b' :: rest) =
      (readFields fuel rest).map fun (fields, rest) => (object fields, rest) := by
  rw [readValue, skipSpace_cons (by decide)]
  simp only
  split
  · rename_i heq
    simp [heq] at h
  · rw [readFields_skipSpace]

/-- A key is read with the value behind its colon. -/
theorem readField_of_readValue {before colon text : List Char} {key : String} {v : JsonValue}
    (hbefore : IsGap before) (hcolon : IsGap colon)
    (h : readValue fuel (text ++ rest) = some (v, rest)) :
    readField (fuel + 1)
      (before ++ ((quote key).toList ++ (':' :: (colon ++ (text ++ rest))))) =
        some ((key, v), rest) := by
  have hopen : skipSpace (before ++ ((quote key).toList ++ (':' :: (colon ++ (text ++ rest))))) =
      '"' :: (key.toList.flatMap escape ++ '"' :: ':' :: (colon ++ (text ++ rest))) := by
    rw [skipSpace_gap_append hbefore, toList_quote, List.cons_append, List.append_assoc]
    exact skipSpace_cons (by decide)
  have hclose : skipSpace (':' :: (colon ++ (text ++ rest))) = ':' :: (colon ++ (text ++ rest)) :=
    skipSpace_cons (by decide)
  simp only [readField, hopen, readString_quote, hclose, readValue_gap_append hcolon, h,
    Option.map_some]

/-- What stands between the brackets of an array with items is no end of it. -/
theorem head?_skipSpace_ne_of_areItems {v : JsonValue} {items : List JsonValue}
    (h : AreItems (v :: items) inside) : (skipSpace (inside ++ rest)).head? ≠ some ']' := by
  obtain ⟨before, text, after, tail, rfl, hbefore, hv, -⟩ := h
  obtain ⟨c, cs, rfl, hspace, hc⟩ := exists_cons_of_isWritten hv
  simp only [List.append_assoc, List.cons_append, skipSpace_gap_append hbefore,
    skipSpace_cons hspace, List.head?_cons]
  simpa using hc

theorem head?_skipSpace_ne_of_areFields {key : String} {v : JsonValue}
    {fields : List (String × JsonValue)} (h : AreFields ((key, v) :: fields) inside) :
    (skipSpace (inside ++ rest)).head? ≠ some '\x7d' := by
  obtain ⟨before, colon, text, after, tail, rfl, hbefore, -⟩ := h
  have hquote : isSpace '"' = false := by decide
  simp [toList_quote, skipSpace_gap_append hbefore, skipSpace_cons hquote]

-- Reading spends a unit of fuel on every value, item, field and list, so twice the length of the
-- text is enough for a value, and one more for what stands between brackets.
mutual

/-- A written value is read back up to its end. -/
theorem readValue_of_isWritten : ∀ (v : JsonValue) {cs : List Char}, IsWritten v cs →
    ∀ {fuel : Nat} {rest : List Char}, 2 * cs.length ≤ fuel → EndsNumber rest →
      readValue fuel (cs ++ rest) = some (v, rest)
  | null, cs, h, fuel, rest, hfuel, hrest => by
    obtain rfl : cs = "null".toList := h
    obtain ⟨fuel, rfl⟩ := Nat.exists_eq_add_of_le' hfuel
    rfl
  | bool b, cs, h, fuel, rest, hfuel, hrest => by
    obtain rfl : cs = (boolText b).toList := h
    cases b
    · obtain ⟨fuel, rfl⟩ := Nat.exists_eq_add_of_le' hfuel
      rfl
    · obtain ⟨fuel, rfl⟩ := Nat.exists_eq_add_of_le' hfuel
      rfl
  | number digits, cs, h, fuel, rest, hfuel, hrest => by
    obtain ⟨⟨n, rfl⟩, rfl⟩ := h
    have hread := readNumber?_toString_append n hrest
    rw [toList_toString] at hfuel hread ⊢
    cases hcs : Nat.toDigits 10 n with
    | nil => exact absurd hcs Nat.toDigits_ne_nil
    | cons c tail =>
      have hdigit : c.isDigit = true :=
        Nat.isDigit_of_mem_toDigits (by decide) (by decide) (hcs ▸ List.mem_cons_self)
      rw [hcs] at hfuel hread
      obtain ⟨fuel, rfl⟩ : ∃ n, fuel = n + 1 :=
        Nat.exists_eq_add_one.mpr (by simp only [List.length_cons] at hfuel; omega)
      rw [List.cons_append] at hread ⊢
      rw [readValue_digit hdigit, hread]
      rfl
  | string s, cs, h, fuel, rest, hfuel, hrest => by
    obtain rfl : cs = (quote s).toList := h
    rw [toList_quote] at hfuel ⊢
    obtain ⟨fuel, rfl⟩ : ∃ n, fuel = n + 1 :=
      Nat.exists_eq_add_one.mpr (by simp only [List.length_cons] at hfuel; omega)
    rw [List.cons_append, List.append_assoc, List.singleton_append, readValue,
      skipSpace_cons (by decide)]
    simp only [readString_quote, Option.map_some]
  | array [], cs, h, fuel, rest, hfuel, hrest => by
    obtain ⟨inside, rfl, hinside⟩ := h
    obtain ⟨fuel, rfl⟩ : ∃ n, fuel = n + 1 :=
      Nat.exists_eq_add_one.mpr (by simp only [List.length_cons] at hfuel; omega)
    have hend : skipSpace (']' :: rest) = ']' :: rest := skipSpace_cons (by decide)
    rw [List.cons_append, List.append_assoc, List.singleton_append, readValue,
      skipSpace_cons (by decide)]
    simp only [skipSpace_gap_append (show IsGap inside from hinside), hend]
  | array (v :: items), cs, h, fuel, rest, hfuel, hrest => by
    obtain ⟨inside, rfl, hitems⟩ := h
    simp only [List.length_cons, List.length_append, List.length_nil] at hfuel
    obtain ⟨fuel, rfl⟩ : ∃ n, fuel = n + 1 := Nat.exists_eq_add_one.mpr (by omega)
    have hread : readItems fuel (inside ++ ']' :: rest) = some (v :: items, rest) :=
      readItems_of_areItems (v :: items) (List.cons_ne_nil _ _) hitems (by omega)
    rw [List.cons_append, List.append_assoc, List.singleton_append,
      readValue_array (head?_skipSpace_ne_of_areItems hitems), hread]
    rfl
  | object [], cs, h, fuel, rest, hfuel, hrest => by
    obtain ⟨inside, rfl, hinside⟩ := h
    obtain ⟨fuel, rfl⟩ : ∃ n, fuel = n + 1 :=
      Nat.exists_eq_add_one.mpr (by simp only [List.length_cons] at hfuel; omega)
    have hend : skipSpace ('\x7d' :: rest) = '\x7d' :: rest := skipSpace_cons (by decide)
    rw [List.cons_append, List.append_assoc, List.singleton_append, readValue,
      skipSpace_cons (by decide)]
    simp only [skipSpace_gap_append (show IsGap inside from hinside), hend]
  | object ((key, v) :: fields), cs, h, fuel, rest, hfuel, hrest => by
    obtain ⟨inside, rfl, hfields⟩ := h
    simp only [List.length_cons, List.length_append, List.length_nil] at hfuel
    obtain ⟨fuel, rfl⟩ : ∃ n, fuel = n + 1 := Nat.exists_eq_add_one.mpr (by omega)
    have hread : readFields fuel (inside ++ '\x7d' :: rest) = some ((key, v) :: fields, rest) :=
      readFields_of_areFields ((key, v) :: fields) (List.cons_ne_nil _ _) hfields (by omega)
    rw [List.cons_append, List.append_assoc, List.singleton_append,
      readValue_object (head?_skipSpace_ne_of_areFields hfields), hread]
    rfl

/-- Written items are read back up to the end of their array. -/
theorem readItems_of_areItems : ∀ (items : List JsonValue) {inside : List Char}, items ≠ [] →
    AreItems items inside → ∀ {fuel : Nat} {rest : List Char}, 2 * inside.length + 1 ≤ fuel →
      readItems fuel (inside ++ ']' :: rest) = some (items, rest)
  | [], _, hne, _, _, _, _ => absurd rfl hne
  | v :: items, inside, _, h, fuel, rest, hfuel => by
    obtain ⟨before, text, after, tail, rfl, hbefore, hv, hafter, htail⟩ := h
    simp only [List.length_append] at hfuel
    obtain ⟨fuel, rfl⟩ : ∃ n, fuel = n + 1 := Nat.exists_eq_add_one.mpr (by omega)
    simp only [List.append_assoc, readItems, readValue_gap_append hbefore]
    cases items with
    | nil =>
      obtain rfl : tail = [] := by simpa using htail
      have hread : readValue fuel (text ++ (after ++ ']' :: rest)) =
          some (v, after ++ ']' :: rest) := readValue_of_isWritten v hv (by omega)
        (endsNumber_gap_append hafter (endsNumber_cons (by decide)))
      have hend : skipSpace (']' :: rest) = ']' :: rest := skipSpace_cons (by decide)
      simp only [List.nil_append, hread, skipSpace_gap_append hafter, hend]
    | cons w items =>
      obtain ⟨more, rfl, hmore⟩ : ∃ more, tail = ',' :: more ∧ AreItems (w :: items) more := by
        simpa using htail
      rw [List.length_cons] at hfuel
      have hread : readValue fuel (text ++ (after ++ ',' :: (more ++ ']' :: rest))) =
          some (v, after ++ ',' :: (more ++ ']' :: rest)) := readValue_of_isWritten v hv (by omega)
        (endsNumber_gap_append hafter (endsNumber_cons (by decide)))
      have hcomma : skipSpace (',' :: (more ++ ']' :: rest)) = ',' :: (more ++ ']' :: rest) :=
        skipSpace_cons (by decide)
      have hmoreRead : readItems fuel (more ++ ']' :: rest) = some (w :: items, rest) :=
        readItems_of_areItems (w :: items) (List.cons_ne_nil _ _) hmore (by omega)
      simp only [List.cons_append, hread, skipSpace_gap_append hafter, hcomma, hmoreRead,
        Option.map_some]

/-- Written fields are read back up to the end of their object. -/
theorem readFields_of_areFields : ∀ (fields : List (String × JsonValue)) {inside : List Char},
    fields ≠ [] → AreFields fields inside → ∀ {fuel : Nat} {rest : List Char},
      2 * inside.length + 1 ≤ fuel →
        readFields fuel (inside ++ '\x7d' :: rest) = some (fields, rest)
  | [], _, hne, _, _, _, _ => absurd rfl hne
  | (key, v) :: fields, inside, _, h, fuel, rest, hfuel => by
    obtain ⟨before, colon, text, after, tail, rfl, hbefore, hcolon, hv, hafter, htail⟩ := h
    simp only [List.length_append, List.length_cons] at hfuel
    obtain ⟨fuel, rfl⟩ : ∃ n, fuel = n + 2 := Nat.exists_eq_add_of_le' (by omega)
    rw [readFields]
    simp only [List.append_assoc, List.cons_append]
    cases fields with
    | nil =>
      obtain rfl : tail = [] := by simpa using htail
      have hread : readValue fuel (text ++ (after ++ '\x7d' :: rest)) =
          some (v, after ++ '\x7d' :: rest) := readValue_of_isWritten v hv (by omega)
        (endsNumber_gap_append hafter (endsNumber_cons (by decide)))
      have hend : skipSpace ('\x7d' :: rest) = '\x7d' :: rest := skipSpace_cons (by decide)
      simp only [List.nil_append, readField_of_readValue hbefore hcolon hread,
        skipSpace_gap_append hafter, hend]
    | cons field fields =>
      obtain ⟨more, rfl, hmore⟩ : ∃ more, tail = ',' :: more ∧ AreFields (field :: fields) more := by
        simpa using htail
      rw [List.length_cons] at hfuel
      have hread : readValue fuel (text ++ (after ++ ',' :: (more ++ '\x7d' :: rest))) =
          some (v, after ++ ',' :: (more ++ '\x7d' :: rest)) :=
        readValue_of_isWritten v hv (by omega)
          (endsNumber_gap_append hafter (endsNumber_cons (by decide)))
      have hcomma : skipSpace (',' :: (more ++ '\x7d' :: rest)) = ',' :: (more ++ '\x7d' :: rest) :=
        skipSpace_cons (by decide)
      have hmoreRead : readFields (fuel + 1) (more ++ '\x7d' :: rest) =
          some (field :: fields, rest) :=
        readFields_of_areFields (field :: fields) (List.cons_ne_nil _ _) hmore (by omega)
      simp only [List.cons_append, readField_of_readValue hbefore hcolon hread,
        skipSpace_gap_append hafter, hcomma, hmoreRead, Option.map_some]

end

end Values

end CodeStyle.JsonValue
