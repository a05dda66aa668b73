import CodeStyle.Proofs.Regex.Tail

/-!
# Items of a pattern with a tail behind them

No tail makes a difference to the reading of characters, escapes and classes with a name. The one
exception is a word boundary with an opening brace at the end of a pattern: with a tail the brace is
left to be read as a repetition, which it is not.
-/
namespace CodeStyle.Regex

open Text (hexValue? hexNumber? charOf?)

variable {s t cs out : List Char} {c d : Char} {v : Bool} {f : Flags}

section Hexadecimal

theorem readHexDigits_nil (v : Bool) (count value : Nat) :
    readHexDigits v (count + 1) value [] = none := by
  cases count <;> rfl

theorem isReader_readHexDigits (v : Bool) (count value : Nat) :
    IsReader (readHexDigits v count value) := by
  induction count generalizing value with
  | zero => exact (IsReader.pure value).of_eq fun cs => rfl
  | succ count ih =>
    refine .uncons (readHexDigits_nil v count value) fun c => ?_
    cases hdigit : hexValue? c with
    | none => exact IsReader.none.of_eq fun cs => by cases count <;> simp [readHexDigits, hdigit]
    | some d =>
      cases count with
      | zero =>
        exact ((IsReader.pure (value * 16 + d)).skip v).of_eq fun cs => by
          simp [readHexDigits, hdigit]
      | succ count =>
        refine ((ih (value * 16 + d)).next (readHexDigits_nil v count _) v c).of_eq fun cs => ?_
        cases hnext : next? v (c :: cs) <;> simp [readHexDigits, hdigit, hnext]

theorem readBraced_succ (n : Nat) (taken cs : List Char) : readBraced v (n + 1) taken cs =
    (next? v cs).bind fun out => match out with
      | [] => none
      | c :: rest =>
        if c = '}' then some (taken.reverse, rest) else readBraced v n (c :: taken) (c :: rest) := by
  rw [readBraced]
  rcases next? v cs with - | (- | ⟨c, rest⟩)
  · rfl
  · rfl
  · by_cases hc : c = '}' <;> simp [hc]

/-- No tail closes a brace. -/
theorem readBraced_tail (ht : IsTail t) (n : Nat) (taken : List Char) :
    readBraced v n taken t = none := by
  induction n generalizing t taken with
  | zero => rfl
  | succ n ih =>
    rw [readBraced_succ]
    cases t with
    | nil => rfl
    | cons c t =>
      rw [next?_cons, ht.tail.skip_eq]
      cases t with
      | nil => rfl
      | cons d t =>
        have hd : d ≠ '}' := ht.tail.head_ne (by decide)
        simp [hd, ih ht.tail]

theorem isReader_readBraced (v : Bool) (taken : List Char) (c : Char) :
    IsReader fun cs => readBraced v (cs.length + 1) taken (c :: cs) where
  length_le {cs name rest} h := by
    have hall : ∀ {n taken c cs name rest}, readBraced v n taken (c :: cs) = some (name, rest) →
        rest.length ≤ cs.length := by
      intro n
      induction n with
      | zero => intro _ _ _ _ _ h; contradiction
      | succ n ih =>
        intro taken c cs name rest h
        rw [readBraced_succ] at h
        obtain ⟨- | ⟨d, out⟩, hout, hname⟩ := Option.bind_eq_some_iff.mp h
        · contradiction
        · have hlength := length_le_of_next? hout
          rw [List.length_cons] at hlength
          by_cases hd : d = '}'
          · simp only [hd, if_true, Option.some.injEq, Prod.mk.injEq] at hname
            obtain ⟨-, rfl⟩ := hname
            exact Nat.le_of_lt hlength
          · simp only [hd, if_false] at hname
            exact Nat.le_trans (ih hname) (Nat.le_of_lt hlength)
    exact hall h
  carried {t} ht cs := by
    have hall : ∀ {n n' taken c cs}, cs.length < n → (cs ++ t).length < n' →
        Carried t (readBraced v n taken (c :: cs)) (readBraced v n' taken (c :: (cs ++ t))) := by
      intro n
      induction n with
      | zero => intro _ _ _ _ h; omega
      | succ n ih =>
        intro n' taken c cs hn hn'
        obtain ⟨n', rfl⟩ : ∃ m, n' = m + 1 := ⟨n' - 1, by omega⟩
        rw [readBraced_succ, readBraced_succ]
        obtain ⟨d, out, hout, hlength, hout'⟩ | ⟨hnone, hnone' | ⟨-, htail⟩⟩ :=
          next?_append ht v c cs
        · rw [hout, hout', Option.bind_some, Option.bind_some]
          by_cases hd : d = '}'
          · simp only [hd, if_true]
            exact .kept _ _
          · simp only [hd, if_false]
            exact ih (by omega) (by simp only [List.length_append] at *; omega)
        · rw [hnone, hnone']
          exact .lost
        · rw [hnone, htail, Option.bind_some, Option.bind_none]
          cases t with
          | nil => exact .lost
          | cons d t =>
            have hd : d ≠ '}' := ht.head_ne (by decide)
            simp only [hd, if_false, readBraced_tail ht]
            exact .lost
    exact hall (Nat.lt_succ_self _) (Nat.lt_succ_self _)

/-- Reads a number between braces, from behind the opening brace on. -/
def readBracedNumber (v : Bool) (cs : List Char) : Option (Atom × List Char) :=
  (readBraced v (cs.length + 1) [] ('\x7b' :: cs)).bind fun p =>
    if p.1.isEmpty then none
    else ((hexNumber? p.1).bind charOf?).map fun c => (.char c false, skip v p.2)

/-- Reads a number of certain digits. -/
def readCountedNumber (v : Bool) (letter : Char) (count : Nat) (cs : List Char) :
    Option (Atom × List Char) :=
  (readHexDigits v count 0 cs).bind fun p =>
    (charOf? p.1).map fun c => (.char c (letter = 'x'), p.2)

theorem isReader_readBracedNumber (v : Bool) : IsReader (readBracedNumber v) :=
  (isReader_readBraced v [] '\x7b').bind fun digits =>
    IsReader.none.ite (p := digits.isEmpty)
      ((IsReader.ofOption ((hexNumber? digits).bind charOf?) (Atom.char · false)).skip v)

theorem isReader_readCountedNumber (v : Bool) (letter : Char) (count : Nat) :
    IsReader (readCountedNumber v letter count) :=
  (isReader_readHexDigits v count 0).bind fun n => .ofOption (charOf? n) _

theorem isReader_readHex (v : Bool) (letter c : Char) :
    IsReader fun cs => readHex v letter (c :: cs) := by
  let count := if letter = 'x' then 2 else if letter = 'u' then 4 else 8
  obtain ⟨more, hmore⟩ : ∃ more, count = more + 1 := by
    by_cases hx : letter = 'x'
    · exact ⟨1, by simp [count, hx]⟩
    · by_cases hu : letter = 'u'
      · exact ⟨3, by simp [count, hu]⟩
      · exact ⟨7, by simp [count, hx, hu]⟩
  have hnumber := (isReader_readBracedNumber v).onHead '\x7b' (by decide)
    (isReader_readCountedNumber v letter count)
  refine (hnumber.next ?_ v c).of_eq fun cs => ?_
  · simp [readCountedNumber, hmore, readHexDigits_nil]
  · rw [readHex]
    rcases next? v (c :: cs) with - | (- | ⟨d, out⟩)
    · rfl
    · rfl
    · by_cases hd : d = '\x7b'
      · subst hd
        rfl
      · simp [hd, count, readCountedNumber]

end Hexadecimal

section Classes

/-- The class with a certain name. -/
def namedClass? (f : Flags) (negated : Bool) (name : List Char) : Option CharSet :=
  if f.byteMode then none
  else (classOfName? name).bind fun p => f.close? (negated != p.2) p.1

/-- Reads the name of a class between braces, from behind the opening brace on. -/
def readBracedClass (f : Flags) (negated : Bool) (cs : List Char) : Option (Atom × List Char) :=
  (readBraced f.verbose (cs.length + 1) [] ('\x7b' :: cs)).bind fun p =>
    (namedClass? f negated p.1).map fun s => (.set s, p.2)

/-- Reads a class with a name of one letter. -/
def readLetterClass (f : Flags) (negated : Bool) : List Char → Option (Atom × List Char)
  | [] => none
  | c :: cs => (namedClass? f negated [c]).map fun s => (.set s, skip f.verbose cs)

theorem isReader_readNamedClass (f : Flags) (negated : Bool) (c : Char) :
    IsReader fun cs => readNamedClass f negated (c :: cs) := by
  have hbraced : IsReader (readBracedClass f negated) :=
    (isReader_readBraced f.verbose [] '\x7b').bind fun name =>
      .ofOption (namedClass? f negated name) Atom.set
  have hletter : IsReader (readLetterClass f negated) := .uncons rfl fun c =>
    (IsReader.ofOption (namedClass? f negated [c]) Atom.set).skip f.verbose
  have hnone : IsReader fun _ => (none : Option (Atom × List Char)) := .none
  have hclass := hbraced.onHead '\x7b' (by decide) (hnone.onHead '\\' (by decide) hletter)
  have hfinish : ∀ (name after : List Char), (if f.byteMode then none
      else (classOfName? name).bind fun p : CharSet × Bool =>
        (f.close? (negated != p.2) p.1).map fun s => (Atom.set s, after)) =
      (namedClass? f negated name).map fun s => (Atom.set s, after) := by
    intro name after
    rw [namedClass?]
    split
    · rfl
    · rw [Option.map_bind]
      rfl
  refine (hclass.next rfl f.verbose c).of_eq fun cs => ?_
  rw [readNamedClass]
  rcases next? f.verbose (c :: cs) with - | (- | ⟨d, out⟩)
  · rfl
  · rfl
  · by_cases hbrace : d = '\x7b'
    · subst hbrace
      change (readBraced f.verbose (out.length + 1) [] ('\x7b' :: out)).bind _ =
        (readBraced f.verbose (out.length + 1) [] ('\x7b' :: out)).bind _
      congr 1
      funext p
      exact hfinish p.1 p.2
    · by_cases hback : d = '\\'
      · subst hback
        rfl
      · simp [hbrace, hback, readLetterClass, ← hfinish]

theorem readEdgeName_tail (ht : IsTail t) (n : Nat) (taken : List Char) :
    readEdgeName v n taken t = none := by
  cases n with
  | zero => rfl
  | succ n =>
    cases t with
    | nil => rfl
    | cons c t =>
      have hedge : isEdgeName c = false := by rcases ht.head with rfl | rfl <;> decide
      have hc : c ≠ '\x7d' := ht.head_ne (by decide)
      simp [readEdgeName, hedge, hc]

theorem isReader_readEdgeName (v : Bool) (taken : List Char) :
    IsReader fun cs => readEdgeName v (cs.length + 1) taken cs where
  length_le {cs name rest} h := by
    have hall : ∀ {n taken cs name rest}, readEdgeName v n taken cs = some (name, rest) →
        rest.length ≤ cs.length := by
      intro n
      induction n with
      | zero => intro _ _ _ _ h; contradiction
      | succ n ih =>
        intro taken cs name rest h
        cases cs with
        | nil => contradiction
        | cons c cs =>
          have hlength := length_skip_le v cs
          rw [readEdgeName] at h
          split at h
          · exact Nat.le_succ_of_le (Nat.le_trans (ih h) hlength)
          · split at h
            · obtain ⟨-, rfl⟩ := Prod.mk.inj (Option.some.inj h)
              exact Nat.le_succ _
            · contradiction
    exact hall h
  carried {t} ht cs := by
    have hall : ∀ {n n' taken cs}, cs.length < n → (cs ++ t).length < n' →
        Carried t (readEdgeName v n taken cs) (readEdgeName v n' taken (cs ++ t)) := by
      intro n
      induction n with
      | zero => intro _ _ _ h; omega
      | succ n ih =>
        intro n' taken cs hn hn'
        obtain ⟨n', rfl⟩ : ∃ m, n' = m + 1 := ⟨n' - 1, by omega⟩
        cases cs with
        | nil =>
          rw [List.nil_append, readEdgeName_tail ht]
          exact .lost
        | cons c cs =>
          have hlength := length_skip_le v cs
          simp only [List.cons_append, List.length_cons, List.length_append] at hn hn' ⊢
          rw [readEdgeName, readEdgeName]
          split
          · rcases skip_append ht v cs with h | ⟨h, h'⟩
            · rw [h]
              exact ih (by omega) (by rw [List.length_append]; omega)
            · rw [h, h', readEdgeName_tail isTail_nil, readEdgeName_tail isTail_nil]
              exact .lost
          · split
            · exact .kept _ _
            · exact .lost
    exact hall (Nat.lt_succ_self _) (Nat.lt_succ_self _)

end Classes

section Edges

/-- Whether a text starts with a brace behind which nothing but a tail is to be read. -/
def IsStuck (v : Bool) (t s : List Char) : Prop :=
  t ≠ [] ∧ ∃ cs, s = '\x7b' :: cs ∧ next? v s = some t

def edgeOfName? (f : Flags) (name : List Char) : Option Look :=
  match String.ofList name with
  | "start" => some (.wordStart f.byteMode)
  | "end" => some (.wordEnd f.byteMode)
  | "start-half" => some (.wordStartHalf f.byteMode)
  | "end-half" => some (.wordEndHalf f.byteMode)
  | _ => none

/-- Reads the kind of a word boundary, from behind the opening brace on. -/
def readEdgeKind (f : Flags) (cs : List Char) : Option (Look × List Char) :=
  (readEdgeName f.verbose (cs.length + 1) [] cs).bind fun p =>
    (edgeOfName? f p.1).map fun l => (l, p.2)

theorem readEdge_brace (f : Flags) (cs : List Char) : readEdge f ('\x7b' :: cs) =
    (next? f.verbose ('\x7b' :: cs)).bind fun inside =>
      if (inside.head?.map isEdgeName).getD false then readEdgeKind f inside
      else some (.wordEdge f.byteMode, '\x7b' :: cs) := by
  rw [readEdge]
  rcases next? f.verbose ('\x7b' :: cs) with - | inside
  · rfl
  · simp only [readEdgeKind, edgeOfName?, Option.bind_some]
    congr 2
    funext p
    generalize String.ofList p.1 = word
    split <;> simp_all

theorem readEdge_of_head?_ne (f : Flags) (h : cs.head? ≠ some '\x7b') :
    readEdge f cs = some (.wordEdge f.byteMode, cs) := by
  unfold readEdge
  split
  · simp at h
  · rfl

theorem isReader_readEdgeKind (f : Flags) : IsReader (readEdgeKind f) :=
  (isReader_readEdgeName f.verbose []).bind fun name => .ofOption (edgeOfName? f name) id

theorem length_le_of_readEdge {f : Flags} {l : Look} {rest : List Char}
    (h : readEdge f cs = some (l, rest)) : rest.length ≤ cs.length := by
  by_cases hbrace : cs.head? = some '\x7b'
  · obtain ⟨cs, rfl⟩ := List.head?_eq_some_iff.mp hbrace
    rw [readEdge_brace] at h
    obtain ⟨inside, hinside, hkind⟩ := Option.bind_eq_some_iff.mp h
    split at hkind
    · have hlength := (isReader_readEdgeKind f).length_le hkind
      exact Nat.le_succ_of_le (Nat.le_trans hlength (length_le_of_next? hinside))
    · obtain ⟨-, rfl⟩ := Prod.mk.inj (Option.some.inj hkind)
      exact Nat.le_refl _
  · rw [readEdge_of_head?_ne f hbrace] at h
    obtain ⟨-, rfl⟩ := Prod.mk.inj (Option.some.inj h)
    exact Nat.le_refl _

/-- A tail makes a difference to a word boundary only if a brace is left behind it. -/
theorem carried_readEdge (ht : IsTail t) (f : Flags) (cs : List Char) :
    Carried t (readEdge f cs) (readEdge f (cs ++ t)) ∨
      readEdge f cs = none ∧ ∃ l s, readEdge f (cs ++ t) = some (l, s) ∧ IsStuck f.verbose t s := by
  by_cases hbrace : cs.head? = some '\x7b'
  · obtain ⟨cs, rfl⟩ := List.head?_eq_some_iff.mp hbrace
    rw [List.cons_append, readEdge_brace, readEdge_brace]
    obtain ⟨d, out, hout, -, hout'⟩ | ⟨hnone, hnone' | ⟨hne, htail⟩⟩ :=
      next?_append ht f.verbose '\x7b' cs
    · refine .inl ?_
      rw [hout, hout']
      by_cases hedge : isEdgeName d = true
      · have hkind : ∀ out, ((d :: out).head?.map isEdgeName).getD false = true := fun _ => hedge
        simp only [Option.bind_some, hkind, if_true]
        exact (isReader_readEdgeKind f).carried ht (d :: out)
      · have hkind : ∀ out, ¬((d :: out).head?.map isEdgeName).getD false = true := fun _ => hedge
        simp only [Option.bind_some, hkind]
        exact .kept _ ('\x7b' :: cs)
    · simp only [hnone, hnone']
      exact .inl .lost
    · have hedge : ¬(t.head?.map isEdgeName).getD false = true := by
        cases t with
        | nil => simp
        | cons c t =>
          have hc : isEdgeName c = false := by rcases ht.head with rfl | rfl <;> decide
          simp [hc]
      refine .inr ⟨by rw [hnone, Option.bind_none], .wordEdge f.byteMode, '\x7b' :: (cs ++ t),
        ?_, hne, cs ++ t, rfl, htail⟩
      rw [htail, Option.bind_some, if_neg hedge]
  · rw [readEdge_of_head?_ne f hbrace,
      readEdge_of_head?_ne f (mt (ht.head?_append_iff (by decide)).mp hbrace)]
    exact .inl (.kept _ cs)

end Edges

section Escapes

/-- Reads what is escaped by a letter that stands for one character or position. -/
def readLetterEscape (f : Flags) (c : Char) (cs : List Char) : Option (Atom × List Char) :=
  match c with
  | 'a' => some (.char '\x07' false, cs)
  | 'f' => some (.char '\x0c' false, cs)
  | 't' => some (.char '\t' false, cs)
  | 'n' => some (.char '\n' false, cs)
  | 'r' => some (.char '\r' false, cs)
  | 'v' => some (.char '\x0b' false, cs)
  | 'A' => some (.look .textStart, cs)
  | 'z' => some (.look .textEnd, cs)
  | 'b' => (readEdge f cs).map fun p => (.look p.1, p.2)
  | 'B' => some (.look (.wordInside f.byteMode), cs)
  | '<' => some (.look (.wordStart f.byteMode), cs)
  | '>' => some (.look (.wordEnd f.byteMode), cs)
  | _ => none

theorem isReader_readLetterEscape (f : Flags) (hc : c ≠ 'b') : IsReader (readLetterEscape f c) := by
  by_cases hknown : c ∈ ['a', 'f', 't', 'n', 'r', 'v', 'A', 'z', 'B', '<', '>']
  · simp only [List.mem_cons, List.not_mem_nil, or_false] at hknown
    rcases hknown with rfl | rfl | rfl | rfl | rfl | rfl | rfl | rfl | rfl | rfl | rfl <;>
      exact .pure _
  · refine IsReader.none.of_eq fun cs => ?_
    unfold readLetterEscape
    split <;> simp_all

/-- Behind every letter but that of word boundaries an escape is read as if no tail were there. -/
theorem isReader_readEscape (f : Flags) (hc : c ≠ 'b') :
    IsReader fun cs => readEscape f (c :: cs) :=
  .ite .none (.ite (isReader_readHex f.verbose c c)
    (.ite (isReader_readNamedClass f (c = 'P') c)
      (.ite (.ofOption (perlClass? f c) Atom.set)
        (.ite (.pure (Atom.char c false)) (isReader_readLetterEscape f hc)))))

theorem readEscape_b (f : Flags) (cs : List Char) :
    readEscape f ('b' :: cs) = (readEdge f cs).map fun p => (.look p.1, p.2) := rfl

theorem length_le_of_readEscape {f : Flags} {a : Atom} {rest : List Char}
    (h : readEscape f (c :: cs) = some (a, rest)) : rest.length ≤ cs.length := by
  by_cases hc : c = 'b'
  · subst hc
    rw [readEscape_b] at h
    obtain ⟨⟨l, after⟩, hedge, hafter⟩ := Option.map_eq_some_iff.mp h
    obtain ⟨-, rfl⟩ := Prod.mk.inj hafter
    exact length_le_of_readEdge hedge
  · exact (isReader_readEscape f hc).length_le h

theorem carried_readEscape (ht : IsTail t) (f : Flags) (cs : List Char) :
    Carried t (readEscape f cs) (readEscape f (cs ++ t)) ∨ readEscape f cs = none ∧
      ∃ l s, readEscape f (cs ++ t) = some (.look l, s) ∧ IsStuck f.verbose t s := by
  cases cs with
  | nil =>
    cases t with
    | nil => exact .inl .lost
    | cons c t =>
      exact .inl ((isReader_readEscape f (ht.head_ne (by decide))).carried_tail ht)
  | cons c cs =>
    by_cases hc : c = 'b'
    · subst hc
      rw [List.cons_append, readEscape_b, readEscape_b]
      obtain h | ⟨hnone, l, s, hsome, hstuck⟩ := carried_readEdge ht f cs
      · exact .inl (h.map fun _ _ => rfl)
      · exact .inr ⟨by rw [hnone, Option.map_none], l, s, by rw [hsome, Option.map_some], hstuck⟩
    · exact .inl ((isReader_readEscape f hc).carried ht cs)

end Escapes

section Decimals

theorem readDigits_tail (ht : IsTail t) (n : Nat) (taken : List Char) :
    readDigits v n taken t = (taken, t) := by
  cases n with
  | zero => rfl
  | succ n =>
    cases t with
    | nil => rfl
    | cons c t =>
      have hdigit : c.isDigit = false := by rcases ht.head with rfl | rfl <;> decide
      simp [readDigits, hdigit]

theorem skipBlanks_tail (ht : IsTail t) (n : Nat) : skipBlanks v n t = t := by
  cases n with
  | zero => rfl
  | succ n =>
    cases t with
    | nil => rfl
    | cons c t =>
      have hspace : CharSet.space.contains c = false := by
        rcases ht.head with rfl | rfl <;> decide +kernel
      simp [skipBlanks, hspace]

theorem carried_readDigits (ht : IsTail t) {n n' : Nat} (taken : List Char)
    (hn : cs.length ≤ n) (hn' : (cs ++ t).length ≤ n') :
    Carried t (some (readDigits v n taken cs)) (some (readDigits v n' taken (cs ++ t))) := by
  induction n generalizing n' taken cs with
  | zero =>
    obtain rfl := List.length_eq_zero_iff.mp (Nat.le_zero.mp hn)
    rw [List.nil_append, readDigits_tail ht]
    exact .kept taken []
  | succ n ih =>
    cases cs with
    | nil =>
      rw [List.nil_append, readDigits_tail ht]
      exact .kept taken []
    | cons c cs =>
      have hlength := length_skip_le v cs
      simp only [List.cons_append, List.length_cons, List.length_append] at hn hn' ⊢
      obtain ⟨n', rfl⟩ : ∃ m, n' = m + 1 := ⟨n' - 1, by omega⟩
      rw [readDigits, readDigits]
      split
      · rcases skip_append ht v cs with h | ⟨h, h'⟩
        · rw [h]
          exact ih _ (by omega) (by rw [List.length_append]; omega)
        · rw [h, h', readDigits_tail isTail_nil, readDigits_tail isTail_nil]
          exact .swallowed _
      · exact .kept taken (c :: cs)

theorem carried_skipBlanks (ht : IsTail t) {n n' : Nat} (hn : cs.length ≤ n)
    (hn' : (cs ++ t).length ≤ n') :
    Carried t (some ((), skipBlanks v n cs)) (some ((), skipBlanks v n' (cs ++ t))) := by
  induction n generalizing n' cs with
  | zero =>
    obtain rfl := List.length_eq_zero_iff.mp (Nat.le_zero.mp hn)
    rw [List.nil_append, skipBlanks_tail ht]
    exact .kept () []
  | succ n ih =>
    cases cs with
    | nil =>
      rw [List.nil_append, skipBlanks_tail ht]
      exact .kept () []
    | cons c cs =>
      have hlength := length_skip_le v cs
      simp only [List.cons_append, List.length_cons, List.length_append] at hn hn' ⊢
      obtain ⟨n', rfl⟩ : ∃ m, n' = m + 1 := ⟨n' - 1, by omega⟩
      rw [skipBlanks, skipBlanks]
      split
      · rcases skip_append ht v cs with h | ⟨h, h'⟩
        · rw [h]
          exact ih (by omega) (by rw [List.length_append]; omega)
        · rw [h, h', skipBlanks_tail isTail_nil, skipBlanks_tail isTail_nil]
          exact .swallowed ()
      · exact .kept () (c :: cs)

theorem length_readDigits_le (v : Bool) (n : Nat) (taken cs : List Char) :
    (readDigits v n taken cs).2.length ≤ cs.length := by
  induction n generalizing taken cs with
  | zero => exact Nat.le_refl _
  | succ n ih =>
    cases cs with
    | nil => exact Nat.le_refl _
    | cons c cs =>
      rw [readDigits]
      split
      · exact Nat.le_succ_of_le (Nat.le_trans (ih _ _) (length_skip_le v cs))
      · exact Nat.le_refl _

theorem length_skipBlanks_le (v : Bool) (n : Nat) (cs : List Char) :
    (skipBlanks v n cs).length ≤ cs.length := by
  induction n generalizing cs with
  | zero => exact Nat.le_refl _
  | succ n ih =>
    cases cs with
    | nil => exact Nat.le_refl _
    | cons c cs =>
      rw [skipBlanks]
      split
      · exact Nat.le_succ_of_le (Nat.le_trans (ih _) (length_skip_le v cs))
      · exact Nat.le_refl _

theorem isReader_readDigits (v : Bool) :
    IsReader fun cs => some (readDigits v cs.length [] cs) where
  length_le {cs taken rest} h := by
    have hlength := length_readDigits_le v cs.length [] cs
    rwa [Option.some.inj h] at hlength
  carried ht cs := carried_readDigits ht [] (Nat.le_refl _) (Nat.le_refl _)

theorem isReader_skipBlanks (v : Bool) :
    IsReader fun cs => some ((), skipBlanks v cs.length cs) where
  length_le {cs a rest} h := by
    obtain ⟨-, rfl⟩ := Prod.mk.inj (Option.some.inj h)
    exact length_skipBlanks_le v cs.length cs
  carried ht cs := carried_skipBlanks ht (Nat.le_refl _) (Nat.le_refl _)

theorem dropSpace_append (ht : IsTail t) (cs : List Char) :
    (cs ++ t).dropWhile CharSet.space.contains = cs.dropWhile CharSet.space.contains ++ t := by
  induction cs with
  | nil =>
    cases t with
    | nil => rfl
    | cons c t =>
      have hspace : CharSet.space.contains c = false := by
        rcases ht.head with rfl | rfl <;> decide +kernel
      simp [hspace]
  | cons c cs ih =>
    by_cases hspace : CharSet.space.contains c = true
    · simpa [hspace] using ih
    · simp [hspace]

theorem isReader_dropSpace :
    IsReader fun cs => some ((), cs.dropWhile CharSet.space.contains) where
  length_le {cs a rest} h := by
    obtain ⟨-, rfl⟩ := Prod.mk.inj (Option.some.inj h)
    exact (List.dropWhile_suffix _).length_le
  carried ht cs := by
    rw [dropSpace_append ht]
    exact .kept _ _

/-- The number that digits stand for, the last one first. -/
def decimalOf (taken : List Char) : Decimal :=
  let value := taken.foldr (fun c n => n * 10 + (c.toNat - '0'.toNat)) 0
  if taken.isEmpty then .absent else if 0xffffffff < value then .tooLarge else .value value

theorem isReader_readDecimal (v : Bool) : IsReader fun cs => some (readDecimal v cs) := by
  have hrest : ∀ taken, IsReader fun cs => some (decimalOf taken, skipBlanks v cs.length cs) :=
    fun taken => (isReader_skipBlanks v).map (k := fun p => (decimalOf taken, p.2))
      (fun _ => decimalOf taken) fun _ _ => rfl
  have hdigits := isReader_dropSpace.bind (k := fun p => some (readDigits v p.2.length [] p.2))
    fun _ => isReader_readDigits v
  exact (hdigits.bind (k := fun p => some (decimalOf p.1, skipBlanks v p.2.length p.2)) hrest).of_eq
    fun cs => rfl

theorem readDecimal_tail (ht : IsTail t) : readDecimal v t = (.absent, t) := by
  have hstart : t.dropWhile CharSet.space.contains = t := dropSpace_append ht []
  simp [readDecimal, hstart, readDigits_tail ht, skipBlanks_tail ht]

end Decimals

end CodeStyle.Regex
