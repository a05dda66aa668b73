import CodeStyle.Proofs.Regex.TailItem
import Mathlib.Data.List.TakeDrop
import Mathlib.Data.List.TakeWhile

/-!
# Bracketed classes with a tail behind them

While a class is open, a reader need not do as much as elsewhere: no tail closes the class, so it is
enough that what could not be read alone leaves nothing but a part of the tail.
-/
namespace CodeStyle.Regex

variable {α β : Type} {s t cs rest : List Char} {c d : Char} {f : Flags}

/-- What becomes of the result of a reader inside a class if a tail is put behind what it reads. -/
inductive CarriedInside (t : List Char) :
    Option (α × List Char) → Option (α × List Char) → Prop
  | kept (a : α) (rest : List Char) : CarriedInside t (some (a, rest)) (some (a, rest ++ t))
  | swallowed (a : α) : CarriedInside t (some (a, [])) (some (a, []))
  | missed {o : Option (α × List Char)} (h : ∀ a rest, o = some (a, rest) → rest <:+ t) :
      CarriedInside t none o

namespace CarriedInside

variable {o o' : Option (α × List Char)}

theorem lost : CarriedInside t (none : Option (α × List Char)) none :=
  .missed fun _ _ h => by contradiction

theorem left (a : α) (h : s <:+ t) : CarriedInside t none (some (a, s)) :=
  .missed fun _ _ heq => (Prod.mk.inj (Option.some.inj heq)).2 ▸ h

theorem of_carried (h : Carried t o o') : CarriedInside t o o' := by
  cases h with
  | kept a rest => exact .kept a rest
  | swallowed a => exact .swallowed a
  | lost => exact .lost
  | eaten a h => exact .left a h

/-- Reading on inside a class carries tails on. -/
theorem bind {k k' : α × List Char → Option (β × List Char)} (h : CarriedInside t o o')
    (hkept : ∀ a rest, o = some (a, rest) → CarriedInside t (k (a, rest)) (k' (a, rest ++ t)))
    (hnil : ∀ a, CarriedInside t (k (a, [])) (k' (a, [])))
    (htail : ∀ a s b rest, s <:+ t → k' (a, s) = some (b, rest) → rest <:+ s) :
    CarriedInside t (o.bind k) (o'.bind k') := by
  cases h with
  | kept a rest => exact hkept a rest rfl
  | swallowed a => exact hnil a
  | missed h =>
    refine .missed fun b rest hsome => ?_
    obtain ⟨⟨a, s⟩, hfirst, hsecond⟩ := Option.bind_eq_some_iff.mp hsome
    exact (htail a s b rest (h a s hfirst) hsecond).trans (h a s hfirst)

/-- What cannot be read to an end on a tail alone is left as it is by one. -/
theorem bind_closed {k k' : α × List Char → Option (β × List Char)} (h : CarriedInside t o o')
    (hkept : ∀ a rest, o = some (a, rest) → Carried t (k (a, rest)) (k' (a, rest ++ t)))
    (hnil : ∀ a, k (a, []) = none) (hleft : ∀ a s, s <:+ t → k' (a, s) = none) :
    Carried t (o.bind k) (o'.bind k') := by
  cases h with
  | kept a rest => exact hkept a rest rfl
  | swallowed a =>
    rw [Option.bind_some, Option.bind_some, hnil, hleft a [] List.nil_suffix]
    exact .lost
  | missed h =>
    have hnone : o'.bind k' = none :=
      Option.bind_eq_none_iff.mpr fun p hp => hleft p.1 p.2 (h p.1 p.2 hp)
    rw [hnone]
    exact .lost

/-- Reading on inside a class from the next character carries tails on. -/
theorem next {k : List Char → Option (α × List Char)} (ht : IsTail t) (v : Bool) (c : Char)
    (cs : List Char) (hk : ∀ cs, CarriedInside t (k cs) (k (cs ++ t)))
    (htail : ∀ a s, k t = some (a, s) → s <:+ t) :
    CarriedInside t ((next? v (c :: cs)).bind k) ((next? v (c :: (cs ++ t))).bind k) := by
  obtain ⟨d, out, hout, -, hout'⟩ | ⟨hnone, hnone' | ⟨-, hrest⟩⟩ := next?_append ht v c cs
  · rw [hout, hout']
    exact hk (d :: out)
  · rw [hnone, hnone']
    exact .lost
  · rw [hnone, hrest]
    exact .missed htail

end CarriedInside

section Starts

theorem readHyphens_of_head?_ne (f : Flags) (n : Nat) (parts : List ClassPart)
    (h : cs.head? ≠ some '-') : readHyphens f (n + 1) parts cs = some (parts, cs) := by
  unfold readHyphens
  split
  · contradiction
  · simp at h
  · simp_all

theorem readHyphens_cons (f : Flags) (n : Nat) (parts : List ClassPart) (cs : List Char) :
    readHyphens f (n + 1) parts ('-' :: cs) =
      (next? f.verbose ('-' :: cs)).bind (readHyphens f n (⟨.single '-', 0⟩ :: parts)) := rfl

theorem IsTail.readHyphens_eq (ht : IsTail t) (f : Flags) (n : Nat) (parts : List ClassPart) :
    readHyphens f (n + 1) parts t = some (parts, t) :=
  readHyphens_of_head?_ne f n parts (ht.head?_ne (by decide))

theorem length_le_of_readHyphens {n : Nat} {parts parts' : List ClassPart}
    (h : readHyphens f n parts cs = some (parts', rest)) : rest.length ≤ cs.length := by
  induction n generalizing parts cs with
  | zero => contradiction
  | succ n ih =>
    by_cases hhead : cs.head? = some '-'
    · obtain ⟨cs, rfl⟩ := List.head?_eq_some_iff.mp hhead
      rw [readHyphens_cons] at h
      obtain ⟨out, hout, hmore⟩ := Option.bind_eq_some_iff.mp h
      exact Nat.le_succ_of_le (Nat.le_trans (ih hmore) (length_le_of_next? hout))
    · rw [readHyphens_of_head?_ne f n parts hhead] at h
      obtain ⟨-, rfl⟩ := Prod.mk.inj (Option.some.inj h)
      exact Nat.le_refl _

theorem carriedInside_readHyphens (ht : IsTail t) {n n' : Nat} (parts : List ClassPart)
    (hn : cs.length < n) (hn' : (cs ++ t).length < n') :
    CarriedInside t (readHyphens f n parts cs) (readHyphens f n' parts (cs ++ t)) := by
  induction n generalizing n' parts cs with
  | zero => omega
  | succ n ih =>
    obtain ⟨n', rfl⟩ : ∃ m, n' = m + 1 := ⟨n' - 1, by omega⟩
    by_cases hhead : cs.head? = some '-'
    · obtain ⟨cs, rfl⟩ := List.head?_eq_some_iff.mp hhead
      simp only [List.cons_append, List.length_cons, List.length_append] at hn hn' ⊢
      rw [readHyphens_cons, readHyphens_cons]
      obtain ⟨d, out, hout, hlength, hout'⟩ | ⟨hnone, hnone' | ⟨-, htail⟩⟩ :=
        next?_append ht f.verbose '-' cs
      · rw [hout, hout', Option.bind_some, Option.bind_some]
        have hless : (d :: out).length < n := by rw [List.length_cons]; omega
        have hless' : (d :: out ++ t).length < n' := by
          rw [List.length_append, List.length_cons]
          omega
        exact ih _ hless hless'
      · rw [hnone, hnone']
        exact .lost
      · obtain ⟨n', rfl⟩ : ∃ m, n' = m + 1 := ⟨n' - 1, by omega⟩
        rw [hnone, htail, Option.bind_some, ht.readHyphens_eq]
        exact .left _ (List.suffix_refl t)
    · rw [readHyphens_of_head?_ne f n parts hhead,
        readHyphens_of_head?_ne f n' parts (mt (ht.head?_append_iff (by decide)).mp hhead)]
      exact .kept parts cs

/-- What a class starts with, apart from what follows it. -/
def startOf (p : Bool × List ClassPart × List Char) : (Bool × List ClassPart) × List Char :=
  ((p.1, p.2.1), p.2.2)

/-- Reads on behind the hyphens at the start of a class. -/
def readClosingFirst (f : Flags) (negated : Bool) (p : List ClassPart × List Char) :
    Option ((Bool × List ClassPart) × List Char) :=
  if p.1.isEmpty = true ∧ p.2.head? = some ']' then
    (next? f.verbose p.2).map fun after => ((negated, [⟨.single ']', 0⟩]), after)
  else some ((negated, p.1), p.2)

theorem map_startOf_readClassStart (f : Flags) (negated : Bool) (cs : List Char) :
    (readClassStart f negated cs).map startOf =
      (readHyphens f (cs.length + 1) [] cs).bind (readClosingFirst f negated) := by
  rw [readClassStart, Option.map_bind]
  congr 1
  funext p
  obtain ⟨parts, rest⟩ := p
  rcases parts with - | ⟨part, parts⟩
  · rcases rest with - | ⟨c, rest⟩
    · rfl
    · by_cases hc : c = ']'
      · subst hc
        cases hnext : next? f.verbose (']' :: rest) <;> simp [readClosingFirst, startOf, hnext]
      · simp [readClosingFirst, startOf, hc]
  · simp [readClosingFirst, startOf]

theorem readClosingFirst_of_head?_ne {negated : Bool} {parts : List ClassPart}
    (h : cs.head? ≠ some ']') :
    readClosingFirst f negated (parts, cs) = some ((negated, parts), cs) :=
  if_neg fun hclosing => h hclosing.2

theorem IsTail.readClassStart_eq (ht : IsTail t) (f : Flags) (negated : Bool) :
    (readClassStart f negated t).map startOf = some ((negated, []), t) := by
  rw [map_startOf_readClassStart, ht.readHyphens_eq, Option.bind_some,
    readClosingFirst_of_head?_ne (ht.head?_ne (by decide))]

theorem length_le_of_readClassStart {negated : Bool} {p : Bool × List ClassPart}
    (h : (readClassStart f negated cs).map startOf = some (p, rest)) : rest.length ≤ cs.length := by
  rw [map_startOf_readClassStart] at h
  obtain ⟨⟨parts, after⟩, hhyphens, hend⟩ := Option.bind_eq_some_iff.mp h
  have hlength := length_le_of_readHyphens hhyphens
  rw [readClosingFirst] at hend
  split at hend
  · rename_i hclosing
    obtain ⟨after, rfl⟩ := List.head?_eq_some_iff.mp hclosing.2
    obtain ⟨out, hout, hrest⟩ := Option.map_eq_some_iff.mp hend
    obtain ⟨-, rfl⟩ := Prod.mk.inj hrest
    exact Nat.le_trans (Nat.le_succ_of_le (length_le_of_next? hout)) hlength
  · obtain ⟨-, rfl⟩ := Prod.mk.inj (Option.some.inj hend)
    exact hlength

theorem carriedInside_readClosingFirst (ht : IsTail t) (f : Flags) (negated : Bool)
    (parts : List ClassPart) (cs : List Char) : CarriedInside t
      (readClosingFirst f negated (parts, cs)) (readClosingFirst f negated (parts, cs ++ t)) := by
  by_cases hhead : cs.head? = some ']'
  · obtain ⟨cs, rfl⟩ := List.head?_eq_some_iff.mp hhead
    rw [List.cons_append]
    by_cases hparts : parts.isEmpty = true
    · simp only [readClosingFirst, hparts, List.head?_cons, and_self, if_true]
      obtain ⟨d, out, hout, -, hout'⟩ | ⟨hnone, hnone' | ⟨-, htail⟩⟩ :=
        next?_append ht f.verbose ']' cs
      · rw [hout, hout']
        exact .kept _ (d :: out)
      · rw [hnone, hnone']
        exact .lost
      · rw [hnone, htail]
        exact .left _ (List.suffix_refl t)
    · simp only [readClosingFirst, hparts]
      exact .kept _ (']' :: cs)
  · rw [readClosingFirst_of_head?_ne hhead,
      readClosingFirst_of_head?_ne (mt (ht.head?_append_iff (by decide)).mp hhead)]
    exact .kept _ cs

theorem carriedInside_readClassStart (ht : IsTail t) (f : Flags) (negated : Bool) (cs : List Char) :
    CarriedInside t ((readClassStart f negated cs).map startOf)
      ((readClassStart f negated (cs ++ t)).map startOf) := by
  rw [map_startOf_readClassStart, map_startOf_readClassStart]
  have hhyphens := carriedInside_readHyphens (f := f) ht [] (Nat.lt_succ_self cs.length)
    (Nat.lt_succ_self (cs ++ t).length)
  refine hhyphens.bind (fun parts rest _ => carriedInside_readClosingFirst ht f negated parts rest)
    (fun parts => ?_) fun parts s p rest hs hsome => ?_
  · rw [readClosingFirst_of_head?_ne (by simp)]
    exact .swallowed _
  · have hhead : s.head? ≠ some ']' :=
      (ht.of_suffix hs).head?_ne (by decide)
    rw [readClosingFirst_of_head?_ne hhead] at hsome
    obtain ⟨-, rfl⟩ := Prod.mk.inj (Option.some.inj hsome)
    exact List.suffix_refl s

/-- Reads on behind an opening bracket. -/
def readNegation (f : Flags) (cs : List Char) : Option ((Bool × List ClassPart) × List Char) :=
  if cs.head? = some '^' then
    (next? f.verbose cs).bind fun rest => (readClassStart f true rest).map startOf
  else (readClassStart f false cs).map startOf

theorem map_startOf_readClassOpen (f : Flags) (cs : List Char) :
    (readClassOpen f cs).map startOf = (next? f.verbose cs).bind (readNegation f) := by
  rw [readClassOpen]
  rcases next? f.verbose cs with - | (- | ⟨c, rest⟩)
  · rfl
  · rfl
  · by_cases hc : c = '^'
    · subst hc
      rw [Option.bind_some, readNegation, List.head?_cons, if_pos rfl]
      exact Option.map_bind
    · simp [readNegation, hc]

theorem carriedInside_readNegation (ht : IsTail t) (f : Flags) (cs : List Char) :
    CarriedInside t (readNegation f cs) (readNegation f (cs ++ t)) := by
  by_cases hhead : cs.head? = some '^'
  · obtain ⟨cs, rfl⟩ := List.head?_eq_some_iff.mp hhead
    simp only [readNegation, List.cons_append, List.head?_cons, if_true]
    refine .next ht f.verbose '^' cs (carriedInside_readClassStart ht f true) fun p s h => ?_
    rw [ht.readClassStart_eq] at h
    exact (Prod.mk.inj (Option.some.inj h)).2 ▸ List.suffix_refl t
  · simp only [readNegation, hhead, mt (ht.head?_append_iff (by decide)).mp hhead, if_false]
    exact carriedInside_readClassStart ht f false cs

theorem carriedInside_readClassOpen (ht : IsTail t) (f : Flags) (c : Char) (cs : List Char) :
    CarriedInside t ((readClassOpen f (c :: cs)).map startOf)
      ((readClassOpen f (c :: (cs ++ t))).map startOf) := by
  rw [map_startOf_readClassOpen, map_startOf_readClassOpen]
  refine .next ht f.verbose c cs (carriedInside_readNegation ht f) fun p s h => ?_
  rw [readNegation, if_neg (ht.head?_ne (by decide)), ht.readClassStart_eq] at h
  exact (Prod.mk.inj (Option.some.inj h)).2 ▸ List.suffix_refl t

theorem length_le_of_readClassOpen {p : Bool × List ClassPart}
    (h : (readClassOpen f (c :: cs)).map startOf = some (p, rest)) : rest.length ≤ cs.length := by
  rw [map_startOf_readClassOpen] at h
  obtain ⟨out, hout, hneg⟩ := Option.bind_eq_some_iff.mp h
  have hout_le := length_le_of_next? hout
  rw [readNegation] at hneg
  split at hneg
  · rename_i hcaret
    obtain ⟨out, rfl⟩ := List.head?_eq_some_iff.mp hcaret
    obtain ⟨more, hmore, hstart⟩ := Option.bind_eq_some_iff.mp hneg
    have hmore_le := length_le_of_next? hmore
    have hstart_le := length_le_of_readClassStart hstart
    rw [List.length_cons] at hout_le
    omega
  · exact Nat.le_trans (length_le_of_readClassStart hneg) hout_le

end Starts

section Names

/-- Reads the name of an ASCII class up to the colon and the bracket that close it. -/
def readAsciiName (f : Flags) (negated : Bool) (cs : List Char) :
    Option (Option CharSet × List Char) :=
  match cs.span (· != ':') with
  | (name, ':' :: ']' :: after) =>
    (CharSet.asciiClass? (String.ofList name)).map fun s => (f.close? negated s, after)
  | _ => none

theorem span_colon_append (ht : ':' ∉ t) (cs : List Char) :
    (∃ name rest, cs.span (· != ':') = (name, ':' :: rest) ∧
      (cs ++ t).span (· != ':') = (name, ':' :: (rest ++ t))) ∨
    ∃ name name', cs.span (· != ':') = (name, []) ∧ (cs ++ t).span (· != ':') = (name', []) := by
  simp only [List.span_eq_takeWhile_dropWhile]
  induction cs with
  | nil =>
    have hdrop : t.dropWhile (· != ':') = [] :=
      List.dropWhile_eq_nil_iff.mpr fun c hc => bne_iff_ne.mpr fun hcolon => ht (hcolon ▸ hc)
    exact .inr ⟨[], _, rfl, congrArg _ hdrop⟩
  | cons c cs ih =>
    by_cases hc : c = ':'
    · subst hc
      exact .inl ⟨[], cs, by simp, by simp⟩
    · obtain ⟨name, rest, h, h'⟩ | ⟨name, name', h, h'⟩ := ih
      · exact .inl ⟨c :: name, rest, by simp_all, by simp_all⟩
      · exact .inr ⟨c :: name, c :: name', by simp_all, by simp_all⟩

/-- Whether a name between colons is negated, and the name itself. -/
def negationOf (cs : List Char) : Bool × List Char :=
  match cs with
  | '^' :: rest => (true, rest)
  | _ => (false, cs)

theorem readAsciiClass_colon (f : Flags) (cs : List Char) :
    readAsciiClass f ('[' :: ':' :: cs) =
      readAsciiName f (negationOf cs).1 (negationOf cs).2 := rfl

theorem readAsciiClass_of_head?_ne (f : Flags) (h : cs.head? ≠ some ':') :
    readAsciiClass f ('[' :: cs) = none := by
  unfold readAsciiClass
  split <;> simp_all

theorem negationOf_append (ht : IsTail t) (cs : List Char) :
    negationOf (cs ++ t) = ((negationOf cs).1, (negationOf cs).2 ++ t) := by
  by_cases hcaret : cs.head? = some '^'
  · obtain ⟨cs, rfl⟩ := List.head?_eq_some_iff.mp hcaret
    rfl
  · have hplain : ∀ {cs : List Char}, cs.head? ≠ some '^' → negationOf cs = (false, cs) := by
      intro cs h
      unfold negationOf
      split <;> simp_all
    rw [hplain hcaret, hplain (mt (ht.head?_append_iff (by decide)).mp hcaret)]

theorem readAsciiName_append (ht : IsTail t) (f : Flags) (negated : Bool) (cs : List Char) :
    readAsciiName f negated (cs ++ t) =
      (readAsciiName f negated cs).map fun p => (p.1, p.2 ++ t) := by
  have hcolon : ':' ∉ t := fun h => absurd (ht _ h) (by decide)
  rw [readAsciiName, readAsciiName]
  obtain ⟨name, rest, h, h'⟩ | ⟨name, name', h, h'⟩ := span_colon_append hcolon cs
  · rw [h, h']
    rcases rest with - | ⟨c, rest⟩
    · cases t with
      | nil => rfl
      | cons c t => simp [ht.head_ne]
    · by_cases hc : c = ']' <;> simp [hc, Function.comp_def]
  · rw [h, h']
    rfl

/-- Whether a class has a name is not for a tail to say. -/
theorem readAsciiClass_append (ht : IsTail t) (f : Flags) (cs : List Char) :
    readAsciiClass f ('[' :: (cs ++ t)) =
      (readAsciiClass f ('[' :: cs)).map fun p => (p.1, p.2 ++ t) := by
  by_cases hcolon : cs.head? = some ':'
  · obtain ⟨cs, rfl⟩ := List.head?_eq_some_iff.mp hcolon
    rw [List.cons_append, readAsciiClass_colon, readAsciiClass_colon, negationOf_append ht,
      readAsciiName_append ht]
  · rw [readAsciiClass_of_head?_ne f hcolon,
      readAsciiClass_of_head?_ne f (mt (ht.head?_append_iff (by decide)).mp hcolon), Option.map_none]

theorem length_le_of_readAsciiName {negated : Bool} {s : Option CharSet}
    (h : readAsciiName f negated cs = some (s, rest)) : rest.length ≤ cs.length := by
  rw [readAsciiName, List.span_eq_takeWhile_dropWhile] at h
  have hdrop := (List.dropWhile_suffix (l := cs) (· != ':')).length_le
  split at h
  · rename_i name after hspan
    rw [(Prod.mk.inj hspan).2, List.length_cons, List.length_cons] at hdrop
    obtain ⟨s, -, hs⟩ := Option.map_eq_some_iff.mp h
    obtain ⟨-, rfl⟩ := Prod.mk.inj hs
    omega
  · contradiction

theorem length_le_of_readAsciiClass {s : Option CharSet}
    (h : readAsciiClass f ('[' :: cs) = some (s, rest)) : rest.length ≤ cs.length := by
  by_cases hcolon : cs.head? = some ':'
  · obtain ⟨cs, rfl⟩ := List.head?_eq_some_iff.mp hcolon
    rw [readAsciiClass_colon] at h
    have hname := length_le_of_readAsciiName h
    have hnegation : (negationOf cs).2.length ≤ cs.length := by
      unfold negationOf
      split <;> simp
    rw [List.length_cons]
    omega
  · rw [readAsciiClass_of_head?_ne f hcolon] at h
    contradiction

end Names

section Ranges

theorem readClassItem_backslash (f : Flags) (cs : List Char) :
    readClassItem f ('\\' :: cs) = readEscape f cs := rfl

theorem readClassItem_of_ne (f : Flags) (hc : c ≠ '\\') (cs : List Char) :
    readClassItem f (c :: cs) = some (.char c false, cs) := by
  unfold readClassItem
  split <;> simp_all

theorem length_le_of_readClassItem {a : Atom} (h : readClassItem f (c :: cs) = some (a, rest)) :
    rest.length ≤ cs.length := by
  by_cases hc : c = '\\'
  · subst hc
    rw [readClassItem_backslash] at h
    cases cs with
    | nil => contradiction
    | cons c cs => exact Nat.le_succ_of_le (length_le_of_readEscape h)
  · rw [readClassItem_of_ne f hc] at h
    obtain ⟨-, rfl⟩ := Prod.mk.inj (Option.some.inj h)
    exact Nat.le_refl _

theorem carried_readClassItem (ht : IsTail t) (f : Flags) (c : Char) (cs : List Char) :
    Carried t (readClassItem f (c :: cs)) (readClassItem f (c :: (cs ++ t))) ∨
      readClassItem f (c :: cs) = none ∧
        ∃ l s, readClassItem f (c :: (cs ++ t)) = some (.look l, s) := by
  by_cases hc : c = '\\'
  · subst hc
    obtain h | ⟨hnone, l, s, hsome, -⟩ := carried_readEscape ht f cs
    · exact .inl h
    · exact .inr ⟨hnone, l, s, hsome⟩
  · rw [readClassItem_of_ne f hc, readClassItem_of_ne f hc]
    exact .inl (.kept _ cs)

theorem peekBehind_of_head? (h : (cs.dropWhile CharSet.space.contains).head? ≠ some '#') :
    peekBehind true (c :: cs) = (cs.dropWhile CharSet.space.contains).head? := by
  simp only [peekBehind, if_true]
  split
  · simp_all
  · rfl

/-- No tail makes a difference to whether a certain character stands behind a hyphen. -/
theorem peekBehind_append_iff (ht : IsTail t) (hd : d ≠ ')' ∧ d ≠ '$') (v : Bool) (c : Char)
    (cs : List Char) : peekBehind v (c :: (cs ++ t)) = some d ↔ peekBehind v (c :: cs) = some d := by
  cases v with
  | false => exact ht.head?_append_iff hd
  | true =>
    by_cases hsign : (cs.dropWhile CharSet.space.contains).head? = some '#'
    · obtain ⟨more, hmore⟩ := List.head?_eq_some_iff.mp hsign
      simp only [peekBehind, if_true, dropSpace_append ht, hmore, List.cons_append]
      exact ht.head?_append_iff hd
    · have hsign' : ((cs ++ t).dropWhile CharSet.space.contains).head? ≠ some '#' := by
        rw [dropSpace_append ht]
        exact mt (ht.head?_append_iff (by decide)).mp hsign
      rw [peekBehind_of_head? hsign, peekBehind_of_head? hsign', dropSpace_append ht]
      exact ht.head?_append_iff hd

/-- The range from one item to another. -/
def range? (f : Flags) (first last : Atom) : Option ClassPart :=
  (rangeEnd? f first).bind fun a => (rangeEnd? f last).bind fun b =>
    if a ≤ b then some ⟨.range a b, 0⟩ else none

/-- The range from one item to another, with what follows it. -/
def closeRange (f : Flags) (first last : Atom) (cs : List Char) : Option (ClassPart × List Char) :=
  match rangeEnd? f first, rangeEnd? f last with
  | some a, some b => if a ≤ b then some (⟨.range a b, 0⟩, cs) else none
  | _, _ => none

theorem closeRange_eq (f : Flags) (first last : Atom) (cs : List Char) :
    closeRange f first last cs = (range? f first last).map fun part => (part, cs) := by
  rw [closeRange, range?]
  cases rangeEnd? f first <;> cases rangeEnd? f last <;> simp

/-- Reads on behind the first item of a range and what is skipped there. -/
def readRangeEnd (f : Flags) (first : Atom) (cs : List Char) : Option (ClassPart × List Char) :=
  if cs.head? = some '-' ∧ peekBehind f.verbose cs ≠ some ']' ∧
      peekBehind f.verbose cs ≠ some '-' then
    (next? f.verbose cs).bind fun behind => (readClassItem f behind).bind fun p =>
      (range? f first p.1).map fun part => (part, p.2)
  else if cs = [] then none
  else (itemSet? f first).map fun s => (⟨s, 0⟩, cs)

theorem readClassRange_eq (f : Flags) (cs : List Char) : readClassRange f cs =
    (readClassItem f cs).bind fun p => readRangeEnd f p.1 (skip f.verbose p.2) := by
  rw [readClassRange]
  congr 1
  funext p
  obtain ⟨first, rest⟩ := p
  dsimp only
  rcases skip f.verbose rest with - | ⟨c, more⟩
  · simp [readRangeEnd]
  · by_cases hc : c = '-'
    · subst hc
      by_cases hpeek : peekBehind f.verbose ('-' :: more) ≠ some ']' ∧
          peekBehind f.verbose ('-' :: more) ≠ some '-'
      · have hlist : ¬[some ']', some '-'].contains (peekBehind f.verbose ('-' :: more)) = true := by
          simpa using hpeek
        rw [readRangeEnd, if_pos ⟨rfl, hpeek⟩]
        simp only [← closeRange_eq]
        exact if_neg hlist
      · rw [readRangeEnd, if_neg fun h => hpeek h.2]
        simp [hpeek]
    · simp [readRangeEnd, hc]

theorem readRangeEnd_look (f : Flags) (l : Look) (cs : List Char) :
    readRangeEnd f (.look l) cs = none := by
  simp only [readRangeEnd, range?, rangeEnd?, itemSet?, Option.bind_none, Option.map_none,
    Option.bind_fun_none, ite_self]

theorem IsTail.readRangeEnd_eq (ht : IsTail t) (f : Flags) (first : Atom) : readRangeEnd f first t =
    if t = [] then none else (itemSet? f first).map fun s => (⟨s, 0⟩, t) :=
  if_neg fun h => ht.head?_ne (by decide) h.1

theorem length_le_of_readRangeEnd {first : Atom} {part : ClassPart}
    (h : readRangeEnd f first cs = some (part, rest)) : rest.length ≤ cs.length := by
  rw [readRangeEnd] at h
  split at h
  · rename_i hrange
    obtain ⟨cs, rfl⟩ := List.head?_eq_some_iff.mp hrange.1
    obtain ⟨- | ⟨d, behind⟩, hbehind, hlast⟩ := Option.bind_eq_some_iff.mp h
    · contradiction
    · obtain ⟨⟨last, after⟩, hitem, hpart⟩ := Option.bind_eq_some_iff.mp hlast
      obtain ⟨part, -, hafter⟩ := Option.map_eq_some_iff.mp hpart
      obtain ⟨-, rfl⟩ := Prod.mk.inj hafter
      have hitem_le := length_le_of_readClassItem hitem
      have hbehind_le := length_le_of_next? hbehind
      simp only [List.length_cons] at hbehind_le ⊢
      omega
  · split at h
    · contradiction
    · obtain ⟨s, -, hs⟩ := Option.map_eq_some_iff.mp h
      obtain ⟨-, rfl⟩ := Prod.mk.inj hs
      exact Nat.le_refl _

theorem length_le_of_readClassRange {part : ClassPart}
    (h : readClassRange f (c :: cs) = some (part, rest)) : rest.length ≤ cs.length := by
  rw [readClassRange_eq] at h
  obtain ⟨⟨first, after⟩, hitem, hend⟩ := Option.bind_eq_some_iff.mp h
  have hitem_le := length_le_of_readClassItem hitem
  have hend_le : rest.length ≤ (skip f.verbose after).length := length_le_of_readRangeEnd hend
  have hskip_le := length_skip_le f.verbose after
  omega

theorem carriedInside_readRangeEnd (ht : IsTail t) (f : Flags) (first : Atom) (c : Char)
    (cs : List Char) : CarriedInside t
      (readRangeEnd f first (c :: cs)) (readRangeEnd f first (c :: (cs ++ t))) := by
  simp only [readRangeEnd, ne_eq, peekBehind_append_iff ht (by decide : ']' ≠ ')' ∧ ']' ≠ '$'),
    peekBehind_append_iff ht (by decide : '-' ≠ ')' ∧ '-' ≠ '$'), List.head?_cons, reduceCtorEq,
    if_false]
  split
  · have hpart : ∀ last, IsReader fun after =>
        (range? f first last).map fun part => (part, after) := fun last => .ofOption _ id
    obtain ⟨d, out, hout, -, hout'⟩ | ⟨hnone, hnone' | ⟨-, htail⟩⟩ := next?_append ht f.verbose c cs
    · rw [hout, hout', Option.bind_some, Option.bind_some]
      obtain hitem | ⟨hnone, l, s, hsome⟩ := carried_readClassItem ht f d out
      · exact .of_carried (hitem.bind ht hpart)
      · have hlook : range? f first (.look l) = none := by
          simp [range?, rangeEnd?]
        rw [hnone, hsome, Option.bind_some, hlook]
        exact .lost
    · rw [hnone, hnone']
      exact .lost
    · rw [hnone, htail, Option.bind_some, Option.bind_none]
      cases t with
      | nil => exact .lost
      | cons d t =>
        rw [readClassItem_of_ne f (ht.head_ne (by decide)), Option.bind_some]
        cases range? f first (.char d false) with
        | none => exact .lost
        | some part => exact .left part (List.suffix_cons d t)
  · cases itemSet? f first with
    | none => exact .lost
    | some s => exact .kept _ (c :: cs)

theorem carriedInside_readClassRange (ht : IsTail t) (f : Flags) (c : Char) (cs : List Char) :
    CarriedInside t (readClassRange f (c :: cs)) (readClassRange f (c :: (cs ++ t))) := by
  have hnil : ∀ first, readRangeEnd f first [] = none := fun first => by simp [readRangeEnd]
  have hleft : ∀ {s}, s <:+ t → ∀ {first part rest}, readRangeEnd f first s = some (part, rest) →
      rest <:+ s := by
    intro s hs first part rest h
    rw [(ht.of_suffix hs).readRangeEnd_eq] at h
    split at h
    · contradiction
    · obtain ⟨_, -, hrest⟩ := Option.map_eq_some_iff.mp h
      obtain ⟨-, rfl⟩ := Prod.mk.inj hrest
      exact List.suffix_refl s
  rw [readClassRange_eq, readClassRange_eq]
  obtain hitem | ⟨hnone, l, s, hsome⟩ := carried_readClassItem ht f c cs
  · refine (CarriedInside.of_carried hitem).bind (fun first rest _ => ?_) (fun first => ?_)
      fun first s part rest hs h => ?_
    · dsimp only
      rcases skip_append ht f.verbose rest with h | ⟨h, h'⟩
      · rw [h]
        cases skip f.verbose rest with
        | nil =>
          rw [List.nil_append, hnil]
          refine .missed fun part s h => ?_
          exact hleft (List.suffix_refl t) h
        | cons c cs => exact carriedInside_readRangeEnd ht f first c cs
      · rw [h, h', hnil]
        exact .lost
    · rw [skip_nil, hnil]
      exact .lost
    · rw [(ht.of_suffix hs).skip_eq] at h
      exact hleft hs h
  · rw [hnone, hsome, Option.bind_some, readRangeEnd_look]
    exact .lost

end Ranges

end CodeStyle.Regex
