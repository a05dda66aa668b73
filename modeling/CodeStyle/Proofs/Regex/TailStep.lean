import CodeStyle.Proofs.Regex.TailClassList

/-!
# Steps through a pattern with a tail behind it

A step that starts with a character of the pattern does the same with a tail behind the pattern,
unless it is the last one and there is no result without the tail.
-/
namespace CodeStyle.Regex

variable {s t cs rest : List Char} {c : Char} {f : Flags}

section Groups

/-- No tail closes the name of a group. -/
theorem readGroupName_tail (ht : IsTail t) (taken : List Char) : readGroupName taken t = none := by
  induction t generalizing taken with
  | nil => rfl
  | cons c t ih =>
    rw [readGroupName, if_neg (ht.head_ne (by decide)), ih ht.tail, ite_self]

theorem isReader_readGroupName (taken : List Char) : IsReader (readGroupName taken) where
  length_le {cs name rest} h := by
    induction cs generalizing taken with
    | nil => contradiction
    | cons c cs ih =>
      rw [readGroupName] at h
      split at h
      · split at h
        · contradiction
        · obtain ⟨-, rfl⟩ := Prod.mk.inj (Option.some.inj h)
          exact Nat.le_succ _
      · split at h
        · exact Nat.le_succ_of_le (ih (c :: taken) h)
        · contradiction
  carried {t} ht cs := by
    induction cs generalizing taken with
    | nil =>
      rw [List.nil_append, readGroupName_tail ht]
      exact .lost
    | cons c cs ih =>
      rw [List.cons_append, readGroupName, readGroupName]
      split
      · split
        · exact .lost
        · exact .kept _ cs
      · split
        · exact ih (c :: taken)
        · exact .lost

/-- A group of flags, apart from what follows it. -/
def flagsOf (p : Flags × Nat × Char × List Char) : (Flags × Nat × Char) × List Char :=
  ((p.1, p.2.1, p.2.2.1), p.2.2.2)

theorem isReader_readFlags (f : Flags) (seen : List Char) (on : Bool) :
    IsReader fun cs => (f.read? seen on cs).map flagsOf where
  length_le {cs p rest} h := by
    induction cs generalizing f seen on with
    | nil => contradiction
    | cons c cs ih =>
      rw [Flags.read?] at h
      split at h
      · split at h
        · contradiction
        · obtain ⟨-, rfl⟩ := Prod.mk.inj (Option.some.inj h)
          exact Nat.le_succ _
      · split at h
        · contradiction
        · split at h
          · exact Nat.le_succ_of_le (ih f (c :: seen) false h)
          · split at h
            · exact Nat.le_succ_of_le (ih _ (c :: seen) on h)
            · contradiction
  carried {t} ht cs := by
    induction cs generalizing f seen on with
    | nil =>
      cases t with
      | nil => exact .lost
      | cons c t =>
        rw [List.nil_append, Flags.read?, Flags.read?]
        rcases ht.head with rfl | rfl
        · by_cases hseen : seen.head? = some '-'
          · simpa [hseen] using Carried.lost
          · simpa [hseen, flagsOf] using Carried.eaten (f, seen.length, ')')
              (List.suffix_cons ')' t) (List.cons_ne_self ')' t).symm
        · by_cases hseen : '$' ∈ seen
          · simpa [hseen] using Carried.lost
          · simpa [hseen, Flags.set?] using Carried.lost
    | cons c cs ih =>
      rw [List.cons_append, Flags.read?, Flags.read?]
      split
      · split
        · exact .lost
        · exact .kept _ cs
      · split
        · exact .lost
        · split
          · exact ih f (c :: seen) false
          · split
            · exact ih _ (c :: seen) on
            · exact .lost

namespace Reading

variable {r : Reading}

theorem isReader_enterNamed (r : Reading) : IsReader r.enterNamed? :=
  (isReader_readGroupName []).bind fun _ => .ite .none (.pure _)

/-- Reads a switch of flags, or a group that begins with one, from behind its question mark on. -/
def openFlags? (r : Reading) (cs : List Char) : Option (Reading × List Char) :=
  ((r.flags.read? [] true cs).map flagsOf).bind fun p =>
    if p.1.2.2 = ':' then some (r.enter p.1.1, p.2)
    else if p.1.2.1 = 0 then none
    else some ({ r with group := r.group.push ⟨.empty, 0, false⟩, flags := p.1.1 }, p.2)

/-- Reads what follows an opening parenthesis with a question mark. -/
def openMarked? (r : Reading) (cs : List Char) : Option (Reading × List Char) :=
  if cs.head? = some '=' then none
  else if cs.head? = some '!' then none
  else if cs.head? = some 'P' then
    if cs.tail.head? = some '<' then r.enterNamed? cs.tail.tail else none
  else if cs.head? = some '<' then
    if cs.tail.head? = some '=' then none
    else if cs.tail.head? = some '!' then none
    else r.enterNamed? cs.tail
  else r.openFlags? cs

theorem openGroup?_eq (r : Reading) (cs : List Char) : r.openGroup? cs =
    if (skip r.flags.verbose cs).head? = some '?' then r.openMarked? (skip r.flags.verbose cs).tail
    else some (r.enter r.flags, skip r.flags.verbose cs) := by
  have hflags : ∀ cs, ((r.flags.read? [] true cs).bind fun p =>
      if p.2.2.1 = ':' then some (r.enter p.1, p.2.2.2)
      else if p.2.1 = 0 then none
      else some ({ r with group := r.group.push ⟨.empty, 0, false⟩, flags := p.1 }, p.2.2.2)) =
      r.openFlags? cs := fun cs => by
    rw [openFlags?, Option.bind_map]
    rfl
  rw [openGroup?]
  generalize skip r.flags.verbose cs = text
  rcases text with - | ⟨c, text⟩
  · rfl
  · by_cases hmark : c = '?'
    · subst hmark
      rcases text with - | ⟨d, text⟩
      · rfl
      · by_cases hequal : d = '='
        · subst hequal
          rfl
        · by_cases hunequal : d = '!'
          · subst hunequal
            rfl
          · by_cases hlong : d = 'P'
            · subst hlong
              rcases text with - | ⟨e, text⟩
              · rfl
              · by_cases hname : e = '<'
                · subst hname
                  rfl
                · simp [openMarked?, Flags.read?, Flags.set?, hname]
            · by_cases hshort : d = '<'
              · subst hshort
                rcases text with - | ⟨e, text⟩
                · rfl
                · by_cases hequal : e = '='
                  · subst hequal
                    rfl
                  · by_cases hunequal : e = '!'
                    · subst hunequal
                      rfl
                    · simp [openMarked?, hequal, hunequal]
              · have hplain := hflags (d :: text)
                simp [openMarked?, hequal, hunequal, hlong, hshort, ← hplain]
    · simp [hmark]

theorem isReader_openFlags (r : Reading) : IsReader r.openFlags? :=
  (isReader_readFlags r.flags [] true).bind fun p =>
    (IsReader.pure (r.enter p.1)).ite (p := p.2.2 = ':') <|
      IsReader.none.ite (p := p.2.1 = 0) <|
        .pure { r with group := r.group.push ⟨.empty, 0, false⟩, flags := p.1 }

theorem isReader_openGroup (r : Reading) : IsReader r.openGroup? := by
  have hname := r.isReader_enterNamed
  have hnone : IsReader fun _ => (none : Option (Reading × List Char)) := .none
  have hlong := hname.onHead '<' (by decide) hnone
  have hshort := hnone.onHead '=' (by decide) (hnone.onHead '!' (by decide) hname)
  have hmarked : IsReader r.openMarked? := hnone.onHead '=' (by decide) <|
    hnone.onHead '!' (by decide) <| hlong.onHead 'P' (by decide) <|
    hshort.onHead '<' (by decide) r.isReader_openFlags
  have hplain := IsReader.pure (r.enter r.flags)
  exact ((hmarked.onHead '?' (by decide) hplain).skip r.flags.verbose).of_eq r.openGroup?_eq

end Reading

end Groups

section Repetitions

namespace Reading

theorem isReader_skipLazy (r : Reading) : IsReader fun cs => some (r, skipLazy cs) := by
  refine ((IsReader.pure r).onHead '?' (by decide) (.pure r)).of_eq fun cs => ?_
  rcases cs with - | ⟨c, cs⟩
  · rfl
  · by_cases hc : c = '?'
    · subst hc
      rfl
    · simp [skipLazy, hc]

/-- Repeats the last part, from behind the counts and the sign that closes them on. -/
def repeated? (r : Reading) (min : Nat) (max : Option Nat) (cs : List Char) :
    Option (Reading × List Char) :=
  (r.group.repeatLast? min max).map fun g => ({ r with group := g }, skipLazy cs)

theorem isReader_repeated (r : Reading) (min : Nat) (max : Option Nat) :
    IsReader (r.repeated? min max) := by
  unfold repeated?
  cases r.group.repeatLast? min max with
  | none => exact .none
  | some g => exact isReader_skipLazy { r with group := g }

def closeRepeat? (r : Reading) (min : Nat) (max : Option Nat) (cs : List Char) :
    Option (Reading × List Char) :=
  match cs with
  | '}' :: rest =>
    if max.any (· < min) then none else r.repeated? min max (skip r.flags.verbose rest)
  | _ => none

/-- Reads the second count of a repetition, if there is one, and the closing brace. -/
def readMaximum? (r : Reading) (min : Nat) (cs : List Char) : Option (Reading × List Char) :=
  match cs with
  | '}' :: _ => r.closeRepeat? min none cs
  | _ => match readDecimal r.flags.verbose cs with
    | (.value max, after) => r.closeRepeat? min (some max) after
    | _ => none

/-- Reads the counts of a repetition and the closing brace. -/
def readCounts? (r : Reading) (cs : List Char) : Option (Reading × List Char) :=
  match readDecimal r.flags.verbose cs with
  | (.value min, ',' :: rest) => (next? r.flags.verbose (',' :: rest)).bind (r.readMaximum? min)
  | (.value count, rest) => r.closeRepeat? count (some count) rest
  | _ => none

theorem repeat?_eq (r : Reading) (cs : List Char) :
    r.repeat? cs = (next? r.flags.verbose cs).bind r.readCounts? := rfl

theorem isReader_closeRepeat (r : Reading) (min : Nat) (max : Option Nat) :
    IsReader (r.closeRepeat? min max) := by
  have hclosed := (r.isReader_repeated min max).skip r.flags.verbose
  refine ((IsReader.none.ite (p := max.any (· < min)) hclosed).onHead '}' (by decide) .none).of_eq
    fun cs => ?_
  rcases cs with - | ⟨c, cs⟩
  · rfl
  · by_cases hc : c = '}'
    · subst hc
      rfl
    · simp [closeRepeat?, hc]

/-- Reads on behind the second count of a repetition. -/
def endMaximum? (r : Reading) (min : Nat) (d : Decimal) (cs : List Char) :
    Option (Reading × List Char) :=
  match d with
  | .value max => r.closeRepeat? min (some max) cs
  | _ => none

theorem isReader_endMaximum (r : Reading) (min : Nat) (d : Decimal) :
    IsReader (r.endMaximum? min d) := by
  cases d with
  | absent => exact .none
  | tooLarge => exact .none
  | value max => exact r.isReader_closeRepeat min (some max)

theorem isReader_readMaximum (r : Reading) (min : Nat) : IsReader (r.readMaximum? min) := by
  have hcount := (isReader_readDecimal r.flags.verbose).bind
    (k := fun p => r.endMaximum? min p.1 p.2) (r.isReader_endMaximum min)
  have hclosed := (r.isReader_repeated min none).skip r.flags.verbose
  refine (hclosed.onHead '}' (by decide) hcount).of_eq fun cs => ?_
  rcases cs with - | ⟨c, cs⟩
  · rfl
  · by_cases hc : c = '}'
    · subst hc
      rfl
    · rcases hdecimal : readDecimal r.flags.verbose (c :: cs) with ⟨- | - | max, after⟩ <;>
        simp [readMaximum?, endMaximum?, hc, hdecimal]

/-- Reads on behind the first count of a repetition. -/
def endMinimum? (r : Reading) (d : Decimal) (cs : List Char) : Option (Reading × List Char) :=
  match d with
  | .value min =>
    if cs.head? = some ',' then (next? r.flags.verbose (',' :: cs.tail)).bind (r.readMaximum? min)
    else r.closeRepeat? min (some min) cs
  | _ => none

theorem isReader_endMinimum (r : Reading) (d : Decimal) : IsReader (r.endMinimum? d) := by
  cases d with
  | absent => exact .none
  | tooLarge => exact .none
  | value min =>
    have hmaximum := (r.isReader_readMaximum min).next rfl r.flags.verbose ','
    exact hmaximum.onHead ',' (by decide) (r.isReader_closeRepeat min (some min))

theorem isReader_readCounts (r : Reading) : IsReader r.readCounts? := by
  have hcount := (isReader_readDecimal r.flags.verbose).bind
    (k := fun p => r.endMinimum? p.1 p.2) r.isReader_endMinimum
  refine hcount.of_eq fun cs => ?_
  rw [readCounts?, Option.bind_some]
  rcases readDecimal r.flags.verbose cs with ⟨- | - | min, - | ⟨c, rest⟩⟩
  all_goals first
    | rfl
    | by_cases hc : c = ','
      · subst hc
        rfl
      · simp [endMinimum?, hc]

theorem readCounts?_tail (r : Reading) (ht : IsTail t) : r.readCounts? t = none := by
  rw [readCounts?, readDecimal_tail ht]

theorem isReader_repeat (r : Reading) (c : Char) : IsReader fun cs => r.repeat? (c :: cs) :=
  r.isReader_readCounts.next rfl r.flags.verbose c

end Reading

end Repetitions

section Steps

namespace Reading

/-- The expression of an escape. -/
def exprOf? (r : Reading) (a : Atom) : Option Regex :=
  match a with
  | .char c twoDigits => (charSet? r.flags c twoDigits).map .char
  | .set s => some (.char s)
  | .look l => some (.look l)

theorem readAtom?_backslash (r : Reading) (cs : List Char) : r.readAtom? ('\\' :: cs) =
    (readEscape r.flags cs).bind fun p => (r.exprOf? p.1).map fun e => (e, p.2) := by
  rw [readAtom?]
  congr 1
  funext p
  obtain ⟨a, after⟩ := p
  cases a with
  | char c twoDigits => simp [exprOf?, Function.comp_def]
  | set s => rfl
  | look l => rfl

/-- The expression of a character that is no backslash. -/
def plainExpr? (r : Reading) (c : Char) : Option Regex :=
  match c with
  | '.' => r.flags.dot?.map .char
  | '^' => some (.look r.flags.caret)
  | '$' => some (.look r.flags.dollar)
  | c => (charSet? r.flags c false).map .char

theorem readAtom?_of_ne (r : Reading) (hc : c ≠ '\\') (cs : List Char) :
    r.readAtom? (c :: cs) = (r.plainExpr? c).map fun e => (e, cs) := by
  unfold readAtom? plainExpr?
  split <;> simp_all [Function.comp_def]

/-- Adds an expression to the group that is being read. -/
def pushExpr (r : Reading) (e : Regex) : Reading :=
  { r with group := r.group.push ⟨e, 0, true⟩ }

/-- The characters that a step gives a meaning of their own. -/
def isSign (c : Char) : Bool := ['(', ')', '|', '[', '?', '*', '+', '\x7b'].contains c

theorem step?_of_not_isSign (r : Reading) (hc : isSign c = false) (cs : List Char) :
    r.step? (c :: cs) = (r.readAtom? (c :: cs)).map fun p => (r.pushExpr p.1, p.2) := by
  unfold step?
  split <;> simp_all [isSign, pushExpr]

theorem isReader_step (r : Reading) (hc : c ≠ '\\') : IsReader fun cs => r.step? (c :: cs) := by
  cases hsign : isSign c with
  | false =>
    refine (IsReader.ofOption (r.plainExpr? c) r.pushExpr).of_eq fun cs => ?_
    rw [r.step?_of_not_isSign hsign, r.readAtom?_of_ne hc, Option.map_map]
    rfl
  | true =>
    simp only [isSign, List.contains_eq_mem, decide_eq_true_eq, List.mem_cons, List.not_mem_nil,
      or_false] at hsign
    rcases hsign with rfl | rfl | rfl | rfl | rfl | rfl | rfl | rfl
    · exact r.isReader_openGroup
    · unfold step?
      cases r.frames with
      | nil => exact .none
      | cons frame frames => exact .pure _
    · exact .pure _
    · exact (isReader_readClass r.flags).map
        (fun part => { r with group := r.group.push ⟨.char part.set, part.depth, true⟩ })
        fun _ _ => rfl
    · exact r.isReader_repeated 0 (some 1)
    · exact r.isReader_repeated 0 none
    · exact r.isReader_repeated 1 none
    · exact r.isReader_repeat '\x7b'

theorem step?_backslash (r : Reading) (cs : List Char) : r.step? ('\\' :: cs) =
    (readEscape r.flags cs).bind fun p => (r.exprOf? p.1).map fun e => (r.pushExpr e, p.2) := by
  rw [r.step?_of_not_isSign (by decide), readAtom?_backslash, Option.map_bind]
  congr 1
  funext p
  rw [Function.comp_apply, Option.map_map]
  rfl

theorem length_le_of_step? {r r' : Reading} (h : r.step? (c :: cs) = some (r', rest)) :
    rest.length ≤ cs.length := by
  by_cases hc : c = '\\'
  · subst hc
    rw [step?_backslash] at h
    obtain ⟨⟨a, after⟩, hescape, he⟩ := Option.bind_eq_some_iff.mp h
    obtain ⟨e, -, hrest⟩ := Option.map_eq_some_iff.mp he
    obtain ⟨-, rfl⟩ := Prod.mk.inj hrest
    cases cs with
    | nil => contradiction
    | cons c cs => exact Nat.le_succ_of_le (length_le_of_readEscape hescape)
  · exact (r.isReader_step hc).length_le h

/-- A tail makes a difference to a step only if a brace is left behind a word boundary. -/
theorem carried_step (ht : IsTail t) (r : Reading) (c : Char) (cs : List Char) :
    Carried t (r.step? (c :: cs)) (r.step? (c :: (cs ++ t))) ∨ r.step? (c :: cs) = none ∧
      ∃ r' s, r.step? (c :: (cs ++ t)) = some (r', s) ∧ IsStuck r'.flags.verbose t s := by
  by_cases hc : c = '\\'
  · subst hc
    rw [step?_backslash, step?_backslash]
    obtain h | ⟨hnone, l, s, hsome, hstuck⟩ := carried_readEscape ht r.flags cs
    · exact .inl (h.bind ht fun a => .ofOption (r.exprOf? a) r.pushExpr)
    · refine .inr ⟨by rw [hnone, Option.bind_none], r.pushExpr (.look l), s, ?_, hstuck⟩
      rw [hsome]
      rfl
  · exact .inl ((r.isReader_step hc).carried ht cs)

end Reading

end Steps

end CodeStyle.Regex
