import CodeStyle.Proofs.Regex.TailStep

/-!
# Patterns inside a group

A pattern is put into a group by what opens the group in front of it and what closes it behind it.
Then the pattern is read with one more group open around it. That makes no difference to a step,
unless the step closes a group that the pattern has not opened.
-/
namespace CodeStyle.Regex

variable {s t cs rest : List Char} {c : Char} {f : Flags} {n n' : Nat}

section Frames

namespace Reading

variable {r r' : Reading} {outer : GroupFrame}

/-- A state of reading with one more group open around all the others. -/
def within (r : Reading) (outer : GroupFrame) : Reading :=
  { r with frames := r.frames ++ [outer] }

@[simp]
theorem flags_within (r : Reading) (outer : GroupFrame) : (r.within outer).flags = r.flags := rfl

@[simp]
theorem group_within (r : Reading) (outer : GroupFrame) : (r.within outer).group = r.group := rfl

theorem frames_within_ne_nil (r : Reading) (outer : GroupFrame) : (r.within outer).frames ≠ [] :=
  List.append_ne_nil_of_right_ne_nil _ (List.cons_ne_nil _ _)

/-- The result of a step, with one more group open. -/
def stepWithin (outer : GroupFrame) (p : Reading × List Char) : Reading × List Char :=
  (p.1.within outer, p.2)

theorem enterNamed?_within (r : Reading) (outer : GroupFrame) (cs : List Char) :
    (r.within outer).enterNamed? cs = (r.enterNamed? cs).map (stepWithin outer) := by
  simp only [enterNamed?, Option.map_bind]
  congr 1
  funext p
  obtain ⟨name, rest⟩ := p
  change (if r.names.contains name = true then none
    else some (({ r.within outer with names := name :: r.names } : Reading).enter r.flags, rest)) =
      (if r.names.contains name = true then none else _).map (stepWithin outer)
  split <;> rfl

theorem openFlags?_within (r : Reading) (outer : GroupFrame) (cs : List Char) :
    (r.within outer).openFlags? cs = (r.openFlags? cs).map (stepWithin outer) := by
  simp only [openFlags?, Option.map_bind]
  congr 1
  funext p
  simp only [group_within, Function.comp_apply]
  split
  · rfl
  · split <;> rfl

theorem openMarked?_within (r : Reading) (outer : GroupFrame) (cs : List Char) :
    (r.within outer).openMarked? cs = (r.openMarked? cs).map (stepWithin outer) := by
  simp only [openMarked?, enterNamed?_within, openFlags?_within]
  repeat' split
  all_goals rfl

theorem openGroup?_within (r : Reading) (outer : GroupFrame) (cs : List Char) :
    (r.within outer).openGroup? cs = (r.openGroup? cs).map (stepWithin outer) := by
  simp only [openGroup?_eq, openMarked?_within, flags_within]
  split <;> rfl

theorem repeated?_within (r : Reading) (outer : GroupFrame) (min : Nat) (max : Option Nat)
    (cs : List Char) :
    (r.within outer).repeated? min max cs = (r.repeated? min max cs).map (stepWithin outer) := by
  simp only [repeated?, Option.map_map]
  rfl

theorem closeRepeat?_within (r : Reading) (outer : GroupFrame) (min : Nat) (max : Option Nat)
    (cs : List Char) : (r.within outer).closeRepeat? min max cs =
      (r.closeRepeat? min max cs).map (stepWithin outer) := by
  unfold closeRepeat?
  split
  · split
    · rfl
    · exact r.repeated?_within outer min max _
  · rfl

theorem readMaximum?_within (r : Reading) (outer : GroupFrame) (min : Nat) (cs : List Char) :
    (r.within outer).readMaximum? min cs = (r.readMaximum? min cs).map (stepWithin outer) := by
  unfold readMaximum?
  split
  · exact r.closeRepeat?_within outer min none _
  · rw [flags_within]
    rcases readDecimal r.flags.verbose cs with ⟨- | - | max, after⟩
    · rfl
    · rfl
    · exact r.closeRepeat?_within outer min (some max) after

theorem repeat?_within (r : Reading) (outer : GroupFrame) (cs : List Char) :
    (r.within outer).repeat? cs = (r.repeat? cs).map (stepWithin outer) := by
  have hcounts : ∀ cs, (r.within outer).readCounts? cs =
      (r.readCounts? cs).map (stepWithin outer) := by
    intro cs
    unfold readCounts?
    rw [flags_within]
    generalize readDecimal r.flags.verbose cs = p
    split
    · rw [Option.map_bind]
      exact congrArg _ (funext fun behind => r.readMaximum?_within outer _ behind)
    · exact r.closeRepeat?_within outer _ _ _
    · rfl
  rw [repeat?_eq, repeat?_eq, Option.map_bind]
  exact congrArg _ (funext hcounts)

/-- A step does the same with one more group open, unless it closes a group that is not open. -/
theorem step?_within (r : Reading) (outer : GroupFrame) (h : c = ')' → r.frames ≠ [])
    (cs : List Char) :
    (r.within outer).step? (c :: cs) = (r.step? (c :: cs)).map (stepWithin outer) := by
  cases hsign : isSign c with
  | false =>
    rw [step?_of_not_isSign _ hsign, step?_of_not_isSign _ hsign, Option.map_map]
    rfl
  | true =>
    simp only [isSign, List.contains_eq_mem, decide_eq_true_eq, List.mem_cons, List.not_mem_nil,
      or_false] at hsign
    rcases hsign with rfl | rfl | rfl | rfl | rfl | rfl | rfl | rfl
    · exact r.openGroup?_within outer cs
    · cases hframes : r.frames with
      | nil => exact absurd hframes (h rfl)
      | cons frame frames => simp [step?, within, stepWithin, hframes]
    · rfl
    · simp only [step?, Option.map_map]
      rfl
    · exact r.repeated?_within outer 0 (some 1) cs
    · exact r.repeated?_within outer 0 none cs
    · exact r.repeated?_within outer 1 none cs
    · exact r.repeat?_within outer ('\x7b' :: cs)

end Reading

end Frames

section Closing

variable {r r' : Reading} {outer : GroupFrame} {part : Part}

/-- Whether reading on comes to a closing parenthesis that closes no group. -/
inductive ClosesUnopened : Reading → List Char → Prop
  | here {r : Reading} {cs rest : List Char} (hframes : r.frames = [])
    (hskip : skip r.flags.verbose cs = ')' :: rest) : ClosesUnopened r cs
  | later {r r' : Reading} {c : Char} {cs rest after : List Char}
    (hskip : skip r.flags.verbose cs = c :: rest) (hstep : r.step? (c :: rest) = some (r', after))
    (h : ClosesUnopened r' after) : ClosesUnopened r cs

theorem readParts_nil (h : skip r.flags.verbose cs = []) :
    readParts (n + 1) r cs = if r.frames.isEmpty then some r.group.whole else none := by
  rw [readParts, h]

theorem readParts_cons (h : skip r.flags.verbose cs = c :: rest) :
    readParts (n + 1) r cs = (r.step? (c :: rest)).bind fun p => readParts n p.1 p.2 := by
  rw [readParts, h]

/-- Reading is never out of fuel if there is more of it than characters. -/
theorem readParts_congr (hn : cs.length < n) (hn' : cs.length < n') :
    readParts n r cs = readParts n' r cs := by
  induction n generalizing n' r cs with
  | zero => omega
  | succ n ih =>
    obtain ⟨n', rfl⟩ : ∃ m, n' = m + 1 := ⟨n' - 1, by omega⟩
    cases hskip : skip r.flags.verbose cs with
    | nil => rw [readParts_nil hskip, readParts_nil hskip]
    | cons c rest =>
      have hskip_le := length_skip_le r.flags.verbose cs
      rw [hskip, List.length_cons] at hskip_le
      rw [readParts_cons hskip, readParts_cons hskip]
      cases hstep : r.step? (c :: rest) with
      | none => rfl
      | some p =>
        have hstep_le : p.2.length ≤ rest.length := Reading.length_le_of_step? hstep
        exact ih (by omega) (by omega)

/-- What is read to its end closes no group that is not open. -/
theorem not_closesUnopened_of_readParts (h : readParts n r cs = some part) :
    ¬ClosesUnopened r cs := by
  intro hcloses
  induction hcloses generalizing n with
  | @here r cs rest hframes hskip =>
    cases n with
    | zero => contradiction
    | succ n =>
      rw [readParts_cons hskip, Reading.step?, hframes] at h
      contradiction
  | later hskip hstep _ ih =>
    cases n with
    | zero => contradiction
    | succ n =>
      rw [readParts_cons hskip, hstep] at h
      exact ih h

/-- What stands behind a pattern that is put between anchors. -/
def closing : List Char := [')', '$']

theorem isTail_closing : IsTail closing := by
  simp [IsTail, closing]

/-- A group with an expression in it and a dollar sign behind that. -/
def GroupFrame.closeOn (outer : GroupFrame) (part : Part) : Part :=
  ((outer.group.push ⟨part.expr, part.depth + 1, true⟩).push
    ⟨.look outer.flags.dollar, 0, true⟩).whole

theorem readParts_nil_of_frames (h : r.frames ≠ []) : readParts n r [] = none := by
  cases n with
  | zero => rfl
  | succ n => rw [readParts_nil (skip_nil _), if_neg (by simpa using h)]

theorem readParts_dollar : readParts (n + 2) r ['$'] =
    if r.frames.isEmpty then some (r.pushExpr (.look r.flags.dollar)).group.whole else none := by
  have htail : IsTail ['$'] := isTail_closing.tail
  rw [readParts_cons (htail.skip_eq _), Reading.step?_of_not_isSign _ (by decide),
    Reading.readAtom?_of_ne _ (by decide)]
  exact readParts_nil (skip_nil _)

theorem readParts_dollar_of_frames (h : r.frames ≠ []) : readParts n r ['$'] = none := by
  rcases n with - | - | n
  · rfl
  · have htail : IsTail ['$'] := isTail_closing.tail
    rw [readParts_cons (htail.skip_eq _)]
    cases r.step? ['$'] <;> rfl
  · rw [readParts_dollar, if_neg (by simpa using h)]

/-- A part of what stands behind a pattern closes no group. -/
theorem readParts_of_suffix (h : r.frames ≠ []) (hs : s <:+ closing) (hne : s ≠ closing) :
    readParts n r s = none := by
  rw [closing, List.suffix_cons_iff, List.suffix_cons_iff, List.suffix_nil] at hs
  rcases hs with rfl | rfl | rfl
  · exact absurd rfl hne
  · exact readParts_dollar_of_frames h
  · exact readParts_nil_of_frames h

/-- What stands behind a pattern closes the one more group, if no other group is open. -/
theorem readParts_closing : readParts (n + 3) (r.within outer) closing =
    if r.frames.isEmpty then some (outer.closeOn r.group.whole) else none := by
  rw [readParts_cons (isTail_closing.skip_eq _)]
  cases hframes : r.frames with
  | nil =>
    rw [Reading.step?]
    simp only [Reading.within, hframes, List.nil_append, Option.bind_some]
    rw [readParts_dollar]
    rfl
  | cons frame frames =>
    rw [Reading.step?]
    simp only [Reading.within, hframes, List.cons_append, Option.bind_some]
    rw [readParts_dollar_of_frames (by simp)]
    rfl

theorem readParts_closing_of_frames (h : r.frames = []) : readParts n r closing = none := by
  cases n with
  | zero => rfl
  | succ n =>
    rw [readParts_cons (isTail_closing.skip_eq _), Reading.step?, h]
    rfl

/-- A brace that only a tail follows is no repetition. -/
theorem readParts_stuck (ht : IsTail t) (h : IsStuck r.flags.verbose t s) :
    readParts n r s = none := by
  obtain ⟨-, cs, rfl, hnext⟩ := h
  have hskip : skip r.flags.verbose ('\x7b' :: cs) = '\x7b' :: cs := by
    cases r.flags.verbose with
    | false => exact skip_false _
    | true =>
      have hspace : CharSet.space.contains '\x7b' = false := by decide +kernel
      rw [skip_true_cons, hspace, if_neg (by decide), if_neg (by decide)]
  cases n with
  | zero => rfl
  | succ n =>
    have hstep : r.step? ('\x7b' :: cs) = r.repeat? ('\x7b' :: cs) := rfl
    rw [readParts_cons hskip, hstep, r.repeat?_eq, hnext, Option.bind_some, r.readCounts?_tail ht]
    rfl

/-- What becomes of a pattern if a closing parenthesis and a dollar sign are put behind it: what it
is read to alone, with them behind it, and with them behind it and one more group open. -/
inductive Enclosed (outer : GroupFrame) : (alone behind inside : Option Part) → Prop
  | refused {behind : Option Part} : Enclosed outer none behind none
  | closed (part : Part) : Enclosed outer (some part) none (some (outer.closeOn part))
  | commented (part : Part) : Enclosed outer (some part) (some part) none

theorem enclosed_of_skip_eq_nil {cs' : List Char} (h : skip r.flags.verbose cs = [])
    (h' : skip r.flags.verbose cs' = []) : Enclosed outer (readParts (n + 1) r cs)
      (readParts (n' + 1) r cs') (readParts (n' + 1) (r.within outer) cs') := by
  have hinside : readParts (n' + 1) (r.within outer) cs' = none :=
    (readParts_nil (r := r.within outer) h').trans
      (if_neg (by simpa using r.frames_within_ne_nil outer))
  rw [readParts_nil h, readParts_nil h', hinside]
  split
  · exact .commented r.group.whole
  · exact .refused

theorem enclosed_closing (h : skip r.flags.verbose cs = []) {cs' : List Char}
    (h' : skip r.flags.verbose cs' = closing) : Enclosed outer (readParts (n + 1) r cs)
      (readParts (n' + 3) r cs') (readParts (n' + 3) (r.within outer) cs') := by
  have hsame : ∀ {r' : Reading}, r'.flags = r.flags →
      readParts (n' + 3) r' cs' = readParts (n' + 3) r' closing := by
    intro r' hflags
    rw [readParts, readParts, hflags, h', isTail_closing.skip_eq]
  rw [readParts_nil h, hsame rfl, hsame (r.flags_within outer), readParts_closing]
  by_cases hframes : r.frames = []
  · simp only [hframes, List.isEmpty_nil, if_true, readParts_closing_of_frames hframes]
    exact .closed r.group.whole
  · simp only [List.isEmpty_iff, hframes, if_false]
    exact .refused

/-- What becomes of the rest of a pattern after a step becomes of all of it. -/
theorem Enclosed.of_step {o o' : Option (Reading × List Char)} (h : Carried closing o o')
    (hrest : ∀ r after, o = some (r, after) → Enclosed outer (readParts (n + 1) r after)
      (readParts (n' + 1) r (after ++ closing))
      (readParts (n' + 1) (r.within outer) (after ++ closing))) :
    Enclosed outer (o.bind fun p => readParts (n + 1) p.1 p.2)
      (o'.bind fun p => readParts (n' + 1) p.1 p.2)
      (o'.bind fun p => readParts (n' + 1) (p.1.within outer) p.2) := by
  cases h with
  | kept r after => exact hrest r after rfl
  | swallowed r => exact enclosed_of_skip_eq_nil (skip_nil _) (skip_nil _)
  | lost => exact .refused
  | @eaten r s hsuffix hne =>
    have hinside : readParts (n' + 1) (r.within outer) s = none :=
      readParts_of_suffix (r.frames_within_ne_nil outer) hsuffix hne
    rw [Option.bind_none, Option.bind_some, Option.bind_some, hinside]
    exact .refused

/-- A pattern that closes no group that is not open is read inside one more group that is closed
behind it just if it is read alone, unless it ends in a comment. -/
theorem enclosed_readParts (h : ¬ClosesUnopened r cs) (hn : cs.length < n)
    (hn' : (cs ++ closing).length < n') : Enclosed outer (readParts n r cs)
      (readParts n' r (cs ++ closing)) (readParts n' (r.within outer) (cs ++ closing)) := by
  induction n generalizing n' r cs with
  | zero => omega
  | succ n ih =>
    have hclosing : closing.length = 2 := rfl
    rw [List.length_append, hclosing] at hn'
    obtain ⟨m, rfl⟩ : ∃ m, n' = m + 3 := ⟨n' - 3, by omega⟩
    have hskip_le := length_skip_le r.flags.verbose cs
    rcases skip_append isTail_closing r.flags.verbose cs with happend | ⟨hskip, hskip'⟩
    · cases hskip : skip r.flags.verbose cs with
      | nil => exact enclosed_closing hskip (by rw [happend, hskip, List.nil_append])
      | cons c rest =>
        rw [hskip, List.length_cons] at hskip_le
        rw [hskip, List.cons_append] at happend
        have hopen : c = ')' → r.frames ≠ [] := by
          rintro rfl hframes
          exact h (.here hframes hskip)
        have hinside : readParts (m + 3) (r.within outer) (cs ++ closing) =
            (r.step? (c :: (rest ++ closing))).bind fun p =>
              readParts (m + 2) (p.1.within outer) p.2 := by
          rw [readParts_cons (r := r.within outer) happend, r.step?_within outer hopen,
            Option.bind_map]
          rfl
        obtain ⟨k, rfl⟩ : ∃ k, n = k + 1 := ⟨n - 1, by omega⟩
        rw [readParts_cons hskip, readParts_cons happend, hinside]
        -- A step with the tail behind it may leave a brace alone on which the next step is stuck.
        obtain hstep | ⟨hnone, r', s, hsome, hstuck⟩ := r.carried_step isTail_closing c rest
        · refine .of_step hstep fun r' after hfirst => ?_
          have hlater : ¬ClosesUnopened r' after := fun hcloses => h (.later hskip hfirst hcloses)
          have hstep_le := Reading.length_le_of_step? hfirst
          exact ih hlater (by omega) (by rw [List.length_append, hclosing]; omega)
        · have hinside : readParts (m + 2) (r'.within outer) s = none :=
            readParts_stuck isTail_closing hstuck
          rw [hnone, hsome, Option.bind_none, Option.bind_some, Option.bind_some, hinside]
          exact .refused
    · exact enclosed_of_skip_eq_nil hskip hskip'

end Closing

end CodeStyle.Regex
