import CodeStyle.Proofs.Regex.TailClass

/-!
# Lists of a class with a tail behind them

Whatever is open in a class, a tail does not close it. So a class that is read to its closing bracket
is read alike with a tail behind it, and one that is not is not read with a tail either.
-/
namespace CodeStyle.Regex

variable {t cs rest : List Char} {c : Char} {f : Flags} {n n' : Nat} {frames : List ClassFrame}
  {parts : List ClassPart}

/-- The operation that a text starts with, and what follows it. -/
def classOp? : List Char → Option (ClassOp × List Char)
  | '&' :: '&' :: rest => some (.inter, rest)
  | '-' :: '-' :: rest => some (.diff, rest)
  | '~' :: '~' :: rest => some (.symmDiff, rest)
  | _ => none

theorem readClassParts_congr {cs' : List Char} (h : skip f.verbose cs = skip f.verbose cs') :
    readClassParts f n frames parts cs = readClassParts f n frames parts cs' := by
  cases n with
  | zero => rfl
  | succ n => rw [readClassParts, h, readClassParts]

theorem readClassParts_nil (h : skip f.verbose cs = []) :
    readClassParts f n frames parts cs = none := by
  cases n with
  | zero => rfl
  | succ n => rw [readClassParts, h]

/-- Reads on from behind an opening bracket. -/
def readBracket (f : Flags) (n : Nat) (frames : List ClassFrame) (parts : List ClassPart)
    (cs : List Char) : Option (ClassPart × List Char) :=
  match frames, readAsciiClass f ('[' :: cs) with
  | _ :: _, some (some s, after) => readClassParts f n frames (⟨s, 0⟩ :: parts) after
  | _ :: _, some (none, _) => none
  | _, _ => (readClassOpen f ('[' :: cs)).bind fun p =>
      readClassParts f n (.bracket parts p.1 :: frames) p.2.1 p.2.2

theorem readClassParts_bracket (h : skip f.verbose cs = '[' :: rest) :
    readClassParts f (n + 1) frames parts cs =
      match if frames.isEmpty then none else readAsciiClass f ('[' :: rest) with
      | some (some s, after) => readClassParts f n frames (⟨s, 0⟩ :: parts) after
      | some (none, _) => none
      | none => ((readClassOpen f ('[' :: rest)).map startOf).bind fun p =>
          readClassParts f n (.bracket parts p.1.1 :: frames) p.1.2 p.2 := by
  have hbracket : readClassParts f (n + 1) frames parts cs = readBracket f n frames parts rest := by
    rw [readClassParts, h]
    rfl
  rw [hbracket]
  unfold readBracket
  cases frames with
  | nil => cases readClassOpen f ('[' :: rest) <;> rfl
  | cons frame outer =>
    rcases readAsciiClass f ('[' :: rest) with - | ⟨- | s, after⟩
    · cases readClassOpen f ('[' :: rest) <;> rfl
    · rfl
    · rfl

theorem readClassParts_close (h : skip f.verbose cs = ']' :: rest) :
    readClassParts f (n + 1) frames parts cs =
      match applyPending f frames (unionOf parts) with
      | (whole, .bracket around negated :: outer) =>
        (f.close? negated whole.set).bind fun s =>
          if outer.isEmpty then some (⟨s, whole.depth + 1⟩, rest)
          else readClassParts f n outer (⟨s, whole.depth + 1⟩ :: around) rest
      | _ => none := by
  rw [readClassParts, h]
  rfl

theorem readClassParts_op {op : ClassOp} {after : List Char} (h : skip f.verbose cs = rest)
    (hop : classOp? rest = some (op, after)) : readClassParts f (n + 1) frames parts cs =
      readClassParts f n (.op op (applyPending f frames (unionOf parts)).1 ::
        (applyPending f frames (unionOf parts)).2) [] after := by
  rw [readClassParts, h]
  unfold classOp? at hop
  split at hop
  all_goals first
    | contradiction
    | obtain ⟨rfl, rfl⟩ := Prod.mk.inj (Option.some.inj hop)
      rfl

theorem readClassParts_range (h : skip f.verbose cs = c :: rest) (hopen : c ≠ '[') (hclose : c ≠ ']')
    (hop : classOp? (c :: rest) = none) : readClassParts f (n + 1) frames parts cs =
      (readClassRange f (c :: rest)).bind fun p =>
        readClassParts f n frames (p.1 :: parts) p.2 := by
  rw [readClassParts, h]
  dsimp only
  split <;> simp_all [classOp?]

theorem length_le_of_classOp? {op : ClassOp} {after : List Char}
    (h : classOp? (c :: cs) = some (op, after)) : after.length ≤ cs.length := by
  unfold classOp? at h
  split at h
  all_goals simp_all

theorem classOp?_append (ht : IsTail t) (c : Char) (cs : List Char) :
    classOp? (c :: (cs ++ t)) = (classOp? (c :: cs)).map fun p => (p.1, p.2 ++ t) := by
  cases cs with
  | nil =>
    cases t with
    | nil => simp [classOp?]
    | cons d t =>
      have hd := ht.head
      unfold classOp?
      split <;> simp_all
  | cons d cs =>
    unfold classOp?
    split <;> simp_all

/-- No tail closes a list. -/
theorem IsTail.readClassParts_eq (ht : IsTail t) : readClassParts f n frames parts t = none := by
  induction n generalizing t parts with
  | zero => rfl
  | succ n ih =>
    cases t with
    | nil => exact readClassParts_nil (skip_nil _)
    | cons c t =>
      have hop : classOp? (c :: t) = none := by
        rcases ht.head with rfl | rfl <;> rfl
      rw [readClassParts_range (ht.skip_eq _) (ht.head_ne (by decide)) (ht.head_ne (by decide)) hop,
        readClassRange_eq, readClassItem_of_ne f (ht.head_ne (by decide)), Option.bind_some]
      dsimp only
      rw [ht.tail.skip_eq, ht.tail.readRangeEnd_eq]
      split
      · rfl
      · refine Option.bind_eq_none_iff.mpr fun p hp => ?_
        obtain ⟨s, -, rfl⟩ := Option.map_eq_some_iff.mp hp
        exact ih ht.tail

theorem length_lt_of_readClassParts {part : ClassPart}
    (h : readClassParts f n frames parts cs = some (part, rest)) : rest.length < cs.length := by
  induction n generalizing frames parts cs with
  | zero => contradiction
  | succ n ih =>
    have hskip_le := length_skip_le f.verbose cs
    cases hskip : skip f.verbose cs with
    | nil =>
      rw [readClassParts_nil hskip] at h
      contradiction
    | cons c more =>
      rw [hskip, List.length_cons] at hskip_le
      by_cases hopen : c = '['
      · subst hopen
        rw [readClassParts_bracket hskip] at h
        split at h
        · rename_i s after hname
          split at hname
          · contradiction
          · have hname_le := length_le_of_readAsciiClass hname
            have hlt := ih h
            omega
        · contradiction
        · obtain ⟨p, hp, hread⟩ := Option.bind_eq_some_iff.mp h
          have hp_le := length_le_of_readClassOpen hp
          have hlt := ih hread
          omega
      · by_cases hclose : c = ']'
        · subst hclose
          rw [readClassParts_close hskip] at h
          split at h
          · obtain ⟨s, -, hs⟩ := Option.bind_eq_some_iff.mp h
            split at hs
            · obtain ⟨-, rfl⟩ := Prod.mk.inj (Option.some.inj hs)
              omega
            · have hlt := ih hs
              omega
          · contradiction
        · cases hop : classOp? (c :: more) with
          | some p =>
            obtain ⟨op, after⟩ := p
            rw [readClassParts_op hskip hop] at h
            have hop_le := length_le_of_classOp? hop
            have hlt := ih h
            omega
          | none =>
            rw [readClassParts_range hskip hopen hclose hop] at h
            obtain ⟨p, hp, hread⟩ := Option.bind_eq_some_iff.mp h
            have hp_le := length_le_of_readClassRange hp
            have hlt := ih hread
            omega

theorem carried_readClassParts (ht : IsTail t) (hn : cs.length < n) (hn' : (cs ++ t).length < n') :
    Carried t (readClassParts f n frames parts cs) (readClassParts f n' frames parts (cs ++ t)) := by
  -- Each text has fuel of its own, and enough of it, so the induction is on one with the other free.
  induction n generalizing n' frames parts cs with
  | zero => omega
  | succ n ih =>
    obtain ⟨n', rfl⟩ : ∃ m, n' = m + 1 := ⟨n' - 1, by omega⟩
    have hskip_le := length_skip_le f.verbose cs
    rw [List.length_append] at hn'
    have hrest : ∀ {after : List Char}, after.length < cs.length →
        ∀ {frames parts}, Carried t (readClassParts f n frames parts after)
          (readClassParts f n' frames parts (after ++ t)) := fun hlt =>
      ih (by omega) (by rw [List.length_append]; omega)
    rcases skip_append ht f.verbose cs with happend | ⟨hskip, hskip'⟩
    · cases hskip : skip f.verbose cs with
      | nil =>
        rw [hskip, List.nil_append] at happend
        rw [readClassParts_nil hskip, readClassParts_congr (happend.trans (ht.skip_eq _).symm),
          ht.readClassParts_eq]
        exact .lost
      | cons c more =>
        rw [hskip, List.length_cons] at hskip_le
        rw [hskip, List.cons_append] at happend
        by_cases hopen : c = '['
        · subst hopen
          have hname' : (if frames.isEmpty then none else readAsciiClass f ('[' :: (more ++ t))) =
              (if frames.isEmpty then none else readAsciiClass f ('[' :: more)).map
                fun p => (p.1, p.2 ++ t) := by
            split
            · rfl
            · exact readAsciiClass_append ht f more
          rw [readClassParts_bracket hskip, readClassParts_bracket happend, hname']
          rcases hname : (if frames.isEmpty then none else readAsciiClass f ('[' :: more)) with
            - | ⟨- | s, after⟩
          · refine (carriedInside_readClassOpen ht f '[' more).bind_closed (fun p after h => ?_)
              (fun p => readClassParts_nil (skip_nil _))
              fun p s hs => (ht.of_suffix hs).readClassParts_eq
            have hopen_le := length_le_of_readClassOpen h
            exact hrest (show after.length < cs.length by omega)
          · exact .lost
          · split at hname
            · contradiction
            · have hname_le := length_le_of_readAsciiClass hname
              exact hrest (by omega)
        · by_cases hclose : c = ']'
          · subst hclose
            rw [readClassParts_close hskip, readClassParts_close happend]
            rcases applyPending f frames (unionOf parts) with
              ⟨whole, - | ⟨⟨around, negated⟩ | ⟨op, left⟩, outer⟩⟩
            · exact .lost
            · dsimp only
              cases f.close? negated whole.set with
              | none => exact .lost
              | some s =>
                rw [Option.bind_some, Option.bind_some]
                split
                · exact .kept _ more
                · exact hrest (show more.length < cs.length by omega)
            · exact .lost
          · have hop' := classOp?_append ht c more
            cases hop : classOp? (c :: more) with
            | some p =>
              obtain ⟨op, after⟩ := p
              rw [hop, Option.map_some] at hop'
              rw [readClassParts_op hskip hop, readClassParts_op happend hop']
              have hop_le := length_le_of_classOp? hop
              exact hrest (by omega)
            | none =>
              rw [hop, Option.map_none] at hop'
              rw [readClassParts_range hskip hopen hclose hop,
                readClassParts_range happend hopen hclose hop']
              refine (carriedInside_readClassRange ht f c more).bind_closed (fun part after h => ?_)
                (fun part => readClassParts_nil (skip_nil _))
                fun part s hs => (ht.of_suffix hs).readClassParts_eq
              have hrange_le := length_le_of_readClassRange h
              exact hrest (show after.length < cs.length by omega)
    · rw [readClassParts_nil hskip, readClassParts_nil hskip']
      exact .lost

theorem isReader_readClass (f : Flags) : IsReader fun cs => readClass f ('[' :: cs) where
  length_le h := Nat.le_of_lt_succ (length_lt_of_readClassParts h)
  carried ht _ := carried_readClassParts ht (Nat.lt_succ_self _) (Nat.lt_succ_self _)

end CodeStyle.Regex
