import CodeStyle.Regex.Notation

/-!
# Patterns with a tail behind them

A pattern between anchors is read with a closing parenthesis and a dollar sign behind it. A reader
that comes to the end of the pattern in front of such a tail leaves the tail over, unless it was
inside a comment, which goes on to the end. Where the pattern alone cannot be read any further, the
tail may be taken for a part of it, but then there is no more than a part of the tail left.
-/
namespace CodeStyle.Regex

/-- Whether all that stands in a tail is closing parentheses and dollar signs. -/
def IsTail (t : List Char) : Prop := ∀ c ∈ t, c = ')' ∨ c = '$'

/-- What becomes of the result of a reader if a tail is put behind what it reads: it is kept in
front of the tail, or the tail is swallowed by a comment, or there is still no result, or there is
one that eats some of the tail. -/
inductive Carried {α : Type} (t : List Char) :
    Option (α × List Char) → Option (α × List Char) → Prop
  | kept (a : α) (rest : List Char) : Carried t (some (a, rest)) (some (a, rest ++ t))
  | swallowed (a : α) : Carried t (some (a, [])) (some (a, []))
  | lost : Carried t none none
  | eaten (a : α) {rest : List Char} (h : rest <:+ t) (hne : rest ≠ t) :
      Carried t none (some (a, rest))

/-- Whether a function reads from the start of a text, and no tail behind the text makes a
difference to it. -/
structure IsReader {α : Type} (f : List Char → Option (α × List Char)) : Prop where
  length_le : ∀ {cs a rest}, f cs = some (a, rest) → rest.length ≤ cs.length
  carried : ∀ {t}, IsTail t → ∀ cs, Carried t (f cs) (f (cs ++ t))

variable {α β : Type} {s t cs out : List Char} {c d : Char} {v : Bool}

section Tails

theorem isTail_nil : IsTail [] := fun _ hc => absurd hc List.not_mem_nil

theorem IsTail.of_suffix (ht : IsTail t) (h : s <:+ t) : IsTail s := fun c hc => ht c (h.subset hc)

theorem IsTail.head (ht : IsTail (c :: t)) : c = ')' ∨ c = '$' := ht c List.mem_cons_self

theorem IsTail.tail (ht : IsTail (c :: t)) : IsTail t := ht.of_suffix (List.suffix_cons c t)

/-- A character that is no closing parenthesis and no dollar sign is not at the head of a tail. -/
theorem IsTail.head_ne (ht : IsTail (c :: t)) (hd : d ≠ ')' ∧ d ≠ '$') : c ≠ d := by
  rintro rfl
  exact ht.head.elim hd.1 hd.2

theorem IsTail.head?_ne (ht : IsTail t) (hd : d ≠ ')' ∧ d ≠ '$') : t.head? ≠ some d := by
  cases t with
  | nil => simp
  | cons c t => simpa using ht.head_ne hd

theorem IsTail.head?_append_iff (ht : IsTail t) (hd : d ≠ ')' ∧ d ≠ '$') :
    (cs ++ t).head? = some d ↔ cs.head? = some d := by
  cases cs with
  | nil => simpa using ht.head?_ne hd
  | cons c cs => rfl

end Tails

section Skipping

theorem skipComment_append (hs : '\n' ∉ t) (cs : List Char) :
    skipComment (cs ++ t) = skipComment cs ++ t ∨
      skipComment cs = [] ∧ skipComment (cs ++ t) = [] := by
  induction cs with
  | nil =>
    refine .inr ⟨rfl, ?_⟩
    induction t with
    | nil => rfl
    | cons c t ih =>
      have hc : c ≠ '\n' := fun hc => hs (hc ▸ List.mem_cons_self)
      simpa [skipComment, hc] using ih fun h => hs (List.mem_cons_of_mem c h)
  | cons c cs ih =>
    by_cases hc : c = '\n'
    · exact .inl (by simp [skipComment, hc])
    · simpa [skipComment, hc] using ih

theorem skip_false (cs : List Char) : skip false cs = cs := by
  rw [skip.eq_def, if_neg Bool.false_ne_true]

theorem skip_nil (v : Bool) : skip v [] = [] := by
  cases v <;> rw [skip.eq_def] <;> rfl

theorem skip_true_cons (c : Char) (cs : List Char) : skip true (c :: cs) =
    if CharSet.space.contains c then skip true cs
    else if c = '#' then skip true (skipComment cs)
    else c :: cs := by
  rw [skip.eq_def, if_pos rfl]

theorem length_skip_le (v : Bool) (cs : List Char) : (skip v cs).length ≤ cs.length := by
  fun_induction skip v cs with
  | case1 => exact Nat.le_refl _
  | case2 _ c rest _ ih => exact Nat.le_succ_of_le ih
  | case3 _ rest _ ih => exact Nat.le_succ_of_le (Nat.le_trans ih (skipComment_length _))
  | case4 => exact Nat.le_refl _
  | case5 => exact Nat.le_refl _

/-- Nothing in front of a tail is dropped. -/
theorem IsTail.skip_eq (ht : IsTail t) (v : Bool) : skip v t = t := by
  cases v with
  | false => exact skip_false t
  | true =>
    cases t with
    | nil => exact skip_nil true
    | cons c t =>
      have hspace : CharSet.space.contains c = false := by
        rcases ht.head with rfl | rfl <;> decide +kernel
      have hcomment : c ≠ '#' := ht.head_ne (by decide)
      rw [skip_true_cons, if_neg (by simp [hspace]), if_neg hcomment]

/-- Skipping leaves a tail alone, unless it is inside a comment. -/
theorem skip_append (ht : IsTail t) (v : Bool) (cs : List Char) :
    skip v (cs ++ t) = skip v cs ++ t ∨ skip v cs = [] ∧ skip v (cs ++ t) = [] := by
  have hline : '\n' ∉ t := fun h => absurd (ht _ h) (by decide)
  fun_induction skip v cs with
  | case1 => exact .inl (ht.skip_eq v)
  | case2 hv c rest hspace ih =>
    subst hv
    simpa [skip_true_cons, hspace] using ih
  | case3 hv rest hspace ih =>
    subst hv
    rw [List.cons_append, skip_true_cons, if_neg hspace, if_pos rfl]
    rcases skipComment_append hline rest with h | ⟨h, h'⟩
    · rw [h]
      exact ih
    · rw [h, h', skip_nil]
      exact .inr ⟨rfl, rfl⟩
  | case4 hv c rest hspace hcomment =>
    subst hv
    rw [List.cons_append, skip_true_cons, if_neg hspace, if_neg hcomment]
    exact .inl rfl
  | case5 cs hv =>
    obtain rfl : v = false := by simpa using hv
    exact .inl (by rw [skip_false])

theorem next?_cons (v : Bool) (c : Char) (cs : List Char) : next? v (c :: cs) =
    match skip v cs with
    | [] => none
    | out => some out := rfl

theorem length_le_of_next? (h : next? v (c :: cs) = some out) : out.length ≤ cs.length := by
  have hlength := length_skip_le v cs
  rw [next?_cons] at h
  split at h
  · contradiction
  · obtain rfl := Option.some.inj h
    exact hlength

/-- What follows a character in front of a tail is what follows it without one, or all of the tail
where nothing follows it. -/
theorem next?_append (ht : IsTail t) (v : Bool) (c : Char) (cs : List Char) :
    (∃ d out, next? v (c :: cs) = some (d :: out) ∧ out.length < cs.length ∧
      next? v (c :: (cs ++ t)) = some (d :: (out ++ t))) ∨
    next? v (c :: cs) = none ∧
      (next? v (c :: (cs ++ t)) = none ∨ t ≠ [] ∧ next? v (c :: (cs ++ t)) = some t) := by
  have hlength := length_skip_le v cs
  simp only [next?_cons]
  rcases skip_append ht v cs with h | ⟨h, h'⟩
  · rw [h]
    cases hskip : skip v cs with
    | nil =>
      refine .inr ⟨rfl, ?_⟩
      cases t with
      | nil => exact .inl rfl
      | cons d t => exact .inr ⟨List.cons_ne_nil d t, rfl⟩
    | cons d out =>
      rw [hskip, List.length_cons] at hlength
      exact .inl ⟨d, out, rfl, hlength, rfl⟩
  · rw [h, h']
    exact .inr ⟨rfl, .inl rfl⟩

end Skipping

section Readers

variable {o o' : Option (α × List Char)} {f : List Char → Option (α × List Char)}

theorem IsReader.eq_nil_of_nil {a : α} (hf : IsReader f) (h : f [] = some (a, out)) : out = [] :=
  List.length_eq_zero_iff.mp (Nat.le_zero.mp (hf.length_le h))

theorem IsReader.carried_nil (hf : IsReader f) (t : List Char) : Carried t (f []) (f []) := by
  cases hnil : f [] with
  | none => exact .lost
  | some p =>
    obtain ⟨a, rest⟩ := p
    obtain rfl := hf.eq_nil_of_nil hnil
    exact .swallowed a

/-- A reader that starts with a tail leaves a part of the tail. -/
theorem IsReader.suffix_of_tail {a : α} (hf : IsReader f) (ht : IsTail t)
    (h : f t = some (a, out)) : out <:+ t := by
  have hcarried := hf.carried ht []
  rw [List.nil_append, h] at hcarried
  generalize hnil : f [] = o at hcarried
  cases hcarried with
  | kept =>
    obtain rfl := hf.eq_nil_of_nil hnil
    exact List.suffix_refl t
  | swallowed => exact List.nil_suffix
  | eaten _ hsuffix => exact hsuffix

/-- Reading on with a reader carries tails on. -/
theorem Carried.bind {k : α × List Char → Option (β × List Char)} (h : Carried t o o')
    (ht : IsTail t) (hk : ∀ a, IsReader fun cs => k (a, cs)) : Carried t (o.bind k) (o'.bind k) := by
  cases h with
  | kept a rest => exact (hk a).carried ht rest
  | swallowed a => exact (hk a).carried_nil t
  | lost => exact .lost
  | @eaten a rest hsuffix hne =>
    simp only [Option.bind_none, Option.bind_some]
    cases hrest : k (a, rest) with
    | none => exact .lost
    | some p =>
      have hpart := (hk a).suffix_of_tail (ht.of_suffix hsuffix) hrest
      refine .eaten p.1 (hpart.trans hsuffix) fun heq => hne ?_
      exact hsuffix.eq_of_length_le (heq ▸ hpart.length_le)

theorem Carried.map {k : α × List Char → β × List Char} {φ : α → β} (h : Carried t o o')
    (hk : ∀ a cs, k (a, cs) = (φ a, cs)) : Carried t (o.map k) (o'.map k) := by
  cases h with
  | kept a rest =>
    rw [Option.map_some, Option.map_some, hk, hk]
    exact .kept _ _
  | swallowed a =>
    rw [Option.map_some, hk]
    exact .swallowed _
  | lost => exact .lost
  | eaten a hsuffix hne =>
    rw [Option.map_some, hk]
    exact .eaten _ hsuffix hne

namespace IsReader

theorem of_eq {g : List Char → Option (α × List Char)} (hf : IsReader f)
    (h : ∀ cs, g cs = f cs) : IsReader g := (funext h : g = f) ▸ hf

theorem none : IsReader fun _ => (none : Option (α × List Char)) where
  length_le h := by contradiction
  carried _ _ := .lost

theorem pure (a : α) : IsReader fun cs => some (a, cs) where
  length_le h := by
    obtain rfl := (Prod.mk.inj (Option.some.inj h)).2
    exact Nat.le_refl _
  carried _ cs := .kept a cs

theorem bind {k : α × List Char → Option (β × List Char)} (hf : IsReader f)
    (hk : ∀ a, IsReader fun cs => k (a, cs)) : IsReader fun cs => (f cs).bind k where
  length_le h := by
    obtain ⟨⟨a, rest⟩, hfirst, hsecond⟩ := Option.bind_eq_some_iff.mp h
    exact Nat.le_trans ((hk a).length_le hsecond) (hf.length_le hfirst)
  carried ht cs := (hf.carried ht cs).bind ht hk

theorem map {k : α × List Char → β × List Char} (hf : IsReader f) (φ : α → β)
    (hk : ∀ a cs, k (a, cs) = (φ a, cs)) : IsReader fun cs => (f cs).map k where
  length_le h := by
    obtain ⟨⟨a, rest⟩, hfirst, hsecond⟩ := Option.map_eq_some_iff.mp h
    rw [hk] at hsecond
    obtain ⟨-, rfl⟩ := Prod.mk.inj hsecond
    exact hf.length_le hfirst
  carried ht cs := (hf.carried ht cs).map hk

/-- A reader behind what is skipped is a reader. -/
theorem skip (hf : IsReader f) (v : Bool) : IsReader fun cs => f (Regex.skip v cs) where
  length_le h := Nat.le_trans (hf.length_le h) (length_skip_le v _)
  carried {t} ht cs := by
    rcases skip_append ht v cs with h | ⟨h, h'⟩
    · simp only [h]
      exact hf.carried ht _
    · simp only [h, h']
      exact hf.carried_nil t

/-- A reader that reads something is a reader of what follows a character. -/
theorem next (hf : IsReader f) (hnil : f [] = Option.none) (v : Bool) (c : Char) :
    IsReader fun cs => (next? v (c :: cs)).bind f where
  length_le {cs a rest} h := by
    obtain ⟨out, hout, hrest⟩ := Option.bind_eq_some_iff.mp h
    exact Nat.le_trans (hf.length_le hrest) (length_le_of_next? hout)
  carried {t} ht cs := by
    obtain ⟨d, out, hout, -, hout'⟩ | ⟨hnone, hnone' | ⟨-, htail⟩⟩ := next?_append ht v c cs
    · simp only [hout, hout']
      exact hf.carried ht (d :: out)
    · simp only [hnone, hnone']
      exact .lost
    · simp only [hnone, htail]
      have hcarried := hf.carried ht []
      rwa [hnil] at hcarried

/-- What is read from the first character of a tail on eats a part of the tail. -/
theorem carried_tail {g : List Char → Option (α × List Char)}
    (hg : IsReader fun cs => g (c :: cs)) (ht : IsTail (c :: t)) :
    Carried (c :: t) Option.none (g (c :: t)) := by
  cases hrest : g (c :: t) with
  | none => exact .lost
  | some p =>
    have hpart := hg.suffix_of_tail ht.tail hrest
    refine .eaten p.1 (hpart.trans (List.suffix_cons c t)) fun heq => ?_
    have hlength := hpart.length_le
    rw [heq, List.length_cons] at hlength
    omega

/-- A choice by the first character is a reader if every choice is. -/
theorem uncons {g : List Char → Option (α × List Char)} (hnil : g [] = Option.none)
    (hg : ∀ c, IsReader fun cs => g (c :: cs)) : IsReader g where
  length_le {cs a rest} h := by
    cases cs with
    | nil => rw [hnil] at h; contradiction
    | cons c cs => exact Nat.le_succ_of_le ((hg c).length_le h)
  carried {t} ht cs := by
    cases cs with
    | cons c cs => exact (hg c).carried ht cs
    | nil =>
      rw [hnil, List.nil_append]
      cases t with
      | nil => rw [hnil]; exact .lost
      | cons c t => exact (hg c).carried_tail ht

theorem ofOption {γ : Type} (x : Option γ) (φ : γ → α) :
    IsReader fun cs => x.map fun a => (φ a, cs) := by
  cases x with
  | none => exact IsReader.none
  | some a => exact IsReader.pure (φ a)

/-- A choice by whether a certain character comes first is a reader. -/
theorem onHead {g : List Char → Option (α × List Char)} (hf : IsReader f) (d : Char)
    (hd : d ≠ ')' ∧ d ≠ '$') (hg : IsReader g) :
    IsReader fun cs => if cs.head? = some d then f cs.tail else g cs where
  length_le {cs a rest} h := by
    split at h
    · exact Nat.le_trans (hf.length_le h) (by simp)
    · exact hg.length_le h
  carried {t} ht cs := by
    cases cs with
    | nil =>
      simpa [ht.head?_ne hd] using hg.carried ht []
    | cons c cs =>
      by_cases hc : c = d
      · simpa [hc] using hf.carried ht cs
      · simpa [hc] using hg.carried ht (c :: cs)

theorem ite {p : Prop} [Decidable p] {g : List Char → Option (α × List Char)} (hf : IsReader f)
    (hg : IsReader g) : IsReader fun cs => if p then f cs else g cs := by
  by_cases hp : p
  · simpa [hp] using hf
  · simpa [hp] using hg

end IsReader

end Readers

end CodeStyle.Regex
