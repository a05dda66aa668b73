import CodeStyle.Proofs.Regex.Whole

/-!
# Languages of expressions

An expression describes a class of texts if it matches a part of a text exactly if the part is in
the class, whatever stands around the part. The class that a compound expression describes comes
from those that its parts describe.
-/
namespace CodeStyle.Regex

/-- Whether an expression matches a part of a text, for parts given with what stands around them. -/
def MatchesPart (r : Regex) (before part after : List Char) : Prop :=
  MatchesIn (before ++ (part ++ after)) r before.length (before.length + part.length)

/-- Whether the parts of texts that an expression matches are those in a class. -/
def Describes (r : Regex) (p : List Char → Prop) : Prop :=
  ∀ before part after, MatchesPart r before part after ↔ p part

variable {a b : Regex} {as : List Regex} {p q : List Char → Prop} {before part after : List Char}

theorem Describes.congr (ha : Describes a p) (h : ∀ part, p part ↔ q part) : Describes a q :=
  fun before part after => (ha before part after).trans (h part)

/-- Two matches one after the other match two parts one after the other. -/
theorem exists_matchesIn_iff_exists_matchesPart :
    (∃ k, MatchesIn (before ++ (part ++ after)) a before.length k ∧
        MatchesIn (before ++ (part ++ after)) b k (before.length + part.length)) ↔
      ∃ x y, part = x ++ y ∧ MatchesPart a before x (y ++ after) ∧
        MatchesPart b (before ++ x) y after := by
  constructor
  · rintro ⟨k, hleft, hright⟩
    obtain ⟨m, rfl⟩ := Nat.exists_eq_add_of_le hleft.le
    have hm : m ≤ part.length := Nat.add_le_add_iff_left.mp hright.le
    have hlength : (part.take m).length = m := List.length_take_of_le hm
    refine ⟨part.take m, part.drop m, (List.take_append_drop m part).symm, ?_, ?_⟩
    · rwa [MatchesPart, ← List.append_assoc (part.take m), List.take_append_drop, hlength]
    · rwa [MatchesPart, List.append_assoc, ← List.append_assoc (part.take m),
        List.take_append_drop, List.length_append, hlength, List.length_drop, Nat.add_assoc,
        Nat.add_sub_cancel' hm]
  · rintro ⟨x, y, rfl, hx, hy⟩
    refine ⟨before.length + x.length, ?_, ?_⟩
    · rwa [List.append_assoc x y after]
    · rwa [MatchesPart, List.append_assoc before, ← List.append_assoc x, List.length_append,
        Nat.add_assoc, ← @List.length_append _ x] at hy

theorem describes_empty : Describes .empty fun part => part = [] := by
  intro before part after
  change _ ↔ part = []
  rw [MatchesPart, MatchesIn, Expr.matches_empty_iff, ← List.length_eq_zero_iff]
  omega

theorem describes_char {s : CharSet} :
    Describes (.char s) fun part => ∃ c, part = [c] ∧ s.contains c = true := by
  intro before part after
  rw [MatchesPart, MatchesIn, Expr.matches_char_iff, Nat.add_left_cancel_iff,
    List.length_eq_one_iff, CharAt]
  constructor
  · rintro ⟨⟨c, hc, hmem⟩, d, rfl⟩
    obtain rfl : d = c := by simpa using hc
    exact ⟨d, rfl, hmem⟩
  · rintro ⟨c, rfl, hmem⟩
    exact ⟨⟨c, by simp, hmem⟩, c, rfl⟩

theorem Describes.seq (ha : Describes a p) (hb : Describes b q) :
    Describes (.seq a b) fun part => ∃ x y, part = x ++ y ∧ p x ∧ q y := by
  intro before part after
  rw [MatchesPart, MatchesIn, Expr.matches_seq_iff, exists_matchesIn_iff_exists_matchesPart]
  simp only [ha _ _ _, hb _ _ _]

theorem Describes.alt (ha : Describes a p) (hb : Describes b q) :
    Describes (.alt a b) fun part => p part ∨ q part := by
  intro before part after
  rw [MatchesPart, MatchesIn, Expr.matches_alt_iff]
  exact or_congr (ha before part after) (hb before part after)

theorem Describes.opt (ha : Describes a p) : Describes (.opt a) fun part => part = [] ∨ p part := by
  intro before part after
  rw [MatchesPart, MatchesIn, Expr.opt, Expr.matches_rep_some_succ_iff, ← Expr.matches_empty_iff]
  simp only [Expr.matches_rep_zero_iff, exists_eq_right]
  exact or_congr (describes_empty before part after) (ha before part after)

/-- A repetition is over, or a first round comes before the rest. -/
theorem Expr.matches_star_iff {α β : Type} {charAt : α → Nat → Prop} {lookAt : β → Nat → Prop}
    {a : Expr α β} {i k : Nat} : Matches charAt lookAt (star a) i k ↔
      i = k ∨ ∃ j, Matches charAt lookAt a i j ∧ Matches charAt lookAt (star a) j k := by
  constructor
  · intro h
    cases h with
    | repDone => exact .inl rfl
    | repMore ha hr => exact .inr ⟨_, ha, hr⟩
  · rintro (rfl | ⟨j, ha, hr⟩)
    · exact .repDone i
    · exact .repMore ha hr

/-- If a round takes one character, a repetition takes any number of such characters. -/
theorem Describes.star {f : Char → Prop} (ha : Describes a fun part => ∃ c, part = [c] ∧ f c) :
    Describes (.star a) fun part => ∀ c ∈ part, f c := by
  intro before part after
  change _ ↔ ∀ c ∈ part, f c
  induction part generalizing before with
  | nil => exact iff_of_true (.repDone _) (by simp)
  | cons c rest ih =>
    rw [MatchesPart, MatchesIn, Expr.matches_star_iff, exists_matchesIn_iff_exists_matchesPart,
      List.forall_mem_cons]
    constructor
    · rintro (h | ⟨x, y, hpart, hround, hmore⟩)
      · simp at h
      · obtain ⟨d, rfl, hd⟩ := (ha _ _ _).mp hround
        obtain ⟨rfl, rfl⟩ := List.cons.inj hpart
        exact ⟨hd, (ih _).mp hmore⟩
    · rintro ⟨hc, hrest⟩
      exact .inr ⟨[c], rest, rfl, (ha _ _ _).mpr ⟨c, rfl, hc⟩, (ih _).mpr hrest⟩

theorem Describes.seqs_append {bs : List Regex} (has : Describes (.seqs as) p)
    (hbs : Describes (.seqs bs) q) :
    Describes (.seqs (as ++ bs)) fun part => ∃ x y, part = x ++ y ∧ p x ∧ q y :=
  fun before part after =>
    (Expr.matches_seqs_append_iff.trans Expr.matches_seq_iff.symm).trans
      (has.seq hbs before part after)

theorem Describes.seqs_cons (ha : Describes a p) (has : Describes (.seqs as) q) :
    Describes (.seqs (a :: as)) fun part => ∃ x y, part = x ++ y ∧ p x ∧ q y :=
  @Describes.seqs_append [a] p q as ha has

/-- A text matches an expression between the start and the end of the text if it is in the class
that the expression describes. -/
theorem Describes.isMatch_iff (h : Describes (.seqs as) p) {text : List Char} :
    isMatch (.seqs (.look .textStart :: (as ++ [.look .textEnd]))) text = true ↔ p text := by
  have hpart := h [] text []
  rw [MatchesPart, List.nil_append, List.append_nil, List.length_nil, Nat.zero_add] at hpart
  exact isMatch_seqs_iff.trans hpart

end CodeStyle.Regex
