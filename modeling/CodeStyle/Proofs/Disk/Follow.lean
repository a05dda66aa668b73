import CodeStyle.Disk.Basic

/-!
# Where a path leads

Whether the last link of a path is followed makes a difference only if the path ends at a link. What
stands in the way of a path are its entries, never what a file holds.
-/
namespace CodeStyle.Disk

/-- Whether a place is a folder. -/
def IsFolderAt (d : Disk) (place : List String) : Prop :=
  ∃ e, Entry.below? d.entries place.reverse = some e ∧ e.isFolder = true

section Step

variable {d : Disk} {lastLink : Bool} {links : Nat} {place rest : List String} {step : String}

theorem follow_of_not_isFolderAt (h : ¬d.IsFolderAt place) :
    d.follow lastLink false links place (step :: rest) = .error .notDirectory := by
  rw [follow.eq_def]
  cases hplace : Entry.below? d.entries place.reverse <;> simp_all [IsFolderAt]

theorem follow_dot (h : d.IsFolderAt place) (hstep : step = "" ∨ step = ".") :
    d.follow lastLink false links place (step :: rest) =
      d.follow lastLink false links place rest := by
  obtain ⟨e, hplace, hfolder⟩ := h
  rw [follow.eq_def]
  simp [hplace, hfolder, hstep]

theorem follow_up_nil (h : d.IsFolderAt []) :
    d.follow lastLink false links [] (".." :: rest) = .error .missing := by
  obtain ⟨e, hplace, hfolder⟩ := h
  rw [follow.eq_def]
  simp only [hplace, hfolder]
  simp

theorem follow_up_cons {name : String} {outer : List String} (h : d.IsFolderAt (name :: outer)) :
    d.follow lastLink false links (name :: outer) (".." :: rest) =
      d.follow lastLink false links (if name = top then name :: outer else outer) rest := by
  obtain ⟨e, hplace, hfolder⟩ := h
  rw [follow.eq_def]
  simp only [hplace, hfolder]
  simp

theorem follow_name (h : d.IsFolderAt place) (hstep : ¬(step = "" ∨ step = "."))
    (hup : step ≠ "..") :
    d.follow lastLink false links place (step :: rest) =
      match Entry.below? d.entries (step :: place).reverse with
      | some (.link _ target) =>
        if rest.isEmpty && !lastLink then .ok (step :: place).reverse
        else match links with
          | 0 => .error .linkLoop
          | left + 1 =>
            d.follow lastLink false left (origin place target) (Disk.steps target ++ rest)
      | some _ => d.follow lastLink false links (step :: place) rest
      | none => .error .missing := by
  obtain ⟨e, hplace, hfolder⟩ := h
  rw [follow.eq_def]
  have hon : ¬(decide (step = "") || decide (step = ".")) = true := by simpa using hstep
  simp only [hplace, hfolder]
  rw [if_neg (show ¬(!true) = true by decide), if_neg hon, if_neg hup]
  rfl

/-- All that one step can come to: a fault on the way, the way on from another place, or a link at
the end of the path, which may be followed or not. -/
theorem follow_cons_cases (d : Disk) (links : Nat) (place : List String) (step : String)
    (rest : List String) :
    (∃ fault, fault ≠ .notText ∧
      ∀ lastLink, d.follow lastLink false links place (step :: rest) = .error fault) ∨
    (∃ left next after, (left < links ∨ left = links ∧ after.length ≤ rest.length) ∧
      ∀ lastLink, d.follow lastLink false links place (step :: rest) =
        d.follow lastLink false left next after) ∨
    (∃ names name target, Entry.below? d.entries names = some (.link name target) ∧
      d.follow false false links place (step :: rest) = .ok names ∧
      d.follow true false links place (step :: rest) = match links with
        | 0 => .error .linkLoop
        | left + 1 => d.follow true false left (origin place target) (steps target)) := by
  have hstay : links < links ∨ links = links ∧ rest.length ≤ rest.length := by simp
  by_cases hnone : ¬d.IsFolderAt place
  · exact .inl ⟨_, ReadFault.noConfusion, fun _ => follow_of_not_isFolderAt hnone⟩
  have hfolder : d.IsFolderAt place := Classical.not_not.mp hnone
  by_cases hdot : step = "" ∨ step = "."
  · exact .inr (.inl ⟨links, place, rest, hstay, fun _ => follow_dot hfolder hdot⟩)
  by_cases hup : step = ".."
  · subst hup
    cases place with
    | nil => exact .inl ⟨_, ReadFault.noConfusion, fun _ => follow_up_nil hfolder⟩
    | cons name outer => exact .inr (.inl ⟨links, _, rest, hstay, fun _ => follow_up_cons hfolder⟩)
  simp only [follow_name hfolder hdot hup]
  cases hentry : Entry.below? d.entries (step :: place).reverse with
  | none => exact .inl ⟨_, ReadFault.noConfusion, fun _ => rfl⟩
  | some e =>
    cases e with
    | link name target =>
      by_cases hlast : rest = []
      · exact .inr (.inr ⟨_, name, target, hentry, by simp [hlast], by simp [hlast]⟩)
      · cases links with
        | zero => exact .inl ⟨.linkLoop, ReadFault.noConfusion, fun _ => by simp [hlast]⟩
        | succ left =>
          exact .inr (.inl ⟨left, origin place target, steps target ++ rest,
            .inl left.lt_succ_self, fun _ => by simp [hlast]⟩)
    | _ => exact .inr (.inl ⟨links, step :: place, rest, hstay, fun _ => rfl⟩)

end Step

/-- Steps that do not follow a last link end at that link or where they end otherwise. -/
theorem follow_false_cases (d : Disk) (links : Nat) (place steps : List String) :
    d.follow false false links place steps = d.follow true false links place steps ∨
      ∃ names name target, d.follow false false links place steps = .ok names ∧
        Entry.below? d.entries names = some (.link name target) := by
  -- The target of a link may be longer than what is left of the path, but it takes a link away.
  match steps with
  | [] => exact .inl (by rw [follow, follow])
  | step :: rest =>
    rcases follow_cons_cases d links place step rest with
      ⟨fault, -, hfault⟩ | ⟨left, next, after, hless, hon⟩ | ⟨names, name, target, hlink, hlast, -⟩
    · exact .inl ((hfault false).trans (hfault true).symm)
    · rw [hon false, hon true]
      exact follow_false_cases d left next after
    · exact .inr ⟨names, name, target, hlast, hlink⟩
termination_by (links, steps.length)
decreasing_by
  rcases hless with hless | ⟨rfl, hless⟩
  · exact Prod.Lex.left _ _ hless
  · exact Prod.Lex.right _ (Nat.lt_succ_of_le hless)

/-- What a file holds is no reason not to find it. -/
theorem follow_ne_error_notText (d : Disk) (lastLink : Bool) (links : Nat)
    (place steps : List String) : d.follow lastLink false links place steps ≠ .error .notText := by
  match steps with
  | [] => simp [follow]
  | step :: rest =>
    rcases follow_cons_cases d links place step rest with
      ⟨fault, hfault, herror⟩ | ⟨left, next, after, hless, hon⟩ |
        ⟨names, name, target, -, hfalse, htrue⟩
    · simp [herror lastLink, hfault]
    · rw [hon lastLink]
      exact follow_ne_error_notText d lastLink left next after
    · cases lastLink with
      | false => simp [hfalse]
      | true =>
        rw [htrue]
        cases hlinks : links with
        | zero => simp
        | succ left => exact follow_ne_error_notText d true left _ _
termination_by (links, steps.length)
decreasing_by
  · rcases hless with hless | ⟨rfl, hless⟩
    · exact Prod.Lex.left _ _ hless
    · exact Prod.Lex.right _ (Nat.lt_succ_of_le hless)
  · exact Prod.Lex.left _ _ (hlinks ▸ left.lt_succ_self)

/-- A path that ends at no link ends at the same entry however it is followed. -/
theorem find_false_cases (d : Disk) (path : String) :
    d.find false path = d.find true path ∨
      ∃ name target, d.find false path = .ok (.link name target) := by
  unfold find route
  by_cases hempty : path = ""
  · exact .inl (by simp [hempty])
  by_cases hlong : isTooLong path = true
  · exact .inl (by simp [hempty, hlong])
  simp only [hempty, hlong, Bool.false_eq_true, if_false]
  rcases follow_false_cases d maximumLinks [] (steps path) with
    hfollow | ⟨names, name, target, hfollow, hlink⟩
  · exact .inl (by rw [hfollow])
  · exact .inr ⟨name, target, by simp [hfollow, hlink]⟩

theorem find_ne_error_notText (d : Disk) (lastLink : Bool) (path : String) :
    d.find lastLink path ≠ .error .notText := by
  unfold find route
  by_cases hempty : path = ""
  · simp [hempty]
  by_cases hlong : isTooLong path = true
  · simp [hempty, hlong]
  simp only [hempty, hlong, Bool.false_eq_true, if_false]
  cases hfollow : d.follow lastLink false maximumLinks [] (steps path) with
  | ok names => cases hentry : Entry.below? d.entries names <;> simp [hentry]
  | error fault =>
    have hne := d.follow_ne_error_notText lastLink maximumLinks [] (steps path)
    simpa [hfollow] using hne

end CodeStyle.Disk
