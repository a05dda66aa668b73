import CodeStyle.Proofs.Config.RuleSet
import CodeStyle.Proofs.Rule.Settings

/-!
# Shapes of blocks

A block gives settings to a rule only if it is empty or a mapping of the names of the rule's fields
to values of their types, with no name given twice. Everything else is refused with an error that
names the key of the rule, whatever its content.
-/
namespace CodeStyle

namespace Settings

variable {c : Criterion} {s : Settings} {before : List String} {key : String} {value : Yaml}
  {fields : List (Yaml × Yaml)}

/-- Whether a value is of the type that a field asks for. -/
def Fits (c : Criterion) (key : String) (value : Yaml) : Prop :=
  if key = enabledKey then ∃ b, value.untagged = .bool b
  else match c.option? with
    | some (_, .text _) => ∃ text, value.untagged = .string text
    | some (_, .number _) => ∃ n : Nat, value.untagged = .int n
    | none => True

/-- Whether an entry of a block is a field with a name. -/
structure IsField (c : Criterion) (name : String) (field : Yaml × Yaml) : Prop where
  hasName : field.1.untagged = .string name
  known : name ∈ keys c
  fits : Fits c name field.2

/-- Whether the entries of a block are fields of a criterion, each at most once. -/
def AreFields (c : Criterion) (fields : List (Yaml × Yaml)) : Prop :=
  ∃ names : List String, names.Nodup ∧ List.Forall₂ (IsField c) names fields

section Values

theorem readBool_eq_ok_iff {b : Bool} : readBool value = .ok b ↔ value.untagged = .bool b := by
  unfold readBool
  cases value.untagged <;> simp

theorem readText_eq_ok_iff {text : String} :
    readText value = .ok text ↔ value.untagged = .string text := by
  unfold readText
  cases value.untagged <;> simp

theorem readNumber_eq_ok_iff {n : Nat} : readNumber value = .ok n ↔ value.untagged = .int n := by
  unfold readNumber
  cases value.untagged with
  | int m =>
    by_cases hnegative : m < 0
    · simp only [hnegative, if_true, reduceCtorEq, Yaml.int.injEq, false_iff]
      omega
    · simp only [hnegative, if_false, Except.ok.injEq, Yaml.int.injEq]
      omega
  | _ => simp

theorem exists_readOption_eq_ok_iff (hkey : key ≠ enabledKey) :
    (∃ c', readOption c value = .ok c') ↔ Fits c key value := by
  unfold readOption Fits
  rw [if_neg hkey]
  cases c.option? with
  | none => simp
  | some option =>
    obtain ⟨name, _ | _⟩ := option
    · exact Except.exists_map_eq_ok_iff.trans (exists_congr fun _ => readText_eq_ok_iff)
    · exact Except.exists_map_eq_ok_iff.trans (exists_congr fun _ => readNumber_eq_ok_iff)

theorem keys_withoutValue (c : Criterion) : keys c.withoutValue = keys c := by
  cases c <;> rfl

theorem fits_withoutValue (c : Criterion) : Fits c.withoutValue key value ↔ Fits c key value := by
  cases c <;> rfl

end Values

/-- A field can be read if it is known, new, and of its type. -/
theorem exists_readField_eq_ok_iff : (∃ s', s.readField before key value = .ok s') ↔
    key ∈ keys s.criterion ∧ key ∉ before ∧ Fits s.criterion key value := by
  simp only [readField_eq_ok_iff, exists_and_left]
  refine and_congr_right fun _ => and_congr_right fun _ => ?_
  by_cases hkey : key = enabledKey
  · rw [Fits, if_pos hkey]
    simp only [← readBool_eq_ok_iff]
    constructor
    · intro h
      obtain ⟨s', ⟨-, b, hb, -⟩ | ⟨hother, -⟩⟩ := h
      · exact ⟨b, hb⟩
      · exact absurd hkey hother
    · intro h
      obtain ⟨b, hb⟩ := h
      exact ⟨_, .inl ⟨hkey, b, hb, rfl⟩⟩
  · rw [← exists_readOption_eq_ok_iff hkey]
    constructor
    · intro h
      obtain ⟨s', ⟨hswitch, -⟩ | ⟨-, c, hc, -⟩⟩ := h
      · exact absurd hswitch hkey
      · exact ⟨c, hc⟩
    · intro h
      obtain ⟨c, hc⟩ := h
      exact ⟨_, .inr ⟨hkey, c, hc, rfl⟩⟩

theorem isField_congr {c c' : Criterion} (h : c'.withoutValue = c.withoutValue) {name : String}
    {field : Yaml × Yaml} (hfield : IsField c' name field) : IsField c name field where
  hasName := hfield.hasName
  known := by
    rw [← keys_withoutValue, ← h, keys_withoutValue]
    exact hfield.known
  fits := by
    rw [← fits_withoutValue, ← h, fits_withoutValue]
    exact hfield.fits

/-- Entries can be read if they are fields with different names. -/
theorem exists_readFields_eq_ok_iff : (∃ s', s.readFields before fields = .ok s') ↔
    ∃ names : List String, names.Nodup ∧ (∀ name ∈ names, name ∉ before) ∧
      List.Forall₂ (IsField s.criterion) names fields := by
  induction fields generalizing s before with
  | nil => simp [readFields]
  | cons field fields ih =>
    obtain ⟨k, v⟩ := field
    constructor
    · intro h
      obtain ⟨s', h⟩ := h
      obtain ⟨key, s₁, hkey, hfield, hfields⟩ := readFields_cons_eq_ok_iff.mp h
      obtain ⟨hknown, hnew, hfits⟩ := exists_readField_eq_ok_iff.mp ⟨s₁, hfield⟩
      obtain ⟨names, hnodup, hother, hall⟩ := ih.mp ⟨s', hfields⟩
      have hvalue := withoutValue_of_readField hfield
      refine ⟨key :: names, List.nodup_cons.mpr ⟨?_, hnodup⟩, ?_,
        .cons ⟨hkey, hknown, hfits⟩ (hall.imp fun _ _ => isField_congr hvalue)⟩
      · intro hmem
        exact hother key hmem List.mem_cons_self
      · intro name hname
        rcases List.mem_cons.mp hname with rfl | hname
        · exact hnew
        · exact fun hbefore => hother name hname (List.mem_cons_of_mem _ hbefore)
    · intro h
      obtain ⟨names, hnodup, hother, hall⟩ := h
      cases hall with
      | @cons key _ names _ hfirst hrest =>
        obtain ⟨hunique, hnodup⟩ := List.nodup_cons.mp hnodup
        obtain ⟨s₁, hfield⟩ := exists_readField_eq_ok_iff.mpr
          ⟨hfirst.known, hother key List.mem_cons_self, hfirst.fits⟩
        have hvalue := (withoutValue_of_readField hfield).symm
        have hnew : ∀ name ∈ names, name ∉ key :: before := by
          intro name hname hmem
          rcases List.mem_cons.mp hmem with rfl | hmem
          · exact hunique hname
          · exact hother name (List.mem_cons_of_mem _ hname) hmem
        obtain ⟨s', hfields⟩ := ih.mpr ⟨names, hnodup, hnew,
          hrest.imp fun _ _ => isField_congr hvalue⟩
        exact ⟨s', readFields_cons_eq_ok_iff.mpr ⟨key, s₁, hfirst.hasName, hfield, hfields⟩⟩

/-- A block gives settings if it is empty or a mapping of fields. -/
theorem exists_ofBlock_eq_ok_iff {e : RuleEntry} {block : Yaml} :
    (∃ s, ofBlock e (some block) = .ok s) ↔ block.untagged = .null ∨
      ∃ fields, block.untagged = .mapping fields ∧ AreFields e.criterion fields := by
  rw [ofBlock, Option.getD_some]
  cases hshape : block.untagged with
  | mapping fields =>
    simp only [exists_readFields_eq_ok_iff]
    simp [AreFields]
  | _ => simp

end Settings

namespace RuleEntry

variable {e : RuleEntry} {block : Yaml}

/-- A block that is neither empty nor a mapping is refused, whatever its content. -/
theorem build_eq_error_of_shape (hnull : block.untagged ≠ .null)
    (hmapping : ∀ fields, block.untagged ≠ .mapping fields) :
    e.build (some block) = .error (e.invalid (BlockFault.message (.wrongType block.untagged
      ("struct " ++ RuleName.stem e.name e.language ++ "Config")))) := by
  have hblock : Settings.ofBlock e (some block) = .error (.wrongType block.untagged
      ("struct " ++ RuleName.stem e.name e.language ++ "Config")) := by
    rw [Settings.ofBlock, Option.getD_some]
    cases hshape : block.untagged with
    | null => exact absurd hshape hnull
    | mapping fields => exact absurd hshape (hmapping fields)
    | _ => rfl
  rw [build, hblock]

/-- A rule is never built from a block of another shape: one that is neither empty nor a mapping is
refused with an error that names the key of the rule, and one that is taken is empty or a mapping of
the names of the rule's fields, each at most once, to values of their types. -/
theorem build_eq_error_and_areFields (e : RuleEntry) (block : Yaml) :
    (block.untagged ≠ .null → (∀ fields, block.untagged ≠ .mapping fields) →
      e.build (some block) = .error (.configuration ("Invalid configuration for '" ++ e.key ++
        "' (" ++ e.name ++ "): " ++ ("invalid type: " ++ BlockFault.describe block.untagged ++
          ", expected " ++ ("struct " ++ RuleName.stem e.name e.language ++ "Config"))))) ∧
    (∀ rule, e.build (some block) = .ok rule → block.untagged = .null ∨
      ∃ fields, block.untagged = .mapping fields ∧ Settings.AreFields e.criterion fields) := by
  refine ⟨build_eq_error_of_shape, ?_⟩
  intro rule hbuild
  refine Settings.exists_ofBlock_eq_ok_iff.mp ?_
  cases hsettings : Settings.ofBlock e (some block) with
  | error fault => simp [build, hsettings] at hbuild
  | ok s => exact ⟨s, rfl⟩

/-- The rule about the length of methods, as it is registered. -/
def methodLengthEntry : RuleEntry := .java "MethodLength" (.counting .statements "maxLength" 50)

/-- A sequence of values of the right types in the right order is refused as well. -/
theorem build_sequence_eq_error : methodLengthEntry ∈ Registry.all ∧
    methodLengthEntry.build (some (.tagged "!x" (.sequence [.bool false, .int 5]))) =
      .error (methodLengthEntry.invalid
        "invalid type: sequence, expected struct MethodLengthConfig") := by
  have hregistered : methodLengthEntry ∈ Registry.all := by
    simp [Registry.all, Registry.javaRules, methodLengthEntry]
  obtain ⟨hrefused, -⟩ := build_eq_error_and_areFields methodLengthEntry
    (.tagged "!x" (.sequence [.bool false, .int 5]))
  have hstem : RuleName.stem methodLengthEntry.name methodLengthEntry.language = "MethodLength" :=
    RuleName.stem_append_ruleSuffix "MethodLength" .java
  have hmessage : "invalid type: " ++ BlockFault.describe (Yaml.tagged "!x"
      (.sequence [.bool false, .int 5])).untagged ++ ", expected " ++
        ("struct " ++ RuleName.stem methodLengthEntry.name methodLengthEntry.language ++ "Config") =
      "invalid type: sequence, expected struct MethodLengthConfig" := by
    rw [hstem]
    decide +kernel
  refine ⟨hregistered, ?_⟩
  rw [hrefused Yaml.noConfusion fun _ => Yaml.noConfusion, hmessage]
  rfl

end RuleEntry

end CodeStyle
