import CodeStyle.Proofs.Rule.Block
import CodeStyle.Proofs.Yaml.Word

/-!
# Blocks over defaults

A block that is a mapping lies over the defaults of a rule: the fields that it names get its values,
all others keep those of the defaults, in whatever order the block names them. Once the fields are
read, only a value that makes no sense is in the way of the rule.
-/
namespace CodeStyle

/-- The value of a criterion as a document writes it. -/
def OptionValue.toYaml : OptionValue → Yaml
  | text s => .string s
  | number n => .int n

namespace Settings

/-- The value of a field, as a document writes it. -/
def field? (s : Settings) (name : String) : Option Yaml :=
  if name = enabledKey then some (.bool s.enabled)
  else (s.criterion.option?.filter (·.1 == name)).map (·.2.toYaml)

/-- Whether settings have the values of the entries of a block in the fields that these name, and
those of others in all other fields. -/
structure LiesOver (base : Settings) (fields : List (Yaml × Yaml)) (s : Settings) : Prop where
  about : s.criterion.withoutValue = base.criterion.withoutValue
  named : ∀ field ∈ fields, ∀ name, field.1.untagged = .string name →
    s.field? name = some field.2.untagged
  other : ∀ name, (∀ field ∈ fields, field.1.untagged ≠ .string name) →
    s.field? name = base.field? name

variable {c c' : Criterion} {s s' : Settings} {before : List String} {key name : String}
  {value : Yaml} {fields : List (Yaml × Yaml)}

section Values

theorem option?_withText {v : String} (h : c.option? = some (key, .text v)) (text : String) :
    (c.withText text).option? = some (key, .text text) := by
  cases c <;> simp_all [Criterion.option?, Criterion.withText]

theorem option?_withNumber {v : Nat} (h : c.option? = some (key, .number v)) (n : Nat) :
    (c.withNumber n).option? = some (key, .number n) := by
  cases c <;> simp_all [Criterion.option?, Criterion.withNumber]

/-- A value that is read for a criterion is the value of the criterion from then on. -/
theorem option?_of_readOption {v : OptionValue} (h : readOption c value = .ok c')
    (hoption : c.option? = some (key, v)) :
    ∃ v', c'.option? = some (key, v') ∧ value.untagged = v'.toYaml := by
  cases v with
  | text text =>
    simp only [readOption, hoption] at h
    obtain ⟨text, htext, rfl⟩ := Except.map_eq_ok_iff.mp h
    exact ⟨.text text, option?_withText hoption text, readText_eq_ok_iff.mp htext⟩
  | number n =>
    simp only [readOption, hoption] at h
    obtain ⟨n, hn, rfl⟩ := Except.map_eq_ok_iff.mp h
    exact ⟨.number n, option?_withNumber hoption n, readNumber_eq_ok_iff.mp hn⟩

end Values

section Fields

theorem field?_enabledKey (s : Settings) : s.field? enabledKey = some (.bool s.enabled) := by
  rw [field?, if_pos rfl]

theorem field?_of_option? {v : OptionValue} (hkey : key ≠ enabledKey)
    (h : s.criterion.option? = some (key, v)) : s.field? key = some v.toYaml := by
  simp [field?, hkey, h]

theorem field?_of_option?_of_ne {v : OptionValue} (hname : name ≠ enabledKey) (hother : name ≠ key)
    (h : s.criterion.option? = some (key, v)) : s.field? name = none := by
  simp [field?, hname, h, Option.filter, hother.symm]

theorem exists_option?_of_mem_keys (hkey : key ≠ enabledKey) (h : key ∈ keys c) :
    ∃ v, c.option? = some (key, v) := by
  have hoption : optionKey? c = some key := by simpa [keys, hkey] using h
  obtain ⟨⟨_, v⟩, hv, rfl⟩ := Option.map_eq_some_iff.mp hoption
  exact ⟨v, hv⟩

/-- One entry of a block sets the field that it names and no other. -/
theorem field?_of_readField (h : s.readField before key value = .ok s') :
    s'.field? key = some value.untagged ∧ ∀ name ≠ key, s'.field? name = s.field? name := by
  obtain ⟨hknown, -, ⟨rfl, b, hb, rfl⟩ | ⟨hkey, c, hc, rfl⟩⟩ := readField_eq_ok_iff.mp h
  · refine ⟨?_, fun name hname => ?_⟩
    · rw [field?_enabledKey, readBool_eq_ok_iff.mp hb]
    · simp only [field?, if_neg hname]
  · obtain ⟨v, hv⟩ := exists_option?_of_mem_keys hkey hknown
    obtain ⟨v', hv', hvalue⟩ := option?_of_readOption hc hv
    refine ⟨?_, fun name hname => ?_⟩
    · rw [field?_of_option? hkey hv', hvalue]
    · by_cases hswitch : name = enabledKey
      · subst hswitch
        rw [field?_enabledKey, field?_enabledKey]
      · rw [field?_of_option?_of_ne hswitch hname hv', field?_of_option?_of_ne hswitch hname hv]

/-- No entry of a block names a field that was named before it. -/
theorem ne_string_of_readFields (h : s.readFields before fields = .ok s') (hname : name ∈ before) :
    ∀ field ∈ fields, field.1.untagged ≠ .string name := by
  induction fields generalizing s before with
  | nil => simp
  | cons field fields ih =>
    obtain ⟨key, s₁, hkey, hfield, hfields⟩ := readFields_cons_eq_ok_iff.mp h
    have hnew := (readField_eq_ok_iff.mp hfield).2.1
    refine List.forall_mem_cons.mpr ⟨fun hsame => ?_, ih hfields (List.mem_cons_of_mem key hname)⟩
    obtain rfl := Yaml.string.inj (hkey.symm.trans hsame)
    exact hnew hname

/-- What is read of a block lies over the settings that were there before. -/
theorem liesOver_of_readFields (h : s.readFields before fields = .ok s') :
    s.LiesOver fields s' := by
  induction fields generalizing s before with
  | nil =>
    obtain rfl := Except.ok.inj h
    exact ⟨rfl, by simp, fun _ _ => rfl⟩
  | cons field fields ih =>
    obtain ⟨key, s₁, hkey, hfield, hfields⟩ := readFields_cons_eq_ok_iff.mp h
    obtain ⟨hset, hkeep⟩ := field?_of_readField hfield
    have hlies := ih hfields
    refine ⟨hlies.about.trans (withoutValue_of_readField hfield),
      List.forall_mem_cons.mpr ⟨fun name hname => ?_, hlies.named⟩, fun name hnone => ?_⟩
    · -- The entries behind the first leave its field alone, since they name others.
      obtain rfl := Yaml.string.inj (hkey.symm.trans hname)
      rw [hlies.other key (ne_string_of_readFields hfields List.mem_cons_self), hset]
    · obtain ⟨hfirst, hrest⟩ := List.forall_mem_cons.mp hnone
      have hother : name ≠ key := fun hsame => hfirst (hsame ▸ hkey)
      rw [hlies.other name hrest, hkeep name hother]

/-- A mapping of fields gives settings that lie over the defaults. -/
theorem exists_liesOver_of_areFields {e : RuleEntry} (h : AreFields e.criterion fields) :
    ∃ s, ofBlock e (some (.mapping fields)) = .ok s ∧
      LiesOver { criterion := e.criterion } fields s := by
  have hshape : (Yaml.mapping fields).untagged = .mapping fields := rfl
  obtain ⟨s, hs⟩ := exists_ofBlock_eq_ok_iff.mpr (.inr ⟨fields, hshape, h⟩)
  exact ⟨s, hs, liesOver_of_readFields hs⟩

/-- A block may ask for any number. -/
theorem ofBlock_number {e : RuleEntry} {v : Nat}
    (hoption : e.criterion.option? = some (key, .number v)) (hkey : key ≠ enabledKey) (n : Nat) :
    ofBlock e (some (.mapping [(.string key, .int n)])) =
      .ok ⟨true, e.criterion.withNumber n⟩ := by
  have hknown : key ∈ keys e.criterion := by simp [keys, optionKey?, hoption]
  have hnumber : readNumber (.int n) = .ok n := readNumber_eq_ok_iff.mpr rfl
  have hread : readOption e.criterion (.int n) = .ok (e.criterion.withNumber n) := by
    rw [readOption, hoption, hnumber]
    rfl
  have hfield : readField { criterion := e.criterion } [] key (.int n) =
      .ok ⟨true, e.criterion.withNumber n⟩ :=
    readField_eq_ok_iff.mpr ⟨hknown, List.not_mem_nil, .inr ⟨hkey, _, hread, rfl⟩⟩
  have hfields : readFields { criterion := e.criterion } [] [(.string key, .int n)] =
      .ok ⟨true, e.criterion.withNumber n⟩ :=
    readFields_cons_eq_ok_iff.mpr ⟨key, _, rfl, hfield, rfl⟩
  exact hfields

theorem AreFields.exists_isField (h : AreFields c fields) :
    ∀ field ∈ fields, ∃ name, IsField c name field := by
  obtain ⟨names, -, hall⟩ := h
  induction hall with
  | nil => simp
  | cons hfield _ ih => exact List.forall_mem_cons.mpr ⟨⟨_, hfield⟩, ih⟩

/-- An entry that is no field is in the way of all settings. -/
theorem exists_ofBlock_eq_error {e : RuleEntry}
    (h : ∃ field ∈ fields, ∀ name, ¬ IsField e.criterion name field) :
    ∃ fault, ofBlock e (some (.mapping fields)) = .error fault := by
  cases hblock : ofBlock e (some (.mapping fields)) with
  | error fault => exact ⟨fault, rfl⟩
  | ok s =>
    obtain ⟨field, hfield, hnone⟩ := h
    rcases exists_ofBlock_eq_ok_iff.mp ⟨s, hblock⟩ with hnull | ⟨entries, hentries, hfields⟩
    · contradiction
    · obtain rfl := Yaml.mapping.inj hentries
      obtain ⟨name, hname⟩ := hfields.exists_isField field hfield
      exact absurd hname (hnone name)

end Fields

end Settings

/-- A value makes sense unless it is a pattern that cannot be read or a width of zero. -/
theorem Criterion.exists_check_iff {c : Criterion} {language : Language} :
    (∃ check, c.check language = .ok check) ↔
      (∀ subject key pattern, c = .naming subject key pattern →
        ∃ p, NamePattern.read pattern = .ok p) ∧ ∀ key, c ≠ .indenting key 0 := by
  cases c with
  | naming subject key pattern => simp [check, Except.exists_map_eq_ok_iff]
  | counting quantity key max => simp [check]
  | measuring quantity key max => simp [check]
  | indenting key width => by_cases hwidth : width = 0 <;> simp [check, hwidth]
  | laying layout => simp [check]

namespace RuleEntry

variable {e : RuleEntry} {block : Option Yaml} {rule : Rule}

/-- A rule is built in two steps: from a block to settings, and from settings to a check. -/
theorem build_eq_ok_iff : e.build block = .ok rule ↔ ∃ s check, Settings.ofBlock e block = .ok s ∧
    s.criterion.check e.language = .ok check ∧ rule = ⟨e.name, e.language, s.enabled, check⟩ := by
  cases hsettings : Settings.ofBlock e block with
  | error fault => simp [build, hsettings]
  | ok s =>
    cases hcheck : s.criterion.check e.language <;>
      simp [build, checkOf, hsettings, hcheck, eq_comm]

theorem exists_build_eq_ok_iff_of_ofBlock {s : Settings} (hs : Settings.ofBlock e block = .ok s) :
    (∃ rule, e.build block = .ok rule) ↔ ∃ check, s.criterion.check e.language = .ok check := by
  simp [build_eq_ok_iff, hs]

/-- A mapping of fields to values of their types gives settings that have these values, and the
defaults in all other fields. Only a pattern that cannot be read or a width of zero is then in the
way of the rule. A mapping with any other entry is refused. All errors name the key of the rule, and
the whole numbers of a block that stands in a document have at most 64 bits. -/
theorem build_mapping (e : RuleEntry) (fields : List (Yaml × Yaml)) :
    (Settings.AreFields e.criterion fields →
      ∃ s, Settings.ofBlock e (some (.mapping fields)) = .ok s ∧
        Settings.LiesOver { criterion := e.criterion } fields s ∧
        ((∃ rule, e.build (some (.mapping fields)) = .ok rule) ↔
          (∀ subject key pattern, s.criterion = .naming subject key pattern →
            ∃ p, NamePattern.read pattern = .ok p) ∧ ∀ key, s.criterion ≠ .indenting key 0) ∧
        ∀ rule, e.build (some (.mapping fields)) = .ok rule →
          rule.enabled = s.enabled ∧ s.criterion.check e.language = .ok rule.check) ∧
    ((∃ field ∈ fields, ∀ name, ¬ Settings.IsField e.criterion name field) →
      ∃ err, e.build (some (.mapping fields)) = .error err) ∧
    (∀ err, e.build (some (.mapping fields)) = .error err → ∃ message, err = .configuration
      ("Invalid configuration for '" ++ e.key ++ "' (" ++ e.name ++ "): " ++ message)) ∧
    ∀ text (d : Config.Document), Config.Document.readEntries text = .ok d.entries →
      d.get? e.key = some (.mapping fields) →
        ∀ field ∈ fields, ∀ n, field.2.untagged = .int n → Yaml.IsWord n := by
  refine ⟨fun hfields => ?_, fun hbad => ?_, fun err herr => exists_invalid_of_build_eq_error herr,
    fun text d hd hblock field hfield n hn => ?_⟩
  · obtain ⟨s, hs, hlies⟩ := Settings.exists_liesOver_of_areFields hfields
    refine ⟨s, hs, hlies, ?_, fun rule hrule => ?_⟩
    · rw [exists_build_eq_ok_iff_of_ofBlock hs, Criterion.exists_check_iff]
    · obtain ⟨s', check, hs', hcheck, rfl⟩ := build_eq_ok_iff.mp hrule
      obtain rfl := Except.ok.inj (hs.symm.trans hs')
      exact ⟨rfl, hcheck⟩
  · obtain ⟨fault, hfault⟩ := Settings.exists_ofBlock_eq_error hbad
    exact ⟨e.invalid fault.message, by rw [build, hfault]⟩
  · cases Config.Document.hasWords_of_get? hd hblock with
    | mapping _ hvalues =>
      have hword := (hvalues field hfield).untagged
      rw [hn] at hword
      cases hword with
      | int h => exact h

/-- The rule about the indentation of C, as it is registered. -/
def nativeIndentation : RuleEntry := .native "SpaceIndentation" (.indenting "indentation" 4)

/-- A block that asks for a narrow indentation and switches the rule off. -/
def narrow : List (Yaml × Yaml) :=
  [(.string "indentation", .int 2), (.string "enabled", .bool false)]

theorem areFields_narrow : Settings.AreFields nativeIndentation.criterion narrow := by
  have hwidth : Settings.IsField nativeIndentation.criterion "indentation"
      (.string "indentation", .int 2) := ⟨rfl, by decide, 2, rfl⟩
  have hswitch : Settings.IsField nativeIndentation.criterion "enabled"
      (.string "enabled", .bool false) := ⟨rfl, by decide, false, rfl⟩
  exact ⟨["indentation", "enabled"], by decide, .cons hwidth (.cons hswitch .nil)⟩

/-- The rule is built with both values of the block, and refused if one of them is null. -/
theorem build_narrow_and_null : Settings.AreFields nativeIndentation.criterion narrow ∧
    (∃ rule, nativeIndentation.build (some (.mapping narrow)) = .ok rule ∧ rule.enabled = false) ∧
    (∀ name, ¬ Settings.IsField nativeIndentation.criterion name (.string "indentation", .null)) ∧
    ∃ err, nativeIndentation.build (some (.mapping [(.string "indentation", .null)])) =
      .error err := by
  obtain ⟨hfields, -⟩ := build_mapping nativeIndentation narrow
  obtain ⟨s, hs, -, hbuild, hrule⟩ := hfields areFields_narrow
  have hread : Settings.ofBlock nativeIndentation (some (.mapping narrow)) =
      .ok ⟨false, .indenting "indentation" 2⟩ := rfl
  obtain rfl := Except.ok.inj (hs.symm.trans hread)
  obtain ⟨rule, hbuilt⟩ := hbuild.mpr (by simp)
  have hnull : ∀ name, ¬ Settings.IsField nativeIndentation.criterion name
      (.string "indentation", .null) := by
    rintro name ⟨hname, -, hfits⟩
    obtain rfl := Yaml.string.inj hname
    obtain ⟨n, hn⟩ := hfits
    contradiction
  exact ⟨areFields_narrow, ⟨rule, hbuilt, (hrule rule hbuilt).1⟩, hnull,
    (build_mapping nativeIndentation _).2.1 ⟨_, List.mem_singleton.mpr rfl, hnull⟩⟩

end RuleEntry

end CodeStyle
