import CodeStyle.Proofs.Analysis.Rules
import CodeStyle.Proofs.CommandLine.RuleList
import CodeStyle.Proofs.Rule.Overlay

/-!
# Keys of both languages

Some keys belong to a rule of Java and to one of C. Such rules are about the same sort of value,
under the same name, so that one block is taken by both or by neither, and says the same to both.
-/
namespace CodeStyle

namespace OptionValue

theorem untagged_toYaml (v : OptionValue) : v.toYaml.untagged = v.toYaml := by
  cases v <;> rfl

end OptionValue

namespace Criterion

variable {c c' : Criterion} {key name : String} {v : OptionValue} {value : Yaml}
  {language : Language}

/-- Whether a value makes sense for a criterion. -/
def Admits (c : Criterion) (value : Yaml) : Prop :=
  match c with
  | naming _ _ _ => ∀ pattern, value.untagged = .string pattern →
      ∃ p, NamePattern.read pattern = .ok p
  | indenting _ _ => value.untagged ≠ .int 0
  | _ => True

theorem admits_withoutValue : c.withoutValue.Admits value ↔ c.Admits value := by
  cases c <;> rfl

theorem admits_congr {value' : Yaml} (h : value.untagged = value'.untagged) :
    c.Admits value ↔ c.Admits value' := by
  cases c <;> simp only [Admits, h]

theorem exists_check_iff_admits (h : c.option? = some (key, v)) :
    (∃ check, c.check language = .ok check) ↔ c.Admits v.toYaml := by
  rw [exists_check_iff]
  cases c with
  | naming subject key pattern =>
    obtain ⟨rfl, rfl⟩ : key = _ ∧ OptionValue.text pattern = v := by simpa [option?] using h
    simp [Admits, OptionValue.toYaml, Yaml.untagged]
  | indenting key width =>
    obtain ⟨rfl, rfl⟩ : key = _ ∧ OptionValue.number width = v := by simpa [option?] using h
    simp [Admits, OptionValue.toYaml, Yaml.untagged]
  | _ => simp [Admits]

theorem exists_check_of_option?_eq_none (h : c.option? = none) :
    ∃ check, c.check language = .ok check := by
  rw [exists_check_iff]
  cases c <;> simp_all [option?]

theorem exists_option?_of_withoutValue_eq (h : c'.withoutValue = c.withoutValue)
    (hoption : c.option? = some (key, v)) : ∃ v', c'.option? = some (key, v') := by
  cases c <;> cases c' <;> simp_all [withoutValue, withText, withNumber, option?]

theorem option?_eq_none_of_withoutValue_eq (h : c'.withoutValue = c.withoutValue)
    (hoption : c.option? = none) : c'.option? = none := by
  cases c <;> cases c' <;> simp_all [withoutValue, withText, withNumber, option?]

/-- Whether two criteria have the same sort of value under the same key, or both none. -/
def isAkin : Criterion → Criterion → Bool
  | naming _ key _, naming _ key' _ => key == key'
  | counting _ key _, counting _ key' _ => key == key'
  | measuring _ key _, measuring _ key' _ => key == key'
  | indenting key _, indenting key' _ => key == key'
  | laying _, laying _ => true
  | _, _ => false

theorem admits_iff_of_isAkin (h : c.isAkin c' = true) : c.Admits value ↔ c'.Admits value := by
  cases c <;> cases c' <;> first | rfl | contradiction

end Criterion

namespace Settings

variable {c c' : Criterion} {base s : Settings} {fields : List (Yaml × Yaml)} {field : Yaml × Yaml}
  {key name : String} {value : Yaml} {language : Language}

theorem optionKey?_of_isAkin (h : c.isAkin c' = true) : optionKey? c = optionKey? c' := by
  cases c <;> cases c' <;> simp_all [Criterion.isAkin, optionKey?, Criterion.option?]

theorem fits_iff_of_isAkin (h : c.isAkin c' = true) : Fits c name value ↔ Fits c' name value := by
  cases c <;> cases c' <;> first | rfl | contradiction

theorem areFields_iff_of_isAkin (h : c.isAkin c' = true) :
    AreFields c fields ↔ AreFields c' fields := by
  have hfield : IsField c = IsField c' := by
    funext name field
    have hkeys : keys c = keys c' := by rw [keys, keys, optionKey?_of_isAkin h]
    refine propext ⟨fun hc => ⟨hc.hasName, hkeys ▸ hc.known, (fits_iff_of_isAkin h).mp hc.fits⟩,
      fun hc => ⟨hc.hasName, hkeys ▸ hc.known, (fits_iff_of_isAkin h).mpr hc.fits⟩⟩
  rw [AreFields, AreFields, hfield]

/-- Settings over defaults that make sense do so themselves if the block gives the criterion no
value that does not. -/
theorem LiesOver.exists_check_iff (h : base.LiesOver fields s)
    (hbase : ∃ check, base.criterion.check language = .ok check)
    (hkey : optionKey? base.criterion ≠ some enabledKey) :
    (∃ check, s.criterion.check language = .ok check) ↔ ∀ field ∈ fields, ∀ key,
      optionKey? base.criterion = some key → field.1.untagged = .string key →
        base.criterion.Admits field.2 := by
  cases hoption : base.criterion.option? with
  | none =>
    have hnone := Criterion.option?_eq_none_of_withoutValue_eq h.about hoption
    simp [Criterion.exists_check_of_option?_eq_none hnone, optionKey?, hoption]
  | some option =>
    obtain ⟨key, v⟩ := option
    have hother : key ≠ enabledKey := fun hsame => hkey (by simp [optionKey?, hoption, hsame])
    obtain ⟨v', hv'⟩ := Criterion.exists_option?_of_withoutValue_eq h.about hoption
    have hadmits (value : Yaml) : s.criterion.Admits value ↔ base.criterion.Admits value := by
      rw [← Criterion.admits_withoutValue, h.about, Criterion.admits_withoutValue]
    have hvalue := field?_of_option? hother hv'
    rw [Criterion.exists_check_iff_admits hv', hadmits]
    simp only [optionKey?, hoption, Option.map_some, Option.some.injEq, forall_eq']
    constructor
    · intro hsound field hfield hname
      have hnamed : field.2.untagged = v'.toYaml :=
        Option.some.inj ((h.named field hfield key hname).symm.trans hvalue)
      rwa [Criterion.admits_congr (hnamed.trans v'.untagged_toYaml.symm)]
    · intro hall
      by_cases hnamed : ∃ field ∈ fields, field.1.untagged = .string key
      · obtain ⟨field, hfield, hname⟩ := hnamed
        have hsame : v'.toYaml = field.2.untagged :=
          Option.some.inj (hvalue.symm.trans (h.named field hfield key hname))
        rw [Criterion.admits_congr (v'.untagged_toYaml.trans hsame)]
        exact hall field hfield hname
      · have hdefault := h.other key fun field hfield hname => hnamed ⟨field, hfield, hname⟩
        rw [hvalue, field?_of_option? hother hoption, Option.some.injEq] at hdefault
        rw [hdefault]
        exact (Criterion.exists_check_iff_admits hoption).mp hbase

/-- The entries of a block, none if it is empty. -/
def entriesOf (block : Yaml) : List (Yaml × Yaml) :=
  match block.untagged with
  | .mapping entries => entries
  | _ => []

theorem liesOver_of_ofBlock {e : RuleEntry} {block : Yaml} (h : ofBlock e (some block) = .ok s) :
    LiesOver { criterion := e.criterion } (entriesOf block) s := by
  rw [ofBlock, Option.getD_some] at h
  cases hshape : block.untagged with
  | null =>
    rw [hshape] at h
    obtain rfl := Except.ok.inj h
    simpa only [entriesOf, hshape] using ⟨rfl, by simp, fun _ _ => rfl⟩
  | mapping entries =>
    rw [hshape] at h
    simpa only [entriesOf, hshape] using liesOver_of_readFields h
  | _ => simp [hshape] at h

theorem exists_ofBlock_iff_of_isAkin {j n : RuleEntry} {block : Yaml}
    (h : j.criterion.isAkin n.criterion = true) :
    (∃ s, ofBlock j (some block) = .ok s) ↔ ∃ s, ofBlock n (some block) = .ok s := by
  simp only [exists_ofBlock_eq_ok_iff, areFields_iff_of_isAkin h]

/-- Settings that say the same of the same block are switched on alike. -/
theorem LiesOver.enabled_eq {base' s' : Settings} (h : base.LiesOver fields s)
    (h' : base'.LiesOver fields s') (henabled : base.enabled = base'.enabled) :
    s.enabled = s'.enabled := by
  have hsame : s.field? enabledKey = s'.field? enabledKey := by
    by_cases hnamed : ∃ field ∈ fields, field.1.untagged = .string enabledKey
    · obtain ⟨field, hfield, hname⟩ := hnamed
      rw [h.named field hfield _ hname, h'.named field hfield _ hname]
    · have hother : ∀ field ∈ fields, field.1.untagged ≠ .string enabledKey :=
        fun field hfield hname => hnamed ⟨field, hfield, hname⟩
      rw [h.other _ hother, h'.other _ hother, field?_enabledKey, field?_enabledKey, henabled]
  rw [field?_enabledKey, field?_enabledKey] at hsame
  exact Yaml.bool.inj (Option.some.inj hsame)

end Settings

namespace RuleEntry

variable {e j n : RuleEntry} {block : Yaml}

/-- A rule that makes sense as it is registered is built from a block that gives settings, if the
value in it makes sense as well. -/
theorem exists_build_eq_ok_iff (hbase : ∃ check, e.criterion.check e.language = .ok check)
    (hkey : Settings.optionKey? e.criterion ≠ some Settings.enabledKey) :
    (∃ rule, e.build (some block) = .ok rule) ↔ (∃ s, Settings.ofBlock e (some block) = .ok s) ∧
      ∀ field ∈ Settings.entriesOf block, ∀ key, Settings.optionKey? e.criterion = some key →
        field.1.untagged = .string key → e.criterion.Admits field.2 := by
  cases hblock : Settings.ofBlock e (some block) with
  | error fault => simp [build, hblock]
  | ok s =>
    have hlies := Settings.liesOver_of_ofBlock hblock
    rw [exists_build_eq_ok_iff_of_ofBlock hblock, hlies.exists_check_iff hbase hkey]
    simp

/-- Entries about the same sort of value under the same key are built from the same blocks. -/
theorem exists_build_iff_of_isAkin (h : j.criterion.isAkin n.criterion = true)
    (hj : ∃ check, j.criterion.check j.language = .ok check)
    (hn : ∃ check, n.criterion.check n.language = .ok check)
    (hkey : Settings.optionKey? j.criterion ≠ some Settings.enabledKey) :
    (∃ rule, j.build (some block) = .ok rule) ↔ ∃ rule, n.build (some block) = .ok rule := by
  have hsame := Settings.optionKey?_of_isAkin h
  rw [exists_build_eq_ok_iff hj hkey, exists_build_eq_ok_iff hn (hsame ▸ hkey),
    Settings.exists_ofBlock_iff_of_isAkin h, hsame]
  simp only [Criterion.admits_iff_of_isAkin h]

end RuleEntry

namespace Registry

/-- The name of a rule without the suffix of its language. -/
def stem (e : RuleEntry) : List Char :=
  e.name.toList.take (e.name.toList.length - e.language.ruleSuffix.toList.length)

/-- The names of rules of both languages, without the suffixes. -/
def sharedStems : List String := ["VariableName", "LongParameterList", "ForFormat", "IfFormat",
  "WhileFormat", "SwitchFormat", "MaxLines", "MaxLineLength", "SpaceIndentation"]

/-- Every rule has a name that ends in the suffix of its language. -/
theorem name_eq_of_mem {e : RuleEntry} (he : e ∈ all) :
    e.name = String.ofList (stem e) ++ e.language.ruleSuffix := by
  have hall : ∀ e ∈ all, e.name.toList = stem e ++ e.language.ruleSuffix.toList := by
    decide +kernel
  rw [← String.toList_inj, String.toList_append, String.toList_ofList]
  exact hall e he

/-- A key is the name of a rule with another first letter. -/
theorem tail_key_of_mem {e : RuleEntry} (he : e ∈ all) : e.key.toList.tail = (stem e).tail := by
  have hall : ∀ e ∈ all, (stem e).head?.any (· != '\u0130') = true := by decide +kernel
  have hfirst := hall e he
  rw [RuleEntry.key, name_eq_of_mem he, RuleName.key, RuleName.stem_append_ruleSuffix,
    String.toList_ofList]
  cases hstem : stem e with
  | nil => rfl
  | cons c rest =>
    have hc : (c == '\u0130') = false := by simpa [hstem] using hfirst
    simp [Unicode.lowerChar, hc]

theorem optionKey?_ne_enabledKey {e : RuleEntry} (he : e ∈ all) :
    Settings.optionKey? e.criterion ≠ some Settings.enabledKey := by
  have hall : ∀ e ∈ all, Settings.optionKey? e.criterion ≠ some Settings.enabledKey := by
    decide +kernel
  exact hall e he

/-- Rules of different languages whose names differ in the first letter at most share a name. -/
theorem isAkin_of_tail_stem_eq : ∀ j ∈ javaRules, ∀ n ∈ nativeRules,
    (stem j).tail = (stem n).tail → j.criterion.isAkin n.criterion = true ∧
      stem n = stem j ∧ ∃ s ∈ sharedStems, s.toList = stem j := by decide +kernel

theorem key_append_ruleSuffix (s : String) (language language' : Language) :
    RuleName.key (s ++ language.ruleSuffix) language =
      RuleName.key (s ++ language'.ruleSuffix) language' := by
  rw [RuleName.key, RuleName.key, RuleName.stem_append_ruleSuffix, RuleName.stem_append_ruleSuffix]

variable {j n : RuleEntry}

theorem mem_all_of_mem_javaRules (h : j ∈ javaRules) : j ∈ all := List.mem_append_left _ h

theorem mem_all_of_mem_nativeRules (h : n ∈ nativeRules) : n ∈ all := List.mem_append_right _ h

theorem isAkin_of_key_eq (hj : j ∈ javaRules) (hn : n ∈ nativeRules) (h : j.key = n.key) :
    j.criterion.isAkin n.criterion = true ∧ stem n = stem j ∧
      ∃ s ∈ sharedStems, s.toList = stem j := by
  refine isAkin_of_tail_stem_eq j hj n hn ?_
  rw [← tail_key_of_mem (mem_all_of_mem_javaRules hj),
    ← tail_key_of_mem (mem_all_of_mem_nativeRules hn), h]

theorem key_eq_iff (hj : j ∈ javaRules) (hn : n ∈ nativeRules) :
    j.key = n.key ↔ ∃ s ∈ sharedStems, j.name = s ++ Language.java.ruleSuffix ∧
      n.name = s ++ Language.native.ruleSuffix := by
  have hjava := language_of_mem_javaRules j hj
  have hnative := language_of_mem_nativeRules n hn
  constructor
  · intro h
    obtain ⟨-, hstem, s, hs, hsame⟩ := isAkin_of_key_eq hj hn h
    have hname : String.ofList (stem j) = s := by rw [← hsame, String.ofList_toList]
    refine ⟨s, hs, ?_, ?_⟩
    · rw [name_eq_of_mem (mem_all_of_mem_javaRules hj), hjava, hname]
    · rw [name_eq_of_mem (mem_all_of_mem_nativeRules hn), hnative, hstem, hname]
  · intro h
    obtain ⟨s, -, hjname, hnname⟩ := h
    rw [RuleEntry.key, RuleEntry.key, hjava, hnative, hjname, hnname]
    exact key_append_ruleSuffix s .java .native

end Registry

namespace RuleEntry

/-- A rule of Java and one of C under the same key, which nine names have, are built from the same
blocks. Both are switched on or off alike, and have the same value in every field that the block
names. -/
theorem build_iff_build_of_key_eq {j n : RuleEntry} (hj : j ∈ Registry.javaRules)
    (hn : n ∈ Registry.nativeRules) :
    (j.key = n.key ↔ ∃ s ∈ Registry.sharedStems, j.name = s ++ Language.java.ruleSuffix ∧
      n.name = s ++ Language.native.ruleSuffix) ∧
    (j.key = n.key → ∀ block,
      ((∃ rule, j.build (some block) = .ok rule) ↔ ∃ rule, n.build (some block) = .ok rule) ∧
      ∀ rule rule', j.build (some block) = .ok rule → n.build (some block) = .ok rule' →
        rule.enabled = rule'.enabled ∧ ∃ s s',
          Settings.ofBlock j (some block) = .ok s ∧ Settings.ofBlock n (some block) = .ok s' ∧
          rule.enabled = s.enabled ∧ s.criterion.check .java = .ok rule.check ∧
          rule'.enabled = s'.enabled ∧ s'.criterion.check .native = .ok rule'.check ∧
          ∀ fields, block.untagged = .mapping fields → ∀ field ∈ fields, ∀ name,
            field.1.untagged = .string name →
              s.field? name = some field.2.untagged ∧ s'.field? name = some field.2.untagged) := by
  have hjall := Registry.mem_all_of_mem_javaRules hj
  have hnall := Registry.mem_all_of_mem_nativeRules hn
  have hjava := Registry.language_of_mem_javaRules j hj
  have hnative := Registry.language_of_mem_nativeRules n hn
  refine ⟨Registry.key_eq_iff hj hn, fun hkey block => ?_⟩
  have hakin := (Registry.isAkin_of_key_eq hj hn hkey).1
  refine ⟨exists_build_iff_of_isAkin hakin (Registry.exists_check_eq_ok hjall)
    (Registry.exists_check_eq_ok hnall) (Registry.optionKey?_ne_enabledKey hjall), ?_⟩
  intro rule rule' hrule hrule'
  obtain ⟨s, check, hs, hcheck, rfl⟩ := build_eq_ok_iff.mp hrule
  obtain ⟨s', check', hs', hcheck', rfl⟩ := build_eq_ok_iff.mp hrule'
  have hlies := Settings.liesOver_of_ofBlock hs
  have hlies' := Settings.liesOver_of_ofBlock hs'
  refine ⟨hlies.enabled_eq hlies' rfl, s, s', hs, hs', rfl, hjava ▸ hcheck, rfl, hnative ▸ hcheck',
    fun fields hfields field hfield name hname => ?_⟩
  have hentry : field ∈ Settings.entriesOf block := by simpa [Settings.entriesOf, hfields]
  exact ⟨hlies.named field hentry name hname, hlies'.named field hentry name hname⟩

/-- The rule about the indentation of Java, as it is registered. -/
def javaIndentation : RuleEntry := .java "SpaceIndentation" (.indenting "indentation" 4)

/-- A block that switches off the rule of C switches off that of Java as well. -/
theorem build_narrow_in_both : javaIndentation ∈ Registry.javaRules ∧
    nativeIndentation ∈ Registry.nativeRules ∧ javaIndentation.key = nativeIndentation.key ∧
    ∃ rule rule', javaIndentation.build (some (.mapping narrow)) = .ok rule ∧
      nativeIndentation.build (some (.mapping narrow)) = .ok rule' ∧
      rule.enabled = false ∧ rule'.enabled = false := by
  have hjava : javaIndentation ∈ Registry.javaRules := by
    simp [Registry.javaRules, javaIndentation]
  have hnative : nativeIndentation ∈ Registry.nativeRules := by
    simp [Registry.nativeRules, nativeIndentation]
  obtain ⟨hshared, hsame⟩ := build_iff_build_of_key_eq hjava hnative
  have hkey := hshared.mpr ⟨"SpaceIndentation", by decide, rfl, rfl⟩
  obtain ⟨hbuild, hrules⟩ := hsame hkey (.mapping narrow)
  obtain ⟨rule', hrule', hoff⟩ : ∃ rule', nativeIndentation.build (some (.mapping narrow)) =
      .ok rule' ∧ rule'.enabled = false := ⟨_, rfl, rfl⟩
  obtain ⟨rule, hrule⟩ := hbuild.mpr ⟨rule', hrule'⟩
  have henabled := (hrules rule rule' hrule hrule').1
  exact ⟨hjava, hnative, hkey, rule, rule', hrule, hrule', henabled.trans hoff, hoff⟩

end RuleEntry

end CodeStyle
