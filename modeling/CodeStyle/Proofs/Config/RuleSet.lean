import CodeStyle.Config.RuleSet
import CodeStyle.Proofs.Config.Document
import CodeStyle.Proofs.Except

/-!
# Resolution of rules

The rules of a registry are built in its order, each with the block under its key. The first that
cannot be built decides; its error is one of the configuration and names the key and the rule,
whether the block or the value in it is at fault. Nothing but the blocks under the keys of the
registry has a say.
-/
namespace CodeStyle

theorem NamePattern.exists_pattern_of_read_eq_error {pattern : String} {e : CheckError}
    (h : NamePattern.read pattern = .error e) : ∃ text, e = .pattern text := by
  unfold NamePattern.read at h
  split at h
  · split at h
    · contradiction
    · exact ⟨_, (Except.error.inj h).symm⟩
  · exact ⟨_, (Except.error.inj h).symm⟩

/-- A value that makes no sense is a fault of a pattern or of the configuration. -/
theorem Criterion.pattern_or_configuration_of_check_eq_error {c : Criterion} {language : Language}
    {e : CheckError} (h : c.check language = .error e) :
    (∃ text, e = .pattern text) ∨ ∃ text, e = .configuration text := by
  cases c with
  | naming subject key pattern =>
    exact .inl (NamePattern.exists_pattern_of_read_eq_error (Except.map_eq_error_iff.mp h))
  | counting quantity key max => contradiction
  | measuring quantity key max => contradiction
  | indenting key width =>
    rw [check] at h
    split at h
    · exact .inr ⟨_, (Except.error.inj h).symm⟩
    · contradiction
  | laying layout => contradiction

theorem RuleName.stem_append_ruleSuffix (s : String) (language : Language) :
    RuleName.stem (s ++ language.ruleSuffix) language = s := by
  have hsuffix : (s ++ language.ruleSuffix).endsWith language.ruleSuffix = true := by
    rw [String.endsWith_eq_endsWith_toSlice, String.Slice.endsWith_string_iff]
    simp
  rw [RuleName.stem, if_pos hsuffix, String.length_append, Nat.add_sub_cancel,
    String.toList_append, ← String.length_toList, List.take_left, String.ofList_toList]

namespace RuleEntry

/-- The key of a rule of Java is its stem with a small first letter. -/
theorem key_java {stem : String} {c : Char} {rest : List Char} (h : stem.toList = c :: rest)
    (criterion : Criterion) :
    (RuleEntry.java stem criterion).key = String.ofList (Unicode.lowerChar c ++ rest) := by
  rw [RuleEntry.key, RuleEntry.java, RuleName.key, RuleName.stem_append_ruleSuffix, h]

variable {e : RuleEntry} {block : Option Yaml}

/-- Whatever is wrong with a block, the error names the key and the rule. -/
theorem exists_invalid_of_build_eq_error {err : CheckError} (h : e.build block = .error err) :
    ∃ message, err = e.invalid message := by
  unfold build at h
  split at h
  · exact ⟨_, (Except.error.inj h).symm⟩
  · split at h
    · contradiction
    · rename_i fault hfault
      rw [← Except.error.inj h]
      obtain ⟨text, rfl⟩ | ⟨text, rfl⟩ :=
        Criterion.pattern_or_configuration_of_check_eq_error hfault
      · exact ⟨text, rfl⟩
      · exact ⟨text, rfl⟩

theorem name_and_language_of_build_eq_ok {rule : Rule} (h : e.build block = .ok rule) :
    rule.name = e.name ∧ rule.language = e.language := by
  unfold build at h
  split at h
  · contradiction
  · split at h
    · rw [← Except.ok.inj h]
      exact ⟨rfl, rfl⟩
    · contradiction

end RuleEntry

namespace Config

variable {registry : List RuleEntry} {d d' : Document} {err : CheckError}

/-- The rule of an entry with the block that a document has for it. -/
def Document.build (d : Document) (e : RuleEntry) : Except CheckError Rule :=
  e.build (d.get? e.key)

theorem RuleSet.forLanguage_ofRules (rules : List Rule) (language : Language) :
    (RuleSet.ofRules rules).forLanguage language =
      rules.filter fun r => r.language == language && r.enabled := by
  cases language <;> exact List.filter_filter

theorem buildAll_eq_mapM (d : Document) (registry : List RuleEntry) :
    buildAll d registry = registry.mapM d.build := by
  induction registry with
  | nil => rfl
  | cons e registry ih =>
    have hbuild : d.build e = e.build (d.get? e.key) := rfl
    rw [buildAll]
    cases h : e.build (d.get? e.key) with
    | ok rule => rw [Except.mapM_cons_of_ok (hbuild.trans h), ih]
    | error fault => rw [Except.mapM_cons_of_error (hbuild.trans h)]

theorem resolve_eq_map (registry : List RuleEntry) (d : Document) :
    resolve registry d = (registry.mapM d.build).map RuleSet.ofRules := by
  rw [resolve, buildAll_eq_mapM]

theorem exists_resolve_eq_ok_iff :
    (∃ set, resolve registry d = .ok set) ↔ ∀ e ∈ registry, ∃ rule, d.build e = .ok rule := by
  rw [resolve_eq_map, Except.exists_map_eq_ok_iff, Except.exists_mapM_eq_ok_iff]

/-- The rules of a run are those of the registry that are switched on, in its order. -/
theorem exists_rules_of_resolve_eq_ok {set : RuleSet} (h : resolve registry d = .ok set) :
    ∃ rules, List.Forall₂ (fun e rule => d.build e = .ok rule ∧
        rule.name = e.name ∧ rule.language = e.language) registry rules ∧
      ∀ language, set.forLanguage language =
        rules.filter fun r => r.language == language && r.enabled := by
  rw [resolve_eq_map, Except.map_eq_ok_iff] at h
  obtain ⟨rules, hrules, rfl⟩ := h
  refine ⟨rules, ?_, RuleSet.forLanguage_ofRules rules⟩
  exact (Except.mapM_eq_ok_iff.mp hrules).imp fun e rule hbuild =>
    ⟨hbuild, RuleEntry.name_and_language_of_build_eq_ok hbuild⟩

/-- The rules for a language are built from the entries of the registry for it, those that are
switched off apart. -/
theorem mem_forLanguage_iff {set : RuleSet} {language : Language} {r : Rule}
    (h : resolve registry d = .ok set) : r ∈ set.forLanguage language ↔
      ∃ e ∈ registry, e.build (d.get? e.key) = .ok r ∧ e.language = language ∧
        r.enabled = true := by
  rw [resolve_eq_map, Except.map_eq_ok_iff] at h
  obtain ⟨rules, hrules, rfl⟩ := h
  have hmem : r ∈ rules ↔ ∃ e ∈ registry, d.build e = .ok r := by
    have hbuilt := Except.mapM_eq_ok_iff.mp hrules
    clear hrules
    induction hbuilt with
    | nil => simp
    | cons hbuild _ ih => simp [ih, hbuild, eq_comm]
  rw [RuleSet.forLanguage_ofRules, List.mem_filter, hmem, Bool.and_eq_true, beq_iff_eq]
  constructor
  · rintro ⟨⟨e, he, hbuild⟩, hlanguage, henabled⟩
    have hsame := (RuleEntry.name_and_language_of_build_eq_ok hbuild).2
    exact ⟨e, he, hbuild, hsame.symm.trans hlanguage, henabled⟩
  · rintro ⟨e, he, hbuild, rfl, henabled⟩
    exact ⟨⟨e, he, hbuild⟩, (RuleEntry.name_and_language_of_build_eq_ok hbuild).2, henabled⟩

/-- The first rule of the registry that cannot be built decides, with an error that names it. -/
theorem resolve_eq_error_iff :
    resolve registry d = .error err ↔ ∃ before e after message,
      registry = before ++ e :: after ∧ (∀ x ∈ before, ∃ rule, d.build x = .ok rule) ∧
      d.build e = .error err ∧ err = e.invalid message := by
  rw [resolve_eq_map, Except.map_eq_error_iff, Except.mapM_eq_error_iff]
  constructor
  · rintro ⟨before, e, after, hregistry, hbefore, he⟩
    obtain ⟨message, hmessage⟩ := RuleEntry.exists_invalid_of_build_eq_error he
    exact ⟨before, e, after, message, hregistry, hbefore, he, hmessage⟩
  · rintro ⟨before, e, after, message, hregistry, hbefore, he, -⟩
    exact ⟨before, e, after, hregistry, hbefore, he⟩

theorem resolve_congr (h : ∀ e ∈ registry, d.get? e.key = d'.get? e.key) :
    resolve registry d = resolve registry d' := by
  have hbuild : ∀ entries ⊆ registry, buildAll d entries = buildAll d' entries := by
    intro entries hsub
    induction entries with
    | nil => rfl
    | cons e entries ih =>
      obtain ⟨he, hentries⟩ := List.cons_subset.mp hsub
      rw [buildAll, buildAll, h e he, ih hentries]
  rw [resolve, resolve, hbuild registry (List.Subset.refl _)]

/-- Rules are resolved if every block builds, those of rules that are switched off as well. The
first that does not decides, and the error names its key and rule. What a document holds under other
keys than those of the registry makes no difference, nor does the order of its keys. -/
theorem resolve_eq_ok_and_error_iff (registry : List RuleEntry) (d : Document) :
    ((∃ set, resolve registry d = .ok set) ↔
      ∀ e ∈ registry, ∃ rule, e.build (d.get? e.key) = .ok rule) ∧
    (∀ set, resolve registry d = .ok set →
      ∃ rules, List.Forall₂ (fun e rule => e.build (d.get? e.key) = .ok rule ∧
          rule.name = e.name ∧ rule.language = e.language) registry rules ∧
        ∀ language, set.forLanguage language =
          rules.filter fun r => r.language == language && r.enabled) ∧
    (∀ err, resolve registry d = .error err ↔ ∃ before e after message,
      registry = before ++ e :: after ∧
      (∀ x ∈ before, ∃ rule, x.build (d.get? x.key) = .ok rule) ∧
      e.build (d.get? e.key) = .error err ∧
      err = .configuration
        ("Invalid configuration for '" ++ e.key ++ "' (" ++ e.name ++ "): " ++ message)) ∧
    (∀ d', (∀ e ∈ registry, d.get? e.key = d'.get? e.key) →
      resolve registry d = resolve registry d') ∧
    (∀ d', Yaml.HasDistinctKeys d.entries → Yaml.HasDistinctKeys d'.entries →
      (d.usedEntries registry).Perm (d'.usedEntries registry) →
      resolve registry d = resolve registry d') ∧
    (∀ text, Document.read text = .ok d → Yaml.HasDistinctKeys d.entries) ∧
    ∀ disk path, Document.load disk path = .ok d → Yaml.HasDistinctKeys d.entries :=
  ⟨exists_resolve_eq_ok_iff, fun _ => exists_rules_of_resolve_eq_ok, fun _ => resolve_eq_error_iff,
    fun _ => resolve_congr,
    fun _ h h' hperm => resolve_congr fun _ he => Document.get?_eq_of_perm h h' hperm he,
    fun _ => Document.hasDistinctKeys_of_read, fun _ _ => Document.hasDistinctKeys_of_load⟩

section Unused

/-- The rule about the number of lines, as it is registered. -/
def maxLinesEntry : RuleEntry := .java "MaxLines" (.measuring .lines "maxLines" 2000)

/-- The entry of a document that switches the rule off. -/
def switchedOff : Yaml × Yaml :=
  (.string maxLinesEntry.key, .mapping [(.string "enabled", .bool false)])

/-- An entry with a key that is one letter longer than that of the rule. -/
def misspelt : Yaml × Yaml := (.string (maxLinesEntry.key ++ "s"), .null)

theorem usedEntries_misspelt : Document.usedEntries ⟨[misspelt, switchedOff], none⟩
    [maxLinesEntry] = Document.usedEntries ⟨[switchedOff], none⟩ [maxLinesEntry] := by
  have hother : (maxLinesEntry.key == maxLinesEntry.key ++ "s") = false := by
    refine beq_eq_false_iff_ne.mpr fun h => ?_
    have hlength := congrArg String.length h
    simp at hlength
  simp [Document.usedEntries, Document.unusedKeys, Document.keys, Document.keyText?, misspelt,
    switchedOff, Yaml.untagged, hother]

/-- A key that no rule has makes no difference in front of the one that switches a rule off. -/
theorem resolve_misspelt_switchedOff :
    Yaml.HasDistinctKeys [switchedOff] ∧ Yaml.HasDistinctKeys [misspelt, switchedOff] ∧
      (Document.usedEntries ⟨[switchedOff], none⟩ [maxLinesEntry]).Perm
        (Document.usedEntries ⟨[misspelt, switchedOff], none⟩ [maxLinesEntry]) ∧
      resolve [maxLinesEntry] ⟨[misspelt, switchedOff], none⟩ = .ok { } := by
  have hdistinct : Yaml.HasDistinctKeys [switchedOff] := List.pairwise_singleton _ _
  have hdistinct' : Yaml.HasDistinctKeys [misspelt, switchedOff] := by
    refine List.pairwise_pair.mpr ?_
    simp [misspelt, switchedOff, Yaml.same]
  have hperm : (Document.usedEntries ⟨[switchedOff], none⟩ [maxLinesEntry]).Perm
      (Document.usedEntries ⟨[misspelt, switchedOff], none⟩ [maxLinesEntry]) := by
    rw [usedEntries_misspelt]
  have hoff : resolve [maxLinesEntry] ⟨[switchedOff], none⟩ = .ok { } := by
    have hblock : Document.get? ⟨[switchedOff], none⟩ maxLinesEntry.key = some switchedOff.2 :=
      (Document.get?_eq_some_iff hdistinct).mpr List.mem_cons_self
    simp only [resolve, buildAll, hblock]
    rfl
  have hsame := (resolve_eq_ok_and_error_iff [maxLinesEntry] ⟨[switchedOff], none⟩).2.2.2.2.1
    ⟨[misspelt, switchedOff], none⟩ hdistinct hdistinct' hperm
  exact ⟨hdistinct, hdistinct', hperm, hsame.symm.trans hoff⟩

end Unused

end Config

end CodeStyle
