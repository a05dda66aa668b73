import CodeStyle.Proofs.Analysis.Analyzer
import CodeStyle.Proofs.Config.RuleSet

/-!
# The rules of an analyzer

The rules that are run on a file are built from entries of the registry for the language of the
file. Without a configuration all of them can be built.
-/
namespace CodeStyle

namespace Registry

/-- Every value that holds without a configuration makes sense. -/
theorem exists_check_eq_ok {e : RuleEntry} (he : e ∈ Registry.all) :
    ∃ check, e.criterion.check e.language = .ok check := by
  have hall : ∀ e ∈ Registry.all, (e.criterion.check e.language).isOk = true := by decide +kernel
  cases hcheck : e.criterion.check e.language with
  | ok check => exact ⟨check, rfl⟩
  | error err =>
    have hok := hall e he
    rw [hcheck] at hok
    contradiction

/-- Without a configuration a rule is switched on and checks what is registered. -/
theorem exists_build_none_eq_ok {e : RuleEntry} (he : e ∈ Registry.all) :
    ∃ check, e.criterion.check e.language = .ok check ∧
      e.build none = .ok ⟨e.name, e.language, true, check⟩ := by
  obtain ⟨check, hcheck⟩ := exists_check_eq_ok he
  have hsettings : Settings.ofBlock e none = .ok { criterion := e.criterion } := rfl
  exact ⟨check, hcheck, by simp only [RuleEntry.build, hsettings, RuleEntry.checkOf, hcheck]⟩

/-- All rules can be built without a configuration. -/
theorem exists_resolve_eq_ok : ∃ set, Config.resolve Registry.all { } = .ok set := by
  refine Config.exists_resolve_eq_ok_iff.mpr fun e he => ?_
  obtain ⟨check, -, hbuild⟩ := exists_build_none_eq_ok he
  exact ⟨_, hbuild⟩

end Registry

namespace Analyzer

variable {a : Analyzer} {d : Config.Document} {options : AnalysisOptions}

/-- The rules for a file are built from the entries of the registry for its language, those that are
switched off apart. -/
theorem mem_rulesFor_iff {registry : List RuleEntry} {path : String} {r : Rule}
    (hrules : Config.resolve registry d = .ok a.rules) :
    r ∈ a.rulesFor path ↔ ∃ e ∈ registry, e.build (d.get? e.key) = .ok r ∧
      Language.ofPath? path = some e.language ∧ r.enabled = true := by
  unfold rulesFor
  cases Language.ofPath? path with
  | none => simp
  | some language =>
    simp only [Config.mem_forLanguage_iff hrules, Option.some.injEq, eq_comm]

theorem rules_and_options_of_ofDocument_eq_ok (h : ofDocument d options = .ok a) :
    Config.resolve Registry.all d = .ok a.rules ∧ a.options = options := by
  unfold ofDocument at h
  split at h
  · rename_i rules hrules
    obtain ⟨filter, -, rfl⟩ := Except.map_eq_ok_iff.mp h
    exact ⟨hrules, rfl⟩
  · contradiction

/-- Without a configuration and without patterns of its own an analyzer can always be built. -/
theorem exists_ofDocument_eq_ok (hexclude : options.exclude = []) :
    ∃ a, ofDocument { } options = .ok a := by
  obtain ⟨set, hset⟩ := Registry.exists_resolve_eq_ok
  exact ⟨⟨set, .default, options⟩, by simp [ofDocument, hset, make, hexclude, PathFilter.addAll]⟩

end Analyzer

end CodeStyle
