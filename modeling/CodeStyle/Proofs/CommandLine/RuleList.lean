import CodeStyle.Proofs.CommandLine.ExitCode
import CodeStyle.Proofs.Config.Switch

/-!
# Lists of rules

A list of rules builds the rules of the registry itself, one after the other, and writes their rows
as it goes. The rows are those of the rules that a configuration resolves to, in the same order, and
where it cannot be resolved the list ends at the entry that is at fault.
-/
namespace CodeStyle

/-- What tells a rule from all others. -/
def Rule.title (r : Rule) : String × Language := (r.name, r.language)

/-- What tells an entry of a registry from all others. -/
def RuleEntry.title (e : RuleEntry) : String × Language := (e.name, e.language)

namespace Registry

theorem nodup_titles : (all.map RuleEntry.title).Nodup := by decide +kernel

theorem language_of_mem_javaRules : ∀ e ∈ javaRules, e.language = .java := by decide

theorem language_of_mem_nativeRules : ∀ e ∈ nativeRules, e.language = .native := by decide

end Registry

namespace Config

variable {d : Document} {rules front rest : List Rule} {entries : List RuleEntry}

/-- Rules have the titles of the entries that they are built from. -/
theorem map_title_of_mapM_eq_ok (h : entries.mapM d.build = .ok rules) :
    rules.map Rule.title = entries.map RuleEntry.title := by
  have hbuilt := Except.mapM_eq_ok_iff.mp h
  clear h
  induction hbuilt with
  | nil => rfl
  | cons hbuild _ ih =>
    obtain ⟨hname, hlanguage⟩ := RuleEntry.name_and_language_of_build_eq_ok hbuild
    rw [List.map_cons, List.map_cons, ih, Rule.title, RuleEntry.title, hname, hlanguage]

theorem language_of_map_title_eq {language : Language}
    (htitles : rules.map Rule.title = entries.map RuleEntry.title)
    (hentries : ∀ e ∈ entries, e.language = language) : ∀ r ∈ rules, r.language = language := by
  intro r hr
  obtain ⟨e, he, htitle⟩ := List.mem_map.mp (htitles ▸ List.mem_map_of_mem hr)
  exact (congrArg Prod.snd htitle).symm.trans (hentries e he)

/-- All or none of the rules of one language are kept for a language. -/
theorem filter_language_eq {own language : Language} (h : ∀ r ∈ rules, r.language = own) :
    rules.filter (·.language == language) = if own = language then rules else [] := by
  by_cases hsame : own = language
  · rw [if_pos hsame, List.filter_eq_self]
    exact fun r hr => beq_iff_eq.mpr ((h r hr).trans hsame)
  · rw [if_neg hsame, List.filter_eq_nil_iff]
    exact fun r hr heq => hsame ((h r hr).symm.trans (beq_iff_eq.mp heq))

theorem RuleSet.all_ofRules_append (hjava : ∀ r ∈ front, r.language = .java)
    (hnative : ∀ r ∈ rest, r.language = .native) :
    (RuleSet.ofRules (front ++ rest)).all = (front ++ rest).filter (·.enabled) := by
  have hone : ∀ r ∈ front.filter (·.enabled), r.language = .java :=
    fun r hr => hjava r (List.mem_of_mem_filter hr)
  have hother : ∀ r ∈ rest.filter (·.enabled), r.language = .native :=
    fun r hr => hnative r (List.mem_of_mem_filter hr)
  simp [all, ofRules, filter_language_eq hone, filter_language_eq hother]

/-- The rules of Java are registered in front of those of C, so the rules of a run stand in the
order of the registry. -/
theorem RuleSet.all_ofRules (h : Registry.all.mapM d.build = .ok rules) :
    (RuleSet.ofRules rules).all = rules.filter (·.enabled) := by
  obtain ⟨front, rest, rfl, hjava, hnative⟩ :=
    List.map_eq_append_iff.mp ((map_title_of_mapM_eq_ok h).trans List.map_append)
  exact RuleSet.all_ofRules_append
    (language_of_map_title_eq hjava Registry.language_of_mem_javaRules)
    (language_of_map_title_eq hnative Registry.language_of_mem_nativeRules)

/-- A rule of a run is switched on if it has the title of one that is. -/
theorem enabled_iff_title_mem (hnodup : (rules.map Rule.title).Nodup) {r : Rule} (hr : r ∈ rules) :
    r.enabled = true ↔ r.title ∈ (rules.filter (·.enabled)).map Rule.title := by
  rw [List.mem_map]
  constructor
  · exact fun hon => ⟨r, List.mem_filter.mpr ⟨hr, hon⟩, rfl⟩
  · rintro ⟨other, hother, htitle⟩
    obtain ⟨hmem, hon⟩ := List.mem_filter.mp hother
    rwa [← List.inj_on_of_nodup_map hnodup hmem hr htitle]

end Config

namespace CommandLine

variable {d : Config.Document} {entries : List RuleEntry} {rules : List Rule} {all : Bool}
  {written : String}

/-- The row of a rule. -/
def row (title : String × Language) (enabled : Bool) : String :=
  ruleLine title.2.name title.1 (RuleName.key title.1 title.2)
    (if enabled then "enabled" else "disabled")

theorem listRule_eq (all : Bool) (r : Rule) :
    listRule all r = if r.enabled || all then row r.title r.enabled else "" := rfl

/-- Where all rules can be built, a list of rules writes a row after the other. -/
theorem listRules_of_mapM_eq_ok (h : entries.mapM d.build = .ok rules) :
    listRules all d written entries =
      ⟨0, fun _ => written ++ String.join (rules.map (listRule all)), none⟩ := by
  have hbuilt := Except.mapM_eq_ok_iff.mp h
  clear h
  induction hbuilt generalizing written with
  | nil => simp [listRules]
  | @cons e rule entries rules hbuild _ ih =>
    have hstep : e.build (d.get? e.key) = .ok rule := hbuild
    simp only [listRules, hstep, ih, List.map_cons, String.join_cons, String.append_assoc]

/-- A list of rules ends at the first that cannot be built, behind the rows of those before it. -/
theorem listRules_of_build_eq_error {before after : List RuleEntry} {e : RuleEntry} {err : CheckError}
    (hbefore : before.mapM d.build = .ok rules) (he : d.build e = .error err) :
    listRules all d written (before ++ e :: after) =
      .failed (written ++ String.join (rules.map (listRule all)))
        ("Failed to configure '" ++ e.key ++ "'") err := by
  have hbuilt := Except.mapM_eq_ok_iff.mp hbefore
  clear hbefore
  induction hbuilt generalizing written with
  | nil =>
    have hstep : e.build (d.get? e.key) = .error err := he
    simp [listRules, hstep]
  | @cons x rule before rules hbuild _ ih =>
    have hstep : x.build (d.get? x.key) = .ok rule := hbuild
    simp only [List.cons_append, listRules, hstep, ih, List.map_cons, String.join_cons,
      String.append_assoc]

/-- What is written of rules are the rows of those that are to be listed. -/
theorem join_map_listRule (rules : List Rule) :
    String.join (rules.map (listRule all)) =
      String.join ((rules.filter fun r => r.enabled || all).map fun r => row r.title r.enabled) := by
  induction rules with
  | nil => rfl
  | cons r rules ih =>
    by_cases h : (r.enabled || all) = true <;> simp [listRule_eq, h, ih]

theorem join_map_listRule_false (rules : List Rule) :
    String.join (rules.map (listRule false)) =
      String.join ((rules.filter (·.enabled)).map fun r => row r.title true) := by
  have hrows : ∀ r ∈ rules.filter (·.enabled), row r.title r.enabled = row r.title true :=
    fun r hr => by rw [(List.mem_filter.mp hr).2]
  simp only [join_map_listRule, Bool.or_false, List.map_congr_left hrows]

theorem map_listRule_true (h : Registry.all.mapM d.build = .ok rules) :
    rules.map (listRule true) = Registry.all.map fun e =>
      row e.title (e.title ∈ (rules.filter (·.enabled)).map Rule.title) := by
  have htitles := Config.map_title_of_mapM_eq_ok h
  have hnodup : (rules.map Rule.title).Nodup := htitles ▸ Registry.nodup_titles
  have hrows : ∀ r ∈ rules, listRule true r =
      row r.title (r.title ∈ (rules.filter (·.enabled)).map Rule.title) := by
    intro r hr
    rw [listRule_eq, Bool.or_true, if_pos rfl, Bool.eq_iff_iff.mpr
      ((Config.enabled_iff_title_mem hnodup hr).trans decide_eq_true_iff.symm)]
  calc rules.map (listRule true)
    _ = (rules.map Rule.title).map fun title =>
        row title (title ∈ (rules.filter (·.enabled)).map Rule.title) := by
      rw [List.map_map]
      exact List.map_congr_left hrows
    _ = Registry.all.map fun e =>
        row e.title (e.title ∈ (rules.filter (·.enabled)).map Rule.title) := by
      rw [htitles, List.map_map]
      rfl

section Run

variable {env : Environment} {config : Option String} {set : Config.RuleSet} {err : CheckError}

theorem runRules_eq_listRules (h : loadDocument env config = .ok d) (all : Bool) :
    runRules env config all = listRules all d ruleHeader Registry.all := by
  simp only [runRules, h]

/-- A configuration that can be resolved is listed to the end. -/
theorem runRules_of_resolve_eq_ok (h : loadDocument env config = .ok d)
    (hset : Config.resolve Registry.all d = .ok set) :
    runRules env config false = ⟨0, fun _ => ruleHeader ++
      String.join (set.all.map fun r => row r.title true), none⟩ ∧
    runRules env config true = ⟨0, fun _ => ruleHeader ++ String.join (Registry.all.map fun e =>
      row e.title (e.title ∈ set.all.map Rule.title)), none⟩ := by
  rw [Config.resolve_eq_map, Except.map_eq_ok_iff] at hset
  obtain ⟨rules, hrules, rfl⟩ := hset
  rw [runRules_eq_listRules h, runRules_eq_listRules h, listRules_of_mapM_eq_ok hrules,
    listRules_of_mapM_eq_ok hrules, Config.RuleSet.all_ofRules hrules, join_map_listRule_false,
    map_listRule_true hrules]
  exact ⟨rfl, rfl⟩

/-- A configuration that cannot be resolved is listed up to the entry that is at fault. -/
theorem exists_of_resolve_eq_error (h : loadDocument env config = .ok d)
    (herr : Config.resolve Registry.all d = .error err) :
    ∃ before e after rules message, Registry.all = before ++ e :: after ∧
      before.mapM d.build = .ok rules ∧ d.build e = .error err ∧ err = e.invalid message ∧
      ∀ all, runRules env config all =
        .failed (ruleHeader ++ String.join (rules.map (listRule all)))
          ("Failed to configure '" ++ e.key ++ "'") err := by
  obtain ⟨before, e, after, message, hregistry, hbefore, he, hmessage⟩ :=
    Config.resolve_eq_error_iff.mp herr
  obtain ⟨rules, hrules⟩ := Except.exists_mapM_eq_ok_iff.mpr hbefore
  refine ⟨before, e, after, rules, message, hregistry, hrules, he, hmessage, fun all => ?_⟩
  rw [runRules_eq_listRules h, hregistry, listRules_of_build_eq_error hrules he]

/-- A list of rules is written to its end exactly if the rules can be resolved. It then shows the
rules that are switched on in the order in which they are run, or every registered rule once with
what becomes of it. Where the rules cannot be resolved, the list fails at the same entry and with the
same error, behind the rules in front of it. -/
theorem runRules_of_loadDocument (h : loadDocument env config = .ok d) :
    let column (width : Nat) (text : String) : String :=
      text ++ String.ofList (List.replicate (width - text.length) ' ')
    let line (language : Language) (name key : String) (enabled : Bool) : String :=
      (match language with
        | .java => "java"
        | .native => "native") ++ " " ++ column 30 name ++ " " ++ column 20 key ++ " " ++
        (if enabled then "enabled" else "disabled") ++ "\n"
    let head := "LANGUAGE RULE                           KEY                  STATUS\n"
    (∀ all, (runRules env config all).code = 0 ∧ (runRules env config all).failure = none ↔
      ∃ set, Config.resolve Registry.all d = .ok set) ∧
    (∀ set, Config.resolve Registry.all d = .ok set →
      runRules env config false = ⟨0, fun _ => head ++ String.join
        ((set.java ++ set.native).map fun r => line r.language r.name r.key true), none⟩ ∧
      runRules env config true = ⟨0, fun _ => head ++ String.join
        (Registry.all.map fun e => line e.language e.name e.key
          (e.title ∈ (set.java ++ set.native).map Rule.title)), none⟩) ∧
    (Registry.all.map RuleEntry.title).Nodup ∧
    ∀ err, Config.resolve Registry.all d = .error err → ∃ before e after rules message,
      Registry.all = before ++ e :: after ∧ before.mapM d.build = .ok rules ∧
      d.build e = .error err ∧ err = e.invalid message ∧
      ∀ all, runRules env config all = ⟨1, fun _ => head ++ String.join
          ((rules.filter fun r => r.enabled || all).map fun r =>
            line r.language r.name r.key r.enabled),
        some ("Error: Failed to configure '" ++ e.key ++ "': " ++ err.messageWithCause)⟩ := by
  intro column line head
  have hline (language : Language) (name key : String) (enabled : Bool) :
      line language name key enabled =
        ruleLine language.name name key (if enabled then "enabled" else "disabled") := by
    cases language <;> rfl
  have hhead : head = ruleHeader := by decide
  simp only [hline, hhead]
  refine ⟨fun all => ?_, fun set => runRules_of_resolve_eq_ok h, Registry.nodup_titles,
    fun err herr => ?_⟩
  · cases hresolve : Config.resolve Registry.all d with
    | ok set =>
      obtain ⟨hon, hall⟩ := runRules_of_resolve_eq_ok h hresolve
      cases all <;> simp [hon, hall]
    | error err =>
      obtain ⟨before, e, after, rules, message, -, -, -, -, hfailed⟩ :=
        exists_of_resolve_eq_error h hresolve
      simp [hfailed, Outcome.failed]
  · obtain ⟨before, e, after, rules, message, hregistry, hbefore, he, hmessage, hfailed⟩ :=
      exists_of_resolve_eq_error h herr
    refine ⟨before, e, after, rules, message, hregistry, hbefore, he, hmessage, fun all => ?_⟩
    have hwording : "Error: " ++ ("Failed to configure '" ++ e.key ++ "'") ++ ": " ++
        err.messageWithCause = "Error: Failed to configure '" ++ e.key ++ "': " ++
          err.messageWithCause := String.toList_inj.mp (by simp)
    rw [hfailed, join_map_listRule, Outcome.failed, hwording]
    rfl

end Run

section Quiet

/-- A configuration that switches the rules about the number of lines off. -/
def quietText : List Char := "maxLines: \x7benabled: false\x7d\n".toList

def quietDisk : Disk := ⟨[.file "rules.yaml" (.text quietText Content.noTree)]⟩

def quiet : Config.Document := Config.Document.switchOff ⟨[], some "rules.yaml"⟩ "maxLines"

def areQuiet : Except Config.DocumentFault (List (Yaml × Yaml)) → Bool
  | .ok [(.string "maxLines", .mapping [(.string "enabled", .bool false)])] => true
  | _ => false

theorem eq_of_areQuiet {entries : Except Config.DocumentFault (List (Yaml × Yaml))}
    (h : areQuiet entries = true) : entries = .ok quiet.entries := by
  unfold areQuiet at h
  split at h
  · rfl
  · contradiction

theorem readEntries_quietText : Config.Document.readEntries quietText = .ok quiet.entries :=
  eq_of_areQuiet (by decide +kernel)

theorem loadDocument_quietDisk :
    loadDocument (withoutSettings quietDisk) (some "rules.yaml") = .ok quiet := by
  have hfind : quietDisk.find true "rules.yaml" =
      .ok (.file "rules.yaml" (.text quietText Content.noTree)) :=
    Disk.find_eq_ok_of_entry (by decide) (by decide) rfl fun _ _ => Entry.noConfusion
  have hdisk : (withoutSettings quietDisk).disk = quietDisk := rfl
  simp only [loadDocument, Config.location, Config.Document.load, Disk.read, hdisk, hfind,
    readEntries_quietText]
  rfl

/-- The rules about the number of lines are missing from one list and switched off in the other. -/
theorem runRules_quietDisk :
    let column (width : Nat) (text : String) : String :=
      text ++ String.ofList (List.replicate (width - text.length) ' ')
    let line (language : Language) (name key : String) (enabled : Bool) : String :=
      (match language with
        | .java => "java"
        | .native => "native") ++ " " ++ column 30 name ++ " " ++ column 20 key ++ " " ++
        (if enabled then "enabled" else "disabled") ++ "\n"
    let head := "LANGUAGE RULE                           KEY                  STATUS\n"
    ∃ set, loadDocument (withoutSettings quietDisk) (some "rules.yaml") = .ok quiet ∧
      Config.resolve Registry.all quiet = .ok set ∧
      (∀ r ∈ set.java ++ set.native, r.key ≠ "maxLines") ∧
      runRules (withoutSettings quietDisk) (some "rules.yaml") false = ⟨0, fun _ => head ++
        String.join ((set.java ++ set.native).map fun r => line r.language r.name r.key true),
          none⟩ ∧
      runRules (withoutSettings quietDisk) (some "rules.yaml") true = ⟨0, fun _ => head ++
        String.join (Registry.all.map fun e => line e.language e.name e.key
          (e.title ∈ (set.java ++ set.native).map Rule.title)), none⟩ := by
  intro column line head
  obtain ⟨set, hset⟩ := Registry.exists_resolve_eq_ok
  have hbase : Config.resolve Registry.all ⟨[], some "rules.yaml"⟩ = .ok set :=
    (Config.resolve_congr fun _ _ => rfl).trans hset
  have hquiet : Config.resolve Registry.all quiet = .ok (set.without "maxLines") :=
    Config.resolve_switchOff hbase "maxLines"
  refine ⟨set.without "maxLines", loadDocument_quietDisk, hquiet, ?_,
    (runRules_of_loadDocument loadDocument_quietDisk).2.1 _ hquiet⟩
  rw [Config.RuleSet.without, ← List.filter_append]
  exact fun r hr => bne_iff_ne.mp (List.mem_filter.mp hr).2

end Quiet

end CommandLine

end CodeStyle
