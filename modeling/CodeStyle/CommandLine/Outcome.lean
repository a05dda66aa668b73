import CodeStyle.CommandLine.Invocation
import CodeStyle.Config.Document
import CodeStyle.Report.Json

/-!
# Outcomes of the program

What the program writes and the code it ends with. A check ends with 1 if there is a violation or a
file that could not be read. An error ends with 1 as well, behind what has been written before it,
and is reported with what was being done and what caused it.
-/
namespace CodeStyle.CommandLine

/-- What the program depends on besides its arguments. -/
structure Environment where
  disk : Disk
  setting? : String → Option String
  isTerminal : Bool := false

/-- What the program writes, given the time it took, the code it ends with, and the error that ends
it. -/
structure Outcome where
  code : Nat
  output : (milliseconds : Nat) → String
  failure : Option String := none

namespace Outcome

/-- The outcome of an error behind what has been written. -/
def failed (written context : String) (e : CheckError) : Outcome :=
  ⟨1, fun _ => written, some ("Error: " ++ context ++ ": " ++ e.messageWithCause)⟩

end Outcome

namespace Environment

/-- Whether a variable is set to anything but zero, if it is set. -/
def flag? (env : Environment) (name : String) : Option Bool := (env.setting? name).map (· != "0")

/-- Whether output is coloured: if that is forced, or on a terminal unless it is not wanted. -/
def wantsColors (env : Environment) : Bool :=
  (env.setting? "NO_COLOR").isNone &&
    (env.flag? "CLICOLOR_FORCE" == some true ||
      (env.isTerminal && (env.flag? "CLICOLOR").getD true))

end Environment

/-- Loads the configuration, from where it is asked for or from its usual place. -/
def loadDocument (env : Environment) (config : Option String) : Except Outcome Config.Document :=
  let location := Config.location config (env.setting? Config.locationVariable)
  match Config.Document.load env.disk location with
  | .ok d => .ok d
  | .error e => .error (.failed "" ("Failed to load configuration from " ++ location) e)

/-- Checks paths, those below the working directory if none are given. -/
def runCheck (env : Environment) (config : Option String) (colors : Bool) (paths : List String)
    (format : OutputFormat) (max : Option Nat) (options : AnalysisOptions) : Outcome :=
  match loadDocument env config with
  | .error outcome => outcome
  | .ok d =>
    match Analyzer.ofDocument d options with
    | .error e => .failed "" "Failed to resolve rules" e
    | .ok a =>
      match a.checkPaths env.disk (if paths.isEmpty then ["."] else paths) with
      | .error e => .failed "" "Analysis failed" e
      | .ok report => {
          code := if report.hasViolations || report.hasSkipped then 1 else 0
          output := fun ms =>
            let summary := { report.summary with milliseconds := ms }
            { report with summary := summary }.render format ⟨colors, max⟩ }

/-- A text with blanks behind it up to a width. -/
def pad (width : Nat) (s : String) : String :=
  s ++ String.ofList (List.replicate (width - s.length) ' ')

def ruleLine (language name key status : String) : String :=
  language ++ " " ++ pad 30 name ++ " " ++ pad 20 key ++ " " ++ status ++ "\n"

def ruleHeader : String := ruleLine (pad 8 "LANGUAGE") "RULE" "KEY" "STATUS"

def listRule (all : Bool) (r : Rule) : String :=
  if r.enabled || all then
    ruleLine r.language.name r.name r.key (if r.enabled then "enabled" else "disabled")
  else ""

/-- Lists rules behind what has been written before, up to the first that cannot be built. -/
def listRules (all : Bool) (d : Config.Document) (written : String) :
    List RuleEntry → Outcome
  | [] => ⟨0, fun _ => written, none⟩
  | e :: rest =>
    match e.build (d.get? e.key) with
    | .ok rule => listRules all d (written ++ listRule all rule) rest
    | .error fault => .failed written ("Failed to configure '" ++ e.key ++ "'") fault

/-- Lists the registered rules. -/
def runRules (env : Environment) (config : Option String) (all : Bool) : Outcome :=
  match loadDocument env config with
  | .error outcome => outcome
  | .ok d => listRules all d ruleHeader Registry.all

def Invocation.run (i : Invocation) (env : Environment) : Outcome :=
  match i.command with
  | .check paths format max options =>
    runCheck env i.config (env.wantsColors && !i.noColor) paths format max options
  | .rules all => runRules env i.config all

/-- Does what arguments ask for, unless they make no sense. -/
def run? (env : Environment) (arguments : List String) : Option Outcome :=
  (read? arguments).map (·.run env)

end CodeStyle.CommandLine
