import CodeStyle.Analysis.Analyzer
import CodeStyle.CommandLine.Arguments
import CodeStyle.Report.Format

/-!
# Invocations

What the arguments of the program ask for: a check of paths, or a list of the rules. The options
for the configuration, for colours and for more messages may stand in front of the command or
behind it; behind it they win.
-/
namespace CodeStyle.CommandLine

inductive Command
  | check (paths : List String) (format : OutputFormat) (max : Option Nat)
      (options : AnalysisOptions)
  | rules (all : Bool)

/-- A command with the settings that all commands have. -/
structure Invocation where
  config : Option String
  noColor : Bool
  command : Command

def commonOptions : List OptionSpec := [
  { long := "verbose", letter := some 'v' },
  { long := "config", letter := some 'c', takesValue := true },
  { long := "no-color" }]

def checkOptions : List OptionSpec := commonOptions ++ [
  { long := "format", letter := some 'f', takesValue := true },
  { long := "max-violations", takesValue := true },
  { long := "exclude", takesValue := true, mayRepeat := true },
  { long := "no-parallel" },
  { long := "fail-fast" }]

def rulesOptions : List OptionSpec := commonOptions ++ [{ long := "all" }]

def readFormat? (value : Option String) : Option OutputFormat :=
  match value with
  | none => some .human
  | some name => OutputFormat.all.find? (·.name == name)

/-- The bound of numbers in arguments, which have 64 bits. -/
def numberBound : Nat := 0x10000000000000000

/-- The number that a value writes, with or without a plus. -/
def readCount? (value : String) : Option Nat :=
  let digits := match value.toList with
    | '+' :: rest => rest
    | cs => cs
  if digits.isEmpty || !digits.all Char.isDigit then none
  else (String.ofList digits).toNat?.filter (· < numberBound)

/-- The greatest number of violations to show, if one is asked for. -/
def readMax? (value : Option String) : Option (Option Nat) :=
  match value with
  | none => some none
  | some text => (readCount? text).map some

def readCheck? (s : Sorted) : Option Command :=
  match readFormat? (s.value? "format"), readMax? (s.value? "max-violations") with
  | some format, some max =>
    if s.others.contains "" then none
    else some (.check s.others format max {
      parallel := !s.has "no-parallel"
      failFast := s.has "fail-fast"
      exclude := s.values "exclude" })
  | _, _ => none

def readRules? (s : Sorted) : Option Command :=
  if s.others.isEmpty then some (.rules (s.has "all")) else none

/-- Tells arguments apart and refuses options that are given too often. -/
def sortChecked? (specs : List OptionSpec) (stopsAtOther : Bool) (arguments : List String) :
    Option Sorted :=
  (sortArguments specs stopsAtOther arguments).filter (·.respects specs)

/-- The invocation of a command with the options in front of it and those behind it. -/
def combine? (before behind : Sorted) (command : Command) : Option Invocation :=
  let config := behind.value? "config" <|> before.value? "config"
  if (before.values "config" ++ behind.values "config").contains "" then none
  else some ⟨config, before.has "no-color" || behind.has "no-color", command⟩

/-- Reads the arguments of the program, unless they make no sense. -/
def read? (arguments : List String) : Option Invocation :=
  match sortChecked? commonOptions true arguments with
  | none => none
  | some before =>
    match before.others with
    | "check" :: rest =>
      (sortChecked? checkOptions false rest).bind fun s => (readCheck? s).bind (combine? before s)
    | "rules" :: rest =>
      (sortChecked? rulesOptions false rest).bind fun s => (readRules? s).bind (combine? before s)
    | _ => none

end CodeStyle.CommandLine
