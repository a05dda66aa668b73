/-!
# Arguments

Arguments are options and everything else. An option has a long name behind two hyphens or a letter
behind one; letters may be put together. The value of an option is attached to it or follows it,
and then must not start with a hyphen. Two hyphens alone end the options.
-/
namespace CodeStyle.CommandLine

/-- An option that is known. -/
structure OptionSpec where
  long : String
  letter : Option Char := none
  takesValue : Bool := false
  mayRepeat : Bool := false
deriving DecidableEq, Repr

/-- An option that is given, with an empty value if it takes none. -/
abbrev GivenOption := String × String

/-- Arguments that have been told apart: the options, and the rest in order. -/
structure Sorted where
  options : List GivenOption := []
  others : List String := []
deriving DecidableEq, Repr

namespace Sorted

def addOption (o : GivenOption) (s : Sorted) : Sorted := { s with options := o :: s.options }

def addOptions (os : List GivenOption) (s : Sorted) : Sorted :=
  { s with options := os ++ s.options }

def addOther (a : String) (s : Sorted) : Sorted := { s with others := a :: s.others }

def value? (s : Sorted) (long : String) : Option String := s.options.lookup long

def has (s : Sorted) (long : String) : Bool := (s.value? long).isSome

def values (s : Sorted) (long : String) : List String :=
  s.options.filterMap fun (name, value) => if name = long then some value else none

/-- Whether no option is given more often than it may be. -/
def respects (s : Sorted) (specs : List OptionSpec) : Bool :=
  specs.all fun spec => spec.mayRepeat || (s.values spec.long).length ≤ 1

end Sorted

/-- What an argument says about options: those that are complete, and one that lacks its value. -/
structure OptionGroup where
  complete : List GivenOption := []
  lacking : Option String := none
deriving DecidableEq, Repr

/-- Reads letters behind one hyphen. -/
def readLetters (specs : List OptionSpec) : List Char → Option OptionGroup
  | [] => some { }
  | c :: rest =>
    match specs.find? (·.letter == some c) with
    | none => none
    | some spec =>
      if spec.takesValue then
        match rest with
        | [] => some { lacking := some spec.long }
        | '=' :: value => some { complete := [(spec.long, String.ofList value)] }
        | value => some { complete := [(spec.long, String.ofList value)] }
      else
        (readLetters specs rest).map fun g => { g with complete := (spec.long, "") :: g.complete }

/-- Reads a name behind two hyphens. -/
def readLong (specs : List OptionSpec) (text : List Char) : Option OptionGroup :=
  let (name, value) := text.span (· != '=')
  match specs.find? (·.long == String.ofList name), value with
  | some spec, [] =>
    some (if spec.takesValue then { lacking := some spec.long }
      else { complete := [(spec.long, "")] })
  | some spec, _ :: value =>
    if spec.takesValue then some { complete := [(spec.long, String.ofList value)] } else none
  | none, _ => none

/-- Whether an argument is one or more options. A hyphen alone is none. -/
def isOption (a : String) : Bool :=
  match a.toList with
  | '-' :: _ :: _ => true
  | _ => false

def readGroup (specs : List OptionSpec) (a : String) : Option OptionGroup :=
  match a.toList with
  | '-' :: '-' :: name => readLong specs name
  | '-' :: letters => readLetters specs letters
  | _ => none

/-- Tells arguments apart. If `stopsAtOther` is set, what follows the first argument that is no
option is not looked at. -/
def sortArguments (specs : List OptionSpec) (stopsAtOther : Bool) : List String → Option Sorted
  | [] => some { }
  | a :: rest =>
    if a = "--" then if stopsAtOther then none else some { others := rest }
    else if isOption a then
      match readGroup specs a with
      | none => none
      | some ⟨complete, none⟩ =>
        (sortArguments specs stopsAtOther rest).map (·.addOptions complete)
      | some ⟨complete, some long⟩ =>
        match rest with
        | [] => none
        | value :: rest =>
          if isOption value then none
          else (sortArguments specs stopsAtOther rest).map
            (·.addOption (long, value) |>.addOptions complete)
    else if stopsAtOther then some { others := a :: rest }
    else (sortArguments specs stopsAtOther rest).map (·.addOther a)

end CodeStyle.CommandLine
