/-!
# Errors of a check

An error names what failed: the configuration, access to a file, a pattern, the analysis of one
file or the quotation of its text. `message` holds every wording.
-/
namespace CodeStyle

/-- Why a file cannot be read. -/
inductive ReadFault
  | missing
  | deviceFailure
  | denied
  | notDirectory
  | isDirectory
  | pathTooLong
  | linkLoop
  | notText
  | other (text : String)
deriving DecidableEq, Repr

namespace ReadFault

def message : ReadFault → String
  | missing => "No such file or directory (os error 2)"
  | deviceFailure => "Input/output error (os error 5)"
  | denied => "Permission denied (os error 13)"
  | notDirectory => "Not a directory (os error 20)"
  | isDirectory => "Is a directory (os error 21)"
  | pathTooLong => "File name too long (os error 36)"
  | linkLoop => "Too many levels of symbolic links (os error 40)"
  | notText => "stream did not contain valid UTF-8"
  | other text => text

end ReadFault

/-- What can go wrong in a check. -/
inductive CheckError
  | configuration (text : String)
  | io (fault : ReadFault)
  | pattern (text : String)
  | analysis (file text : String)
  | extraction (file text : String)
deriving DecidableEq, Repr

namespace CheckError

def message : CheckError → String
  | configuration text => "Configuration error: " ++ text
  | io fault => "IO error: " ++ fault.message
  | pattern text => "Pattern error: " ++ text
  | analysis file text => "Analysis error in " ++ file ++ ": " ++ text
  | extraction file text => "Extraction error in " ++ file ++ ": " ++ text

/-- The wording of an error followed by that of the fault that caused it, if it has one of its
own. -/
def messageWithCause : CheckError → String
  | io fault => (io fault).message ++ ": " ++ fault.message
  | e => e.message

def isConfiguration : CheckError → Bool
  | configuration _ => true
  | _ => false

/-- Whether a file could not be read; such a file is skipped and does not end a run. -/
def isUnreadableFile : CheckError → Bool
  | io _ => true
  | analysis _ _ => true
  | _ => false

end CheckError

end CodeStyle
