/-!
Why an access to a file or a process fails.
-/

namespace CloudCluster.Files

/-- The refusals of the operating system that can arise here. Those that come of
the medium, of quotas, of links or of missing rights to read and write cannot:
`permissionDenied` is the refusal to run a file that is no program. -/
inductive SystemError where
  | notFound
  | permissionDenied
  | alreadyExists
  | notDirectory
  | isDirectory
  | nameTooLong
  deriving DecidableEq, Repr

namespace SystemError

/-- The system's number for the error. -/
def number : SystemError → Nat
  | notFound => 2
  | permissionDenied => 13
  | alreadyExists => 17
  | notDirectory => 20
  | isDirectory => 21
  | nameTooLong => 36

/-- The system's text for the error. -/
def text : SystemError → String
  | notFound => "No such file or directory"
  | permissionDenied => "Permission denied"
  | alreadyExists => "File exists"
  | notDirectory => "Not a directory"
  | isDirectory => "Is a directory"
  | nameTooLong => "File name too long"

end SystemError

/-- Why a file or a process could not be used: the system refuses, the bytes
are no text, or a text that goes to the system contains a NUL. -/
inductive Fault where
  | system (error : SystemError)
  | notText
  | nulInPath
  | nulInArgument
  | described (text : String)
  deriving DecidableEq, Repr

namespace Fault

/-- The text of a fault. -/
def message : Fault → String
  | system error => s!"{error.text} (os error {error.number})"
  | notText => "stream did not contain valid UTF-8"
  | nulInPath => "file name contained an unexpected NUL byte"
  | nulInArgument => "nul byte found in provided data"
  | described text => text

/-- Whether the fault says that there is no such file. -/
def isNotFound : Fault → Bool
  | system .notFound => true
  | _ => false

end Fault

end CloudCluster.Files
