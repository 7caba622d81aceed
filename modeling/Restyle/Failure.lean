import Restyle.ConversionError

set_option autoImplicit false

/-! # Why a job fails

Everything that can end a job, with the message and the code that are reported for it. -/

namespace Restyle

/-- Why a file cannot be read or written. -/
inductive FileFault where
  | notFound
  | notDirectory
  | isDirectory
  /-- The path, or a name in it, has more bytes than the system takes. -/
  | nameTooLong
  /-- The path holds the character that ends a path for the system. -/
  | nulInName
  | notUtf8
  /-- A fault that the system describes in its own words. -/
  | described (text : String)
deriving DecidableEq, Repr

/-- The description of a fault. -/
def FileFault.message : FileFault → String
  | .notFound => "No such file or directory (os error 2)"
  | .notDirectory => "Not a directory (os error 20)"
  | .isDirectory => "Is a directory (os error 21)"
  | .nameTooLong => "File name too long (os error 36)"
  | .nulInName => "file name contained an unexpected NUL byte"
  | .notUtf8 => "stream did not contain valid UTF-8"
  | .described text => text

/-- Why a job fails. -/
inductive Failure where
  /-- The job cannot be done as it is asked for. -/
  | invalidArguments (message : String)
  | unreadable (path : String) (fault : FileFault)
  /-- The text of an input is not what it should be. -/
  | undecodable (name message : String)
  | unwritable (path : String) (fault : FileFault)
  | conversion (error : ConversionError)
  | internal (message : String)
deriving DecidableEq, Repr

namespace Failure

/-- The message of a failure. -/
def message : Failure → String
  | .invalidArguments message => "invalid arguments: " ++ message
  | .unreadable path fault => "cannot read " ++ path ++ ": " ++ fault.message
  | .undecodable name message => "invalid input " ++ name ++ ": " ++ message
  | .unwritable path fault => "cannot write " ++ path ++ ": " ++ fault.message
  | .conversion error => error.message
  | .internal message => "internal error: " ++ message

/-- The code of a failure, which is also the exit code of the program. -/
def code : Failure → Nat
  | .invalidArguments _ => 2
  | .unreadable .. => 3
  | .undecodable .. => 3
  | .conversion _ => 4
  | .unwritable .. => 10
  | .internal _ => 10

end Failure

end Restyle
