/-!
# The host

What the program sees of the machine it runs on: the environment variables, the
account's home directory, and files that can be read or opened for appending.
-/

namespace DevicePanel

/-- Why a file cannot be read or opened. -/
inductive FileError where
  | notFound
  | notDirectory
  | isDirectory
  | nameTooLong
  /-- The file is no UTF-8 text. -/
  | notText
  /-- The path contains the character NUL. -/
  | badPath
  /-- Any other failure, in the system's words. -/
  | other (message : String)
  deriving DecidableEq

namespace FileError

def message : FileError → String
  | .notFound => "No such file or directory (os error 2)"
  | .notDirectory => "Not a directory (os error 20)"
  | .isDirectory => "Is a directory (os error 21)"
  | .nameTooLong => "File name too long (os error 36)"
  | .notText => "stream did not contain valid UTF-8"
  | .badPath => "file name contained an unexpected NUL byte"
  | .other message => message

end FileError

/-- The values of the environment variables. -/
abbrev Environment := String → Option String

/-- A machine to run on. -/
structure Host where
  environment : Environment
  /-- The home directory of the account, for when the environment names none. -/
  accountHome : Option String
  /-- The text of a file. -/
  readText : String → Except FileError String

/-- A host, and the host that it becomes when the log is opened for appending. -/
structure Site where
  host : Host
  logged : Except FileError Host

end DevicePanel
