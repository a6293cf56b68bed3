import DevicePanel.Sheet.Basic

/-!
# Failures

Why the program ends without having done what it was asked for, and the report
that it writes then: a message, and below it the messages of its causes.
-/

namespace DevicePanel

/-- Why a request is not carried out. -/
inductive Failure where
  /-- The log cannot be opened. -/
  | log (path : String) (cause : FileError)
  | sheet (cause : SheetError)
  | value (cause : ValueError)
  /-- There is no terminal for the panel. -/
  | noTerminal
  deriving DecidableEq

namespace Failure

def message : Failure → String
  | .log path _ => "failed to open log file " ++ path
  | .sheet _ => "failed to load parameter sheet"
  | .value cause => cause.message
  | .noTerminal => "failed to enable raw mode"

/-- The messages of the causes, the nearest first. -/
def causes : Failure → List String
  | .log _ cause => [cause.message]
  | .sheet cause => cause.message :: cause.cause?.toList
  | .value _ => []
  | .noTerminal => ["No such device or address (os error 6)"]

/-- A text in which every line has an indent, the first one of its own. -/
def indented (first rest s : String) : String :=
  first ++ ("\n" ++ rest).intercalate (s.splitOn "\n")

/-- The number of a cause, right-aligned in five columns. -/
def numberLabel (n : Nat) : String :=
  let digits := toString n
  String.ofList (List.replicate (5 - digits.length) ' ') ++ digits ++ ": "

/-- The causes as paragraphs.  A cause that is not the only one has a number. -/
def causeParagraphs : List String → List String
  | [cause] => [indented "    " "    " cause]
  | causes => causes.zipIdx.map fun (cause, n) => indented (numberLabel n) "       " cause

/-- The report of a failure. -/
def report (e : Failure) : String :=
  let causes :=
    if e.causes.isEmpty then []
    else ["", "Caused by:"] ++ causeParagraphs e.causes
  "\n".intercalate (("Error: " ++ e.message) :: causes)

end Failure

end DevicePanel
