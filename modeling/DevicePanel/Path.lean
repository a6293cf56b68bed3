import DevicePanel.Text.Blank

/-!
# Paths

Paths are texts with slashes between their components.  `Path.join` appends one
path to another, `Path.components` takes a path apart, and `Path.expandHome`
replaces a leading tilde by the home directory.
-/

namespace DevicePanel.Path

/-- A path that starts at the root. -/
def isAbsolute (path : String) : Bool := path.toList.head? == some '/'

/-- Append a path.  An absolute path replaces what it is appended to. -/
def join (base path : String) : String :=
  if isAbsolute path then path
  else if base.isEmpty || base.toList.getLast? == some '/' then base ++ path
  else base ++ "/" ++ path

/-- A step of a path. -/
inductive Component where
  | root
  | current
  | parent
  | name (name : String)
  deriving DecidableEq

/-- The texts between the slashes, the empty ones included. -/
def parts (path : String) : List String :=
  path.toList.splitOn '/' |>.map String.ofList

/-- The steps of a path.  Repeated slashes count once, and a dot only counts at
the start of a relative path. -/
def components (path : String) : List Component :=
  let steps := (parts path).filter fun p => p != "" && p != "."
  let named := steps.map fun p => if p == ".." then Component.parent else .name p
  if isAbsolute path then .root :: named
  else if (parts path).head? == some "." then .current :: named
  else named

/-- The steps of `base` are the first steps of `path`. -/
def startsWith (path base : String) : Bool :=
  (components base).isPrefixOf (components path)

/-- The name of the file that a path leads to. -/
def fileName? (path : String) : Option String :=
  match (components path).getLast? with
  | some (.name name) => some name
  | _ => none

/-- What follows the last dot of the file name, unless the dot is its first
character. -/
def extension? (path : String) : Option String := do
  let name ← fileName? path
  let reversed := name.toList.reverse
  let suffix := (reversed.takeWhile (· != '.')).reverse
  if suffix.length + 1 < reversed.length then some (String.ofList suffix) else none

/-- The rest of a path behind a tilde and a slash or backslash. -/
def afterTilde? (path : String) : Option String :=
  match path.toList with
  | '~' :: '/' :: rest => some (String.ofList rest)
  | '~' :: '\\' :: rest => some (String.ofList rest)
  | _ => none

/-- Replace a leading tilde of a trimmed path by the home directory.  Without a
home directory the tilde stays. -/
def expandHome (home : Option String) (path : String) : String :=
  let path := Text.trim path
  let home := home.getD "~"
  if path == "~" then home
  else
    match afterTilde? path with
    | some rest => join home rest
    | none => path

end DevicePanel.Path
