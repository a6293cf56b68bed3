import DevicePanel.Host.Locations

/-!
# File trees

A tree of files and directories and the rules by which a path leads to one of
them.  A tree together with an environment makes a `Host`.
-/

namespace DevicePanel

/-- A file with its bytes, or a directory. -/
inductive FileTree.Entry where
  | file (bytes : ByteArray)
  | directory

/-- Files and directories under their full paths, given as names from the root,
and the directory in which relative paths start.  The directories on the way to
an entry are there without being listed. -/
structure FileTree where
  entries : List (List String × FileTree.Entry)
  workingDirectory : List String

namespace FileTree

/-- The greatest length of a name, and of a whole path, in bytes. -/
def maxNameBytes : Nat := 255
def maxPathBytes : Nat := 4095

/-- The entry under a full path. -/
def entry? (tree : FileTree) (path : List String) : Option Entry :=
  match tree.entries.find? fun (p, _) => p == path with
  | some (_, entry) => some entry
  | none =>
    if path.isEmpty || tree.entries.any fun (p, _) => path.isPrefixOf p then some .directory
    else none

/-- One step of a walk from the directory `here`, where only the last name may be
missing. -/
def step (tree : FileTree) (here : List String) (part : String) : Except FileError (List String) :=
  match tree.entry? here with
  | some .directory =>
    if part == "" || part == "." then .ok here
    else if part == ".." then .ok here.dropLast
    else if part.utf8ByteSize > maxNameBytes then .error .nameTooLong
    else .ok (here ++ [part])
  | some (.file _) => .error .notDirectory
  | none => .error .notFound

/-- Where the walk along a path begins, if the path is one. -/
def start (tree : FileTree) (path : String) : Except FileError (List String) :=
  if path.toList.contains '\x00' then .error .badPath
  else if path.isEmpty then .error .notFound
  else if path.utf8ByteSize > maxPathBytes then .error .nameTooLong
  else .ok (if Path.isAbsolute path then [] else tree.workingDirectory)

/-- The full path to which a path leads; the last name need not exist. -/
def resolve (tree : FileTree) (path : String) : Except FileError (List String) := do
  (Path.parts path).foldlM tree.step (← tree.start path)

/-- The text of a file. -/
def readText (tree : FileTree) (path : String) : Except FileError String := do
  let full ← tree.resolve path
  match tree.entry? full with
  | none => .error .notFound
  | some .directory => .error .isDirectory
  | some (.file bytes) =>
    match String.fromUTF8? bytes with
    | some text => .ok text
    | none => .error .notText

/-- The tree after a file has been opened for appending; a missing file is created.
A path that ends in a slash can only be a directory's, whatever its last name is. -/
def openToAppend (tree : FileTree) (path : String) : Except FileError FileTree := do
  let names := (Path.parts path).filter (· != "")
  let parent ← names.dropLast.foldlM tree.step (← tree.start path)
  match tree.entry? parent with
  | none => .error .notFound
  | some (.file _) => .error .notDirectory
  | some .directory =>
    if path.toList.getLast? == some '/' then .error .isDirectory
    else
      let full ← tree.step parent (names.getLast?.getD "")
      match tree.entry? full with
      | some (.file _) => .ok tree
      | some .directory => .error .isDirectory
      | none => .ok { tree with entries := (full, .file ByteArray.empty) :: tree.entries }

/-- The host with this tree and an environment. -/
def toHost (tree : FileTree) (environment : Environment) (accountHome : Option String) : Host where
  environment := environment
  accountHome := accountHome
  readText := tree.readText

/-- The host with this tree, and the one with the tree in which its log is open. -/
def toSite (tree : FileTree) (environment : Environment) (accountHome : Option String) : Site where
  host := tree.toHost environment accountHome
  logged :=
    (tree.openToAppend (tree.toHost environment accountHome).logPath).map fun opened =>
      opened.toHost environment accountHome

end FileTree

end DevicePanel
