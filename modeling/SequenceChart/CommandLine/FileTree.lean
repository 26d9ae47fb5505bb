import SequenceChart.CommandLine.LawfulHost

/-!
All files of a system as one tree, with the directory that the command works in. Names are looked up
component by component, from the root or from the working directory: a dot stays, two dots go up,
and what is not a directory has nothing below it.
-/

namespace SequenceChart.CommandLine

/-- What the user of the command may do with a file or a directory. -/
structure Access where
  read : Bool := true
  write : Bool := true
  /-- Whether one may go through the directory. -/
  search : Bool := true
  deriving DecidableEq, Repr

inductive Node where
  | file (content : ByteArray) (access : Access)
  | directory (access : Access)

/-- The way from the root down to a file or directory. -/
abbrev Path := List String

structure FileTree where
  /-- The files and directories, each with its path. A directory that holds something need not be
  listed; then everything may be done with it. -/
  nodes : List (Path × Node)
  workingDirectory : Path

namespace FileTree

def node? (t : FileTree) (p : Path) : Option Node :=
  match t.nodes.lookup p with
  | some node => some node
  | none =>
    if p = [] ∨ t.nodes.any (fun n => p.isPrefixOf n.1) then some (.directory {}) else none

/-- The path that one more component leads to. There must be a directory to start from, and the root
lies above itself. -/
def enter (t : FileTree) (p : Path) (component : String) : Except SystemError Path :=
  match t.node? p with
  | none => .error .noSuchFile
  | some (.file ..) => .error .notADirectory
  | some (.directory access) =>
    if !access.search then .error .permissionDenied
    else if component = "." then .ok p
    else if component = ".." then .ok p.dropLast
    else .ok (p ++ [component])

/-- A file name cut at its slashes. -/
structure FileName where
  absolute : Bool
  components : List String
  /-- Whether a slash follows the last component. -/
  trailingSlash : Bool

def FileName.ofString (name : String) : FileName where
  absolute := name.toList.head? == some '/'
  components := ((name.toList.splitOn '/').filter (· != [])).map String.ofList
  trailingSlash := name.toList.getLast? == some '/'

/-- The path that a name leads to, whether or not there is something. The empty name leads
nowhere. -/
def locate (t : FileTree) (name : String) : Except SystemError Path :=
  let parsed := FileName.ofString name
  if name = "" then .error .noSuchFile
  else parsed.components.foldlM t.enter (if parsed.absolute then [] else t.workingDirectory)

def read (t : FileTree) (name : String) : Except SystemError ByteArray := do
  let p ← t.locate name
  match t.node? p with
  | none => .error .noSuchFile
  | some (.directory access) =>
    if access.read then .error .isADirectory else .error .permissionDenied
  | some (.file content access) =>
    if (FileName.ofString name).trailingSlash then .error .notADirectory
    else if access.read then .ok content
    else .error .permissionDenied

/-- The tree in which the file at a path has the given content. -/
def insert (t : FileTree) (p : Path) (content : ByteArray) (access : Access) : FileTree :=
  { t with nodes := (p, .file content access) :: t.nodes.filter (·.1 != p) }

/-- What may be done with the file at a path once it is written. A file that exists must be open to
writing, and for another one the directory. -/
def writtenAccess (t : FileTree) (p : Path) : Except SystemError Access :=
  match t.node? p with
  | some (.directory _) => .error .isADirectory
  | some (.file _ access) => if access.write then .ok access else .error .permissionDenied
  | none =>
    match t.node? p.dropLast with
    | some (.directory access) => if access.write then .ok {} else .error .permissionDenied
    | some (.file ..) => .error .notADirectory
    | none => .error .noSuchFile

/-- Writes a file. A name that ends in a slash asks for a directory. -/
def write (t : FileTree) (name : String) (content : ByteArray) : Except SystemError FileTree := do
  let p ← t.locate name
  if (FileName.ofString name).trailingSlash then
    .error .isADirectory
  else
    return t.insert p content (← t.writtenAccess p)

/-- The name of a path below the working directory. -/
def name? (t : FileTree) (p : Path) : Option String :=
  if t.workingDirectory.isPrefixOf p then
    some ("/".intercalate (p.drop t.workingDirectory.length))
  else
    none

/-- The files of `after` below the working directory that `before` lacks or that have another
content there, by name. -/
def changes (before after : FileTree) : List (String × ByteArray) :=
  after.nodes.filterMap fun (p, node) =>
    match node, before.node? p with
    | .directory _, _ => none
    | .file new _, some (.file old _) =>
      if new == old then none else (after.name? p).map (·, new)
    | .file new _, _ => (after.name? p).map (·, new)

/-- A tree of files in a working directory, where a name without content is an empty directory.
There is nothing else, and everything may be done. -/
def ofFiles (files : List (String × Option ByteArray)) : FileTree :=
  let home := ["work"]
  { nodes := (home, .directory {}) :: files.map fun (name, content) =>
      (home ++ (FileName.ofString name).components,
        match content with
        | some bytes => .file bytes {}
        | none => .directory {})
    workingDirectory := home }

end FileTree

/-- A system that is nothing but its standard input and its files. -/
structure Workspace where
  stdin : ByteArray
  files : FileTree

instance : Host (StateM Workspace) where
  readStdin := modifyGet fun w => (decodeUtf8 w.stdin, { w with stdin := .empty })
  readFile name := do
    let w ← get
    return (w.files.read name).bind decodeUtf8
  writeFile name content := do
    let w ← get
    match w.files.write name content.toUTF8 with
    | .ok files =>
      set { w with files := files }
      return .ok ()
    | .error e => return .error e
  log l := return l.text

end SequenceChart.CommandLine
