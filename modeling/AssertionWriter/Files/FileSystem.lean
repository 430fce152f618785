/-
  AssertionWriter.Files.FileSystem

  File systems as values: what stands at each location, and the working directory. Paths
  are followed part by part, and the operations fail as those of a POSIX system without
  links and permissions do.
-/
import AssertionWriter.Entries
import AssertionWriter.Files.Access

namespace AssertionWriter.Files

/-- The content of a file. -/
inductive FileContent where
  | text (s : String)
  /-- Bytes that are no text in UTF-8. -/
  | binary (bytes : List Nat)
  deriving DecidableEq, Repr

/-- What stands at a location. -/
inductive Node where
  | directory
  | file (content : FileContent)
  deriving DecidableEq, Repr

/-- A location: the names on the way from the root. -/
abbrev Location := List String

/-- A file system. -/
structure FileSystem where
  nodes : List (Location × Node)
  workingDirectory : Location
  deriving Repr

namespace FileSystem

/-- A file system with nothing but an empty working directory. -/
def empty : FileSystem := ⟨[(["work"], .directory)], ["work"]⟩

instance : Inhabited FileSystem := ⟨empty⟩

/-- What stands at a location. -/
def node? (fs : FileSystem) (loc : Location) : Option Node :=
  if loc = [] then some .directory else fs.nodes.lookup loc

/-- The file system with a node at a location. -/
def put (fs : FileSystem) (loc : Location) (node : Node) : FileSystem :=
  { fs with nodes := setEntry loc node fs.nodes }

/-- After a node has been put at a location, it stands there, and all others are as before. The
    root is always a directory. -/
theorem node?_put (fs : FileSystem) (loc : Location) (node : Node) (l : Location) :
    (fs.put loc node).node? l =
      if l = [] then some .directory else if l = loc then some node else fs.node? l := by
  unfold node?
  by_cases hl : l = []
  · simp [hl]
  · simp only [hl, if_false, put, lookup_setEntry]

/-! ## Paths -/

/-- The greatest number of bytes in the name of a file or directory. -/
def maxName : Nat := 255

/-- The greatest number of bytes in a path. -/
def maxPath : Nat := 4095

/-- The location where a path starts. -/
def start (fs : FileSystem) (path : String) : Location :=
  if path.toList.head? = some '/' then [] else fs.workingDirectory

/-- The location that is a directory, or why it is none. -/
def directoryAt (fs : FileSystem) (loc : Location) : Except FileError Location :=
  match fs.node? loc with
  | none => .error .notFound
  | some (.file _) => .error .notDirectory
  | some .directory => .ok loc

/-- The location that a part of a path leads to from a directory. -/
def enter (loc : Location) (part : String) : Except FileError Location :=
  if part = "" || part = "." then .ok loc
  else if part = ".." then .ok loc.dropLast
  else if maxName < part.utf8ByteSize then .error .nameTooLong
  else .ok (loc ++ [part])

/-- Follows the parts of a path; all but the last must lead to directories. -/
def follow (fs : FileSystem) (loc : Location) : List String → Except FileError Location
  | [] => .ok loc
  | part :: rest => do
    let loc ← enter (← fs.directoryAt loc) part
    fs.follow loc rest

/-- What no path may be. -/
def checkPath (path : String) : Except FileError Unit :=
  if path.isEmpty then .error .notFound
  else if path.toList.contains '\x00' then .error .invalidPath
  else if maxPath < path.utf8ByteSize then .error .nameTooLong
  else .ok ()

/-- What stands at a path. -/
def nodeAt (fs : FileSystem) (path : String) : Except FileError Node := do
  checkPath path
  match fs.node? (← fs.follow (fs.start path) (parts path)) with
  | some node => return node
  | none => throw .notFound

/-- The directory that the last part of a path lies in, and that part, slashes at the end
    ignored. -/
def placeOf (fs : FileSystem) (path : String) : Except FileError (Location × String) := do
  checkPath path
  match (parts path).reverse.dropWhile (· = "") with
  | [] => return ([], "")
  | last :: before =>
    let loc ← fs.follow (fs.start path) before.reverse
    return (← fs.directoryAt loc, last)

/-! ## Operations -/

/-- The text of the file at a path. -/
def readText (fs : FileSystem) (path : String) : Except FileError String := do
  match ← fs.nodeAt path with
  | .directory => throw .isDirectory
  | .file (.binary _) => throw .notText
  | .file (.text s) => return s

/-- Whether a part of a path names nothing of its own. -/
def isDotted (part : String) : Bool := part = "" || part = "." || part = ".."

/-- Makes one directory. -/
def makeDirectory (fs : FileSystem) (path : String) : Except FileError FileSystem := do
  let (loc, last) ← fs.placeOf path
  -- These name directories that are there already.
  if isDotted last then throw .occupied
  let target ← enter loc last
  match fs.node? target with
  | some _ => throw .occupied
  | none => return fs.put target .directory

/-- Writes a file. -/
def writeText (fs : FileSystem) (path text : String) : Except FileError FileSystem := do
  let (loc, last) ← fs.placeOf path
  -- A path that can only be that of a directory is refused before it is looked up.
  if isDotted last || path.toList.getLast? = some '/' then throw .isDirectory
  let target ← enter loc last
  match fs.node? target with
  | some .directory => throw .isDirectory
  | _ => return fs.put target (.file (.text text))

/-- Whether there is a directory at a path. -/
def isDirectory (fs : FileSystem) (path : String) : Bool :=
  match fs.nodeAt path with
  | .ok .directory => true
  | _ => false

/-- Whether there is a file at a path. -/
def isFile (fs : FileSystem) (path : String) : Bool :=
  match fs.nodeAt path with
  | .ok (.file _) => true
  | _ => false

/-- Whether there is anything at a path. -/
def isPresent (fs : FileSystem) (path : String) : Bool :=
  match fs.nodeAt path with
  | .ok _ => true
  | .error _ => false

/-! ## As a state -/

/-- What an operation leaves: the new file system, or the old one if it failed. -/
def settle (fs : FileSystem) : Except FileError FileSystem → Except FileError Unit × FileSystem
  | .ok fs' => (.ok (), fs')
  | .error e => (.error e, fs)

instance : FileAccess (StateM FileSystem) where
  isPresent path := return (← get).isPresent path
  isDirectory path := return (← get).isDirectory path
  isFile path := return (← get).isFile path
  readText path := return (← get).readText path
  makeDirectory path := modifyGet fun fs => fs.settle (fs.makeDirectory path)
  writeText path text := modifyGet fun fs => fs.settle (fs.writeText path text)

end FileSystem
end AssertionWriter.Files
