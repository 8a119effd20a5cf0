import CompileSession.Path

/-!
# Files

A tree of directories and files with a current directory, and what a program can do to it: read a
file, ask whether a path names anything, write a file, and create directories.  Errors are the
operating system's.
-/

namespace CompileSession

/-- Why the operating system refused an operation on a path. -/
inductive FileError where
  | notFound
  | exists
  | notDirectory
  | isDirectory
  | nameTooLong
  /-- The path holds a zero byte and cannot be passed on. -/
  | zeroInName
  /-- The file's bytes are not text. -/
  | notText
deriving DecidableEq, Repr

namespace FileError

def message : FileError → String
  | .notFound => "No such file or directory (os error 2)"
  | .exists => "File exists (os error 17)"
  | .notDirectory => "Not a directory (os error 20)"
  | .isDirectory => "Is a directory (os error 21)"
  | .nameTooLong => "File name too long (os error 36)"
  | .zeroInName => "file name contained an unexpected NUL byte"
  | .notText => "stream did not contain valid UTF-8"

end FileError

/-- What a place in the tree holds. -/
inductive FileNode where
  | directory
  | file (content : List UInt8)
deriving DecidableEq, Repr

/-- Where something lies: the names on the way from the root. -/
abbrev Place := List (List UInt8)

/-- A tree of directories and files.  Every entry lies in a directory of the tree. -/
structure FileTree where
  entries : List (Place × FileNode) := []
  current : Place := []
deriving Repr

namespace FileTree

def node? (tree : FileTree) (place : Place) : Option FileNode :=
  if place = [] then some .directory
  else (tree.entries.find? fun entry => entry.1 = place).map Prod.snd

/-- The same tree with something else at a place. -/
def put (tree : FileTree) (place : Place) (node : FileNode) : FileTree :=
  { tree with entries := (place, node) :: tree.entries.filter fun entry => entry.1 ≠ place }

/-- The names that a path spells, dots included. -/
def names (path : Path) : List (List UInt8) :=
  ((Path.pieces 0 path.bytes).map Path.Component.name).filter (· ≠ [])

def longestName : Nat := 255

def longestPath : Nat := 4095

/-- Follows names from a place on; each one must be looked up in a directory. -/
def follow (tree : FileTree) (place : Place) : List (List UInt8) → Except FileError Place
  | [] => .ok place
  | name :: rest =>
    match tree.node? place with
    | none => .error .notFound
    | some (.file _) => .error .notDirectory
    | some .directory =>
      if name = Path.dot then tree.follow place rest
      else if name = Path.dotDot then tree.follow place.dropLast rest
      else if longestName < name.length then .error .nameTooLong
      else if (tree.node? (place ++ [name])).isNone then .error .notFound
      else tree.follow (place ++ [name]) rest

/-- Whether a path can be passed to the operating system at all. -/
def accept (path : Path) : Except FileError Unit :=
  if path.bytes.contains 0 then .error .zeroInName
  else if path.bytes = [] then .error .notFound
  else if longestPath < path.bytes.length then .error .nameTooLong
  else .ok ()

def origin (tree : FileTree) (path : Path) : Place :=
  if path.isAbsolute then [] else tree.current

/-- Whether a path ends in a slash and so must name a directory. -/
def namesDirectory (path : Path) : Bool :=
  path.bytes.getLast? = some Path.slash

def locate (tree : FileTree) (path : Path) : Except FileError (Place × FileNode) := do
  accept path
  let place ← tree.follow (tree.origin path) (names path)
  match tree.node? place with
  | none => .error .notFound
  | some (.file content) =>
    if namesDirectory path then .error .notDirectory else .ok (place, .file content)
  | some .directory => .ok (place, .directory)

def pathExists (tree : FileTree) (path : Path) : Bool :=
  (tree.locate path).isOk

def isDirectory (tree : FileTree) (path : Path) : Bool :=
  match tree.locate path with
  | .ok (_, .directory) => true
  | _ => false

def readBytes (tree : FileTree) (path : Path) : Except FileError (List UInt8) := do
  match ← tree.locate path with
  | (_, .directory) => .error .isDirectory
  | (_, .file content) => .ok content

def readText (tree : FileTree) (path : Path) : Except FileError String := do
  match Text.decode? (← tree.readBytes path) with
  | none => .error .notText
  | some text => .ok text

/-- The directory in which a path's last name is to be looked up, and that name, however long.  A
path that ends in dots or at the root has no such name and yields the place it leads to. -/
def lastStep (tree : FileTree) (path : Path) : Except FileError (Place × Option (List UInt8)) := do
  accept path
  match (names path).reverse with
  | [] => .ok (tree.origin path, none)
  | last :: before =>
    let directory ← tree.follow (tree.origin path) before.reverse
    match tree.node? directory with
    | some .directory =>
      if last = Path.dot then .ok (directory, none)
      else if last = Path.dotDot then .ok (directory.dropLast, none)
      else .ok (directory, some last)
    | _ => .error .notDirectory

/-- Writes a file, which is created if it does not exist; its directory must exist. -/
def write (tree : FileTree) (path : Path) (content : List UInt8) : Except FileError FileTree := do
  match ← tree.lastStep path with
  | (_, none) => .error .isDirectory
  | (directory, some name) =>
    if namesDirectory path then .error .isDirectory
    else if longestName < name.length then .error .nameTooLong
    else if tree.node? (directory ++ [name]) = some .directory then .error .isDirectory
    else .ok (tree.put (directory ++ [name]) (.file content))

def createDirectory (tree : FileTree) (path : Path) : Except FileError FileTree := do
  match ← tree.lastStep path with
  | (_, none) => .error .exists
  | (directory, some name) =>
    if longestName < name.length then .error .nameTooLong
    else if (tree.node? (directory ++ [name])).isSome then .error .exists
    else .ok (tree.put (directory ++ [name]) .directory)

/-- Creates a directory unless one is there already. -/
def ensureDirectory (tree : FileTree) (path : Path) : Except FileError FileTree :=
  match tree.createDirectory path with
  | .ok changed => .ok changed
  | .error error => if tree.isDirectory path then .ok tree else .error error

/-- Creates a directory together with the directories above it that do not exist yet; `levels`
bounds how far up to go.  What was created before a failure stays. -/
def createDirectories (tree : FileTree) : (levels : Nat) → Path → Except FileError Unit × FileTree
  | levels, path =>
    if path.bytes = [] then (.ok (), tree)
    else
      match tree.createDirectory path with
      | .ok changed => (.ok (), changed)
      | .error .notFound =>
        match levels, path.parent? with
        | levels + 1, some parent =>
          match tree.createDirectories levels parent with
          | (.error error, changed) => (.error error, changed)
          | (.ok (), changed) =>
            match changed.ensureDirectory path with
            | .ok final => (.ok (), final)
            | .error error => (.error error, changed)
        | _, _ => (.error .notFound, tree)
      | .error error => if tree.isDirectory path then (.ok (), tree) else (.error error, tree)

/-- Puts a file, or without content a directory, into a tree together with all directories above
it.  What cannot be there is left out. -/
def plant (tree : FileTree) (path : Path) (content : Option (List UInt8)) : FileTree :=
  let grow (tree : FileTree) (directory : Path) : FileTree :=
    (tree.createDirectories directory.bytes.length directory).2
  match content with
  | none => grow tree path
  | some content =>
    let tree := (path.parent?.map (grow tree)).getD tree
    (tree.write path content).toOption.getD tree

end FileTree

end CompileSession
