import Astro.Text.Lines

/-!
# Files and paths

A file is read by its path, which may fail in a few ways. A directory tree held
in memory answers such reads: it knows the contents of files and which
directories there are, and walks a path component by component, so that a path
through something that is no directory fails as it should.
-/

namespace Astro

/-- Why a file could not be read. Only the first is passed over, where a file need not be there. -/
inductive ReadError where
  | missing
  | notDirectory
  | isDirectory
  | nameTooLong
  | other (message : Text)
deriving DecidableEq, Repr

namespace ReadError

/-- The step that failed for a path, and why. The message names the operation that the system
refused. -/
def text (path : Text) : ReadError → Text
  | missing => Text.ofString "open " ++ path ++ Text.ofString ": no such file or directory"
  | notDirectory => Text.ofString "open " ++ path ++ Text.ofString ": not a directory"
  | isDirectory => Text.ofString "read " ++ path ++ Text.ofString ": is a directory"
  | nameTooLong => Text.ofString "open " ++ path ++ Text.ofString ": file name too long"
  | other message => Text.ofString "open " ++ path ++ Text.ofString ": " ++ message

end ReadError

namespace Path

/-- The byte between the components of a path. It is the slash. -/
def separator : UInt8 := 47

/-- The components of a path, empty ones included. Two separators side by side have an empty one
between them, and so there is one before a separator at the front. -/
def components : Text → List Text
  | [] => [[]]
  | byte :: rest =>
    if byte = separator then [] :: components rest
    else
      match components rest with
      | [] => [[byte]]
      | first :: more => (byte :: first) :: more

/-- The greatest length of a component. A longer one is refused, whether or not there is such a
file. -/
def longestComponent : Nat := 255

/-- The greatest length of a path. It is counted in bytes, like that of a component. -/
def longestPath : Nat := 4095

/-- Whether a path starts at the root. Any other path is one from the current directory. -/
def isAbsolute (path : Text) : Bool := path.head? = some separator

/-- Components with `.` left out and `..` taken back, from the last to the first. -/
def resolve (rooted : Bool) (components : List Text) : List Text :=
  components.foldl
    (fun resolved component =>
      if component = [] ∨ component = Text.ofString "." then resolved
      else if component = Text.ofString ".." then
        match resolved with
        | [] => if rooted then [] else [component]
        | last :: before => if last = Text.ofString ".." then component :: resolved else before
      else component :: resolved) []

/-- The shortest spelling of a path that means the same. -/
def clean (path : Text) : Text :=
  let rooted := isAbsolute path
  let joined := List.intercalate [separator] (resolve rooted (components path)).reverse
  if rooted then separator :: joined
  else if joined = [] then Text.ofString "."
  else joined

/-- The clean absolute path that a path means in a directory. -/
def absolute (directory path : Text) : Text :=
  if isAbsolute path then clean path else clean (directory ++ separator :: path)

end Path

/-- A directory with everything below it: each entry is a file with its content, or
a directory when it has none. Directories above an entry are there as well. Entries
are named by paths from the root, which need not be clean. -/
structure FileTree where
  /-- The absolute path of the directory. -/
  root : Text
  entries : List (Text × Option Text)

namespace FileTree

/-- What stands at a place in the tree. It is a file with its content or a directory. -/
inductive Node where
  | file (content : Text)
  | directory

/-- What stands at the end of a list of components. -/
def node? (tree : FileTree) (place : List Text) : Option Node :=
  let holds (name : Text) : List Text := (Path.resolve true (Path.components name)).reverse
  match tree.entries.find? fun entry => holds entry.1 = place with
  | some (_, some content) => some (.file content)
  | some (_, none) => some .directory
  | none =>
    if place = [] ∨ tree.entries.any fun entry => place.isPrefixOf (holds entry.1) then
      some .directory
    else none

/-- Outside the tree there are only the directories above it. -/
def readOutside (components : List Text) : Except ReadError Text :=
  match (Path.resolve true components).reverse with
  | [] => .error .isDirectory
  | first :: _ =>
    if Path.longestComponent < first.length then .error .nameTooLong else .error .missing

/-- The content of the file at the end of a path that is walked component by
component from a place in the tree. -/
def readFrom (tree : FileTree) (place : List Text) : List Text → Except ReadError Text
  | [] =>
    match tree.node? place with
    | none => .error .missing
    | some .directory => .error .isDirectory
    | some (.file content) => .ok content
  | component :: rest =>
    match tree.node? place with
    | none => .error .missing
    | some (.file _) => .error .notDirectory
    | some .directory =>
      if component = [] ∨ component = Text.ofString "." then tree.readFrom place rest
      else if component = Text.ofString ".." then
        if place = [] then readOutside rest else tree.readFrom place.dropLast rest
      else if Path.longestComponent < component.length then .error .nameTooLong
      else tree.readFrom (place ++ [component]) rest

/-- The content of the file at a path, which starts at the root of the tree unless it
is absolute. -/
def read (tree : FileTree) (path : Text) : Except ReadError Text :=
  let base := tree.root ++ [Path.separator]
  if path = [] then .error .missing
  else if Path.longestPath < path.length then .error .nameTooLong
  else if path = tree.root then .error .isDirectory
  else if base.isPrefixOf path then tree.readFrom [] (Path.components (path.drop base.length))
  else if Path.isAbsolute path then readOutside (Path.components path)
  else tree.readFrom [] (Path.components path)

end FileTree

end Astro
