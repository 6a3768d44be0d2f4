/-!
# Files and the paths that name them

A `FileTree` is a file with its content, or a directory with the names of what is in it.
`FileTree.read` gives the content of the file that a path names, or says why there is none.

A path is walked from name to name. An empty name and `.` stay where they are, `..` goes up, though
not above the root, and every other name goes down. Each of these steps starts from a directory; so
a path that goes on behind a file, if only by a slash, names nothing.
-/

namespace StackWatch

/-- A file with its content, or a directory with its entries. -/
inductive FileTree where
  | file (content : ByteArray)
  | directory (entries : List (String × FileTree))

instance : Inhabited FileTree := ⟨.directory []⟩

/-- Why a path gives no content. -/
inductive PathFault where
  | notFound
  /-- the path goes on behind a file -/
  | notDirectory
  /-- the path names a directory, which has no content -/
  | isDirectory
  /-- the path has the character number zero, which is in no name -/
  | zeroCharacter
  /-- the path, or a name in it, has more bytes than one may have -/
  | tooLong
  deriving DecidableEq, Inhabited

/-- The wording of a fault. -/
def PathFault.message : PathFault → String
  | notFound => "no such file"
  | notDirectory => "the path goes on behind a file"
  | isDirectory => "the path names a directory"
  | zeroCharacter => "the path has a character that no name has"
  | tooLong => "the path is too long"

namespace FileTree

/-- How many bytes a name may have. -/
def nameLimit : Nat := 255

/-- How many bytes a path may have. -/
def pathLimit : Nat := 4095

/-- What stands between the slashes of a path. -/
def segments : List Char → List (List Char)
  | [] => [[]]
  | c :: rest =>
    if c = '/' then [] :: segments rest
    else match segments rest with
      | [] => [[c]]
      | name :: names => (c :: name) :: names

/-- The names of a path. -/
def names (path : String) : List String := (segments path.toList).map String.ofList

/-- What stands behind the last slash of a path. -/
def lastName (path : String) : String :=
  String.ofList (path.toList.reverse.takeWhile (· != '/')).reverse

/-- A path from the root, for a path that may start at a working directory. -/
def fromRoot (working path : String) : String :=
  if path.toList.head? = some '/' then path else working ++ "/" ++ path

/-- Follows names from a tree, given the directories above it from the nearest upwards. -/
def walk : List FileTree → FileTree → List String → Except PathFault FileTree
  | _, tree, [] => .ok tree
  | _, .file _, _ :: _ => .error .notDirectory
  | above, .directory entries, name :: rest =>
    if name = "" ∨ name = "." then walk above (.directory entries) rest
    else if name = ".." then
      match above with
      | [] => walk [] (.directory entries) rest
      | parent :: higher => walk higher parent rest
    else if nameLimit < name.utf8ByteSize then .error .tooLong
    else
      match entries.lookup name with
      | none => .error .notFound
      | some tree => walk (.directory entries :: above) tree rest

/-- The content of the file that a path names, seen from a working directory. -/
def read (root : FileTree) (working path : String) : Except PathFault ByteArray :=
  if path.toList.contains '\x00' then .error .zeroCharacter
  else if path = "" then .error .notFound
  else if pathLimit < path.utf8ByteSize then .error .tooLong
  else
    match walk [] root (names (fromRoot working path)) with
    | .error e => .error e
    | .ok (.directory _) => .error .isDirectory
    | .ok (.file content) => .ok content

end FileTree

end StackWatch
