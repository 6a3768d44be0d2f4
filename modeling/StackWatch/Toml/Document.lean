import StackWatch.Toml.Value

/-!
# TOML documents

A document is a sequence of lines: settings `key = value`, table headers `[table]`, comments and
empty lines. `parse?` reads it into the members of its root in the order of the text; a table is
an object among them, of which no more is kept. A table comes where it is first named, unless a
header of its own follows later: then it comes where that header stands. A key that is set twice
is a fault that names the key and the table it is in; a header of a table that is there already is
malformed.
-/

namespace StackWatch.Toml

/-- Why a text is no document. -/
inductive Fault where
  | malformed
  /-- a key that is set twice, in the table at a path if that is told -/
  | duplicate (key : String) (table : Option (List String))
  deriving DecidableEq, Inhabited

/-- Whether a character may stand in a key without quotes. -/
def inKey (c : Char) : Bool := c.isAlphanum || c == '_' || c == '-'

/-- One part of a key and what follows it. -/
def keyPart? : List Char → Option (String × List Char)
  | '"' :: rest => basic? rest
  | '\'' :: rest => literal? rest
  | cs =>
    match cs.takeWhile inKey with
    | [] => none
    | name => some (String.ofList name, cs.dropWhile inKey)

/-- At most so many parts of a key, separated by points, and what follows them and the blanks after
them. -/
def keyParts? : Nat → List Char → Option (List String × List Char)
  | 0, _ => none
  | most + 1, cs =>
    match keyPart? (skipBlanks cs) with
    | none => none
    | some (part, rest) =>
      match skipBlanks rest with
      | '.' :: rest => (keyParts? most rest).map fun (parts, rest) => (part :: parts, rest)
      | rest => some ([part], rest)

/-- A key, which has less than `depthLimit` parts, and what follows it and the blanks after it. -/
def key? (cs : List Char) : Option (List String × List Char) := keyParts? (depthLimit - 1) cs

/-- What follows the end of a line, with or without a comment. -/
def lineEnd? (cs : List Char) : Option (List Char) :=
  match skipComment (skipBlanks cs) with
  | [] => some []
  | rest => lineBreak? rest

/-- What stands at a path. -/
inductive Standing where
  /-- a value -/
  | value
  /-- a table with a header of its own -/
  | headed
  /-- a table on the way to one with a header -/
  | implied
  /-- a table on the way to a setting whose key has points -/
  | dotted
  deriving DecidableEq, Inhabited

/-- What has been read of a document. -/
structure Reading where
  /-- the table that settings go to -/
  table : List String
  /-- what stands at which path, the latest first -/
  standing : List (List String × Standing)
  /-- the members of the root, the last first -/
  members : List (String × Json)
  deriving Inhabited

namespace Reading

/-- Nothing read. -/
def start : Reading := ⟨[], [], []⟩

/-- What stands at a path, if anything does. -/
def standing? (r : Reading) (path : List String) : Option Standing := r.standing.lookup path

/-- The members of the root with a table among them. -/
def withTable (r : Reading) (path : List String) : List (String × Json) :=
  match path with
  | [] => r.members
  | name :: _ =>
    if r.members.any (·.1 = name) then r.members else (name, .obj []) :: r.members

/-- The members of the root with the table of a header among them. A table of the root comes last,
even if it was there before. -/
def withHeaded (r : Reading) (path : List String) : List (String × Json) :=
  match path with
  | [name] => (name, .obj []) :: r.members.filter fun m => m.1 != name
  | path => r.withTable path

/-- The paths that lead to a path, the empty one and itself left out. -/
def above (path : List String) : List (List String) :=
  (List.range path.length).drop 1 |>.map path.take

/-- What stands once a path is taken, with tables of a kind on the way where nothing stood. -/
def take (r : Reading) (path : List String) (here way : Standing) : List (List String × Standing) :=
  let new := (above path).filter fun p => (r.standing? p).isNone
  (path, here) :: new.map (·, way) ++ r.standing

/-- Whether a key with points may lead through the tables at some paths: none of them may have a
header of its own. -/
def mayLeadThrough (r : Reading) : List (List String) → Except Fault Unit
  | [] => .ok ()
  | path :: rest =>
    match r.standing? path with
    | some .value => .error .malformed
    | some .headed => .error (.duplicate (path.getLastD "") none)
    | _ => r.mayLeadThrough rest

/-- Reads a setting. -/
def set (r : Reading) (key : List String) (value : Json) : Except Fault Reading :=
  let path := r.table ++ key
  let way := (above path).drop r.table.length
  let name := key.getLastD ""
  match r.mayLeadThrough way with
  | .error e => .error e
  | .ok () =>
    if way.getLast?.bind r.standing? = some .implied then .error (.duplicate name none)
    else if (r.standing? path).isSome then .error (.duplicate name (some r.table))
    else
      let members := match path with
        | [name] => (name, value) :: r.members
        | path => r.withTable path
      .ok { r with standing := r.take path .value .dotted, members }

/-- Reads a header, which is malformed if its table has one already or is
there for another reason. -/
def openTable (r : Reading) (path : List String) : Except Fault Reading :=
  if (above path).any fun p => r.standing? p = some .value then .error .malformed
  else
    match r.standing? path with
    | none | some .implied =>
      .ok { table := path, standing := r.take path .headed .implied, members := r.withHeaded path }
    | _ => .error .malformed

end Reading

/-- Reads one line, and comes to what follows it. -/
def line (r : Reading) (cs : List Char) : Except Fault (Reading × List Char) :=
  match skipBlanks cs with
  | '[' :: rest =>
    match key? rest with
    | some (path, ']' :: rest) =>
      match lineEnd? rest with
      | some rest => (r.openTable path).map (·, rest)
      | none => .error .malformed
    | _ => .error .malformed
  | cs =>
    match lineEnd? cs with
    | some rest => .ok (r, rest)
    | none =>
      match key? cs with
      | some (key, '=' :: rest) =>
        match value? rest with
        | some (value, rest) =>
          match lineEnd? rest with
          | some rest => (r.set key value).map (·, rest)
          | none => .error .malformed
        | none => .error .malformed
      | _ => .error .malformed

/-- Reads the lines of a text. -/
def lines : Nat → Reading → List Char → Except Fault Reading
  | 0, _, _ => .error .malformed
  | _ + 1, r, [] => .ok r
  | fuel + 1, r, cs =>
    match line r cs with
    | .error e => .error e
    | .ok (r, rest) => lines fuel r rest

/-- The members of a document's root, in the order of the text. A byte order mark in front is passed
over. -/
def parse? (text : String) : Except Fault (List (String × Json)) :=
  let cs := match text.toList with
    | '\uFEFF' :: rest => rest
    | cs => cs
  (lines (cs.length + 1) .start cs).map fun r => r.members.reverse

end StackWatch.Toml
