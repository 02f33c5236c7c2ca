import CommandManual.Files.Tree

/-!
Following a path through a file tree. Links are followed on the way, at most
forty of them, and names have at most 255 bytes.
-/

namespace CommandManual

inductive Refusal
  | noEntry
  | present
  | notDirectory
  | isDirectory
  | nameTooLong
  | tooManyLinks
deriving DecidableEq, Repr

namespace Refusal

def number : Refusal → Nat
  | noEntry => 2
  | present => 17
  | notDirectory => 20
  | isDirectory => 21
  | nameTooLong => 36
  | tooManyLinks => 40

def message : Refusal → String
  | noEntry => "No such file or directory"
  | present => "File exists"
  | notDirectory => "Not a directory"
  | isDirectory => "Is a directory"
  | nameTooLong => "File name too long"
  | tooManyLinks => "Too many levels of symbolic links"

end Refusal

inductive Purpose
  /-- A link at the end is looked at itself. -/
  | keepLink
  | follow
  /-- A link at the end is followed, and a file may be made. -/
  | write
deriving DecidableEq, Repr

namespace FileTree

/-- Where a walk without links gets to: the end of the path, or a link that has
to be followed first. -/
inductive Reached
  | arrived (place : Place)
  | atLink (directory : Place) (target : String) (rest : List String)

def longestName : Nat := 255

/-- Goes on from a directory until the end of the path or the next link. The
place at the end need not exist; a link there is followed unless it is to be
kept. An empty name and a dot stand for the directory they are in, and no file
can be made before an empty name. -/
def advance (tree : FileTree) (purpose : Purpose) :
    Place → List String → Except Refusal Reached
  | directory, [] => .ok (.arrived directory)
  | directory, name :: rest =>
    if name = "" || name = "." then advance tree purpose directory rest
    else if name = ".." then advance tree purpose directory.dropLast rest
    else if purpose = .write && rest = [""] then .error .isDirectory
    else if name.utf8ByteSize > longestName then .error .nameTooLong
    else
      let place := directory ++ [name]
      match tree.get? place with
      | none => if rest.isEmpty then .ok (.arrived place) else .error .noEntry
      | some .directory => advance tree purpose place rest
      | some (.file _) => if rest.isEmpty then .ok (.arrived place) else .error .notDirectory
      | some (.link target) =>
        if rest.isEmpty && purpose = .keepLink then .ok (.arrived place)
        else .ok (.atLink directory target rest)

/-- The names on the way that a link describes; a slash or a dot at its end asks
for a directory there. -/
def linkNames (target : String) : List String :=
  let ending :=
    match (Text.splitWhere (· == '/') target.toList).getLast? with
    | some [] => [""]
    | some ['.'] => ["."]
    | _ => []
  (Path.ofString target).parts ++ ending

def walk (tree : FileTree) (purpose : Purpose) :
    (links : Nat) → Place → List String → Except Refusal Place
  | links, directory, todo =>
    match tree.advance purpose directory todo with
    | .error e => .error e
    | .ok (.arrived place) => .ok place
    | .ok (.atLink directory target rest) =>
      match links with
      | 0 => .error .tooManyLinks
      | links + 1 =>
        let start := if (Path.ofString target).isAbsolute then [] else directory
        tree.walk purpose links start (linkNames target ++ rest)

def linkLimit : Nat := 40

def longestPath : Nat := 4095

def locate (tree : FileTree) (purpose : Purpose) (path : Path) : Except Refusal Place :=
  if path.toString.utf8ByteSize > longestPath then .error .nameTooLong
  else
    let start := if path.isAbsolute then [] else tree.here
    tree.walk purpose linkLimit start path.parts

end FileTree

end CommandManual
