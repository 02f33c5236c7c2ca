import CommandManual.Files.Walk
import CommandManual.Text.Quoted

/-!
What programs do with a file tree: ask what a path is, read and write files,
list and make directories. A path with a null character is refused before the
tree is looked at.
-/

namespace CommandManual

inductive AccessError
  | refused (refusal : Refusal) (path : String)
  | nullCharacter
deriving DecidableEq, Repr

def AccessError.message : AccessError → String
  | refused refusal path =>
    "[Errno " ++ toString refusal.number ++ "] " ++ refusal.message ++ ": " ++ Text.quoted path
  | nullCharacter => "embedded null byte"

namespace FileTree

def hasNull (path : Path) : Bool := path.toString.toList.contains '\x00'

def stat (tree : FileTree) (path : Path) : Except Refusal Entry :=
  match tree.locate .follow path with
  | .error e => .error e
  | .ok place =>
    match tree.get? place with
    | some entry => .ok entry
    | none => .error .noEntry

/-- Whether a path leads to an entry of some kind. A path that leads nowhere
does not; a name that is too long is an error. -/
def leadsTo (tree : FileTree) (kind : Entry → Bool) (path : Path) : Except AccessError Bool :=
  if hasNull path then .ok false
  else
    match tree.stat path with
    | .ok entry => .ok (kind entry)
    | .error .noEntry | .error .notDirectory | .error .tooManyLinks => .ok false
    | .error e => .error (.refused e path.toString)

def isFile (tree : FileTree) (path : Path) : Except AccessError Bool :=
  tree.leadsTo (fun | .file _ => true | _ => false) path

def isDirectory (tree : FileTree) (path : Path) : Except AccessError Bool :=
  tree.leadsTo (fun | .directory => true | _ => false) path

def read (tree : FileTree) (path : Path) : Except AccessError Content :=
  if hasNull path then .error .nullCharacter
  else
    match tree.stat path with
    | .ok (.file content) => .ok content
    | .ok _ => .error (.refused .isDirectory path.toString)
    | .error e => .error (.refused e path.toString)

/-- The names in the directory that a path leads to, in increasing order. -/
def list (tree : FileTree) (path : Path) : List String :=
  match tree.locate .follow path with
  | .ok place => Text.sortNames (tree.names place)
  | .error _ => []

/-- Writes a file in place of the one that is there; a link is written through. A write that is
let in is carried out whole: no disk is full. -/
def write (tree : FileTree) (path : Path) (content : Content) :
    Except AccessError FileTree :=
  if hasNull path then .error .nullCharacter
  else
    match tree.locate .write path with
    | .error e => .error (.refused e path.toString)
    | .ok place =>
      match tree.get? place with
      | none | some (.file _) => .ok (tree.put place (.file content))
      | some _ => .error (.refused .isDirectory path.toString)

/-- Makes one directory, whose own directory is there already. -/
def makeDirectory (tree : FileTree) (path : Path) : Except Refusal FileTree :=
  match tree.locate .keepLink path with
  | .error e => .error e
  | .ok place =>
    if (tree.get? place).isSome then .error .present else .ok (tree.put place .directory)

/-- The outcome of making a directory, when it may be there already. -/
def orPresent (tree : FileTree) (path : Path) (e : Refusal) :
    Except AccessError Unit × FileTree :=
  match tree.isDirectory path with
  | .ok true => (.ok (), tree)
  | .ok false => (.error (.refused e path.toString), tree)
  | .error e => (.error e, tree)

/-- Makes a directory unless it is there, and first those on the way to it;
`depth` bounds how many of these are tried. -/
def ensureDirectoryWithin : (depth : Nat) → Path → FileTree →
    Except AccessError Unit × FileTree
  | depth, path, tree =>
    match tree.makeDirectory path with
    | .ok tree => (.ok (), tree)
    | .error .noEntry =>
      match depth with
      | 0 => (.error (.refused .noEntry path.toString), tree)
      | depth + 1 =>
        match ensureDirectoryWithin depth path.parent tree with
        | (.error e, tree) => (.error e, tree)
        | (.ok (), tree) =>
          match tree.makeDirectory path with
          | .ok tree => (.ok (), tree)
          | .error .noEntry => (.error (.refused .noEntry path.toString), tree)
          | .error e => tree.orPresent path e
    | .error e => tree.orPresent path e

/-- Makes a directory with all on the way to it. Directories that were made
stay, also when a later one cannot be made. -/
def ensureDirectory (tree : FileTree) (path : Path) : Except AccessError Unit × FileTree :=
  if hasNull path then (.error .nullCharacter, tree)
  else ensureDirectoryWithin path.parts.length path tree

end FileTree

end CommandManual
