import CommandManual.Text.Search

/-!
Paths in the file tree. Empty parts and parts that are a single dot are
dropped when a path is read, and `..` is kept. A path that starts with exactly
two slashes keeps both.
-/

namespace CommandManual

inductive PathRoot
  | relative
  | slash
  | doubleSlash
deriving DecidableEq, Repr

def PathRoot.text : PathRoot → String
  | relative => ""
  | slash => "/"
  | doubleSlash => "//"

structure Path where
  root : PathRoot
  parts : List String
deriving DecidableEq, Repr

namespace Path

def here : Path := ⟨.relative, []⟩

def rootOf (t : Text) : PathRoot :=
  match (t.takeWhile (· == '/')).length with
  | 0 => .relative
  | 2 => .doubleSlash
  | _ => .slash

def partsOf (t : Text) : List Text :=
  (Text.splitWhere (· == '/') t).filter fun part => !part.isEmpty && part != ['.']

def ofText (t : Text) : Path := ⟨rootOf t, (partsOf t).map String.ofList⟩

def ofString (s : String) : Path := ofText s.toList

protected def toString (p : Path) : String :=
  let text := p.root.text ++ String.intercalate "/" p.parts
  if text = "" then "." else text

instance : ToString Path := ⟨Path.toString⟩

def isAbsolute (p : Path) : Bool := p.root != .relative

/-- The second path seen from the first; an absolute path stays what it is. -/
def join (p q : Path) : Path :=
  if q.isAbsolute then q else ⟨p.root, p.parts ++ q.parts⟩

def child (p : Path) (name : String) : Path := ⟨p.root, p.parts ++ [name]⟩

def name (p : Path) : String := p.parts.getLast?.getD ""

/-- The last part cut at its last dot, which neither starts nor ends it. -/
def stemAndSuffix (p : Path) : String × String :=
  match Text.cutLast? '.' p.name.toList with
  | some (before, rest) =>
    if before.isEmpty || rest.isEmpty then (p.name, "")
    else (String.ofList before, String.ofList ('.' :: rest))
  | none => (p.name, "")

def stem (p : Path) : String := p.stemAndSuffix.1

def parent (p : Path) : Path := ⟨p.root, p.parts.dropLast⟩

@[simp] theorem join_of_isAbsolute {p q : Path} (h : q.isAbsolute = true) : p.join q = q := by
  simp [join, h]

@[simp] theorem join_here (p : Path) : p.join here = p := by
  simp [join, here, isAbsolute]

theorem join_ofParts (p : Path) (parts : List String) :
    p.join ⟨.relative, parts⟩ = ⟨p.root, p.parts ++ parts⟩ := by
  simp [join, isAbsolute]

end Path

end CommandManual
