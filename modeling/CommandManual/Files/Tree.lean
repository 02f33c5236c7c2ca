import CommandManual.Path
import CommandManual.Script.Item
import CommandManual.Text.Utf8

/-!
A file tree: what stands at each place, where a place is the list of names that
leads to it from the root. The root itself is always a directory.
-/

namespace CommandManual

inductive Content
  | text (t : Text)
  | bytes (b : List UInt8)
  | script (items : List Script.Item)

def Content.decode : Content → Except Utf8.Error Text
  | .text t => .ok t
  | .bytes b => Utf8.decode b
  | .script _ => .ok []

def Content.encode : Content → List UInt8
  | .text t => Utf8.encode t
  | .bytes b => b
  | .script _ => []

inductive Entry
  | file (content : Content)
  | directory
  | link (target : String)

abbrev Place := List String

/-- A file tree, and the directory in it from which relative paths start. -/
structure FileTree where
  entries : List (Place × Entry)
  here : Place

namespace FileTree

def get? (tree : FileTree) (place : Place) : Option Entry :=
  if place.isEmpty then some .directory else tree.entries.lookup place

def put (tree : FileTree) (place : Place) (entry : Entry) : FileTree :=
  { tree with entries := assign place entry tree.entries }

@[simp] theorem get?_put_self (tree : FileTree) {place : Place} (h : place ≠ [])
    (entry : Entry) : (tree.put place entry).get? place = some entry := by
  simp [get?, put, h]

theorem get?_put_of_ne (tree : FileTree) {place other : Place} (h : other ≠ place)
    (entry : Entry) : (tree.put place entry).get? other = tree.get? other := by
  simp [get?, put, lookup_assign_of_ne h]

def openWay (tree : FileTree) (place : Place) : FileTree :=
  (List.range place.length).foldl
    (fun t n =>
      let way := place.take n
      if (t.get? way).isSome then t else t.put way .directory)
    tree

/-- Puts an entry at a place and makes the directories on the way to it. -/
def plant (tree : FileTree) (place : Place) (entry : Entry) : FileTree :=
  (tree.openWay place).put place entry

def erase (tree : FileTree) (place : Place) : FileTree :=
  { tree with entries := tree.entries.filter fun (p, _) => !place.isPrefixOf p }

def names (tree : FileTree) (place : Place) : List String :=
  tree.entries.filterMap fun (p, _) =>
    match p.getLast? with
    | some name => if p.dropLast = place then some name else none
    | none => none

end FileTree

end CommandManual
