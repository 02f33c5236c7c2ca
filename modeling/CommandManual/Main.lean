import CommandManual.Shell.Run
import Std.Time.Format

/-!
The command line. The files below the current directory are taken up as a
tree, the program runs on the tree, and what it wrote is put on the disk. A
command file holds its items as a JSON list.
-/

namespace CommandManual

def Content.ofFile (name : String) (bytes : List UInt8) : Content :=
  if Script.FileForm.ofName? name = some .items then
    if bytes.isEmpty then .script []
    else
      match (Utf8.decode bytes).toOption.bind fun t =>
          (Json.parse Manifest.nestingLimit t).toOption with
      | some v => .script (Script.Item.listOfValue v)
      | none => .script [.malformed]
  else .bytes bytes

def FileTree.isNew (before : FileTree) (place : Place) : Entry → Bool
  | .file (.text _) => true
  | .file (.bytes bytes) =>
    match before.get? place with
    | some (.file (.bytes old)) => bytes != old
    | _ => true
  | _ => (before.get? place).isNone

namespace Disk

/-- Takes up an entry of a directory with all that is below it. -/
partial def takeUp (directory : Place) (tree : FileTree) (entry : IO.FS.DirEntry) :
    IO FileTree := do
  let place := directory ++ [entry.fileName]
  match (← entry.path.symlinkMetadata).type with
  | .dir => (← entry.path.readDir).foldlM (takeUp place) (tree.put place .directory)
  | .symlink => return tree.put place (.link (← IO.FS.realPath entry.path).toString)
  | .file =>
    let bytes ← IO.FS.readBinFile entry.path
    return tree.put place (.file (Content.ofFile entry.fileName bytes.toList))
  | .other => return tree

def snapshot : IO FileTree := do
  let directory ← IO.currentDir
  let here := (Path.ofString directory.toString).parts
  let start : FileTree := FileTree.plant { entries := [], here } here .directory
  (← directory.readDir).foldlM (takeUp here) start

def putDown (before after : FileTree) : IO Unit :=
  after.entries.forM fun (place, entry) => do
    let path := (Path.mk .slash place).toString
    if before.isNew place entry then
      match entry with
      | .file (.text t) => IO.FS.writeFile path (String.ofList t)
      | .file (.bytes bytes) => IO.FS.writeBinFile path ⟨bytes.toArray⟩
      | .directory => IO.FS.createDirAll path
      | _ => pure ()

end Disk

namespace Shell

def variableNames : List String :=
  ["MANIFY_DESTINATION", "MANIFY_SOURCE", "MANIFY_MANIFEST_NAME", "MANIFY_HEADING_PREFIX",
    "MANIFY_SCAN_PLUGINS", "MANIFY_LOG_LEVEL", "MANIFY_LOG_FORMAT"]

def environment : IO Environment :=
  variableNames.filterMapM fun name => do
    return (← IO.getEnv name).map fun value => (name, value)

def present : IO Timestamp := do
  let now ← Std.Time.PlainDateTime.now
  return {
    date := ⟨now.year.toInt.toNat, now.month.val.toNat, now.day.val.toNat⟩
    time := ⟨now.hour.val.toNat, now.minute.val.toNat, now.second.val.toNat,
      now.nanosecond.val.toNat / 1000⟩
    offset := some 0 }

def stampOf (t : Timestamp) : Log.Stamp :=
  ⟨String.ofList ((t.laidOut? "YYYY-MM-DD HH:mm:ss".toList).getD []), "main:0", t⟩

/-- The code that a run is left with, and what is said on leaving. -/
def farewell : Except Fault ExitCode → UInt32 × String
  | .ok (.code n) => (UInt32.ofNat n, "")
  | .ok (.given .null) => (0, "")
  | .ok (.given (.int n)) => (UInt32.ofNat (n % 256).toNat, "")
  | .ok (.given v) => (1, v.display ++ "\n")
  | .error f => (1, f.message ++ "\n")

end Shell

end CommandManual

open CommandManual in
def main (args : List String) : IO UInt32 := do
  let before ← Disk.snapshot
  let start : Workspace := { tree := before, stamp := Shell.stampOf (← Shell.present) }
  let (result, after) := Shell.Run.outcome (← Shell.environment) args start
  Disk.putDown before after.tree
  let (code, words) := Shell.farewell result
  (← IO.getStdout).putStr after.stdout
  (← IO.getStderr).putStr (after.stderr ++ words)
  return code
