import CommandManual.Docs.Page
import CommandManual.Workspace

/-!
Where pages go. The destination directory is made when it is missing, and a
page replaces the file that had its name.
-/

namespace CommandManual

def writerLogger : String := "manify.docs.writer"

/-- The path of a file in the destination; slashes at the end of the
destination do not count, and the name stands in the path as it is. -/
def outputPath (destination fileName : String) : Path :=
  Path.ofText (Text.dropEndWhile (· == '/') destination.toList ++ '/' :: fileName.toList)

namespace Action

def ensureDestination (destination : String) : Action Path := do
  let path := Path.ofString destination
  let w ← get
  let (result, tree) := w.tree.ensureDirectory path
  set { w with tree }
  match result with
  | .ok () => return path
  | .error (.refused refusal refused) =>
    throw (.configuration "destination"
      ("Could not create destination directory '" ++ destination ++ "': " ++
        (AccessError.refused refusal refused).message))
  | .error .nullCharacter => throw (.access .nullCharacter)

def writePage (destination : String) (page : Page) : Action Path := do
  let path := outputPath destination page.fileName
  let w ← get
  match w.tree.write path (.text page.content) with
  | .error (.refused refusal _) => throw (.fileWrite path.toString refusal.message)
  | .error .nullCharacter => throw (.access .nullCharacter)
  | .ok tree =>
    set { w with tree }
    let size := page.content.length
    note writerLogger .debug
      ("Wrote " ++ path.toString ++ " (" ++ toString size ++ " chars)")
      [("path", .str path.toString), ("size", .int size)]
    return path

end Action

end CommandManual
