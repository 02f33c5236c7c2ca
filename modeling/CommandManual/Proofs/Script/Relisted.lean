import CommandManual.Command.Load
import CommandManual.Proofs.Files.Relisted

/-!
Command files in trees that list their directories in different orders. Which module a name
stands for depends on which names a directory holds, and never on the order in which it lists
them, so a command file does the same in both trees.
-/

namespace CommandManual.Script

open FileTree

variable {tree tree' : FileTree}

theorem findModule_of_relisted (h : tree.Relisted tree') : findModule tree' = findModule tree := by
  have within : findIn tree' = findIn tree := by
    funext name directory
    simp only [findIn, h.list, h.isFile, h.isDirectory]
  funext name directories
  rw [findModule, findModule, within]

theorem bytesAt_of_relisted (h : tree.Relisted tree') : bytesAt tree' = bytesAt tree := by
  funext path
  rw [bytesAt, bytesAt, h.read]

theorem runAt_of_relisted (h : tree.Relisted tree') : runAt tree' = runAt tree := by
  have items : itemsAt tree' = itemsAt tree := by
    funext moduleName path
    simp only [itemsAt, h.read, bytesAt_of_relisted h]
  funext request index moduleName path
  rw [runAt, runAt, items]

theorem makeModule_of_relisted (h : tree.Relisted tree') : makeModule tree' = makeModule tree := by
  funext request full name directories
  simp only [makeModule, findModule_of_relisted h, runAt_of_relisted h]

theorem placesOf_of_relisted (h : tree.Relisted tree') : placesOf tree' = placesOf tree := by
  funext parts
  induction parts with
  | nil => rfl
  | cons name outer ih => simp only [placesOf, findModule_of_relisted h, ih]

theorem requestParts_of_relisted (h : tree.Relisted tree') :
    requestParts tree' = requestParts tree := by
  funext request parts
  induction parts with
  | nil => rfl
  | cons name outer ih =>
      simp only [requestParts, makeModule_of_relisted h, placesOf_of_relisted h, ih]

theorem requestWithin_of_relisted (h : tree.Relisted tree') :
    requestWithin tree' = requestWithin tree := by
  funext depth
  induction depth with
  | zero => rfl
  | succ depth ih =>
      funext name
      rw [requestWithin, requestWithin, requestParts_of_relisted h, ih]

theorem requestAbsolute_of_relisted (h : tree.Relisted tree') :
    requestAbsolute tree' = requestAbsolute tree := by
  funext name
  rw [requestAbsolute, requestAbsolute, request, request, requestWithin_of_relisted h]

theorem carryOut_of_relisted (h : tree.Relisted tree') : carryOut tree' = carryOut tree := by
  have asked : request tree' = request tree := by
    funext name
    rw [request, request, requestWithin_of_relisted h]
  funext name file
  rw [carryOut, carryOut, runAt_of_relisted h, asked]

end CommandManual.Script
