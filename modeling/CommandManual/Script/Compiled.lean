import CommandManual.Text.Quoted

/-!
Command files in compiled form. Nothing can be done with one here; what is wrong
with it is read off its first bytes.
-/

namespace CommandManual.Script

inductive FileForm
  | items
  /-- A compiled file, with a header and one object. -/
  | compiled
  /-- A library of the machine. -/
  | library
deriving DecidableEq, Repr

/-- The endings of the files that can be modules, in the order in which they are
looked for. -/
def moduleEndings : List (String × FileForm) :=
  [(".cpython-311-x86_64-linux-gnu.so", .library), (".abi3.so", .library), (".so", .library),
    (".py", .items), (".pyc", .compiled)]

def FileForm.ofName? (name : String) : Option FileForm :=
  (moduleEndings.find? fun (ending, _) => ending.toList.isSuffixOf name.toList).map Prod.snd

inductive CompiledFault
  | wrongMark (moduleName : String) (mark : List UInt8)
  | shortHeader (moduleName : String)
  | unknownFlags (moduleName : String) (flags : Nat)
  | noObject
  | shortObject
  | emptyObject
  | unknownObject
  /-- The object is no code. -/
  | notCode (path : String)
  | shortLibrary (path : String)
  | notLibrary (path : String)
deriving DecidableEq, Repr

namespace CompiledFault

def kindName : CompiledFault → String
  | shortHeader _ | noObject | shortObject => "EOFError"
  | emptyObject => "TypeError"
  | unknownObject => "ValueError"
  | _ => "ImportError"

def message : CompiledFault → String
  | wrongMark moduleName mark =>
    "bad magic number in " ++ Text.quoted moduleName ++ ": " ++ Text.quotedBytes mark
  | shortHeader moduleName =>
    "reached EOF while reading pyc header of " ++ Text.quoted moduleName
  | unknownFlags moduleName flags =>
    "invalid flags " ++ toString flags ++ " in " ++ Text.quoted moduleName
  | noObject => "EOF read where object expected"
  | shortObject => "marshal data too short"
  | emptyObject => "NULL object in marshal data for object"
  | unknownObject => "bad marshal data (unknown type code)"
  | notCode path => "Non-code object in " ++ Text.quoted path
  | shortLibrary path => path ++ ": file too short"
  | notLibrary path => path ++ ": invalid ELF header"

def mark : List UInt8 := [0xa7, 0x0d, 0x0d, 0x0a]

def headerSize : Nat := 16

def number (bytes : List UInt8) : Nat := bytes.foldr (fun b n => b.toNat + 256 * n) 0

def ofObject (path : String) : List UInt8 → CompiledFault
  | [] => noObject
  | tag :: rest =>
    let letter := Char.ofNat (tag.toNat % 128)
    if ['N', 'F', 'T', 'S', '.'].contains letter then notCode path
    else if letter = '0' then emptyObject
    else if letter = 'i' && 4 ≤ rest.length then notCode path
    else if ['i', 'c', 's', 'u', 'z', 'Z', 'g', 'l'].contains letter then shortObject
    else unknownObject

def ofCompiled (moduleName path : String) (bytes : List UInt8) : CompiledFault :=
  let flags := number ((bytes.drop 4).take 4)
  if bytes.take 4 ≠ mark then wrongMark moduleName (bytes.take 4)
  else if bytes.length < headerSize then shortHeader moduleName
  else if 4 ≤ flags then unknownFlags moduleName flags
  else ofObject path (bytes.drop headerSize)

def librarySize : Nat := 64

def ofLibrary (path : String) (bytes : List UInt8) : CompiledFault :=
  if bytes.length < librarySize then shortLibrary path else notLibrary path

end CompiledFault

end CommandManual.Script
