import CommandManual.Data.Fields

/-!
A command as a manifest declares it.
-/

namespace CommandManual

structure Descriptor where
  commandName : String
  /-- The class that implements the command; empty when the registry knows it. -/
  className : String := ""
  /-- The file that defines the class, seen from the base directory. -/
  sourceFile : Option Path := none
  /-- The directory of the manifest. -/
  baseDirectory : Path := Path.here
deriving DecidableEq, Repr

namespace Descriptor

def sourcePath (d : Descriptor) : Option Path := d.sourceFile.map d.baseDirectory.join

def ofFields (v : Value) : Checked Descriptor :=
  (((Checked.ap (.ok Descriptor.mk) (Field.required Field.text "command_name" v)).ap
    (Field.withDefault Field.text "class_name" "" v)).ap
    (Field.withDefault Field.optionalPath "source_file" none v)).ap
    (Field.withDefault Field.path "base_directory" Path.here v)

/-- The columns of a listing: command, class, file and directory. -/
structure Row where
  command : String
  className : Option String
  file : Option String
  directory : String
deriving DecidableEq, Repr

def row (d : Descriptor) : Row where
  command := d.commandName
  className := if d.className = "" then none else some d.className
  file := d.sourceFile.map Path.toString
  directory := d.baseDirectory.toString

end Descriptor

end CommandManual
