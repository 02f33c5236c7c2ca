import CommandManual.Text.Search

/-!
Options on a command line. Short options may stand together in one argument,
the value of an option is the rest of its argument or the next argument, and
the first argument that is no option ends the options.
-/

namespace CommandManual.Shell

structure OptionForm where
  /-- The name under which the option is known inside. -/
  key : String
  long : String
  short : Option Char := none
  takesValue : Bool := true
deriving DecidableEq, Repr

structure Given where
  key : String
  value : Option String := none
deriving DecidableEq, Repr

structure UsageError where
deriving DecidableEq, Repr

structure Reading where
  given : List Given
  /-- The option whose value is the next argument. -/
  wants : Option String := none

def readCluster (forms : List OptionForm) : Text → Except UsageError Reading
  | [] => .ok ⟨[], none⟩
  | c :: r =>
    match forms.find? fun f => f.short == some c with
    | none => .error {}
    | some f =>
      if f.takesValue then
        if r.isEmpty then .ok ⟨[], some f.key⟩
        else .ok ⟨[⟨f.key, some (String.ofList r)⟩], none⟩
      else do
        let rest ← readCluster forms r
        .ok { rest with given := ⟨f.key, none⟩ :: rest.given }

/-- A long option, with its value after an equals sign if it has one there. -/
def readLong (forms : List OptionForm) (t : Text) : Except UsageError Reading :=
  let name := String.ofList (t.takeWhile (· != '='))
  let value := (Text.cut? ['='] t).map fun (_, v) => String.ofList v
  match forms.find? fun f => f.long == name with
  | none => .error {}
  | some f =>
    match f.takesValue, value with
    | true, some v => .ok ⟨[⟨f.key, some v⟩], none⟩
    | true, none => .ok ⟨[], some f.key⟩
    | false, some _ => .error {}
    | false, none => .ok ⟨[⟨f.key, none⟩], none⟩

def isOption (t : Text) : Bool := t.head? == some '-' && 1 < t.length

def readOption (forms : List OptionForm) (t : Text) : Except UsageError Reading :=
  if Text.startsWith ['-', '-'] t then readLong forms t else readCluster forms (t.drop 1)

/-- The options in front of a command line, and the arguments after them. -/
def readOptions (forms : List OptionForm) :
    List String → Except UsageError (List Given × List String)
  | [] => .ok ([], [])
  | arg :: rest =>
    if arg = "--" then .ok ([], rest)
    else if isOption arg.toList then
      match readOption forms arg.toList with
      | .error e => .error e
      | .ok reading =>
        match reading.wants with
        | none => do
          let (given, left) ← readOptions forms rest
          .ok (reading.given ++ given, left)
        | some key =>
          match rest with
          | [] => .error {}
          | value :: rest => do
            let (given, left) ← readOptions forms rest
            .ok (reading.given ++ ⟨key, some value⟩ :: given, left)
    else .ok ([], arg :: rest)

/-- The keys that were given, in the order of their first use. -/
def keysOf (given : List Given) : List String := (given.map Given.key).eraseDups

def isGiven (given : List Given) (key : String) : Bool := given.any fun g => g.key == key

def valueOf (given : List Given) (key : String) : Option String :=
  (given.reverse.find? fun g => g.key == key).bind Given.value

end CommandManual.Shell
