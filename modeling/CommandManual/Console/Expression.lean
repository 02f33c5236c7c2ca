import CommandManual.Console.Expression.Token

/-!
Expressions in the parameters of console tags. Their values are not used here:
a text is only checked for its form, and the first thing that is wrong with it
is said. What is wrong with the tokens of a text comes before what is wrong with
their order.
-/

namespace CommandManual.Console.Expression

inductive Frame
  | group
  /-- A group with a comma. -/
  | tuple
  /-- A group that starts with a star. -/
  | starred
  | arguments
  /-- Braces before it is clear what they hold. -/
  | braces
  | elements
  /-- A pair whose key is read. -/
  | key
  /-- A pair whose value is read. -/
  | value
  /-- A condition that wants its other case; whether an operand of it is read. -/
  | condition (begun : Bool)
  /-- What repeats the operand before it. -/
  | clause
deriving DecidableEq, Repr

inductive Operand
  | ofToken (t : Token)
  | attribute
  | call
  | setDisplay
  | tableDisplay
  | ellipsis
  | group
  /-- Operands joined by an operator that computes. -/
  | computed
  /-- Operands joined by an operator that compares or decides. -/
  | compared
deriving DecidableEq, Repr

inductive Joint
  | none
  | computing
  | comparing
  /-- By a word that decides, after which an operand can be denied. -/
  | deciding
deriving DecidableEq, Repr

inductive Expecting
  /-- An operand; or, where `optional`, an end. -/
  | operand (optional : Bool) (joint : Joint)
  /-- An operand after a colon. -/
  | pairValue
  /-- An operand after a star; what is said if there is none. -/
  | unpacked (otherwise : String)
  /-- The name of a member. -/
  | member (joint : Joint)
  /-- An operator after an operand. -/
  | operator (last : Operand) (joint : Joint)
deriving DecidableEq, Repr

def whole (last : Operand) : Joint → Operand
  | .none => last
  | .computing => .computed
  | .comparing | .deciding => .compared

def reserved : List String :=
  ["as", "assert", "async", "await", "break", "class", "continue", "def", "del", "elif", "except",
    "finally", "from", "global", "import", "nonlocal", "pass", "raise", "return", "try", "while",
    "with", "yield", "and", "or", "in", "is", "if", "else", "for", "not", "lambda"]

def constants : List String := ["True", "False", "None"]

def joint? : Token → Option Joint
  | .name s =>
    if ["and", "or", "is"].contains s then some .deciding
    else if s == "in" then some .comparing
    else none
  | .mark s =>
    if ["+", "-", "*", "/", "//", "%", "@", "**", "&", "|", "^", "<<", ">>"].contains s then
      some .computing
    else if ["<", ">", "<=", ">=", "==", "!="].contains s then some .comparing
    else none
  | _ => none

/-- Whether an operand can start with a token that is no operator. -/
def startsOperand : Token → Bool
  | .number | .text | .bytes => true
  | .name s => !reserved.contains s || s == "not" || s == "lambda"
  | .mark s => s == "\x7b" || s == "~" || s == "..."

def forgottenComma : String := "invalid syntax. Perhaps you forgot a comma?"

def neverClosed (c : Char) : String := "'" ++ String.ofList [c] ++ "' was never closed"

def noOtherCase : String := "expected 'else' after 'if' expression"

def closeFrame (frames : List Frame) (complete : Bool) :
    Except String (List Frame × Expecting) :=
  match frames.dropWhile (· == .clause) with
  | .condition _ :: _ => .error noOtherCase
  | .key :: rest =>
    if complete then .error "':' expected after dictionary key"
    else .ok (rest, .operator .tableDisplay .none)
  | .value :: rest => .ok (rest, .operator .tableDisplay .none)
  | .braces :: rest =>
    .ok (rest, .operator (if complete then .setDisplay else .tableDisplay) .none)
  | .elements :: rest => .ok (rest, .operator .setDisplay .none)
  | .arguments :: rest => .ok (rest, .operator .call .none)
  | .starred :: _ => .error "cannot use starred expression here"
  | .group :: rest | .tuple :: rest => .ok (rest, .operator .group .none)
  | _ => .error invalid

def isCloser (t : Token) : Bool := t == .mark ")" || t == .mark "\x7d"

def afterStar : List Frame → Except String (List Frame × Expecting)
  | .group :: rest => .ok (.starred :: rest, .unpacked noUnpacked)
  | .braces :: rest => .ok (.elements :: rest, .unpacked noUnpacked)
  | .arguments :: rest => .ok (.arguments :: rest, .unpacked noUnpacked)
  | .tuple :: rest => .ok (.tuple :: rest, .unpacked invalid)
  | .elements :: rest => .ok (.elements :: rest, .unpacked invalid)
  | _ => .error invalid
where
  noUnpacked : String := "Invalid star expression"

def expectOperand (frames : List Frame) (optional : Bool) (joint : Joint) (t : Token) :
    Except String (List Frame × Expecting) :=
  if isCloser t then if optional then closeFrame frames false else .error invalid
  else
    match t with
    | .mark "(" => .ok (.group :: frames, .operand true .none)
    | .mark "\x7b" => .ok (.braces :: frames, .operand true .none)
    | .mark s =>
      if s == "+" || s == "-" || s == "~" then
        .ok (frames, .operand false (if joint = .deciding then .comparing else .computing))
      else if s == "*" && optional then afterStar frames
      else if s == "..." then .ok (frames, .operator .ellipsis joint)
      else .error invalid
    | .name "not" =>
      if joint = .none || joint = .deciding then .ok (frames, .operand false .deciding)
      else .error invalid
    | .name s =>
      if reserved.contains s then .error invalid
      else .ok (frames, .operator (.ofToken t) joint)
    | t => .ok (frames, .operator (.ofToken t) joint)

/-- What is said when an operand that cannot be set is followed by an equals sign. -/
def unassignable (what : String) : String :=
  "cannot assign to " ++ what ++ " here. Maybe you meant '==' instead of '='?"

def keyword (frames : List Frame) (operand : Operand) (ready : Bool) :
    Except String (List Frame × Expecting) :=
  match operand with
  | .ofToken (.name s) =>
    if constants.contains s then .error ("cannot assign to " ++ s)
    else if ready then .ok (frames, .operand false .none)
    else .error invalid
  | _ => .error "expression cannot contain assignment, perhaps you meant \"==\"?"

def assignment (frames : List Frame) (operand : Operand) (next : Option Token) :
    Except String (List Frame × Expecting) :=
  let ready := next.any startsOperand || next == some (.mark "(")
  match frames.head? with
  | some .arguments => keyword frames operand ready
  | some .group | some .tuple | some .braces | some .elements | some .key =>
    if !ready then .error invalid
    else
      match operand with
      | .ofToken (.name s) =>
        .error (if constants.contains s then invalid
          else "invalid syntax. Maybe you meant '==' or ':=' instead of '='?")
      | .ofToken _ => .error (unassignable "literal")
      | .attribute => .error (unassignable "attribute")
      | .call => .error (unassignable "function call")
      | .setDisplay => .error (unassignable "set display")
      | .tableDisplay => .error (unassignable "dict literal")
      | .ellipsis => .error (unassignable "ellipsis")
      | .computed => .error (unassignable "expression")
      | .group | .compared => .error invalid
  | _ => .error invalid

def afterComma (frames : List Frame) : Except String (List Frame × Expecting) :=
  match frames with
  | .braces :: rest => .ok (.elements :: rest, .operand true .none)
  | .value :: rest => .ok (.key :: rest, .operand true .none)
  | .key :: _ => .error "':' expected after dictionary key"
  | .group :: rest | .starred :: rest => .ok (.tuple :: rest, .operand true .none)
  | frames => .ok (frames, .operand true .none)

/-- What a word between operands leads to, for those that are more than joints. -/
def afterWord (frames : List Frame) : String → Option (Except String (List Frame × Expecting))
  | "if" =>
    match frames.head? with
    | some .clause => some (.ok (frames, .operand false .deciding))
    | some (.condition _) => some (.error noOtherCase)
    | _ => some (.ok (.condition false :: frames, .operand false .deciding))
  | "else" =>
    match frames with
    | .condition _ :: rest => some (.ok (rest, .operand false .deciding))
    | _ => some (.error invalid)
  | "for" => some (.ok (.clause :: frames, .operand false .deciding))
  | _ => none

def sideBySide (frames : List Frame) (last : Operand) (t : Token) :
    Except String (List Frame × Expecting) :=
  match last, t with
  | .ofToken .text, .text => .ok (frames, .operator last .none)
  | .ofToken .bytes, .bytes => .ok (frames, .operator last .none)
  | .ofToken (.name s), .text | .ofToken (.name s), .bytes =>
    .error (if constants.contains s then forgottenComma else invalid)
  | _, t => .error (if startsOperand t then forgottenComma else invalid)

def expectOperator (frames : List Frame) (last : Operand) (joint : Joint) (next : Option Token)
    (t : Token) : Except String (List Frame × Expecting) :=
  let special : Option (Except String (List Frame × Expecting)) :=
    match t with
    | .name "not" =>
      if next == some (.name "in") then some (.ok (frames, .operator last joint)) else none
    | .name s => afterWord frames s
    | _ => none
  match special, joint? t with
  | some result, _ => result
  | none, some joint => .ok (frames, .operand false joint)
  | none, none =>
    if isCloser t then closeFrame frames true
    else
      match t with
      | .mark "," => afterComma frames
      | .mark "(" => .ok (.arguments :: frames, .operand true .none)
      | .mark "." => .ok (frames, .member joint)
      | .mark "=" => assignment frames (whole last joint) next
      | .mark ":" =>
        match frames with
        | .braces :: rest | .key :: rest => .ok (.value :: rest, .pairValue)
        | _ => .error invalid
      | t => sideBySide frames last t

def begun : List Frame → List Frame
  | .condition _ :: rest => .condition true :: rest
  | frames => frames

/-- What a token leads to, with the token after it. A condition that has begun and
cannot go on lacks its other case. -/
def step (frames : List Frame) (state : Expecting) (t : Token) (next : Option Token) :
    Except String (List Frame × Expecting) :=
  let isRead := match state with | .operator .. => true | _ => false
  let frames := if isRead then begun frames else frames
  let result : Except String (List Frame × Expecting) :=
    match state with
    | .operand optional joint => expectOperand frames optional joint t
    | .pairValue =>
      if t == Token.mark "," || t == Token.mark "\x7d" then
        .error "expression expected after dictionary key and ':'"
      else expectOperand frames false .none t
    | .member joint =>
      match t with
      | .name s =>
        if reserved.contains s || constants.contains s then .error invalid
        else .ok (frames, .operator .attribute joint)
      | _ => .error invalid
    | .unpacked otherwise =>
      match expectOperand frames false .none t with
      | .ok next => .ok next
      | .error _ => .error otherwise
    | .operator last joint => expectOperator frames last joint next t
  match frames.head?, result with
  | some (.condition true), .error _ =>
    .error (if t == Token.mark ":" then invalid else noOtherCase)
  | some (.condition true), .ok _ => if t == Token.mark "," then .error noOtherCase else result
  | _, result => result

/-- What a token does that is wrong wherever it stands. Texts are put together when
all of them are read. -/
def misplaced? (openers : List Char) (state : Expecting) (t : Token) (rest : List Token) :
    Option String :=
  let mixed :=
    match openers, rest.all fun t => t == .text || t == .bytes with
    | c :: _, true => neverClosed c
    | _, _ => "cannot mix bytes and nonbytes literals"
  match state, t with
  | .operator (.ofToken .text) _, .bytes | .operator (.ofToken .bytes) _, .text => some mixed
  | _, t =>
    if t == .mark "\\" then some "unexpected character after line continuation character"
    else none

/-- What is wrong at the end of the tokens, when `openers` are still open. -/
def atEnd (openers : List Char) (frames : List Frame) (state : Expecting) : Except String Unit :=
  match openers, frames.head?, state with
  | c :: _, _, _ => .error (neverClosed c)
  | [], some (.condition true), _ => .error noOtherCase
  | [], some (.condition false), .operator .. => .error noOtherCase
  | [], _, .operator .. => .ok ()
  | [], _, .operand true _ => .ok ()
  | [], _, _ => .error invalid

inductive Reach
  /-- To the end of the tokens. -/
  | all
  /-- As far as it goes, which is somewhere when it has `begun`. -/
  | operand (begun : Bool)
deriving DecidableEq, Repr

def Frame.isBracket : Frame → Bool
  | .condition _ | .clause => false
  | _ => true

/-- Whether what is wrong in a frame is not looked into while an operand is read as
far as it goes. -/
def Frame.isPlain : Frame → Bool
  | .key | .value | .arguments => true
  | _ => false

/-- Reads an expression; `openers` are the brackets that stay open at the end of the
tokens. Where an operand follows another one, more is read to see what was meant: what
is wrong with the second operand is said first. -/
def read (openers : List Char) :
    Reach → (inside : Bool) → List Frame → Expecting → List Token → Except String Unit
  | .all, _, frames, state, [] => atEnd openers frames state
  | .operand begun, _, frames, state, [] =>
    if openers.isEmpty && begun then .ok () else atEnd openers frames state
  | reach, inside, frames, state, t :: rest =>
    let brackets := frames.filter Frame.isBracket
    let isRead := match state with | .operator .. => true | _ => false
    let reach := if reach != .all && brackets.isEmpty && isRead then .operand true else reach
    match misplaced? openers state t rest, step frames state t rest.head? with
    | some message, _ => .error message
    | none, .ok (frames', state') =>
      if reach != .all && frames.isEmpty && t == .mark "," then .ok ()
      else read openers reach inside frames' state' rest
    | none, .error e =>
      if reach != .all && brackets.isEmpty then
        if reach == .operand true then .ok () else .error invalid
      else if reach != .all && brackets == [.arguments] then .ok ()
      else if reach != .all && brackets.head?.any Frame.isPlain then
        .error (if state == .pairValue then e else invalid)
      else
        match state, step [] (.operand false .none) t rest.head? with
        | .operator last joint, .ok (frames', state') =>
          if !startsOperand t then .error e
          else
            let inside := inside || !brackets.isEmpty
            let plain := if e == forgottenComma && !inside then invalid else e
            match read openers (.operand false) inside frames' state' rest with
            | .error message =>
              .error (if message == invalid && e != forgottenComma then e else message)
            | .ok () =>
              match last, joint with
              | .ofToken (.name s), .none =>
                if plain != invalid || constants.contains s then .error plain
                else
                  match read openers .all inside frames' state' rest with
                  | .error message => .error message
                  | .ok () => .error invalid
              | _, _ => .error plain
        | .operator .., .error _ =>
          let clear := brackets.isEmpty || (brackets.head? == some .arguments && e != invalid)
          if t == .mark "=" && !clear then
            match read openers (.operand false) true [] (.operand false .none) rest with
            | .error message => .error (if message == invalid then e else message)
            | .ok () => .error e
          else .error e
        | _, _ => .error e

/-- What is wrong with the form of an expression, if anything is. -/
def check (t : Text) : Except String Unit := do
  if t.contains '\x00' then throw "source code string cannot contain null bytes"
  let (ts, openers) ← tokens (t.length + 1) [] t
  read openers .all false [] (.operand false .none) ts

end CommandManual.Console.Expression
