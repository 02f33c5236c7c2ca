import CommandManual.Console.Emoji
import CommandManual.Console.Expression
import CommandManual.Console.Style
import CommandManual.Console.Styled
import CommandManual.Fault

/-!
Console markup. A tag is text in square brackets that starts with a small
letter, a number sign, a slash or an at sign; it sets a style, or ends one, and
is not shown. A backslash before a tag makes it plain text. Text can be escaped
so that none of it is a tag.
-/

namespace CommandManual.Console

def isTagStart (c : Char) : Bool :=
  ('a' ≤ c && c ≤ 'z') || c = '#' || c = '/' || c = '@'

/-- The text of a tag after its opening bracket, up to the first closing one. -/
def tagText? : Text → Option Text
  | [] => none
  | c :: r =>
    if isTagStart c then
      let body := r.takeWhile fun d => d != ']' && d != '['
      match r.drop body.length with
      | ']' :: _ => some (c :: body)
      | _ => none
    else none

/-- A tag with the backslashes before it, at the front of a text. -/
def tagAt? (t : Text) : Option (Nat × Text) :=
  let slashes := (t.takeWhile (· == '\\')).length
  match t.drop slashes with
  | '[' :: r => (tagText? r).map fun tag => (slashes, tag)
  | _ => none

/-! ### Escaping -/

/-- Doubles the backslashes before each tag and adds one; `skip` characters are
already written. -/
def escapeFrom : (skip : Nat) → Text → Text
  | _, [] => []
  | skip + 1, _ :: r => escapeFrom skip r
  | 0, c :: r =>
    match tagAt? (c :: r) with
    | some (slashes, tag) =>
      List.replicate (2 * slashes + 1) '\\' ++ '[' :: tag ++ ']' ::
        escapeFrom (slashes + tag.length + 1) r
    | none => c :: escapeFrom 0 r

def escape (t : Text) : Text :=
  let escaped := escapeFrom 0 t
  match escaped.reverse with
  | '\\' :: '\\' :: _ => escaped
  | '\\' :: _ => escaped ++ ['\\']
  | _ => escaped

/-! ### Reading -/

inductive Piece
  | plain (t : Text)
  | tag (position : Nat) (t : Text)

/-- The pieces of a text from `position` on, after the plain text `held`, which
is in reverse. -/
def piecesFrom : (skip position : Nat) → (held : Text) → Text → List Piece
  | _, _, held, [] => if held.isEmpty then [] else [.plain held.reverse]
  | skip + 1, position, held, _ :: r => piecesFrom skip (position + 1) held r
  | 0, position, held, c :: r =>
    match tagAt? (c :: r) with
    | none => piecesFrom 0 (position + 1) (c :: held) r
    | some (slashes, tag) =>
      let before := if held.isEmpty then [] else [Piece.plain held.reverse]
      let literal :=
        if slashes < 2 then [] else [Piece.plain (List.replicate (slashes / 2) '\\')]
      let here :=
        if slashes % 2 = 1 then Piece.plain ('[' :: tag ++ [']'])
        else Piece.tag (position + slashes) tag
      before ++ literal ++ here :: piecesFrom (slashes + tag.length + 1) (position + 1) [] r

/-- Takes the backslash from each bracket that it stands before. -/
def unescapeBrackets : Text → Text
  | '\\' :: '[' :: r => '[' :: unescapeBrackets r
  | c :: r => c :: unescapeBrackets r
  | [] => []

def shown (t : Text) : Text := (replaceEmoji t).filter fun c => !isHidden c

structure OpenTag where
  /-- How much text stood before it. -/
  start : Nat
  style : String
  /-- What followed an equals sign. -/
  parameters : Text

def styleOf (t : Text) : Except Fault String := (normalStyle t).mapError Fault.notANumber

/-- The name and parameters of a tag that opens after `start` characters. -/
def openTag (start : Nat) (tag : Text) : Except Fault OpenTag := do
  let name := tag.takeWhile (· != '=')
  .ok ⟨start, ← styleOf name, tag.drop (name.length + 1)⟩

/-- A call in the parameters of a tag: its arguments, when the parameters are a
name with or without arguments. -/
def callArguments? (parameters : Text) : Option Text :=
  let name := parameters.takeWhile fun c => Expression.isNameChar c || c = '.'
  match parameters.drop name.length with
  | [] => some ['(', ')']
  | '(' :: r =>
    if r.getLast? == some ')' && !r.contains '\n' then some ('(' :: r) else none
  | _ => none

/-- The parameters of a tag that starts with an at sign are an expression. -/
def checkParameters (tag : OpenTag) : Except Fault Unit :=
  if tag.style.toList.head? != some '@' || tag.parameters.isEmpty then .ok ()
  else
    let parameters := Text.trim tag.parameters
    let read := (callArguments? parameters).getD parameters
    let given := Text.quoted (String.ofList tag.parameters)
    match Expression.check read with
    | .ok () => .ok ()
    | .error detail =>
      .error (.markup ("error parsing " ++ Text.quoted (String.ofList read) ++ " in " ++ given ++
        "; " ++ detail))

/-- The tag that a closing tag ends, and the tags that stay open. -/
def closeTag (position : Nat) (tag : Text) (openTags : List OpenTag) :
    Except Fault (OpenTag × List OpenTag) := do
  let name := (tag.takeWhile (· != '=')).drop 1
  let written := "[" ++ String.ofList tag ++ "]"
  if (Text.trim name).isEmpty then
    match openTags with
    | last :: rest => .ok (last, rest)
    | [] =>
      .error (.markup ("closing tag '[/]' at position " ++ toString position ++
        " has nothing to close"))
  else
    let style ← styleOf (Text.trim name)
    match openTags.find? (fun t => t.style == style) with
    | some found => .ok (found, openTags.eraseP fun t => t.style == style)
    | none =>
      .error (.markup ("closing tag '" ++ written ++ "' at position " ++ toString position ++
        " doesn't match any open tag"))

/-- What pieces show after the text and styles that are there already; the open
tags are given innermost first, and end with the text. -/
def showPieces (before : Styled) : (openTags : List OpenTag) → List Piece → Except Fault Styled
  | openTags, [] =>
    .ok { before with
      spans := before.spans ++ openTags.map fun t => ⟨t.start, before.text.length⟩ }
  | openTags, .plain t :: rest =>
    showPieces { before with text := before.text ++ shown (unescapeBrackets t) } openTags rest
  | openTags, .tag position tag :: rest => do
    if tag.head? == some '/' then
      let (closed, openTags) ← closeTag position tag openTags
      checkParameters closed
      let span : Span := ⟨closed.start, before.text.length⟩
      showPieces { before with spans := before.spans ++ [span] } openTags rest
    else
      showPieces before ((← openTag before.text.length tag) :: openTags) rest

def readMarkup (t : Text) : Except Fault Styled :=
  if t.any (· == '[') then showPieces (Styled.ofText []) [] (piecesFrom 0 0 [] t)
  else .ok (Styled.ofText (shown t))

end CommandManual.Console
