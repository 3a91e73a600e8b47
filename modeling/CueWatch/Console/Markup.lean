import CueWatch.Console.Action
import CueWatch.Console.Style
import CueWatch.Text.Control

/-!
Contract: text with style tags in square brackets, read for what it shows.

Owns:
- `read`, which finds what is shown and the stretches of it that have a style, and the failure when
  a closing tag closes nothing or a tag that is closed names an action that cannot be read;
- `plain`, the text without its tags, for which the styles of what is seen have to be readable.

A tag begins with a small letter or one of `#`, `/` and `@`; a backslash before it makes it text.
A closing tag closes the innermost open tag that tells the same style.

Does not own: what the styles look like, and what is wrong with an action that cannot be read, which
its failure tells after the action.
-/

namespace CueWatch.Console.Markup

/-- A piece of marked text: shown characters, or a tag with the place of its opening bracket. -/
inductive Piece where
  | shown (t : Text)
  | tag (name : Text) (place : Nat)
deriving DecidableEq, Repr

/-- Whether a tag may begin with a character. -/
def startsTag (c : Char) : Bool :=
  ('a' ≤ c && c ≤ 'z') || c = '#' || c = '/' || c = '@'

/-- Reads a tag after its opening bracket, with the text after it. -/
def tag? (t : Text) : Option (Text × Text) :=
  match t with
  | c :: _ =>
      if startsTag c then
        let inside := t.takeWhile fun d => d ≠ ']' && d ≠ '['
        match t.drop inside.length with
        | ']' :: rest => some (inside, rest)
        | _ => none
      else none
  | [] => none

/-- The pieces for a tag after some backslashes: two backslashes show one, and an odd one makes the
tag text. -/
def escaped (backslashes : Nat) (name : Text) (place : Nat) : List Piece :=
  let before : List Piece :=
    if backslashes < 2 then [] else [.shown (List.replicate (backslashes / 2) Text.backslash)]
  if backslashes % 2 = 1 then before ++ [.shown ('[' :: name ++ [']'])]
  else before ++ [.tag name place]

/-- Cuts marked text into pieces, from a place on. The count bounds the steps; the length of the text
is enough. -/
def piecesFrom : Nat → Nat → Text → List Piece
  | 0, _, _ => []
  | _ + 1, _, [] => []
  | steps + 1, place, c :: rest =>
      let backslashes := ((c :: rest).takeWhile (· == Text.backslash)).length
      match (c :: rest).drop backslashes with
      | '[' :: inside =>
          match tag? inside with
          | some (name, after) =>
              let bracket := place + backslashes
              escaped backslashes name bracket ++ piecesFrom steps (bracket + name.length + 2) after
          | none =>
              .shown (List.replicate (backslashes - 1) Text.backslash ++ ['[']) ::
                piecesFrom steps (place + backslashes + 1) inside
      | other =>
          if backslashes = 0 then .shown [c] :: piecesFrom steps (place + 1) rest
          else
            .shown (List.replicate backslashes Text.backslash) ::
              piecesFrom steps (place + backslashes) other

def pieces (t : Text) : List Piece := piecesFrom (t.length + 1) 0 t

/-- A tag that is open: its name in the form in which names are compared, what is written after the
name and an equals sign, and how much is shown before it. -/
structure Opened where
  name : Text
  value : Option Text
  start : Nat
deriving DecidableEq, Repr

def tagName (tag : Text) : Text := tag.takeWhile (· ≠ '=')

/-- The value of a tag: what follows the first equals sign. -/
def tagValue (tag : Text) : Option Text := (Text.cutAt '=' tag).map Prod.snd

namespace Opened

def isAction (tag : Opened) : Bool := tag.name.head? = some '@'

/-- Whether a tag can be closed: the value of one that names an action has to be written as one. -/
def canClose (tag : Opened) : Bool :=
  match tag.value with
  | some (c :: rest) => !tag.isAction || Action.isAction (c :: rest)
  | _ => true

/-- The style that a tag gives to what is shown: its name and its value. -/
def style (tag : Opened) : Text :=
  match tag.value with
  | some value => tag.name ++ ' ' :: value
  | none => tag.name

end Opened

/-- A stretch of what is shown and the style it has. -/
structure Span where
  start : Nat
  stop : Nat
  style : Text
deriving DecidableEq, Repr

/-- The stretch from a tag on. -/
def Opened.span (tag : Opened) (stop : Nat) : Span := ⟨tag.start, stop, tag.style⟩

/-- What has been read: what is shown, last character first, its length, the open tags, innermost
first, and the stretches of closed tags, latest first. -/
structure Reading where
  backwards : Text
  length : Nat
  opened : List Opened
  spans : List Span

namespace Reading

def start : Reading := ⟨[], 0, [], []⟩

/-- Shows more, without the controls that no display shows. -/
def append (reading : Reading) (t : Text) : Reading :=
  let t := Text.withoutControls t
  { reading with
    backwards := t.reverse ++ reading.backwards
    length := reading.length + t.length }

def shown (reading : Reading) : Text := reading.backwards.reverse

def openTag (reading : Reading) (name : Text) (value : Option Text) : Reading :=
  { reading with opened := ⟨name, value, reading.length⟩ :: reading.opened }

/-- Closes a tag, after which the others are open. An action gives no style. -/
def closeTag (reading : Reading) (tag : Opened) (others : List Opened) : Except Failure Reading :=
  if !tag.canClose then .error (.badMarkup ("error parsing " ++ Text.quoted (tag.value.getD [])))
  else if tag.isAction then .ok { reading with opened := others }
  else
    .ok { reading with opened := others, spans := tag.span reading.length :: reading.spans }

/-- All stretches: those of open tags reach to the end. They are in the order in which they start;
of those that start together, the one that ends last comes first. -/
def allSpans (reading : Reading) : List Span :=
  let spans := reading.opened.foldl (fun spans tag => tag.span reading.length :: spans)
    reading.spans
  spans.mergeSort fun a b => a.start ≤ b.start

end Reading

/-- Takes the innermost tag of a name from those that are open, innermost first. -/
def take (name : Text) : List Opened → Option (Opened × List Opened)
  | [] => none
  | tag :: outer =>
      if tag.name = name then some (tag, outer)
      else (take name outer).map fun found => (found.1, tag :: found.2)

/-- How failures tell the place of a tag. -/
def atPlace (place : Nat) : Text := " at position " ++ Text.decimal place

/-- What is read when a tag is. -/
def applyTag (reading : Reading) (tag : Text) (place : Nat) : Except Failure Reading :=
  match tagName tag with
  | '/' :: name =>
      if Text.isBlankText name then
        match reading.opened with
        | innermost :: outer => reading.closeTag innermost outer
        | [] =>
            .error (.badMarkup ("closing tag '[/]'" ++ atPlace place ++ " has nothing to close"))
      else
        match Style.normal (Text.trim name) with
        | .error failure => .error failure
        | .ok name =>
            match take name reading.opened with
            | some (found, others) => reading.closeTag found others
            | none =>
                .error
                  (.badMarkup
                    ("closing tag '[" ++ tag ++ "]'" ++ atPlace place ++
                      " doesn't match any open tag"))
  | name => (Style.normal name).map fun name => reading.openTag name (tagValue tag)

/-- What is read when a piece is. -/
def applyPiece (reading : Reading) : Piece → Except Failure Reading
  | .shown t => .ok (reading.append t)
  | .tag tag place => applyTag reading tag place

def read (t : Text) : Except Failure Reading := (pieces t).foldlM applyPiece Reading.start

/-! ### Styles of what is shown -/

def endsPart (c : Char) : Bool := c = '\n' || c = '\t'

/-- The part of what is shown in which a stretch begins to be seen. What is shown has parts that end
with newlines and tabs; a stretch without a character other than newlines is seen only where there
is no more than one part. -/
def firstPart? (shown : Text) (span : Span) : Option Nat :=
  if !shown.any endsPart then some 0
  else
    let skipped := ((shown.drop span.start).takeWhile (· = '\n')).length
    let first := span.start + skipped
    if first < span.stop then some ((shown.take first).countP endsPart) else none

/-- The stretches that are seen, in the order in which they are. -/
def seenSpans (reading : Reading) : List Span :=
  let seen := reading.allSpans.filterMap fun span =>
    (firstPart? reading.shown span).map fun part => (part, span)
  (seen.mergeSort fun a b => a.1 ≤ b.1).map Prod.snd

/-- Reads the styles of stretches. One that tells no style changes nothing. -/
def readStyles (spans : List Span) : Except Failure Unit :=
  spans.forM fun span => (Style.read span.style).map fun _ => ()

/-- What marked text shows. -/
def plain (t : Text) : Except Failure Text := do
  let reading ← read t
  readStyles (seenSpans reading)
  pure reading.shown

end CueWatch.Console.Markup
