import CueWatch.Console.Colour
import CueWatch.Text.CharacterName
import CueWatch.Text.WordChar

/-!
Contract: the parts that literal values are written with.

Owns:
- `Token`, and the reading of numbers and of quoted texts with their escapes;
- `Place`, where a part stands on its line;
- `readTokens`, which reads all parts: the first line with parts begins without blanks, and later
  lines hold some only within parentheses or braces.

Square brackets are no parts, as they cannot stand inside a tag.

Does not own: which parts make a value (`Console.Literal.Value`).
-/

namespace CueWatch.Console.Literal

inductive Token where
  | number (isImaginary : Bool)
  | text (isBytes : Bool)
  | word (name : Text)
  | mark (c : Char)
  | ellipsis
deriving DecidableEq, Repr

/-! ### Numbers -/

/-- Reads digits among which single underscores may stand, with what follows them. An underscore
stands between digits only. -/
def readDigits (isDigit : Char → Bool) : Text → Text × Text
  | [] => ([], [])
  | [c] => if isDigit c then ([c], []) else ([], [c])
  | c :: d :: rest =>
      if !isDigit c then ([], c :: d :: rest)
      else if d = '_' then
        match rest with
        | e :: _ =>
            if isDigit e then
              let (digits, rest) := readDigits isDigit rest
              (c :: digits, rest)
            else ([c], d :: rest)
        | [] => ([c], [d])
      else
        let (digits, rest) := readDigits isDigit (d :: rest)
        (c :: digits, rest)

def isDecimalDigit (c : Char) : Bool := '0' ≤ c && c ≤ '9'

/-- The digits of numbers with a base that a letter after a zero tells. -/
def baseDigits? (letter : Char) : Option (Char → Bool) :=
  if letter = 'x' || letter = 'X' then
    some fun c => Colour.isHexDigit c || ('A' ≤ c && c ≤ 'F')
  else if letter = 'o' || letter = 'O' then some fun c => '0' ≤ c && c ≤ '7'
  else if letter = 'b' || letter = 'B' then some fun c => c = '0' || c = '1'
  else none

/-- Reads the digits of a number after its base, where an underscore may come first. -/
def readBased (isDigit : Char → Bool) (t : Text) : Option Text :=
  let digits :=
    match t with
    | '_' :: rest => rest
    | _ => t
  match readDigits isDigit digits with
  | ([], _) => none
  | (_, rest) => some rest

def readExponent (t : Text) : Bool × Text :=
  match t with
  | letter :: rest =>
      if letter = 'e' || letter = 'E' then
        let unsigned :=
          match rest with
          | '+' :: digits => digits
          | '-' :: digits => digits
          | _ => rest
        match readDigits isDecimalDigit unsigned with
        | ([], _) => (false, t)
        | (_, rest) => (true, rest)
      else (false, t)
  | [] => (false, [])

def digitLimit : Nat := Failure.digitLimit

/-- Reads a decimal number. A whole number other than zero does not begin with a zero. -/
def readDecimal (t : Text) : Option (Token × Text) :=
  let (whole, rest) := readDigits isDecimalDigit t
  let (hasPoint, fraction, rest) :=
    match rest with
    | '.' :: rest =>
        let (fraction, rest) := readDigits isDecimalDigit rest
        (true, fraction, rest)
    | _ => (false, [], rest)
  if whole.isEmpty && fraction.isEmpty then none
  else
    let (hasExponent, rest) := readExponent rest
    match rest with
    | letter :: after =>
        if letter = 'j' || letter = 'J' then some (.number true, after)
        else if hasPoint || hasExponent then some (.number false, rest)
        else if whole.head? = some '0' && whole.any (· ≠ '0') then none
        else if digitLimit < whole.length then none
        else some (.number false, rest)
    | [] =>
        if hasPoint || hasExponent then some (.number false, [])
        else if whole.head? = some '0' && whole.any (· ≠ '0') then none
        else if digitLimit < whole.length then none
        else some (.number false, [])

def readNumber (t : Text) : Option (Token × Text) :=
  match t with
  | '0' :: letter :: rest =>
      match baseDigits? letter with
      | some isDigit => (readBased isDigit rest).map fun rest => (.number false, rest)
      | none => readDecimal t
  | _ => readDecimal t

/-! ### Texts -/

/-- How a quoted text is to be read. -/
structure Quotation where
  quote : Char
  isTriple : Bool
  isRaw : Bool
  isBytes : Bool
deriving DecidableEq, Repr

def escapeWidth (quotation : Quotation) (letter : Char) : Nat :=
  if quotation.isRaw then 0
  else if letter = 'x' then 2
  else if quotation.isBytes then 0
  else if letter = 'u' then 4
  else if letter = 'U' then 8
  else 0

def hasCode (width : Nat) (t : Text) : Bool :=
  let digits := t.take width
  digits.length = width && digits.all (fun c => Colour.isHexDigit c || ('A' ≤ c && c ≤ 'F')) &&
    (width < 8 || (digits.take 2 = ['0', '0'] &&
      (digits[2]? = some '0' || digits.take 4 = ['0', '0', '1', '0'])))

def openBrace : Char := Char.ofNat 0x7B

def closeBrace : Char := Char.ofNat 0x7D

def hasName (t : Text) : Bool :=
  match t with
  | c :: rest =>
      let name := rest.takeWhile (· ≠ closeBrace)
      c = openBrace && name.length < rest.length && Text.CharacterName.isKnown name
  | [] => false

/-- Whether an escape tells a character by its name. -/
def isNamedEscape (quotation : Quotation) (letter : Char) : Bool :=
  letter = 'N' && !quotation.isRaw && !quotation.isBytes

/-- Whether what follows a backslash, a letter and then the given text, is an escape. -/
def isEscape (quotation : Quotation) (letter : Char) (t : Text) : Bool :=
  if isNamedEscape quotation letter then hasName t else hasCode (escapeWidth quotation letter) t

/-- Reads a quoted text after its opening quotes, and gives what follows the closing ones. -/
def readQuoted (quotation : Quotation) : Text → Option Text
  | [] => none
  | [c] => if c = quotation.quote && !quotation.isTriple then some [] else none
  | c :: d :: rest =>
      if c = Text.backslash then
        if !isEscape quotation d rest then none
        else if quotation.isBytes && 0x80 ≤ d.toNat then none
        else readQuoted quotation rest
      else if c = quotation.quote then
        if !quotation.isTriple then some (d :: rest)
        else if d = quotation.quote && rest.head? = some quotation.quote then some rest.tail
        else readQuoted quotation (d :: rest)
      else if c = '\n' && !quotation.isTriple then none
      else if quotation.isBytes && 0x80 ≤ c.toNat then none
      else readQuoted quotation (d :: rest)

/-- How the letters before a quote want the text to be read; other letters want nothing. -/
def quotation? (letters : Text) (quote : Char) (isTriple : Bool) : Option Quotation :=
  let letters := letters.map Char.toLower
  if letters = "" || letters = "u" then some ⟨quote, isTriple, false, false⟩
  else if letters = "r" then some ⟨quote, isTriple, true, false⟩
  else if letters = "b" then some ⟨quote, isTriple, false, true⟩
  else if letters = "br" || letters = "rb" then some ⟨quote, isTriple, true, true⟩
  else none

/-- Reads a quoted text after the letters before its quotes. -/
def readText (letters : Text) (t : Text) : Option (Token × Text) :=
  match t with
  | quote :: rest =>
      let isTriple := rest.take 2 = [quote, quote]
      match quotation? letters quote isTriple with
      | none => none
      | some quotation =>
          (readQuoted quotation (if isTriple then rest.drop 2 else rest)).map fun rest =>
            (.text quotation.isBytes, rest)
  | [] => none

/-! ### Tokens -/

def isQuote (c : Char) : Bool := c = Text.singleQuote || c = Text.doubleQuote

/-- The letters of the word for the empty set in their other forms: raised, lowered, wide and in the
typefaces of mathematics. Words that hold further letters from outside ASCII name nothing. -/
def otherForms : List (Char × List Nat) :=
  [ ('s', [0x17F, 0x2E2, 0x209B, 0xFF53, 0x1D42C, 0x1D460, 0x1D494, 0x1D4C8, 0x1D4FC, 0x1D530,
      0x1D564, 0x1D598, 0x1D5CC, 0x1D600, 0x1D634, 0x1D668, 0x1D69C]),
    ('e', [0x1D49, 0x2091, 0x212F, 0x2147, 0xFF45, 0x1D41E, 0x1D452, 0x1D486, 0x1D4EE, 0x1D522,
      0x1D556, 0x1D58A, 0x1D5BE, 0x1D5F2, 0x1D626, 0x1D65A, 0x1D68E]),
    ('t', [0x1D57, 0x209C, 0xFF54, 0x1D42D, 0x1D461, 0x1D495, 0x1D4C9, 0x1D4FD, 0x1D531, 0x1D565,
      0x1D599, 0x1D5CD, 0x1D601, 0x1D635, 0x1D669, 0x1D69D]) ]

def plainLetter (c : Char) : Char :=
  match otherForms.find? fun letter => letter.2.contains c.toNat with
  | some letter => letter.1
  | none => c

def startsWord (c : Char) : Bool :=
  let c := plainLetter c
  ('a' ≤ c && c ≤ 'z') || ('A' ≤ c && c ≤ 'Z') || c = '_'

def continuesWord (c : Char) : Bool := startsWord c || isDecimalDigit c

def marks : Text := "(){},:+-".map id

/-- Whether what follows a number does not run into it. -/
def isApart (t : Text) : Bool :=
  match t with
  | c :: _ => !continuesWord c && c.toNat < 0x80
  | [] => true

/-- Reads the next token of a text that does not begin with a blank. -/
def readToken (t : Text) : Option (Token × Text) :=
  match t with
  | [] => none
  | c :: rest =>
      if isDecimalDigit c || (c = '.' && (rest.head?.map isDecimalDigit).getD false) then
        match readNumber t with
        | some (token, rest) => if isApart rest then some (token, rest) else none
        | none => none
      else if isQuote c then readText [] t
      else if startsWord c then
        let word := t.takeWhile continuesWord
        let rest := t.dropWhile continuesWord
        match rest with
        | d :: _ => if isQuote d then readText word rest else some (.word word, rest)
        | [] => some (.word word, [])
      else if t.take 3 = ['.', '.', '.'] then some (.ellipsis, t.drop 3)
      else if marks.contains c then some (.mark c, rest)
      else none

def nestingLimit : Nat := 200

/-- The nesting after a token; a closing mark ends one level. -/
def nestingAfter (nesting : Nat) : Token → Nat
  | .mark c =>
      if c = '(' || c = openBrace then nesting + 1
      else if c = ')' || c = closeBrace then nesting - 1
      else nesting
  | _ => nesting

/-- Where tokens stand on their lines, outside parentheses and braces. -/
inductive Place where
  /-- Only blanks stand before on this line, up to a column. A line that continues one with blanks
  at its start is held at the column of those. -/
  | margin (column held : Nat)
  | inside
  | ended
deriving DecidableEq, Repr

def Place.afterBlank (blank : Char) : Place → Place
  | .margin column held =>
      if blank = '\t' then .margin ((column / 8 + 1) * 8) held
      else if blank = ' ' then .margin (column + 1) held
      else .margin 0 held
  | place => place

/-- The place after a newline. Tokens within parentheses or braces go on on the next line. -/
def Place.afterNewline (nesting : Nat) : Place → Place
  | .margin _ _ => .margin 0 0
  | .inside => if nesting = 0 then .ended else .inside
  | .ended => .ended

def Place.afterContinuation : Place → Place
  | .margin column held => .margin column (if held = 0 then column else held)
  | place => place

/-- Whether a token may stand here: on the first line with tokens, which begins without blanks. -/
def Place.takesToken : Place → Bool
  | .margin column held => column = 0 && held = 0
  | .inside => true
  | .ended => false

/-- Reads all tokens. Between parentheses and braces newlines may stand, and remarks anywhere. The
count bounds the steps; the length of the text is enough. -/
def readTokens : Nat → Place → Nat → Text → Option (List Token)
  | _, _, _, [] => some []
  | 0, _, _, _ :: _ => none
  | steps + 1, place, nesting, c :: rest =>
      if c = ' ' || c = '\t' || c = Char.ofNat 12 then
        readTokens steps (place.afterBlank c) nesting rest
      else if c = '\n' then readTokens steps (place.afterNewline nesting) nesting rest
      else if c = '#' then readTokens steps place nesting (rest.dropWhile (· ≠ '\n'))
      else if c = Text.backslash then
        match rest with
        | '\n' :: d :: rest => readTokens steps place.afterContinuation nesting (d :: rest)
        | _ => none
      else if !place.takesToken then none
      else
        match readToken (c :: rest) with
        | none => none
        | some (token, rest) =>
            let nesting := nestingAfter nesting token
            if nestingLimit < nesting then none
            else (readTokens steps .inside nesting rest).map (token :: ·)

end CueWatch.Console.Literal
