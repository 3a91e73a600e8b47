import CueWatch.Console.Literal.Token
import CueWatch.Text.Lines

/-!
Contract: literal values.

Owns:
- `Kind`, what has to be known of a value to say where it may stand;
- the grammar of values: numbers with a sign, sums with an imaginary number, texts, bytes, the words
  for truth and nothing, groups in parentheses and collections in braces;
- `isLiteral`, whether a text is written so.

Does not own: the parts of values (`Console.Literal.Token`).
-/

namespace CueWatch.Console.Literal

/-- What kind of value has been read. Only numbers take a sign, only an imaginary number is added to
another one, and what can change is no item of a collection in braces. -/
inductive Kind where
  | real
  | imaginary
  | signedReal
  | signedImaginary
  | fixed
  | changeable
deriving DecidableEq, Repr

/-- Whether a value can be an item of a collection in braces. -/
def Kind.isFixed (kind : Kind) : Bool := kind ≠ .changeable

/-- The kind of a number with a sign. -/
def Kind.signed? : Kind → Option Kind
  | .real => some .signedReal
  | .imaginary => some .signedImaginary
  | _ => none

/-- The kind of a group of values. -/
def groupKind (kinds : List Kind) : Kind :=
  if kinds.all Kind.isFixed then .fixed else .changeable

/-- Drops the quoted texts that continue a quoted text; they are all of one sort. -/
def dropTexts (isBytes : Bool) : List Token → Option (List Token)
  | .text more :: rest => if more = isBytes then dropTexts isBytes rest else none
  | rest => some rest

def isMark (c : Char) (token : Token) : Bool := token = .mark c

/-- Drops the word for the empty set, which may stand in parentheses. -/
def dropSet? : List Token → Option (List Token)
  | .word name :: rest => if name.map plainLetter = "set" then some rest else none
  | .mark c :: rest =>
      if c = '(' then
        match dropSet? rest with
        | some (.mark d :: rest) => if d = ')' then some rest else none
        | _ => none
      else none
  | _ => none

/-- Drops an empty set: its word and a pair of parentheses with nothing in them. -/
def dropEmptySet? (tokens : List Token) : Option (List Token) :=
  match dropSet? tokens with
  | some (.mark c :: .mark d :: rest) => if c = '(' && d = ')' then some rest else none
  | _ => none

mutual

/-- Reads a value: a number with or without a sign, perhaps with an imaginary number added, or
anything else. The count bounds the depth of the recursion. -/
def readValue : Nat → List Token → Option (Kind × List Token)
  | 0, _ => none
  | depth + 1, tokens =>
      let first :=
        match tokens with
        | token :: rest =>
            if isMark '+' token || isMark '-' token then
              match readPrimary depth rest with
              | some (kind, rest) => kind.signed?.map fun kind => (kind, rest)
              | none => none
            else readPrimary depth tokens
        | [] => none
      match first with
      | some (kind, token :: rest) =>
          if isMark '+' token || isMark '-' token then
            if kind = .real || kind = .signedReal then
              match readPrimary depth rest with
              | some (.imaginary, rest) => some (.fixed, rest)
              | _ => none
            else none
          else some (kind, token :: rest)
      | other => other

/-- Reads a value that is no sum and has no sign. -/
def readPrimary : Nat → List Token → Option (Kind × List Token)
  | 0, _ => none
  | depth + 1, tokens =>
      match dropEmptySet? tokens, tokens with
      | some rest, _ => some (.changeable, rest)
      | none, .number isImaginary :: rest => some (if isImaginary then .imaginary else .real, rest)
      | none, .text isBytes :: rest => (dropTexts isBytes rest).map fun rest => (.fixed, rest)
      | none, .ellipsis :: rest => some (.fixed, rest)
      | none, .word name :: rest =>
          if name = "True" || name = "False" || name = "None" then some (.fixed, rest) else none
      | none, .mark c :: rest =>
          if c = '(' then
            match readItems depth ')' rest with
            | some ([kind], false, rest) => some (kind, rest)
            | some (kinds, _, rest) => some (groupKind kinds, rest)
            | none => none
          else if c = openBrace then
            match readEntries depth rest with
            | some rest => some (.changeable, rest)
            | none => none
          else none
      | none, [] => none

/-- Reads the items of a group up to its closing mark; says whether the last one is followed by a
comma. -/
def readItems : Nat → Char → List Token → Option (List Kind × Bool × List Token)
  | 0, _, _ => none
  | depth + 1, close, tokens =>
      match tokens with
      | token :: rest =>
          if isMark close token then some ([], false, rest)
          else
            match readValue depth tokens with
            | some (kind, next :: rest) =>
                if isMark close next then some ([kind], false, rest)
                else if isMark ',' next then
                  match readItems depth close rest with
                  | some (kinds, endsWithComma, rest) =>
                      some (kind :: kinds, endsWithComma || kinds.isEmpty, rest)
                  | none => none
                else none
            | _ => none
      | [] => none

/-- Reads the items or the entries of a collection in braces up to the closing one. Keys and items
are fixed. -/
def readEntries : Nat → List Token → Option (List Token)
  | 0, _ => none
  | depth + 1, tokens =>
      match tokens with
      | token :: rest =>
          if isMark closeBrace token then some rest
          else
            match readValue depth tokens with
            | some (kind, next :: after) =>
                if !kind.isFixed then none
                else if isMark ':' next then readPairs depth after
                else
                  match readItems depth closeBrace tokens with
                  | some (kinds, _, rest) => if kinds.all Kind.isFixed then some rest else none
                  | none => none
            | _ => none
      | [] => none

/-- Reads the entries of a collection in braces after the colon of the first one. -/
def readPairs : Nat → List Token → Option (List Token)
  | 0, _ => none
  | depth + 1, tokens =>
      match readValue depth tokens with
      | some (_, next :: rest) =>
          if isMark closeBrace next then some rest
          else if isMark ',' next then
            match rest with
            | token :: after =>
                if isMark closeBrace token then some after
                else
                  match readValue depth rest with
                  | some (kind, colon :: after) =>
                      if kind.isFixed && isMark ':' colon then readPairs depth after else none
                  | _ => none
            | [] => none
          else none
      | _ => none

end

/-- Reads values between commas up to the end. -/
def isSequence : Nat → List Token → Bool
  | 0, _ => false
  | steps + 1, tokens =>
      match readValue (4 * tokens.length + 4) tokens with
      | some (_, []) => true
      | some (_, [token]) => isMark ',' token
      | some (_, token :: rest) => isMark ',' token && isSequence steps rest
      | none => false

/-- Whether a text is written as a literal value, or as several with commas between them. -/
def isLiteral (t : Text) : Bool :=
  !t.contains (Char.ofNat 0) &&
    let t := Text.universalNewlines t
    match readTokens t.length (.margin 0 0) 0 t with
    | some tokens => isSequence (tokens.length + 1) tokens
    | none => false

end CueWatch.Console.Literal
