import CueWatch.Panel.Markup.Tag
import CueWatch.Panel.Markup.Theme

/-!
Contract: what tags of the status bar tell, and the form in which they are compared.

Owns:
- `Form` and `Form.read?`, which reads what is written in a tag;
- `Form.text`, which tells the same in a fixed order;
- `formOf`, by which a closing tag finds the tag that it closes.

Does not own: which tags are open (`Panel.Markup.Balance`).
-/

namespace CueWatch.Panel.Markup

/-- What a tag tells, and how the words after those read so far are meant: for the background or
not, and for a trait to be present or absent. -/
structure Form where
  traits : Keyed Text Bool
  colour : Option Colour
  background : Option Colour
  hasLink : Bool
  keys : List Text
  isBackground : Bool
  isPresent : Bool
deriving DecidableEq, Repr

namespace Form

def plain : Form := ⟨[], none, none, false, [], false, true⟩

def traitNames : List Text :=
  ["bold", "dim", "italic", "underline", "underline2", "strike", "blink"]

/-- A trait that a tag may name but that no form tells. -/
def untoldTrait : Text := "reverse"

def shortNames : List (Text × Text) :=
  [ ("b", "bold"), ("d", "dim"), ("i", "italic"), ("u", "underline"), ("uu", "underline2"),
    ("r", untoldTrait), ("s", "strike") ]

def trait? (word : Text) : Option Text :=
  if traitNames.contains word || word = untoldTrait then some word
  else Keyed.find? word shortNames

/-- The colour, or that of the background if this is meant. -/
def current (form : Form) : Option Colour :=
  if form.isBackground then form.background else form.colour

/-- The form with a colour, or with one of the background if this is meant. -/
def paint (form : Form) (colour : Option Colour) : Form :=
  if form.isBackground then { form with background := colour } else { form with colour := colour }

/-- The form after a word; other words tell nothing. -/
def afterWord? (form : Form) (word : Text) : Option Form :=
  if word = "link" then some { form with hasLink := true }
  else if word = "on" then some { form with isBackground := true }
  else if word = "not" then some { form with isPresent := false }
  else if word = "auto" then some (form.paint (some (.automatic Colour.full)))
  else
    match trait? word with
    | some trait =>
        some { form with traits := Keyed.put trait form.isPresent form.traits, isPresent := true }
    | none => (Colour.ofName? word).map fun colour => form.paint (some colour)

/-- The form after a word that a variable stands for. A number of parts of a hundred says nothing
there. -/
def afterThemeWord? (form : Form) (word : Text) : Option Form :=
  match word with
  | '#' :: digits =>
      (Colour.readHex? digits).map fun found => form.paint (some found.1)
  | _ => if word.getLast? = some '%' then some form else form.afterWord? word

/-- The form after a key. -/
def afterKey (form : Form) (name : Text) : Form :=
  if name = "link" then { form with hasLink := true }
  else if form.keys.contains name then form
  else { form with keys := form.keys ++ [name] }

/-- The form after an item. Parts of a hundred fade the colour before them. -/
def afterItem? (form : Form) : Item → Option Form
  | .key name => some (form.afterKey name)
  | .percent parts => parts.map fun parts => form.paint (form.current.map (Colour.faded parts))
  | .colour colour => colour.map fun colour => form.paint (some colour)
  | .word word => form.afterWord? word
  | .variable name => do (← Theme.find? name).foldlM afterThemeWord? form
  | .blank => some form

/-- The text after the rest of a value that ends at a blank, unless that stands between
parentheses, or with the parenthesis that closes the outermost one. The level is that of the
parentheses. -/
def afterValue? : Nat → Nat → Text → Option Text
  | 0, _, _ => some []
  | _ + 1, _, [] => some []
  | steps + 1, level, c :: rest =>
      if Text.isBlank c then if level = 0 then some rest else afterValue? steps level rest
      else if c = '(' then afterValue? steps (level + 1) rest
      else if c = ')' then
        match level with
        | 0 => none
        | 1 => some rest
        | level + 1 => afterValue? steps level rest
      else
        match Mark.ofChar? c with
        | some .quote => do afterValue? steps level (← afterQuote? c rest)
        | some _ => afterValue? steps level rest
        | none => none

/-- The text after the blanks at its start, which end with their line. -/
def afterBlanks : Text → Text
  | [] => []
  | c :: rest =>
      if Text.isLineBreak c then rest else if Text.isBlank c then afterBlanks rest else c :: rest

/-- The text after the value of a key. A value in quotes is the last thing that counts. The first
mark of another one opens no level, and blanks may come first. -/
def afterKeyValue? (t : Text) : Option Text :=
  match t with
  | [] => some []
  | c :: rest =>
      match Mark.ofChar? c with
      | some .quote => (afterQuote? c rest).map fun _ => []
      | some _ =>
          afterValue? t.length 0 (if Text.isBlank c then afterBlanks (c :: rest) else rest)
      | none => none

/-- Reads items after those that have told a form so far. Quoted texts say nothing. The count bounds
the steps; the length of the text is enough. -/
def readFrom? : Nat → Form → Text → Option Form
  | 0, form, _ => some form
  | _ + 1, form, [] => some form
  | steps + 1, form, c :: rest =>
      match Item.read? (c :: rest) with
      | some (.key name, after) => do readFrom? steps (form.afterKey name) (← afterKeyValue? after)
      | some (item, after) => do readFrom? steps (← form.afterItem? item) after
      | none =>
          if c = Text.singleQuote || c = Text.doubleQuote then do
            readFrom? steps form (← afterQuote? c rest)
          else none

def read? (t : Text) : Option Form := readFrom? t.length plain t

def traitWords (form : Form) (trait : Text) : List Text :=
  match Keyed.find? trait form.traits with
  | some true => [trait]
  | some false => ["not " ++ trait]
  | none => []

def colourWords (form : Form) : List Text :=
  (form.colour.map Colour.text).toList ++
    (form.background.map fun colour => ("on " : Text) ++ colour.text).toList

/-- How a link and keys are told. -/
def keyWords (form : Form) : List Text :=
  (if form.hasLink then [("link" : Text)] else []) ++ form.keys.map fun name => name ++ ['=']

def text (form : Form) : Text :=
  Text.join [' '] (form.colourWords ++ traitNames.flatMap form.traitWords ++ form.keyWords)

end Form

/-- The form in which a tag is compared: what it tells, or what is written in it if it tells nothing
that can be read. -/
def formOf (written : Text) : Text :=
  let name := Text.trim written
  match Form.read? name with
  | some form => form.text
  | none => name

end CueWatch.Panel.Markup
