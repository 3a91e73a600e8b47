import CueWatch.Text.Basic
import CueWatch.Text.CharacterName.AToB
import CueWatch.Text.CharacterName.CToD
import CueWatch.Text.CharacterName.EToJ
import CueWatch.Text.CharacterName.KToM
import CueWatch.Text.CharacterName.NToR
import CueWatch.Text.CharacterName.SToZ

/-!
Contract: the names of characters, as the standard of characters gives them, with their other names
and abbreviations.

Owns:
- the notation of the tables of names;
- the families whose members are counted through or spelled by rule;
- `isKnown`, whether a text is the name of a character.

In a table every word of a name is followed, in parentheses, by the words that may come after it,
with blanks or newlines between them. A name ends with a word that nothing follows, or with one that
a point stands after.

Does not own: which character a name belongs to.
-/

namespace CueWatch.Text.CharacterName

/-! ### Tables -/

/-- What stands after a word in a row of entries: its point, its parentheses, or what parts it from
the next entry. Entries within parentheses, which are `depth` levels deep, belong to other words.
What is left to compare of the word is none while another entry is passed over. -/
def afterWord? (word : Text) (depth : Nat) (left : Option Text) : Text → Option Text
  | [] => if depth = 0 && left = some [] then some [] else none
  | c :: rest =>
      if 0 < depth then
        if c = '(' then afterWord? word (depth + 1) none rest
        else if c = ')' then afterWord? word (depth - 1) none rest
        else afterWord? word depth none rest
      else if c = ' ' || c = '\n' || c = ')' || c = '(' || c = '.' then
        if left = some [] then some (c :: rest)
        else if c = ')' then none
        else if c = '(' then afterWord? word 1 none rest
        else if c = '.' then afterWord? word 0 none rest
        else afterWord? word 0 (some word) rest
      else
        match left with
        | some (d :: more) => afterWord? word 0 (if c = d then some more else none) rest
        | _ => afterWord? word 0 none rest

/-- Whether a name may end where a word does. -/
def endsName : Text → Bool
  | '(' :: _ => false
  | _ => true

/-- The entries in the parentheses after a word. -/
def inner? : Text → Option Text
  | '(' :: entries => some entries
  | '.' :: '(' :: entries => some entries
  | _ => none

/-- Whether words in order are a name in a row of entries. -/
def isListed : List Text → Text → Bool
  | [], _ => false
  | [word], entries =>
      match afterWord? word 0 (some word) entries with
      | some after => endsName after
      | none => false
  | word :: next :: more, entries =>
      match (afterWord? word 0 (some word) entries).bind inner? with
      | some entries => isListed (next :: more) entries
      | none => false

def tables : List String := [fromAToB, fromCToD, fromEToJ, fromKToM, fromNToR, fromSToZ]

/-! ### Families -/

/-- The value of a digit in capitals, of base sixteen at most. -/
def digit? (c : Char) : Option Nat :=
  if '0' ≤ c && c ≤ '9' then some (c.toNat - 48)
  else if 'A' ≤ c && c ≤ 'F' then some (c.toNat - 55)
  else none

/-- The number that a text of digits writes, without zeros before it up to a width. -/
def number? (base width : Nat) (t : Text) : Option Nat :=
  let digits := t.filterMap digit?
  if digits.length = t.length && digits.all (· < base) && width ≤ t.length &&
      (t.length = width || t.head? ≠ some '0') then
    some (digits.foldl (fun n digit => base * n + digit) 0)
  else none

/-- A family of characters that is counted through: what the names begin with, the base and the
least width of the numbers, and their ranges. -/
structure Family where
  beginning : Text
  base : Nat
  width : Nat
  ranges : List (Nat × Nat)
deriving DecidableEq, Repr

/-- The families that are counted through. -/
def countedFamilies : List Family :=
  [ ⟨"CJK COMPATIBILITY IDEOGRAPH-", 16, 4,
      [(0xF900, 0xFA6D), (0xFA70, 0xFAD9), (0x2F800, 0x2FA1D)]⟩,
    ⟨"KHITAN SMALL SCRIPT CHARACTER-", 16, 5, [(0x18B00, 0x18CD5)]⟩,
    ⟨"NUSHU CHARACTER-", 16, 5, [(0x1B170, 0x1B2FB)]⟩,
    ⟨"TANGUT COMPONENT-", 10, 3, [(1, 768)]⟩,
    ⟨"VARIATION SELECTOR-", 10, 1, [(1, 256)]⟩,
    ⟨"VS", 10, 1, [(1, 256)]⟩ ]

def after? (beginning t : Text) : Option Text :=
  if beginning.isPrefixOf t then some (t.drop beginning.length) else none

def isWithin (ranges : List (Nat × Nat)) (n : Nat) : Bool :=
  ranges.any fun range => range.1 ≤ n && n ≤ range.2

/-- Whether a text is the name of a member of a family that is counted through. -/
def isCounted (t : Text) : Bool :=
  countedFamilies.any fun family =>
    match (after? family.beginning t).bind (number? family.base family.width) with
    | some n => isWithin family.ranges n
    | none => false

/-- Whether digits increase from the first to the last. -/
def increases : Text → Bool
  | c :: d :: rest => c < d && increases (d :: rest)
  | _ => true

/-- Whether a text is the name of a pattern of raised dots, which are told by their numbers. -/
def isDots (t : Text) : Bool :=
  match after? "BRAILLE PATTERN DOTS-" t with
  | some dots => !dots.isEmpty && dots.all (fun c => '1' ≤ c && c ≤ '8') && increases dots
  | none => false

/-- The ranges of ideographs. -/
def ideographRanges : List (Nat × Nat) :=
  [ (0x3400, 0x4DBF), (0x4E00, 0x9FFF), (0x20000, 0x2A6DF), (0x2A700, 0x2B738),
    (0x2B740, 0x2B81D), (0x2B820, 0x2CEA1), (0x2CEB0, 0x2EBE0), (0x30000, 0x3134A) ]

/-- Whether a text is the name of an ideograph, which four or five digits tell. -/
def isIdeograph (t : Text) : Bool :=
  match after? "CJK UNIFIED IDEOGRAPH-" t with
  | some digits =>
      let values := digits.filterMap digit?
      let n := values.foldl (fun n value => 16 * n + value) 0
      values.length = digits.length && (digits.length = 4 || digits.length = 5) &&
        isWithin ideographRanges n
  | none => false

/-- The sounds that a syllable begins with; it may begin without one. -/
def initials : List Text :=
  [ "GG", "DD", "BB", "SS", "JJ", "G", "N", "D", "R", "M", "B", "S", "J", "C", "K", "T", "P",
    "H", "" ]

/-- The vowels of syllables, longer ones before those they begin with. -/
def vowels : List Text :=
  [ "YAE", "YEO", "WAE", "AE", "YA", "EO", "YE", "WA", "OE", "YO", "WEO", "WE", "WI", "YU", "EU",
    "YI", "A", "E", "O", "U", "I" ]

/-- The sounds that a syllable ends with, longer ones before those they begin with; it may end
without one. -/
def finals : List Text :=
  [ "GG", "GS", "NJ", "NH", "LG", "LM", "LB", "LS", "LT", "LP", "LH", "BS", "SS", "NG", "G", "N",
    "D", "L", "M", "B", "S", "J", "C", "K", "T", "P", "H", "" ]

/-- What follows the longest of some sounds that a text begins with. -/
def afterSound? (sounds : List Text) (t : Text) : Option Text :=
  sounds.findSome? fun sound => after? sound t

/-- Whether a text is the name of a syllable, which is told by its sounds. -/
def isSyllable (t : Text) : Bool :=
  match after? "HANGUL SYLLABLE " t with
  | some sounds =>
      match ((afterSound? initials sounds).bind (afterSound? vowels)).bind (afterSound? finals) with
      | some rest => rest.isEmpty
      | none => false
  | none => false

/-! ### Names -/

/-- Whether a text is the name of a character. Small letters stand for capitals, except in the names
of ideographs and syllables. -/
def isKnown (name : Text) : Bool :=
  if isIdeograph name || isSyllable name then true
  else
    let name := name.map Char.toUpper
    let words := Text.splitOn ' ' name
    isCounted name || isDots name ||
      (words.all (!·.isEmpty) && tables.any fun table => isListed words table.toList)

end CueWatch.Text.CharacterName
