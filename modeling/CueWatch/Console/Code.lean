import CueWatch.Text.Blank

/-!
Contract: the codes in a text that stand for pictures.

A code is a name between two colons, without blanks and without colons in it. Codes do not overlap:
the colon that ends one does not begin another, whether there is a picture for it or not.

Owns:
- `replaceCodes`, which puts pictures in place of the codes that have one.

Does not own: which names have a picture (`Console`).
-/

namespace CueWatch.Console

/-- A text as it was written that may become a code: the colon and the name so far, its last
character first. Without it no code has begun. -/
def begun : Option Text → Text
  | none => []
  | some name => ':' :: name.reverse

/-- Puts pictures in place of codes, of which one may have begun. -/
def replaceCodesFrom (picture : Text → Option Text) : Option Text → Text → Text
  | code, [] => begun code
  | none, c :: rest =>
      if c = ':' then replaceCodesFrom picture (some []) rest
      else c :: replaceCodesFrom picture none rest
  | some name, c :: rest =>
      if c = ':' then
        (picture name.reverse).getD (begun (some name) ++ [':']) ++
          replaceCodesFrom picture none rest
      else if Text.isBlank c then
        begun (some name) ++ c :: replaceCodesFrom picture none rest
      else replaceCodesFrom picture (some (c :: name)) rest

/-- Puts pictures in place of the codes that have one. -/
def replaceCodes (picture : Text → Option Text) (t : Text) : Text :=
  replaceCodesFrom picture none t

end CueWatch.Console
