import CueWatch.Panel.Markup.Form
import CueWatch.Text.Control

/-!
Contract: which texts the status bar can show.

In the text of the bar, square brackets hold tags. A tag that closes has to have one to close.

Owns:
- `openTag` and `closeTag`, what tags do to the tags that are open;
- `check`, which fails on a text whose tags the bar cannot read.

Does not own: what the bar tells (`Panel.StatusBar`).
-/

namespace CueWatch.Panel.Markup

/-- The tags that are open after an opening tag, innermost first. One that has text in it, is not
closed by a bracket or is blank is shown as it is. -/
def openTag (opened : List Text) (tag : Tag) : List Text :=
  if tag.isClosed && !tag.hasText && !Text.isBlankText tag.written then
    formOf tag.written :: opened
  else opened

/-- The tags that stay open after a closing tag. One that tells nothing closes the innermost tag,
any other the innermost one of the same form. -/
def closeTag (opened : List Text) (tag : Tag) : Except Failure (List Text) :=
  let form := formOf tag.written
  if form.isEmpty then
    match opened with
    | _ :: outer => .ok outer
    | [] => .error (.badMarkup "auto closing tag ('[/]') has nothing to close")
  else if opened.contains form then .ok (opened.erase form)
  else
    .error
      (.badMarkup
        ("closing tag '[/" ++ Text.trim tag.written ++ "]' does not match any open tag"))

/-- Checks a text after some tags have been opened and some levels been left open in their values.
The count bounds the steps; the length of the text is enough. -/
def checkFrom : Nat → List Text → Nat → Text → Except Failure Unit
  | 0, _, _, _ => .ok ()
  | _ + 1, _, _, [] => .ok ()
  | _ + 1, _, _, [_] => .ok ()
  | steps + 1, opened, levels, c :: d :: rest =>
      if c = Text.backslash && d = '[' then checkFrom steps opened levels rest
      else if c ≠ '[' then checkFrom steps opened levels (d :: rest)
      else if d = '/' then do
        let (tag, levels, rest) ← Tag.read levels rest
        checkFrom steps (← closeTag opened tag) levels rest
      else do
        let (tag, levels, rest) ← Tag.read levels (d :: rest)
        checkFrom steps (openTag opened tag) levels rest

/-- Checks the tags of a text. -/
def check (t : Text) : Except Failure Unit :=
  let shown := Text.withoutControls t
  checkFrom shown.length [] 0 shown

end CueWatch.Panel.Markup
