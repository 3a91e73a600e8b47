import CueWatch.Host.Basic

/-!
Contract: the user's home directory.

Owns:
- `home`, as the environment tells it or else the user's account, without slashes at its end and
  without idle parts.

Does not own: what is kept there.
-/

namespace CueWatch.Host

/-- The home directory as it is told. An environment that tells none leaves it to the user's
account, and without an account a tilde is all there is. -/
def homeTold (host : Host) : Text :=
  (host.environmentValue? "HOME").getD (host.accountHome.getD ['~'])

/-- The home directory without slashes at its end; all slashes and the empty text are the root. -/
def homeText (host : Host) : Text :=
  let written := Text.dropEndWhile (· == '/') host.homeTold
  if written.isEmpty then ['/'] else written

/-- The home directory; a text that begins with a tilde names none. -/
def home (host : Host) : Except Failure Pathname :=
  if host.homeText.head? = some '~' then .error .homeless else .ok (Pathname.ofText host.homeText)

end CueWatch.Host
