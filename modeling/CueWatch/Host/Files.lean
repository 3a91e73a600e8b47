import CueWatch.Host.Basic

/-!
Contract: the operations on files, with the errors that the file system gives.

Owns:
- looking: `exists?`, `isPresent`, `isDirectory?`, `list`, `readText`;
- changing: `writeContent`, `makeDirectory`, `removeTree`, `remove`, `changeDirectory`;
- two ways to make a directory with those above it: `makeDirectories`, which climbs when a
  directory turns out to be missing, and `makeTree`, which first looks what is there;
- `canonical` paths and `settled` ones, which refuse circles of links;
- fresh temporary directories.

Does not own: what the files are for.
-/

namespace CueWatch.Host

def refusal (error : SystemError) (path : Text) : Failure := .system error path

def walk (followLast : Bool) (path : Text) (host : Host) : Except Failure FileTree.Place :=
  if path.contains FileTree.null then .error .nullInPath
  else
    match host.tree.walk host.workingDirectory followLast path with
    | .ok place => .ok place
    | .error error => .error (refusal error path)

def find (followLast : Bool) (path : Text) (host : Host) :
    Except Failure (FileTree.Spot × Entry) :=
  if path.contains FileTree.null then .error .nullInPath
  else
    match host.tree.find host.workingDirectory followLast path with
    | .ok found => .ok found
    | .error error => .error (refusal error path)

def exists? (path : Text) (host : Host) : Bool :=
  match host.find true path with
  | .ok _ => true
  | .error _ => false

/-- Whether a path leads to something; that a name is too long counts as a failure here. -/
def isPresent (path : Text) (host : Host) : Except Failure Bool :=
  match host.find true path with
  | .ok _ => .ok true
  | .error failure =>
      match failure with
      | .system .nameTooLong _ => .error failure
      | _ => .ok false

def isDirectory? (path : Text) (host : Host) : Bool :=
  match host.find true path with
  | .ok (_, .directory) => true
  | _ => false

/-- Fails with what the file system says about a path. -/
def refuse {α : Type} (error : SystemError) (path : Text) : Attempt Host α :=
  Attempt.fail (refusal error path)

def list (path : Text) (host : Host) : Except Failure (List Text) :=
  match host.find true path with
  | .error failure => .error failure
  | .ok (spot, .directory) =>
      .ok (if spot.lost = 0 then host.tree.children spot.path else [])
  | .ok _ => .error (refusal .notDirectory path)

def content (path : Text) (host : Host) : Except Failure Content :=
  match host.find true path with
  | .error failure => .error failure
  | .ok (_, .file content) => .ok content
  | .ok _ => .error (refusal .isDirectory path)

/-- The text of the file at a path, its lines ending with newlines. -/
def readText (path : Text) (host : Host) : Except Failure Text :=
  match host.content path with
  | .error failure => .error failure
  | .ok content =>
      match content.read with
      | .ok text => .ok text
      | .error fault => .error (.undecodable fault)

def placeEntry (place : Path) (entry : Entry) : Attempt Host Unit :=
  Attempt.change fun host => { host with tree := host.tree.place place entry }

/-- The place that a path leads to when slashes at its end do not count; a link there is not
followed. Complaints are about the path as it is written. -/
def lastPlace (path : Text) (host : Host) : Except Failure FileTree.Place :=
  match host.walk false (Spelling.withoutEndSlashes path) with
  | .error (.system error _) => .error (refusal error path)
  | outcome => outcome

/-- Writes a file, replacing what it held. A path that ends with a slash asks for a directory. -/
def writeContent (path : Text) (content : Content) : Attempt Host Unit := do
  if Spelling.endsWithSlash path then
    let _ ← Attempt.require (lastPlace path)
    refuse .isDirectory path
  else
    match ← Attempt.require (walk true path) with
    | .free place asDirectory =>
        if asDirectory then refuse .isDirectory path else placeEntry place (.file content)
    | .taken spot =>
        match ← Attempt.look fun host => host.tree.entryAt? spot with
        | some (.file _) => placeEntry spot.path (.file content)
        | _ => refuse .isDirectory path

def writeText (path : Text) (text : Text) : Attempt Host Unit := writeContent path (.text text)

/-- Makes one directory; its parent must exist. Slashes at the end of the path do not matter. -/
def makeDirectory (path : Text) : Attempt Host Unit := do
  match ← Attempt.require (lastPlace path) with
  | .free place _ => placeEntry place .directory
  | .taken _ => refuse .alreadyExists path

/-- Makes a directory, which may be there already. -/
def ensureDirectory (path : Text) : Attempt Host Unit :=
  (makeDirectory path).rescue fun failure => do
    if ← Attempt.look (isDirectory? path) then pure () else Attempt.fail failure

/-- Makes a directory and, if its parent is missing, that one first. The count bounds the steps up;
the number of parts is enough. -/
def makeDirectoriesFrom : Nat → Pathname → Attempt Host Unit
  | 0, path => makeDirectory path.text
  | upward + 1, path =>
      (makeDirectory path.text).rescue fun failure => do
        if failure.isMissingFile then
          if path.parent = path then Attempt.fail failure
          else
            makeDirectoriesFrom upward path.parent
            ensureDirectory path.text
        else if ← Attempt.look (isDirectory? path.text) then pure ()
        else Attempt.fail failure

/-- Makes a directory with its parents; it may be there already. -/
def makeDirectories (path : Pathname) : Attempt Host Unit :=
  makeDirectoriesFrom (path.parts.length + 1) path

/-- The path that ends with the last name of a path: without the slashes at its end. -/
def treePath (path : Text) : Text :=
  if Spelling.name path = [] then Spelling.directory path else path

theorem length_treePath_le (path : Text) : (treePath path).length ≤ path.length := by
  unfold treePath
  split
  · exact (Spelling.directory_isPrefix path).length_le
  · exact Nat.le_refl _

/-- Makes a directory as it is written, after those above it that lead to nothing. `isLenient` says
whether directories may be there already. That one above is there counts as made, and a last name
`.` asks for nothing more than those above. -/
def makeTree (isLenient : Bool) (path : Text) : Attempt Host Unit := do
  let isComplete ←
    if _named : Spelling.name (treePath path) ≠ [] then
      let above := Spelling.directory (treePath path)
      if above.isEmpty || (← Attempt.look (exists? above)) then pure false
      else
        (makeTree isLenient above).rescue fun failure =>
          match failure with
          | .system .alreadyExists _ => pure ()
          | _ => Attempt.fail failure
        pure (Spelling.name (treePath path) = ['.'])
    else pure false
  if isComplete then pure ()
  else if isLenient then ensureDirectory path
  else makeDirectory path
termination_by path.length
decreasing_by
  exact Nat.lt_of_lt_of_le (Spelling.length_directory_lt_of_name _named) (length_treePath_le path)

/-- Removes what stands at a place and everything below it. A working directory among it is
lost. -/
def pruneAt (place : Path) (host : Host) : Host :=
  { host with
    tree := host.tree.prune place
    workingDirectory := host.workingDirectory.without place }

/-- Removes everything below a spot. -/
def clearAt (spot : FileTree.Spot) (host : Host) : Host :=
  if spot.lost = 0 then
    (host.tree.children spot.path).foldl (fun host name => host.pruneAt (spot.path ++ [name])) host
  else host

/-- Removes the directory at a path with everything in it. Nothing happens when there is no
directory: links and files stay. -/
def removeTree (path : Text) (host : Host) : Host :=
  match host.find false path with
  | .ok (spot, .directory) => if spot.lost = 0 then host.pruneAt spot.path else host
  | _ => host

/-- Removes an empty directory. It cannot be named by `.` or `..`, and not by a link to it. -/
def removeDirectory (path : Text) : Attempt Host Unit := do
  let name := Spelling.name (Spelling.withoutEndSlashes path)
  match ← Attempt.require (lastPlace path) with
  | .free _ _ => refuse .noEntry path
  | .taken spot =>
      if name = ['.'] then refuse .invalidArgument path
      else if name = ['.', '.'] then refuse .notEmpty path
      else
        match ← Attempt.look fun host => host.tree.entryAt? spot with
        | some .directory => Attempt.change (pruneAt spot.path)
        | _ => refuse .notDirectory path

/-- Removes a file or a link. A path that ends with a slash names neither. -/
def removeFile (path : Text) : Attempt Host Unit := do
  match ← Attempt.require (lastPlace path) with
  | .free _ _ => refuse .noEntry path
  | .taken spot =>
      if Spelling.endsWithSlash path then refuse .notDirectory path
      else Attempt.change (pruneAt spot.path)

/-- Removes what stands at a path: a link itself, a directory with everything in it. -/
def remove (path : Text) : Attempt Host Unit := do
  match ← Attempt.look (find false path) with
  | .ok (spot, .directory) =>
      Attempt.change (clearAt spot)
      removeDirectory path
  | _ => removeFile path

def changeDirectory (path : Text) : Attempt Host Unit := do
  match ← Attempt.require (find true path) with
  | (spot, .directory) => Attempt.change fun host => { host with workingDirectory := spot }
  | _ => refuse .notDirectory path

/-- The spelling of a path without links. Only a relative path needs the working directory. -/
def canonical (path : Text) (host : Host) : Except Failure Text :=
  match host.tree.resolve host.workingDirectory path with
  | .error failure => .error failure
  | .ok resolved => host.absolute resolved

/-- The spelling of a path without links and idle parts; a circle of links is refused. -/
def settled (path : Text) (host : Host) : Except Failure Pathname :=
  match host.canonical (Pathname.ofText path).text with
  | .error failure => .error failure
  | .ok spelling =>
      match host.find true spelling with
      | .error (.system .tooManyLinks _) => .error (.linkLoop spelling)
      | .error .nullInPath => .error .nullInPath
      | _ => .ok (Pathname.ofText spelling)

def temporaryDigits (number : Nat) : Text :=
  let digits := Text.decimal number
  List.replicate (8 - digits.length) '0' ++ digits

/-- Draws temporary names until one is free, and makes a directory of that name. The count bounds
the draws; in a finite tree one more than the number of entries is enough. -/
def makeTemporaryFrom (start directory : Text) : Nat → Attempt Host Text
  | 0 => refuse .alreadyExists directory
  | draws + 1 => do
      Attempt.change fun host => { host with drawn := host.drawn + 1 }
      let number ← Attempt.look Host.drawn
      let path := Spelling.append directory (start ++ temporaryDigits number)
      (do makeDirectory path; pure path : Attempt Host Text).rescue fun failure =>
        match failure with
        | .system .alreadyExists _ => makeTemporaryFrom start directory draws
        | _ => Attempt.fail failure

/-- Makes a fresh directory in `directory` whose name begins with `start`. -/
def makeTemporary (start directory : Text) : Attempt Host Text := do
  let entries ← Attempt.look fun host => host.tree.entries.length
  makeTemporaryFrom start directory (entries + 1)

end CueWatch.Host
