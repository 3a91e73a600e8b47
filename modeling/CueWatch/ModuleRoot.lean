import CueWatch.Host.Files
import CueWatch.Settings.Store
import CueWatch.Settings.Template

/-!
Contract: the directory that a file's module begins in.

A module is marked by an entry `cue.mod` of its directory. The nearest marked directory at or above
the file counts, and nothing above the boundary is looked at.

Owns:
- `Search`, the result of a search with the directories listed and the records left;
- `search`, the climb from a directory to the boundary;
- `locate`, the search that the settings ask for.

Does not own: listing directories; every search is given a lister.
-/

namespace CueWatch.ModuleRoot

/-- How the names in a directory are learned. -/
abbrev Lister : Type := Text → Except Failure (List Text)

/-- The result of a search: the directory found or the failure, the directories listed in order,
and the records left. -/
structure Search where
  outcome : Except Failure Text
  listed : List Text
  records : List Journal.Record

/-- The end of the name of a marker. -/
def marker : Text := "cue.mod"

def isMarker (name : Text) : Bool := marker.isSuffixOf name

def foundRecord (start found : Text) : Journal.Record :=
  ⟨.debug, "module root for " ++ start ++ " is " ++ found⟩

def missedRecord (boundary start : Text) : Journal.Record :=
  ⟨.warning, "reached filesystem root from " ++ start ++ " without meeting workspace root " ++
    boundary⟩

/-- A search that begins with one more directory. -/
def Search.after (current : Text) (search : Search) : Search :=
  { search with listed := current :: search.listed }

/-- Climbs from `current` until a marked directory, the boundary or the top is met. -/
def climb (lister : Lister) (boundary start current : Text) : Search :=
  match lister current with
  | .error failure =>
      if failure.isInterrupt then ⟨.error failure, [current], []⟩
      else ⟨.error (.unreadableDirectory current failure), [current], []⟩
  | .ok names =>
      if names.any isMarker then ⟨.ok current, [current], [foundRecord start current]⟩
      else if current = boundary then ⟨.error (.rootNotFound boundary start), [current], []⟩
      else if _moved : Spelling.directory current ≠ current then
        (climb lister boundary start (Spelling.directory current)).after current
      else
        ⟨.error (.rootNotFound boundary start), [current], [missedRecord boundary start]⟩
termination_by current.length
decreasing_by exact Spelling.length_directory_lt _moved

/-- Searches from a directory up to a boundary, both as they are written. -/
def search (lister : Lister) (boundary start : Text) : Search :=
  climb lister boundary start start

/-- A search that failed before any directory was listed. -/
def Search.failed (failure : Failure) : Search := ⟨.error failure, [], []⟩

/-- Searches from a directory up to a boundary, both without links. -/
def searchCanonical (lister : Lister) (boundary start : Text) (host : Host) : Search :=
  match host.canonical boundary with
  | .error failure => .failed failure
  | .ok boundary =>
      match host.canonical start with
      | .error failure => .failed failure
      | .ok start => search lister boundary start

/-- The directory that a template stands for; the working directory if it comes to nothing. A torn
template stands for no path that there can be. -/
def expandTemplate (template : Settings.Value) (workspaceFolder : Option Text) (host : Host) :
    Except Failure Text :=
  match template with
  | .text t =>
      match Settings.Template.expand t workspaceFolder host with
      | .error failure => .error failure
      | .ok expanded => if expanded.isEmpty then host.workingText else .ok expanded
  | .torn t => .error t.unencodable
  | other =>
      .error (.wrongType
        ("expected string or bytes-like object, got " ++ Text.quoted other.kind))

def directoryOf (file : Text) (host : Host) : Except Failure Text :=
  (host.absolute file).map Spelling.directory

/-- The outermost directory that the settings allow for a module. -/
def boundary (settings : Settings.Store) (workspaceFolder : Option Text) (host : Host) :
    Except Failure Text :=
  expandTemplate settings.moduleRoot workspaceFolder host

/-- The module root of a file under the settings; without a file, the boundary itself. -/
def locate (lister : Lister) (settings : Settings.Store) (file : Option Text)
    (workspaceFolder : Option Text) (host : Host) : Search :=
  match boundary settings workspaceFolder host with
  | .error failure => .failed failure
  | .ok boundary =>
      match file with
      | none => ⟨.ok boundary, [], []⟩
      | some [] => ⟨.ok boundary, [], []⟩
      | some path =>
          match directoryOf path host with
          | .error failure => .failed failure
          | .ok start => searchCanonical lister boundary start host

/-- Carries out a search on the host's own directories and leaves its records. -/
def perform (search : Host → Search) : Attempt Host Text := do
  let result ← Attempt.look search
  Attempt.change fun host => { host with journal := host.journal ++ result.records }
  Attempt.ofExcept result.outcome

/-- The module root of a file on the host. -/
def ofFile (settings : Settings.Store) (file : Text) (workspaceFolder : Option Text) :
    Attempt Host Text :=
  perform fun host => locate (fun path => host.list path) settings (some file) workspaceFolder host

end CueWatch.ModuleRoot
