import CueWatch.Diagnostic.Basic
import CueWatch.Host.Files

/-!
Contract: the published findings of each file, whatever way its path is spelled.

Owns:
- `Collection`, a dictionary from canonical paths to findings, in the order of first publication;
- publishing, looking up and withdrawing by any spelling of a path.

Does not own: when findings are published (`Session`).
-/

namespace CueWatch

/-- Published findings under the canonical paths of their files. -/
structure Collection where
  entries : Keyed Text (List Diagnostic)
deriving DecidableEq, Repr

namespace Collection

def empty : Collection := ⟨[]⟩

/-- Publishes the findings of a file in place of those before. -/
def publish (path : Text) (findings : List Diagnostic) (host : Host) (collection : Collection) :
    Except Failure Collection :=
  (host.canonical path).map fun key => ⟨Keyed.put key findings collection.entries⟩

def get (path : Text) (host : Host) (collection : Collection) :
    Except Failure (List Diagnostic) :=
  (host.canonical path).map fun key => (Keyed.find? key collection.entries).getD []

/-- Whether findings of a file are published, be it none at all. -/
def contains (path : Text) (host : Host) (collection : Collection) : Except Failure Bool :=
  (host.canonical path).map fun key => Keyed.has key collection.entries

/-- Withdraws the findings of a file. -/
def withdraw (path : Text) (host : Host) (collection : Collection) : Except Failure Collection :=
  (host.canonical path).map fun key => ⟨Keyed.erase key collection.entries⟩

def paths (collection : Collection) : List Text := Keyed.keys collection.entries

/-- The number of files with published findings. -/
def size (collection : Collection) : Nat := collection.entries.length

end Collection

end CueWatch
