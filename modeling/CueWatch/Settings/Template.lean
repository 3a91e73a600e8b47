import CueWatch.Host.Home
import CueWatch.Path.Spelling

/-!
Contract: path templates with variables in them, as editors know them.

Owns:
- `Segment.ofTemplate`, which reads a template from left to right;
- `Variable`, what can stand between the braces, and its value;
- `expand`, the single pass that puts the values in place. Values are never read again, and a
  variable of another name stays as it is written.

Does not own: where templates come from.
-/

namespace CueWatch.Settings.Template

def openBrace : Char := Char.ofNat 0x7B

def closeBrace : Char := Char.ofNat 0x7D

/-- A piece of a template: a character, or the name of a variable. -/
inductive Segment where
  | literal (c : Char)
  | variable (name : Text)
deriving DecidableEq, Repr

/-- The name of a variable whose opening has been read, and the text after it. -/
def placeholder? (body : Text) : Option (Text × Text) :=
  match Text.cutAt closeBrace body with
  | some (name, after) => if name.isEmpty then none else some (name, after)
  | none => none

theorem length_of_cutAt {separator : Char} {t before after : Text}
    (cut : Text.cutAt separator t = some (before, after)) : after.length < t.length := by
  induction t generalizing before with
  | nil => simp [Text.cutAt] at cut
  | cons c rest inductionHypothesis =>
      by_cases atSeparator : c = separator
      · simp only [Text.cutAt, if_pos atSeparator, Option.some.injEq, Prod.mk.injEq] at cut
        simp [cut.2]
      · simp only [Text.cutAt, if_neg atSeparator, Option.map_eq_some_iff] at cut
        obtain ⟨⟨first, second⟩, found, equal⟩ := cut
        obtain ⟨_, rfl⟩ := Prod.mk.inj equal
        exact Nat.lt_succ_of_lt (inductionHypothesis found)

theorem length_of_placeholder? {body name after : Text}
    (found : placeholder? body = some (name, after)) : after.length < body.length := by
  unfold placeholder? at found
  split at found
  · next before rest cut =>
      by_cases isNameless : before.isEmpty
      · simp [isNameless] at found
      · simp [isNameless] at found
        exact found.2 ▸ length_of_cutAt cut
  · simp at found

def Segment.ofTemplate : Text → List Segment
  | [] => []
  | [c] => [.literal c]
  | c :: d :: rest =>
      if c = '$' && d = openBrace then
        match _found : placeholder? rest with
        | some (name, after) => .variable name :: Segment.ofTemplate after
        | none => .literal c :: Segment.ofTemplate (d :: rest)
      else .literal c :: Segment.ofTemplate (d :: rest)
termination_by template => template.length
decreasing_by
  · have shorter := length_of_placeholder? _found
    simp only [List.length_cons]
    omega
  · simp
  · simp

/-- What a name between the braces stands for. -/
inductive Variable where
  | workspaceFolder
  | workspaceFolderBasename
  | userHome
  | workingDirectory
  | pathSeparator
  | environment (name : Text)
  | unknown (name : Text)
deriving DecidableEq, Repr

/-- What the names of environment variables begin with. -/
def environmentMark : Text := "env:"

def Variable.ofName (name : Text) : Variable :=
  if name = ("workspaceFolder" : Text) then .workspaceFolder
  else if name = ("workspaceFolderBasename" : Text) then .workspaceFolderBasename
  else if name = ("userHome" : Text) then .userHome
  else if name = ("cwd" : Text) then .workingDirectory
  else if name = ("pathSeparator" : Text) then .pathSeparator
  else if environmentMark.isPrefixOf name then .environment (name.drop environmentMark.length)
  else .unknown name

/-- A variable as it is written in a template. -/
def written (name : Text) : Text := '$' :: openBrace :: name ++ [closeBrace]

def Variable.value (workspaceFolder : Option Text) (host : Host) : Variable → Except Failure Text
  | .workspaceFolder => .ok (workspaceFolder.getD [])
  | .workspaceFolderBasename =>
      .ok (Spelling.name (Text.dropEndWhile (· == '/') (workspaceFolder.getD [])))
  | .userHome => host.home.map Pathname.text
  | .workingDirectory => host.workingText
  | .pathSeparator => .ok ['/']
  | .environment name => .ok ((host.environmentValue? name).getD [])
  | .unknown name => .ok (written name)

def Segment.value (workspaceFolder : Option Text) (host : Host) : Segment → Except Failure Text
  | .literal c => .ok [c]
  | .variable name => (Variable.ofName name).value workspaceFolder host

/-- The texts of pieces one after another; the first failure counts. -/
def fill (workspaceFolder : Option Text) (host : Host) : List Segment → Except Failure Text
  | [] => .ok []
  | segment :: rest =>
      match segment.value workspaceFolder host with
      | .error failure => .error failure
      | .ok text => (fill workspaceFolder host rest).map (text ++ ·)

/-- A template with its variables replaced. -/
def expand (template : Text) (workspaceFolder : Option Text) (host : Host) : Except Failure Text :=
  fill workspaceFolder host (Segment.ofTemplate template)

end CueWatch.Settings.Template
