import CueWatch.Settings.Template
import Mathlib.Data.List.Infix
import Mathlib.Tactic.Choose

/-!
Contract: a template is expanded in one pass from left to right.

Owns:
- `Layout`, a template as it is laid out: literals with variables and empty braces between them, and
  perhaps an opening at the end that is never closed;
- `StandsFor`, what a name stands for;
- the segments of a template that is laid out, and that its expansion puts the values between the
  literals and reads nothing again.

Does not own: what the home and the working directory are (`Host`).
-/

namespace CueWatch

namespace Text

theorem cutAt_append {separator : Char} {piece : Text} (whole : separator ∉ piece) (rest : Text) :
    cutAt separator (piece ++ separator :: rest) = some (piece, rest) := by
  induction piece with
  | nil => rw [List.nil_append, cutAt, if_pos rfl]
  | cons c piece inductionHypothesis =>
      rw [List.mem_cons, not_or] at whole
      rw [List.cons_append, cutAt, if_neg (Ne.symm whole.1), inductionHypothesis whole.2]
      rfl

theorem cutAt_eq_none {separator : Char} {t : Text} (whole : separator ∉ t) :
    cutAt separator t = none := by
  induction t with
  | nil => rfl
  | cons c t inductionHypothesis =>
      rw [List.mem_cons, not_or] at whole
      rw [cutAt, if_neg (Ne.symm whole.1), inductionHypothesis whole.2]
      rfl

end Text

namespace Settings.Template

/-! ### Layouts -/

/-- What a variable begins with. -/
def opening : Text := ['$', openBrace]

/-- Text that no variable begins in. A dollar sign may stand at its end, and braces anywhere. -/
structure Literal where
  text : Text
  unopened : ¬ opening <:+: text

/-- What stands between two literals: a variable, whose name may hold an opening itself, or braces
without a name. -/
inductive Hole where
  | variable (name : Text) (named : name ≠ []) (unclosed : closeBrace ∉ name)
  | nameless

def Hole.text : Hole → Text
  | .variable name _ _ => written name
  | .nameless => written []

def Hole.name? : Hole → Option Text
  | .variable name _ _ => some name
  | .nameless => none

/-- What may follow the last literal: an opening that is not closed. -/
inductive Ending where
  | none
  | unclosed (after : Text) (unclosed : closeBrace ∉ after)

def Ending.text : Ending → Text
  | .none => []
  | .unclosed after _ => opening ++ after

/-- A template as it is laid out: a literal, holes that are each followed by a literal, and an
ending. -/
structure Layout where
  first : Literal
  rest : List (Hole × Literal)
  ending : Ending

namespace Layout

def text (layout : Layout) : Text :=
  layout.first.text ++ (layout.rest.flatMap fun part => part.1.text ++ part.2.text) ++
    layout.ending.text

/-- The names of the variables, in order. -/
def names (layout : Layout) : List Text := layout.rest.filterMap fun part => part.1.name?

end Layout

/-- What comes in the place of a hole, if each name is replaced by its value. -/
def Hole.filled (value : Text → Text) : Hole → Text
  | .variable name _ _ => value name
  | .nameless => written []

/-- The template with each variable replaced by the value of its name, and all else as it is. -/
def Layout.filled (value : Text → Text) (layout : Layout) : Text :=
  layout.first.text ++
    (layout.rest.flatMap fun part => part.1.filled value ++ part.2.text) ++ layout.ending.text

/-! ### Names -/

/-- The names that stand for something else than themselves, besides those of the environment. -/
def supportedNames : List Text :=
  ["workspaceFolder", "workspaceFolderBasename", "userHome", "cwd", "pathSeparator"]

/-- What a name stands for. A home or a working directory that cannot be told has no value, an
environment variable that is not set is empty, and a name that is not known stands for the variable
as it is written. -/
inductive StandsFor (workspaceFolder : Option Text) (host : Host) : Text → Text → Prop
  | workspaceFolder :
      StandsFor workspaceFolder host "workspaceFolder" (workspaceFolder.getD [])
  | workspaceFolderBasename :
      StandsFor workspaceFolder host "workspaceFolderBasename"
        (Spelling.name (Text.dropEndWhile (· == '/') (workspaceFolder.getD [])))
  | userHome {home : Pathname} (isHome : host.home = .ok home) :
      StandsFor workspaceFolder host "userHome" home.text
  | workingDirectory {directory : Text} (isThere : host.workingText = .ok directory) :
      StandsFor workspaceFolder host "cwd" directory
  | pathSeparator : StandsFor workspaceFolder host "pathSeparator" "/"
  | set {name value : Text} (isSet : host.environmentValue? name = some value) :
      StandsFor workspaceFolder host ("env:" ++ name) value
  | unset {name : Text} (isUnset : host.environmentValue? name = none) :
      StandsFor workspaceFolder host ("env:" ++ name) []
  | unknown {name : Text} (unsupported : name ∉ supportedNames)
      (notOfEnvironment : ¬ "env:".toList <+: name) :
      StandsFor workspaceFolder host name (written name)

section

variable {workspaceFolder : Option Text} {host : Host}

theorem ofName_environment (name : Text) :
    Variable.ofName ("env:" ++ name) = .environment name := by
  simp [Variable.ofName, environmentMark, List.isPrefixOf]

theorem ofName_unknown {name : Text} (unsupported : name ∉ supportedNames)
    (notOfEnvironment : ¬ "env:".toList <+: name) : Variable.ofName name = .unknown name := by
  simp only [supportedNames, List.mem_cons, List.not_mem_nil, or_false, not_or] at unsupported
  obtain ⟨notFolder, notBasename, notHome, notDirectory, notSeparator⟩ := unsupported
  rw [Variable.ofName, if_neg notFolder, if_neg notBasename, if_neg notHome, if_neg notDirectory,
    if_neg notSeparator, if_neg]
  rwa [List.isPrefixOf_iff_prefix]

/-- The value of a variable is what its name stands for. -/
theorem value_of_standsFor {name value : Text}
    (stands : StandsFor workspaceFolder host name value) :
    (Variable.ofName name).value workspaceFolder host = .ok value := by
  cases stands with
  | workspaceFolder => rfl
  | workspaceFolderBasename => rfl
  | userHome isHome =>
      change host.home.map Pathname.text = _
      rw [isHome]
      rfl
  | workingDirectory isThere => exact isThere
  | pathSeparator => rfl
  | set isSet =>
      rw [ofName_environment, Variable.value, isSet]
      rfl
  | unset isUnset =>
      rw [ofName_environment, Variable.value, isUnset]
      rfl
  | unknown unsupported notOfEnvironment =>
      rw [ofName_unknown unsupported notOfEnvironment]
      rfl

/-- Every name stands for something, unless it asks for a home or a working directory that cannot be
told. -/
theorem exists_standsFor_or (workspaceFolder : Option Text) (host : Host) (name : Text) :
    (∃ value, StandsFor workspaceFolder host name value) ∨
      ∃ failure, (Variable.ofName name).value workspaceFolder host = .error failure ∧
        (name = "userHome".toList ∧ host.home = .error failure ∨
          name = "cwd".toList ∧ host.workingText = .error failure) := by
  by_cases supported : name ∈ supportedNames
  · simp only [supportedNames, List.mem_cons, List.not_mem_nil, or_false] at supported
    rcases supported with rfl | rfl | rfl | rfl | rfl
    · exact .inl ⟨_, .workspaceFolder⟩
    · exact .inl ⟨_, .workspaceFolderBasename⟩
    · cases home : host.home with
      | ok path => exact .inl ⟨_, .userHome home⟩
      | error failure =>
          refine .inr ⟨failure, ?_, .inl ⟨rfl, rfl⟩⟩
          change host.home.map Pathname.text = _
          rw [home]
          rfl
    · cases there : host.workingText with
      | ok directory => exact .inl ⟨_, .workingDirectory there⟩
      | error failure => exact .inr ⟨failure, there, .inr ⟨rfl, rfl⟩⟩
    · exact .inl ⟨_, .pathSeparator⟩
  · by_cases ofEnvironment : "env:".toList <+: name
    · obtain ⟨rest, rfl⟩ := ofEnvironment
      cases found : host.environmentValue? rest with
      | some value => exact .inl ⟨value, .set found⟩
      | none => exact .inl ⟨[], .unset found⟩
    · exact .inl ⟨written name, .unknown supported ofEnvironment⟩

end

/-! ### Segments -/

/-- A character is literal, unless a variable that is closed begins there. -/
theorem ofTemplate_cons {c : Char} {rest : Text}
    (isLiteral : ∀ body, c :: rest = opening ++ body → placeholder? body = none) :
    Segment.ofTemplate (c :: rest) = .literal c :: Segment.ofTemplate rest := by
  cases rest with
  | nil => rw [Segment.ofTemplate, Segment.ofTemplate]
  | cons d rest =>
      rw [Segment.ofTemplate]
      split
      next opens =>
        obtain ⟨rfl, rfl⟩ : c = '$' ∧ d = openBrace := by simpa using opens
        have none := isLiteral rest rfl
        split
        next name after found =>
          rw [none] at found
          cases found
        next => rfl
      next => rfl

theorem ofTemplate_unopened {t rest : Text} (unopened : ¬ opening <:+: t)
    (flush : rest.head? ≠ some openBrace) :
    Segment.ofTemplate (t ++ rest) = t.map .literal ++ Segment.ofTemplate rest := by
  induction t with
  | nil => rfl
  | cons c t inductionHypothesis =>
      have unopenedBelow : ¬ opening <:+: t := fun opened => unopened (List.infix_cons opened)
      rw [List.cons_append, ofTemplate_cons, inductionHypothesis unopenedBelow]
      · rfl
      · -- The opening would lie in the literal, or its brace would begin what follows.
        intro body begins
        exfalso
        cases t with
        | nil =>
            obtain ⟨-, after⟩ := List.cons.inj begins
            exact flush (congrArg List.head? after)
        | cons d t =>
            obtain ⟨rfl, after⟩ := List.cons.inj begins
            obtain ⟨rfl, -⟩ := List.cons.inj after
            exact unopened ⟨[], t, rfl⟩

/-- Where nothing is closed, all is literal. -/
theorem ofTemplate_unclosed {t : Text} (unclosed : closeBrace ∉ t) :
    Segment.ofTemplate t = t.map .literal := by
  induction t with
  | nil => rw [Segment.ofTemplate]; rfl
  | cons c t inductionHypothesis =>
      have unclosedBelow : closeBrace ∉ t :=
        fun member => unclosed (List.mem_cons_of_mem c member)
      rw [ofTemplate_cons, inductionHypothesis unclosedBelow]
      · rfl
      · intro body begins
        have whole : closeBrace ∉ body := by
          intro member
          rw [begins] at unclosed
          exact unclosed (List.mem_append_right opening member)
        rw [placeholder?, Text.cutAt_eq_none whole]

/-- The braces of a name that is not empty are closed by the first brace after it. -/
theorem ofTemplate_written {name : Text} (named : name ≠ []) (unclosed : closeBrace ∉ name)
    (rest : Text) :
    Segment.ofTemplate (written name ++ rest) = .variable name :: Segment.ofTemplate rest := by
  have found : placeholder? (name ++ closeBrace :: rest) = some (name, rest) := by
    rw [placeholder?, Text.cutAt_append unclosed]
    simp [named]
  have begins : written name ++ rest = '$' :: openBrace :: (name ++ closeBrace :: rest) := by
    simp [written]
  rw [begins, Segment.ofTemplate, if_pos (by simp)]
  split
  next other after same =>
    rw [found] at same
    obtain ⟨rfl, rfl⟩ := Prod.mk.inj (Option.some.inj same)
    rfl
  next none =>
    rw [found] at none
    cases none

/-- Braces without a name are literal, and what follows is read as if they were not there. -/
theorem ofTemplate_nameless (rest : Text) :
    Segment.ofTemplate (written [] ++ rest) =
      (written []).map .literal ++ Segment.ofTemplate rest := by
  have braces : ∀ c, c ≠ '$' → ∀ more, Segment.ofTemplate (c :: more) =
      .literal c :: Segment.ofTemplate more := by
    intro c different more
    refine ofTemplate_cons fun body begins => ?_
    exact absurd (List.cons.inj begins).1 different
  change Segment.ofTemplate ('$' :: openBrace :: closeBrace :: rest) = _
  rw [ofTemplate_cons, braces openBrace (by decide), braces closeBrace (by decide)]
  · rfl
  · intro body begins
    obtain ⟨-, after⟩ := List.cons.inj begins
    obtain ⟨-, rfl⟩ := List.cons.inj after
    rfl

/-- The segments of a hole: its variable, or its braces. -/
def Hole.segments : Hole → List Segment
  | .variable name _ _ => [.variable name]
  | .nameless => (written []).map .literal

theorem ofTemplate_hole (hole : Hole) (rest : Text) :
    Segment.ofTemplate (hole.text ++ rest) = hole.segments ++ Segment.ofTemplate rest := by
  match hole with
  | .variable name named unclosed => exact ofTemplate_written named unclosed rest
  | .nameless => exact ofTemplate_nameless rest

theorem ofTemplate_ending (ending : Ending) :
    Segment.ofTemplate ending.text = ending.text.map .literal := by
  cases ending with
  | none => exact ofTemplate_unclosed List.not_mem_nil
  | unclosed after unclosed =>
      refine ofTemplate_unclosed fun member => ?_
      rcases List.mem_append.mp member with inOpening | inAfter
      · exact absurd inOpening (by decide)
      · exact unclosed inAfter

/-- Neither a hole nor an ending begins with a brace, which a dollar sign before it could open. -/
theorem head?_parts_ne (parts : List (Hole × Literal)) (ending : Ending) :
    ((parts.flatMap fun part => part.1.text ++ part.2.text) ++ ending.text).head? ≠
      some openBrace := by
  have dollar : '$' ≠ openBrace := by decide
  match parts with
  | [] => cases ending <;> simp [Ending.text, opening, dollar]
  | (.variable _ _ _, _) :: _ => simp [Hole.text, written, dollar]
  | (.nameless, _) :: _ => simp [Hole.text, written, dollar]

/-- The segments of a part of a layout. -/
def segmentsOf (part : Hole × Literal) : List Segment :=
  part.1.segments ++ part.2.text.map .literal

theorem ofTemplate_parts (parts : List (Hole × Literal)) (ending : Ending) :
    Segment.ofTemplate ((parts.flatMap fun part => part.1.text ++ part.2.text) ++ ending.text) =
      parts.flatMap segmentsOf ++ ending.text.map .literal := by
  induction parts with
  | nil => exact ofTemplate_ending ending
  | cons part parts inductionHypothesis =>
      rw [List.flatMap_cons, List.append_assoc, List.append_assoc, ofTemplate_hole,
        ofTemplate_unopened part.2.unopened (head?_parts_ne parts ending), inductionHypothesis]
      simp [segmentsOf]

/-- The segments of a template that is laid out are those of its parts. -/
theorem ofTemplate_text (layout : Layout) :
    Segment.ofTemplate layout.text =
      layout.first.text.map .literal ++
        (layout.rest.flatMap segmentsOf ++ layout.ending.text.map .literal) := by
  rw [Layout.text, List.append_assoc, ofTemplate_unopened layout.first.unopened
    (head?_parts_ne layout.rest layout.ending), ofTemplate_parts]

/-- A dollar sign before a variable is literal, and so are empty braces. -/
example : Segment.ofTemplate "$$\x7bcwd\x7d$\x7b\x7d" =
    [.literal '$', .variable "cwd"] ++ (written []).map .literal := by
  cbv

/-! ### Values in their places -/

section

variable {workspaceFolder : Option Text} {host : Host}

theorem fill_append (first second : List Segment) :
    fill workspaceFolder host (first ++ second) =
      (fill workspaceFolder host first).bind fun text =>
        (fill workspaceFolder host second).map (text ++ ·) := by
  induction first with
  | nil =>
      change fill workspaceFolder host second =
        (fill workspaceFolder host second).map ([] ++ ·)
      cases fill workspaceFolder host second <;> rfl
  | cons segment first inductionHypothesis =>
      rw [List.cons_append, fill, fill, inductionHypothesis]
      cases segment.value workspaceFolder host with
      | error failure => rfl
      | ok text =>
          cases fill workspaceFolder host first with
          | error failure => rfl
          | ok more =>
              cases fill workspaceFolder host second with
              | error failure => rfl
              | ok rest => simp [Except.bind, Except.map]

theorem fill_literals (t : Text) : fill workspaceFolder host (t.map .literal) = .ok t := by
  induction t with
  | nil => rfl
  | cons c t inductionHypothesis =>
      rw [List.map_cons, fill, inductionHypothesis]
      rfl

theorem fill_hole {value : Text → Text} {hole : Hole}
    (stands : ∀ name ∈ hole.name?, StandsFor workspaceFolder host name (value name)) :
    fill workspaceFolder host hole.segments = .ok (hole.filled value) := by
  match hole with
  | .variable name named unclosed =>
      have told := value_of_standsFor (stands name rfl)
      rw [Hole.segments, fill, Segment.value, told]
      simp [fill, Except.map, Hole.filled]
  | .nameless => exact fill_literals (written [])

theorem fill_parts {value : Text → Text} {parts : List (Hole × Literal)}
    (stands : ∀ part ∈ parts, ∀ name ∈ part.1.name?,
      StandsFor workspaceFolder host name (value name)) :
    fill workspaceFolder host (parts.flatMap segmentsOf) =
      .ok (parts.flatMap fun part => part.1.filled value ++ part.2.text) := by
  induction parts with
  | nil => rfl
  | cons part parts inductionHypothesis =>
      rw [List.forall_mem_cons] at stands
      rw [List.flatMap_cons, segmentsOf, fill_append, fill_append, fill_hole stands.1,
        fill_literals, inductionHypothesis stands.2]
      simp [Except.bind, Except.map]

/-- What keeps segments from being filled in is a variable without a value. -/
theorem exists_of_fill_error {segments : List Segment} {failure : Failure}
    (failed : fill workspaceFolder host segments = .error failure) :
    ∃ name, .variable name ∈ segments ∧
      (Variable.ofName name).value workspaceFolder host = .error failure := by
  induction segments with
  | nil => cases failed
  | cons segment segments inductionHypothesis =>
      rw [fill] at failed
      cases told : segment.value workspaceFolder host with
      | error other =>
          rw [told] at failed
          obtain rfl := Except.error.inj failed
          match segment with
          | .literal c => cases told
          | .variable name => exact ⟨name, List.mem_cons_self, told⟩
      | ok text =>
          rw [told] at failed
          cases below : fill workspaceFolder host segments with
          | error other =>
              rw [below] at failed
              obtain rfl := Except.error.inj failed
              obtain ⟨name, member, missing⟩ := inductionHypothesis below
              exact ⟨name, List.mem_cons_of_mem segment member, missing⟩
          | ok more =>
              rw [below] at failed
              cases failed

end

theorem mem_names_of_segment {layout : Layout} {name : Text}
    (member : .variable name ∈ Segment.ofTemplate layout.text) : name ∈ layout.names := by
  rw [ofTemplate_text] at member
  have notLiteral (t : Text) : Segment.variable name ∉ t.map Segment.literal := by simp
  simp only [List.mem_append, notLiteral, or_false, false_or, List.mem_flatMap,
    segmentsOf] at member
  obtain ⟨⟨hole, literal⟩, among, inHole⟩ := member
  refine List.mem_filterMap.mpr ⟨(hole, literal), among, ?_⟩
  match hole with
  | .variable other named unclosed =>
      obtain rfl : name = other := by simpa [Hole.segments] using inHole
      rfl
  | .nameless => exact absurd inHole (notLiteral (written []))

/-- What comes of a template that is laid out. -/
structure ExpandsInOnePass (layout : Layout) (workspaceFolder : Option Text) (host : Host) :
    Prop where
  /-- Every name in it stands for a value, if the home and the working directory can be told where
  they are asked for. -/
  valued : ("userHome".toList ∈ layout.names → ∃ home, host.home = .ok home) →
    ("cwd".toList ∈ layout.names → ∃ directory, host.workingText = .ok directory) →
    ∃ value : Text → Text, ∀ name ∈ layout.names, StandsFor workspaceFolder host name (value name)
  /-- If every name stands for a value, the values stand in the places of the variables; all else is
  kept as it is, and so are the values. -/
  filled : ∀ value : Text → Text,
    (∀ name ∈ layout.names, StandsFor workspaceFolder host name (value name)) →
    expand layout.text workspaceFolder host = .ok (layout.filled value)
  /-- Nothing but a variable for the home or the working directory lacks a value, and only if this
  one cannot be told. -/
  refused : ∀ failure, expand layout.text workspaceFolder host = .error failure →
    ("userHome".toList ∈ layout.names ∧ host.home = .error failure) ∨
      ("cwd".toList ∈ layout.names ∧ host.workingText = .error failure)

/-- Every template is expanded in a single pass, whatever its literals, its names and their values
look like. -/
theorem expands_in_one_pass (layout : Layout) (workspaceFolder : Option Text) (host : Host) :
    ExpandsInOnePass layout workspaceFolder host := by
  constructor
  case valued =>
    intro homeIsTold directoryIsTold
    have stands : ∀ name ∈ layout.names, ∃ value,
        StandsFor workspaceFolder host name value := by
      intro name isName
      rcases exists_standsFor_or workspaceFolder host name with
        stands | ⟨failure, -, ⟨rfl, noHome⟩ | ⟨rfl, lost⟩⟩
      · exact stands
      · obtain ⟨home, isHome⟩ := homeIsTold isName
        exact ⟨home.text, .userHome isHome⟩
      · obtain ⟨directory, isThere⟩ := directoryIsTold isName
        exact ⟨directory, .workingDirectory isThere⟩
    choose! value stands using stands
    exact ⟨value, stands⟩
  case filled =>
    intro value stands
    have standsInParts : ∀ part ∈ layout.rest, ∀ name ∈ part.1.name?,
        StandsFor workspaceFolder host name (value name) :=
      fun part among name isName => stands name (List.mem_filterMap.mpr ⟨part, among, isName⟩)
    rw [expand, ofTemplate_text, fill_append, fill_append, fill_literals, fill_literals,
      fill_parts standsInParts]
    simp [Except.bind, Except.map, Layout.filled]
  case refused =>
    intro failure failed
    obtain ⟨name, member, missing⟩ := exists_of_fill_error failed
    have isName := mem_names_of_segment member
    rcases exists_standsFor_or workspaceFolder host name with
      ⟨value, stands⟩ | ⟨other, untold, reason⟩
    · rw [value_of_standsFor stands] at missing
      cases missing
    · rw [missing] at untold
      obtain rfl := Except.error.inj untold
      rcases reason with ⟨rfl, noHome⟩ | ⟨rfl, lost⟩
      · exact .inl ⟨isName, noHome⟩
      · exact .inr ⟨isName, lost⟩

end Settings.Template

end CueWatch
