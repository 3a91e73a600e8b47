import CueWatch.Text.Blank

/-!
Contract: the words of texts that are put together.

Owns:
- `IsWord`, the texts that are one word;
- that a blank ends a word, so that the words of joined texts are those of each text in turn;
- that texts are found again among the words of their joined text exactly if each is one word.

Does not own: trimming.
-/

namespace CueWatch.Text

/-- A text that says something and has no blank in it. -/
structure IsWord (t : Text) : Prop where
  nonempty : t ≠ []
  solid : ∀ c ∈ t, isBlank c = false

instance (t : Text) : Decidable (IsWord t) :=
  decidable_of_iff (t ≠ [] ∧ (t.all fun c => !isBlank c) = true)
    ⟨fun ⟨nonempty, solid⟩ => ⟨nonempty, by simpa using solid⟩,
      fun isWord => ⟨isWord.nonempty, by simpa using isWord.solid⟩⟩

theorem wordsFrom_nil (word : Text) :
    wordsFrom word [] = if word.isEmpty then [] else [word.reverse] := rfl

theorem wordsFrom_cons (word : Text) (c : Char) (rest : Text) :
    wordsFrom word (c :: rest) =
      if isBlank c then
        if word.isEmpty then wordsFrom [] rest else word.reverse :: wordsFrom [] rest
      else wordsFrom (c :: word) rest := rfl

/-- A blank ends the word before it. -/
theorem wordsFrom_append {c : Char} (blank : isBlank c = true) (word t rest : Text) :
    wordsFrom word (t ++ c :: rest) = wordsFrom word t ++ wordsFrom [] rest := by
  induction t generalizing word with
  | nil =>
      rw [List.nil_append, wordsFrom_cons, if_pos blank, wordsFrom_nil]
      split <;> rfl
  | cons d t inductionHypothesis =>
      rw [List.cons_append, wordsFrom_cons, wordsFrom_cons]
      split
      · split
        · exact inductionHypothesis []
        · rw [inductionHypothesis [], List.cons_append]
      · exact inductionHypothesis (d :: word)

theorem words_append {c : Char} (blank : isBlank c = true) (t rest : Text) :
    words (t ++ c :: rest) = words t ++ words rest := wordsFrom_append blank [] t rest

/-- Texts with a blank between each two neighbours have the words of each text in turn. -/
theorem words_join {c : Char} (blank : isBlank c = true) (texts : List Text) :
    words (join [c] texts) = texts.flatMap words := by
  induction texts with
  | nil => rfl
  | cons t texts inductionHypothesis =>
      cases texts with
      | nil => rw [join, List.flatMap_singleton]
      | cons next texts =>
          rw [join, List.append_assoc, List.singleton_append, words_append blank,
            inductionHypothesis]
          rfl

/-- What is split off goes on with the unfinished word, as far as there is no blank. -/
theorem wordsFrom_of_solid {t : Text} (solid : ∀ c ∈ t, isBlank c = false) (word : Text) :
    wordsFrom word t = wordsFrom (t.reverse ++ word) [] := by
  induction t generalizing word with
  | nil => rfl
  | cons c t inductionHypothesis =>
      have first : ¬ isBlank c = true := by simp [solid c List.mem_cons_self]
      rw [wordsFrom_cons, if_neg first, inductionHypothesis fun d member =>
        solid d (List.mem_cons_of_mem c member)]
      simp

theorem IsWord.words {t : Text} (isWord : IsWord t) : Text.words t = [t] := by
  have some : ¬ t.reverse.isEmpty = true := by simpa using isWord.nonempty
  rw [Text.words, wordsFrom_of_solid isWord.solid, List.append_nil, wordsFrom_nil, if_neg some,
    List.reverse_reverse]

theorem isWord_of_mem_wordsFrom {word t piece : Text} (solid : ∀ c ∈ word, isBlank c = false)
    (member : piece ∈ wordsFrom word t) : IsWord piece := by
  have finished : ¬ word.isEmpty = true → IsWord word.reverse := fun some =>
    ⟨by simpa using some, fun c inside => solid c (List.mem_reverse.mp inside)⟩
  induction t generalizing word with
  | nil =>
      rw [wordsFrom_nil] at member
      split at member
      next => cases member
      next some =>
        rw [List.mem_singleton.mp member]
        exact finished some
  | cons c t inductionHypothesis =>
      have none : ∀ d ∈ ([] : Text), isBlank d = false := fun d inside => absurd inside (by simp)
      rw [wordsFrom_cons] at member
      split at member
      next =>
        split at member
        next => exact inductionHypothesis none member (by simp)
        next some =>
          rcases List.mem_cons.mp member with rfl | later
          · exact finished some
          · exact inductionHypothesis none later (by simp)
      next busy =>
        have stillSolid : ∀ d ∈ c :: word, isBlank d = false := by
          rw [List.forall_mem_cons]
          exact ⟨by simpa using busy, solid⟩
        exact inductionHypothesis stillSolid member fun some =>
          ⟨by simp, fun d inside => stillSolid d (List.mem_reverse.mp inside)⟩

theorem isWord_of_mem_words {t piece : Text} (member : piece ∈ words t) : IsWord piece :=
  isWord_of_mem_wordsFrom (fun c inside => absurd inside (by simp)) member

/-- Texts are their own words exactly if each of them is one word. -/
theorem flatMap_words_eq_self_iff (texts : List Text) :
    texts.flatMap words = texts ↔ ∀ t ∈ texts, IsWord t := by
  constructor
  · intro same t member
    rw [← same] at member
    obtain ⟨whole, -, among⟩ := List.mem_flatMap.mp member
    exact isWord_of_mem_words among
  · intro areWords
    induction texts with
    | nil => rfl
    | cons t texts inductionHypothesis =>
        rw [List.forall_mem_cons] at areWords
        rw [List.flatMap_cons, areWords.1.words, inductionHypothesis areWords.2,
          List.singleton_append]

end CueWatch.Text
