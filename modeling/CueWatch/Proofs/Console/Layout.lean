import CueWatch.Console.Layout
import CueWatch.Proofs.Text.Pieces
import CueWatch.Proofs.Text.Trim
import CueWatch.Text.Control
import Mathlib.Data.List.Flatten
import Mathlib.Data.List.SplitBy
import Mathlib.Data.List.TakeWhile

/-!
Contract: what is kept of a text that is laid out in lines, and which texts stay as they are.

Owns:
- that breaking a line loses nothing, and that a line that fits is not broken;
- that every line of a laid-out text fits the width, and that nothing is put into it but blanks and
  the ends of lines;
- that a text without tabs is laid out as it is exactly if its lines fit and are not padded beyond
  the width;
- that all solid characters of a text are kept, in order, where each of them fits a line.

Does not own: what is done to a text before it is laid out (`Proofs.Console.Display`).
-/

namespace CueWatch.Console

variable {cells : Char → Nat} {width : Nat}

/-! ### Columns -/

@[simp]
theorem columns_nil : columns cells [] = 0 := rfl

@[simp]
theorem columns_cons (c : Char) (t : Text) :
    columns cells (c :: t) = cells c + columns cells t := rfl

@[simp]
theorem columns_append (t rest : Text) :
    columns cells (t ++ rest) = columns cells t + columns cells rest := by
  induction t with
  | nil => exact (Nat.zero_add _).symm
  | cons c t inductionHypothesis =>
      rw [List.cons_append, columns_cons, columns_cons, inductionHypothesis, Nat.add_assoc]

theorem columns_blanks (blank : cells ' ' = 1) (count : Nat) :
    columns cells (List.replicate count ' ') = count := by
  induction count with
  | zero => rfl
  | succ count inductionHypothesis =>
      rw [List.replicate_succ, columns_cons, inductionHypothesis, blank, Nat.add_comm]

theorem columns_le_of_isPrefix {start t : Text} (starts : start <+: t) :
    columns cells start ≤ columns cells t := by
  obtain ⟨rest, rfl⟩ := starts
  rw [columns_append]
  exact Nat.le_add_right _ _

theorem columns_trimEnd_le (cells : Char → Nat) (t : Text) :
    columns cells (Text.trimEnd t) ≤ columns cells t :=
  columns_le_of_isPrefix (Text.dropEndWhile_isPrefix _ t)

/-- Of two texts in a row, only the second is trimmed, unless nothing is left of it. -/
theorem columns_trimEnd_append_le (t rest : Text) :
    columns cells (Text.trimEnd (t ++ rest)) ≤
      columns cells t + columns cells (Text.trimEnd rest) := by
  obtain ⟨blanks, isRest, blank⟩ := Text.exists_blanks_after_trimEnd rest
  conv_lhs => rw [isRest, ← List.append_assoc, Text.trimEnd_append_of_blank _ blank]
  exact (columns_trimEnd_le _ _).trans_eq (columns_append _ _)

/-! ### Solid characters -/

/-- A character that is shown and is not blank. -/
def isSolid (c : Char) : Bool := !Text.isBlank c && !Text.isHiddenControl c

theorem not_isSolid_of_isBlank {c : Char} (blank : Text.isBlank c = true) : ¬ isSolid c = true := by
  simp [isSolid, blank]

theorem filter_isSolid_of_blank {blanks : Text} (blank : ∀ c ∈ blanks, Text.isBlank c = true) :
    blanks.filter isSolid = [] :=
  List.filter_eq_nil_iff.mpr fun c member => not_isSolid_of_isBlank (blank c member)

/-! ### Tabs -/

theorem expandTabsFrom_eq_self {line : Text} (tabless : '\t' ∉ line) (column : Nat) :
    expandTabsFrom cells column line = line := by
  induction line generalizing column with
  | nil => rfl
  | cons c rest inductionHypothesis =>
      rw [List.mem_cons, not_or] at tabless
      rw [expandTabsFrom, if_neg (Ne.symm tabless.1), inductionHypothesis tabless.2]

/-- Where tabs are expanded, everything else stays, and only blanks are added. -/
theorem of_mem_expandTabsFrom {column : Nat} {line : Text} {c : Char}
    (member : c ∈ expandTabsFrom cells column line) : c = ' ' ∨ (c ∈ line ∧ c ≠ '\t') := by
  induction line generalizing column with
  | nil => cases member
  | cons first rest inductionHypothesis =>
      have later : ∀ column, c ∈ expandTabsFrom cells column rest → c = ' ' ∨
          (c ∈ first :: rest ∧ c ≠ '\t') := fun column within =>
        (inductionHypothesis within).imp_right fun inRest =>
          ⟨List.mem_cons_of_mem first inRest.1, inRest.2⟩
      unfold expandTabsFrom at member
      split at member
      next =>
        rcases List.mem_append.mp member with blank | within
        · exact .inl (List.eq_of_mem_replicate blank)
        · exact later _ within
      next noTab =>
        rcases List.mem_cons.mp member with rfl | within
        · exact .inr ⟨List.mem_cons_self, noTab⟩
        · exact later _ within

theorem filter_isSolid_expandTabsFrom (column : Nat) (line : Text) :
    (expandTabsFrom cells column line).filter isSolid = line.filter isSolid := by
  induction line generalizing column with
  | nil => rfl
  | cons c rest inductionHypothesis =>
      unfold expandTabsFrom
      split
      next isTab =>
        have noSolid : ¬ isSolid '\t' = true := by decide
        have blanks : ∀ width, (List.replicate width ' ').filter isSolid = [] := fun width =>
          List.filter_replicate_of_neg (by decide)
        rw [isTab, List.filter_append, blanks, List.nil_append, inductionHypothesis,
          List.filter_cons_of_neg noSolid]
      next => rw [List.filter_cons, List.filter_cons, inductionHypothesis]

/-! ### Words -/

/-- The words of a line are all of it. -/
theorem flatten_wordsOf (line : Text) : (wordsOf line).flatten = line := by
  have whole := List.flatten_splitBy (fun a b => !breaksBetween a b) line
  unfold wordsOf
  split
  next blanks word rest pieces =>
    rw [pieces] at whole
    split
    · rw [List.flatten_cons, List.append_assoc, ← List.flatten_cons, ← List.flatten_cons]
      exact whole
    · exact whole
  next => exact whole

/-! ### Cutting words -/

theorem flatten_cutFrom (piece t : Text) :
    (cutFrom cells width piece t).1.flatten ++ (cutFrom cells width piece t).2 = piece ++ t := by
  fun_induction cutFrom cells width piece t with
  | case1 piece => exact (List.append_nil piece).symm
  | case2 piece c rest fits inductionHypothesis =>
      rw [inductionHypothesis, List.append_assoc, List.singleton_append]
  | case3 piece c rest full cut inductionHypothesis =>
      rw [List.flatten_cons, List.append_assoc, inductionHypothesis, List.singleton_append]

/-- Each piece of a word that is cut fits the width, if each character does. -/
theorem columns_cutFrom {piece t : Text} (narrow : ∀ c ∈ t, cells c ≤ width)
    (begins : columns cells piece ≤ width) :
    (∀ full ∈ (cutFrom cells width piece t).1, columns cells full ≤ width) ∧
      columns cells (cutFrom cells width piece t).2 ≤ width := by
  fun_induction cutFrom cells width piece t with
  | case1 piece => exact ⟨List.forall_mem_nil _, begins⟩
  | case2 piece c rest fits inductionHypothesis =>
      rw [List.forall_mem_cons] at narrow
      refine inductionHypothesis narrow.2 ?_
      rw [columns_append, columns_cons, columns_nil, Nat.add_zero]
      exact fits
  | case3 piece c rest full cut inductionHypothesis =>
      rw [List.forall_mem_cons] at narrow
      obtain ⟨others, last⟩ := inductionHypothesis narrow.2 (by simpa using narrow.1)
      exact ⟨List.forall_mem_cons.mpr ⟨begins, others⟩, last⟩

theorem flatten_linesBefore (line : Text) (full : List Text) :
    (linesBefore line full).flatten = line ++ full.flatten := by
  have nothing : ∀ pieces : List Text,
      (pieces.dropWhile List.isEmpty).flatten = pieces.flatten := by
    intro pieces
    induction pieces with
    | nil => rfl
    | cons piece rest inductionHypothesis =>
        cases piece with
        | nil => rw [List.dropWhile_cons_of_pos rfl, inductionHypothesis]; rfl
        | cons c piece => rfl
  unfold linesBefore
  split
  next empty => rw [nothing, List.isEmpty_iff.mp empty, List.nil_append]
  next => rfl

theorem mem_linesBefore {line made : Text} {full : List Text}
    (member : made ∈ linesBefore line full) : made = line ∨ made ∈ full := by
  unfold linesBefore at member
  split at member
  · exact .inr (List.dropWhile_subset _ member)
  · exact List.mem_cons.mp member

/-! ### Breaking lines -/

/-- Breaking a line loses nothing. -/
theorem flatten_linesOf (line : Text) (words : List Text) :
    (linesOf cells width line words).flatten = line ++ words.flatten := by
  fun_induction linesOf cells width line words with
  | case1 line => rfl
  | case2 line word rest wide fits inductionHypothesis =>
      rw [inductionHypothesis, List.append_assoc, List.flatten_cons]
  | case3 line word rest wide noRoom tooWide cut inductionHypothesis =>
      have whole : cut.1.flatten ++ cut.2 = word := flatten_cutFrom [] word
      rw [List.flatten_append, flatten_linesBefore, inductionHypothesis, List.append_assoc,
        ← List.append_assoc cut.1.flatten, whole, List.flatten_cons]
  | case4 line word rest wide noRoom fits inductionHypothesis =>
      rw [List.flatten_cons, inductionHypothesis, List.flatten_cons]

/-- A line that fits is not broken. -/
theorem linesOf_of_narrow {line : Text} {words : List Text}
    (narrow : columns cells (line ++ words.flatten) ≤ width) :
    linesOf cells width line words = [line ++ words.flatten] := by
  induction words generalizing line with
  | nil => rw [linesOf, List.flatten_nil, List.append_nil]
  | cons word rest inductionHypothesis =>
      rw [List.flatten_cons, ← List.append_assoc] at narrow ⊢
      have room : columns cells line + columns cells (Text.trimEnd word) ≤ width := by
        have trimmed := columns_trimEnd_le cells word
        rw [columns_append, columns_append] at narrow
        omega
      rw [linesOf, if_pos room, inductionHypothesis narrow]

/-- Each line fits the width without the blanks at its end, if each character does. -/
theorem columns_trimEnd_of_mem_linesOf {line made : Text} {words : List Text}
    (narrow : ∀ word ∈ words, ∀ c ∈ word, cells c ≤ width)
    (begins : columns cells (Text.trimEnd line) ≤ width)
    (member : made ∈ linesOf cells width line words) :
    columns cells (Text.trimEnd made) ≤ width := by
  fun_induction linesOf cells width line words with
  | case1 line =>
      rw [List.mem_singleton.mp member]
      exact begins
  | case2 line word rest wide fits inductionHypothesis =>
      rw [List.forall_mem_cons] at narrow
      exact inductionHypothesis narrow.2 ((columns_trimEnd_append_le line word).trans fits) member
  | case3 line word rest wide noRoom tooWide cut inductionHypothesis =>
      rw [List.forall_mem_cons] at narrow
      obtain ⟨full, last⟩ : (∀ full ∈ cut.1, columns cells full ≤ width) ∧
          columns cells cut.2 ≤ width := columns_cutFrom narrow.1 (Nat.zero_le _)
      rcases List.mem_append.mp member with before | after
      · rcases mem_linesBefore before with rfl | isFull
        · exact begins
        · exact (columns_trimEnd_le cells made).trans (full made isFull)
      · exact inductionHypothesis narrow.2 ((columns_trimEnd_le _ _).trans last) after
  | case4 line word rest wide noRoom fits inductionHypothesis =>
      rw [List.forall_mem_cons] at narrow
      rcases List.mem_cons.mp member with rfl | later
      · exact begins
      · exact inductionHypothesis narrow.2 (Nat.le_of_not_lt fits) later

/-! ### Lines that fit -/

theorem dropBeyond_isPrefix (line : Text) : dropBeyond width line <+: line := List.take_prefix _ _

/-- What is dropped from the end of a line is blank. -/
theorem exists_dropBeyond (width : Nat) (line : Text) :
    ∃ blanks, dropBeyond width line = Text.trimEnd line ++ blanks ∧
      ∀ c ∈ blanks, Text.isBlank c = true := by
  obtain ⟨blanks, isLine, blank⟩ := Text.exists_blanks_after_trimEnd line
  refine ⟨blanks.take (max (Text.trimEnd line).length width - (Text.trimEnd line).length), ?_,
    fun c member => blank c (List.mem_of_mem_take member)⟩
  conv_lhs => rw [dropBeyond, isLine, Text.trimEnd_append_of_blank _ blank, Text.trimEnd_trimEnd]
  rw [List.take_append, List.take_of_length_le (le_max_left _ _)]

theorem crop_append_of_narrow {room : Nat} {t : Text} (narrow : columns cells t ≤ room)
    (rest : Text) :
    crop cells room (t ++ rest) = t ++ crop cells (room - columns cells t) rest := by
  induction t generalizing room with
  | nil => rfl
  | cons c t inductionHypothesis =>
      rw [columns_cons] at narrow ⊢
      have room : cells c ≤ room := by omega
      rw [List.cons_append, crop, if_pos room, inductionHypothesis (by omega), Nat.sub_sub,
        List.cons_append]

theorem crop_of_narrow {room : Nat} {t : Text} (narrow : columns cells t ≤ room) :
    crop cells room t = t := by
  have whole := crop_append_of_narrow narrow []
  rwa [List.append_nil, crop, List.append_nil] at whole

theorem columns_crop_le (blank : cells ' ' = 1) (room : Nat) (t : Text) :
    columns cells (crop cells room t) ≤ room := by
  induction t generalizing room with
  | nil => exact Nat.zero_le _
  | cons c rest inductionHypothesis =>
      unfold crop
      split
      next fits =>
        rw [columns_cons]
        have later := inductionHypothesis (room - cells c)
        omega
      next => exact (columns_blanks blank room).le

/-- A line that is cropped is a start of what it was, with blanks after it. -/
theorem exists_crop (cells : Char → Nat) (room : Nat) (t : Text) :
    ∃ start count, start <+: t ∧ crop cells room t = start ++ List.replicate count ' ' := by
  induction t generalizing room with
  | nil => exact ⟨[], 0, List.nil_prefix, rfl⟩
  | cons c rest inductionHypothesis =>
      unfold crop
      split
      · obtain ⟨start, count, starts, cropped⟩ := inductionHypothesis (room - cells c)
        exact ⟨c :: start, count, List.cons_prefix_cons.mpr ⟨rfl, starts⟩, by
          rw [cropped, List.cons_append]⟩
      · exact ⟨[], room, List.nil_prefix, rfl⟩

/-- A fitted line is a start of what it was, with blanks after it. -/
theorem exists_fitted (cells : Char → Nat) (width : Nat) (line : Text) :
    ∃ start count, start <+: line ∧ fitted cells width line = start ++ List.replicate count ' ' := by
  obtain ⟨start, count, starts, cropped⟩ := exists_crop cells width
    (dropBeyond width line)
  exact ⟨start, count, starts.trans (dropBeyond_isPrefix line), cropped⟩

theorem fitted_of_narrow {line : Text} (narrow : columns cells line ≤ width) :
    fitted cells width line = dropBeyond width line :=
  crop_of_narrow ((columns_le_of_isPrefix (dropBeyond_isPrefix line)).trans narrow)

/-- A line that fits without the blanks at its end keeps all that is solid. -/
theorem filter_isSolid_fitted {line : Text}
    (narrow : columns cells (Text.trimEnd line) ≤ width) :
    (fitted cells width line).filter isSolid = line.filter isSolid := by
  obtain ⟨blanks, kept, blank⟩ := exists_dropBeyond width line
  obtain ⟨dropped, isLine, alsoBlank⟩ := Text.exists_blanks_after_trimEnd line
  have rest : ∀ c ∈ crop cells (width - columns cells (Text.trimEnd line)) blanks,
      Text.isBlank c = true := by
    intro c member
    obtain ⟨start, count, starts, cropped⟩ := exists_crop cells
      (width - columns cells (Text.trimEnd line)) blanks
    rw [cropped] at member
    rcases List.mem_append.mp member with within | padded
    · exact blank c (starts.subset within)
    · rw [List.eq_of_mem_replicate padded]
      decide
  rw [fitted, kept, crop_append_of_narrow narrow, List.filter_append, filter_isSolid_of_blank rest,
    List.append_nil]
  conv_rhs => rw [isLine, List.filter_append, filter_isSolid_of_blank alsoBlank, List.append_nil]

/-! ### Laid-out texts -/

theorem linesOf_ne_nil (line : Text) (words : List Text) : linesOf cells width line words ≠ [] := by
  fun_induction linesOf cells width line words with
  | case1 line => exact List.cons_ne_nil _ _
  | case2 line word rest wide fits inductionHypothesis => exact inductionHypothesis
  | case3 line word rest wide noRoom tooWide cut inductionHypothesis =>
      exact List.append_ne_nil_of_right_ne_nil _ inductionHypothesis
  | case4 line word rest wide noRoom fits inductionHypothesis => exact List.cons_ne_nil _ _

/-- The lines that a line becomes hold nothing else but blanks, and no tab. -/
theorem of_mem_brokenLines {line made : Text} {c : Char}
    (isLine : made ∈ brokenLines cells width line) (member : c ∈ made) :
    c = ' ' ∨ (c ∈ line ∧ c ≠ '\t') := by
  obtain ⟨broken, isBroken, rfl⟩ := List.mem_map.mp isLine
  obtain ⟨start, count, starts, isFitted⟩ := exists_fitted cells width broken
  rw [isFitted] at member
  rcases List.mem_append.mp member with within | padded
  · have inLine : c ∈ (linesOf cells width [] (wordsOf (expandTabs cells line))).flatten :=
      List.mem_flatten.mpr ⟨broken, isBroken, starts.subset within⟩
    rw [flatten_linesOf, flatten_wordsOf] at inLine
    exact of_mem_expandTabsFrom inLine
  · exact .inl (List.eq_of_mem_replicate padded)

/-- The lines of a laid-out text. -/
theorem splitOn_layOut (cells : Char → Nat) (width : Nat) (t : Text) :
    Text.splitOn '\n' (layOut cells width t) =
      (Text.splitOn '\n' t).flatMap (brokenLines cells width) := by
  refine Text.splitOn_join ?_ fun made member => ?_
  · obtain ⟨line, lines, isFirst⟩ := List.exists_cons_of_ne_nil (Text.splitOn_ne_nil '\n' t)
    rw [isFirst, List.flatMap_cons]
    refine List.append_ne_nil_of_left_ne_nil ?_ _
    rw [brokenLines, ne_eq, List.map_eq_nil_iff]
    exact linesOf_ne_nil _ _
  · obtain ⟨line, isLine, isMade⟩ := List.mem_flatMap.mp member
    intro newline
    rcases of_mem_brokenLines isMade newline with blank | ⟨within, -⟩
    · exact absurd blank (by decide)
    · exact Text.notMem_of_mem_splitOn isLine within

/-- A laid-out text holds nothing else than was there but blanks and the ends of lines, and no
tab. -/
theorem of_mem_layOut {t : Text} {c : Char} (member : c ∈ layOut cells width t) :
    c = ' ' ∨ c = '\n' ∨ (c ∈ t ∧ c ≠ '\t') := by
  rcases Text.mem_of_mem_join member with between | ⟨made, isMade, within⟩
  · exact .inr (.inl (List.mem_singleton.mp between))
  · obtain ⟨line, isLine, broken⟩ := List.mem_flatMap.mp isMade
    rcases of_mem_brokenLines broken within with blank | ⟨inLine, noTab⟩
    · exact .inl blank
    · exact .inr (.inr ⟨(Text.isInfix_of_mem_splitOn isLine).subset inLine, noTab⟩)

/-- Every line of a laid-out text fits the width. -/
theorem columns_le_of_mem_layOut (blank : cells ' ' = 1) {t line : Text}
    (member : line ∈ Text.splitOn '\n' (layOut cells width t)) : columns cells line ≤ width := by
  rw [splitOn_layOut] at member
  obtain ⟨_, -, broken⟩ := List.mem_flatMap.mp member
  obtain ⟨made, -, rfl⟩ := List.mem_map.mp broken
  exact columns_crop_le blank width _

/-- A line without tabs that fits is not broken, but loses what it is padded with beyond the
width. -/
theorem brokenLines_of_narrow {line : Text} (tabless : '\t' ∉ line)
    (narrow : columns cells line ≤ width) :
    brokenLines cells width line = [dropBeyond width line] := by
  have whole : columns cells ([] ++ (wordsOf line).flatten) ≤ width := by
    rwa [List.nil_append, flatten_wordsOf]
  rw [brokenLines, expandTabs, expandTabsFrom_eq_self tabless, linesOf_of_narrow whole,
    List.nil_append, flatten_wordsOf, List.map_singleton, fitted_of_narrow narrow]

/-- A text without tabs is laid out as it is exactly if each of its lines fits the width and is not
padded beyond it. -/
theorem layOut_eq_self_iff (blank : cells ' ' = 1) {t : Text} (tabless : '\t' ∉ t) :
    layOut cells width t = t ↔
      ∀ line ∈ Text.splitOn '\n' t, columns cells line ≤ width ∧ dropBeyond width line = line := by
  have noTab : ∀ line ∈ Text.splitOn '\n' t, '\t' ∉ line := fun line isLine within =>
    tabless ((Text.isInfix_of_mem_splitOn isLine).subset within)
  have unbrokenIf : (∀ line ∈ Text.splitOn '\n' t, columns cells line ≤ width) →
      (Text.splitOn '\n' t).flatMap (brokenLines cells width) =
        (Text.splitOn '\n' t).map (dropBeyond width) := by
    intro narrow
    rw [← List.flatMap_singleton' (List.map _ _), List.flatMap_map]
    exact List.flatMap_congr fun line isLine =>
      brokenLines_of_narrow (noTab line isLine) (narrow line isLine)
  constructor
  · intro same line isLine
    have narrow : ∀ line ∈ Text.splitOn '\n' t, columns cells line ≤ width := by
      intro line isLine
      rw [← same] at isLine
      exact columns_le_of_mem_layOut blank isLine
    have lines := splitOn_layOut cells width t
    rw [same, unbrokenIf narrow] at lines
    have kept := List.map_inj_left.mp (lines.symm.trans (List.map_id _).symm)
    exact ⟨narrow line isLine, kept line isLine⟩
  · intro fits
    have kept := List.map_congr_left fun line isLine => (fits line isLine).2
    rw [layOut, unbrokenIf fun line isLine => (fits line isLine).1, kept, List.map_id']
    exact Text.join_splitOn '\n' t

/-! ### What is kept -/

/-- What is solid in a text is solid in its lines. -/
theorem flatMap_filter_splitOn (t : Text) :
    (Text.splitOn '\n' t).flatMap (·.filter isSolid) = t.filter isSolid := by
  rw [← Text.filter_join (show ['\n'].filter isSolid = [] by decide), Text.join_splitOn]

theorem filter_isSolid_layOut_eq_flatMap (t : Text) :
    (layOut cells width t).filter isSolid =
      (Text.splitOn '\n' t).flatMap fun line =>
        (linesOf cells width [] (wordsOf (expandTabs cells line))).flatMap fun made =>
          (fitted cells width made).filter isSolid := by
  rw [layOut, Text.filter_join (by decide), List.flatMap_assoc]
  refine List.flatMap_congr fun line _ => ?_
  rw [brokenLines, List.flatMap_map]

/-- Breaking a line keeps all that is solid. -/
theorem flatMap_filter_linesOf (cells : Char → Nat) (width : Nat) (line : Text) :
    (linesOf cells width [] (wordsOf (expandTabs cells line))).flatMap (·.filter isSolid) =
      line.filter isSolid := by
  rw [List.flatMap_def, ← List.filter_flatten, flatten_linesOf, flatten_wordsOf]
  exact filter_isSolid_expandTabsFrom 0 line

/-- Nothing solid is put into a text that is laid out, and what is kept stays in order. -/
theorem filter_isSolid_layOut_sublist (cells : Char → Nat) (width : Nat) (t : Text) :
    List.Sublist ((layOut cells width t).filter isSolid) (t.filter isSolid) := by
  rw [filter_isSolid_layOut_eq_flatMap, ← flatMap_filter_splitOn t]
  refine List.Sublist.flatMap_right _ fun line _ => ?_
  rw [← flatMap_filter_linesOf cells width line]
  refine List.Sublist.flatMap_right _ fun made _ => ?_
  obtain ⟨start, count, starts, isFitted⟩ := exists_fitted cells width made
  rw [isFitted, List.filter_append, List.filter_replicate_of_neg (by decide), List.append_nil]
  exact starts.sublist.filter isSolid

/-- Where each character fits a line, all that is solid in a text is kept, in order. -/
theorem filter_isSolid_layOut (blank : cells ' ' ≤ width) {t : Text}
    (narrow : ∀ c ∈ t, cells c ≤ width) :
    (layOut cells width t).filter isSolid = t.filter isSolid := by
  rw [filter_isSolid_layOut_eq_flatMap, ← flatMap_filter_splitOn t]
  refine List.flatMap_congr fun line isLine => ?_
  rw [← flatMap_filter_linesOf cells width line]
  refine List.flatMap_congr fun made isMade => filter_isSolid_fitted ?_
  refine columns_trimEnd_of_mem_linesOf (fun word isWord c member => ?_) (Nat.zero_le _) isMade
  have expanded : c ∈ (wordsOf (expandTabs cells line)).flatten :=
    List.mem_flatten.mpr ⟨word, isWord, member⟩
  rw [flatten_wordsOf] at expanded
  rcases of_mem_expandTabsFrom expanded with rfl | ⟨inLine, -⟩
  · exact blank
  · exact narrow c ((Text.isInfix_of_mem_splitOn isLine).subset inLine)

end CueWatch.Console
