import CueWatch.Keyed
import Mathlib.Data.List.Induction

/-!
Contract: what putting pairs does to the keys of a dictionary and to its pairs.

Owns:
- that keys keep their order when pairs are put, and stay different from each other when pairs are
  put or erased;
- that the keys of a dictionary are those under which something is found;
- that nothing is in a dictionary but what was there and what was put;
- that putting all pairs of a dictionary over a start of it gives that dictionary again;
- `find?_merge` and `keys_merge`: of pairs with one key the last value counts, at the place of the
  first, whether or not they have been put together before.

Does not own: the look-up of single keys (`Keyed`).
-/

namespace CueWatch.Keyed

variable {κ β : Type} [DecidableEq κ]

/-! ### One pair -/

theorem keys_prefix_put (key : κ) (value : β) (pairs : Keyed κ β) :
    keys pairs <+: keys (put key value pairs) := by
  rw [keys_put]
  split
  · exact List.prefix_rfl
  · exact List.prefix_append _ _

theorem nodup_keys_put (key : κ) (value : β) {pairs : Keyed κ β} (distinct : (keys pairs).Nodup) :
    (keys (put key value pairs)).Nodup := by
  rw [keys_put]
  split
  next => exact distinct
  next absent =>
    refine List.nodup_append.mpr ⟨distinct, List.pairwise_singleton _ key, ?_⟩
    rintro present member added isKey rfl
    rw [List.mem_singleton.mp isKey] at member
    exact absent member

theorem mem_put {key : κ} {value : β} {pairs : Keyed κ β} {pair : κ × β}
    (member : pair ∈ put key value pairs) : pair = (key, value) ∨ pair ∈ pairs := by
  induction pairs with
  | nil => exact .inl (List.mem_singleton.mp member)
  | cons first rest inductionHypothesis =>
      rw [put] at member
      split at member
      next same =>
        rcases List.mem_cons.mp member with rfl | later
        · exact .inl (by rw [same])
        · exact .inr (List.mem_cons_of_mem _ later)
      next =>
        rcases List.mem_cons.mp member with rfl | later
        · exact .inr List.mem_cons_self
        · exact (inductionHypothesis later).imp_right (List.mem_cons_of_mem _)

/-- Putting passes by pairs of other keys. -/
theorem put_append {key : κ} {passed : Keyed κ β} (absent : key ∉ keys passed) (value : β)
    (pairs : Keyed κ β) : put key value (passed ++ pairs) = passed ++ put key value pairs := by
  induction passed with
  | nil => rfl
  | cons first rest inductionHypothesis =>
      rw [keys, List.map_cons, List.mem_cons, not_or] at absent
      rw [List.cons_append, put, if_neg fun same => absent.1 same.symm,
        inductionHypothesis absent.2, List.cons_append]

theorem mem_of_find? {key : κ} {value : β} {pairs : Keyed κ β}
    (found : find? key pairs = some value) : (key, value) ∈ pairs := by
  induction pairs with
  | nil => cases found
  | cons first rest inductionHypothesis =>
      rw [find?] at found
      split at found
      next same =>
        obtain rfl := Option.some.inj found
        rw [← same]
        exact List.mem_cons_self
      next => exact List.mem_cons_of_mem _ (inductionHypothesis found)

theorem isSome_find? {key : κ} {pairs : Keyed κ β} (present : key ∈ keys pairs) :
    (find? key pairs).isSome := by
  induction pairs with
  | nil => cases present
  | cons first rest inductionHypothesis =>
      rw [find?]
      split
      next => rfl
      next different =>
        rcases List.mem_cons.mp present with same | later
        · exact absurd same.symm different
        · exact inductionHypothesis later

theorem mem_keys_iff {key : κ} {pairs : Keyed κ β} :
    key ∈ keys pairs ↔ ∃ value, find? key pairs = some value := by
  constructor
  · intro present
    exact Option.isSome_iff_exists.mp (isSome_find? present)
  · rintro ⟨value, found⟩
    exact List.mem_map_of_mem (mem_of_find? found)

theorem nodup_keys_erase (key : κ) {pairs : Keyed κ β} (distinct : (keys pairs).Nodup) :
    (keys (erase key pairs)).Nodup :=
  distinct.sublist (List.filter_sublist.map Prod.fst)

/-! ### All pairs of another dictionary -/

/-- What holds of a dictionary and survives the putting of a pair survives a merge. -/
theorem merge_induction {motive : Keyed κ β → Prop} (pairs additions : Keyed κ β)
    (start : motive pairs)
    (step : ∀ merged, ∀ pair ∈ additions, motive merged → motive (put pair.1 pair.2 merged)) :
    motive (merge pairs additions) := by
  induction additions generalizing pairs with
  | nil => exact start
  | cons first rest inductionHypothesis =>
      refine inductionHypothesis _ (step pairs first List.mem_cons_self start) ?_
      exact fun merged pair member => step merged pair (List.mem_cons_of_mem _ member)

theorem keys_prefix_merge (pairs additions : Keyed κ β) :
    keys pairs <+: keys (merge pairs additions) :=
  merge_induction (motive := fun merged => keys pairs <+: keys merged) pairs additions
    List.prefix_rfl fun merged pair _ start => start.trans (keys_prefix_put pair.1 pair.2 merged)

theorem nodup_keys_merge {pairs : Keyed κ β} (distinct : (keys pairs).Nodup)
    (additions : Keyed κ β) : (keys (merge pairs additions)).Nodup :=
  merge_induction (motive := fun merged => (keys merged).Nodup) pairs additions distinct
    fun _ pair _ start => nodup_keys_put pair.1 pair.2 start

theorem mem_merge {pairs additions : Keyed κ β} {pair : κ × β}
    (member : pair ∈ merge pairs additions) : pair ∈ pairs ∨ pair ∈ additions := by
  revert pair
  refine merge_induction
    (motive := fun merged => ∀ {pair}, pair ∈ merged → pair ∈ pairs ∨ pair ∈ additions)
    pairs additions .inl ?_
  intro merged added isAdded inductionHypothesis pair member
  rcases mem_put member with rfl | earlier
  · exact .inr isAdded
  · exact inductionHypothesis earlier

/-- After the pairs that are already in place, the others are put over the start of them. -/
theorem merge_append (placed : Keyed κ β) {pairs additions : Keyed κ β}
    (starts : keys pairs <+: keys additions) (distinct : (keys (placed ++ additions)).Nodup) :
    merge (placed ++ pairs) additions = placed ++ additions := by
  induction additions generalizing placed pairs with
  | nil =>
      obtain rfl := List.map_eq_nil_iff.mp (List.prefix_nil.mp starts)
      rfl
  | cons first rest inductionHypothesis =>
      have isNew : first.1 ∉ keys placed := by
        intro present
        rw [keys, List.map_append, List.nodup_append] at distinct
        exact distinct.2.2 _ present _ List.mem_cons_self rfl
      have regrouped : placed ++ first :: rest = (placed ++ [first]) ++ rest := by simp
      rw [regrouped] at distinct ⊢
      change merge (put first.1 first.2 (placed ++ pairs)) rest = _
      rw [put_append isNew]
      cases pairs with
      | nil =>
          have start : keys ([] : Keyed κ β) <+: keys rest := List.nil_prefix
          have next := inductionHypothesis (placed ++ [first]) start distinct
          rwa [List.append_nil] at next
      | cons own others =>
          obtain ⟨same, later⟩ := List.cons_prefix_cons.mp starts
          have next := inductionHypothesis (placed ++ [first]) later distinct
          rw [List.append_assoc, List.singleton_append] at next
          rwa [put, if_pos same, same]

/-- A dictionary put over a start of it, whatever the values there, gives that dictionary. -/
theorem merge_of_keys_prefix {pairs additions : Keyed κ β} (starts : keys pairs <+: keys additions)
    (distinct : (keys additions).Nodup) : merge pairs additions = additions :=
  merge_append [] starts distinct

theorem merge_nil {additions : Keyed κ β} (distinct : (keys additions).Nodup) :
    merge [] additions = additions :=
  merge_of_keys_prefix (List.nil_prefix : keys ([] : Keyed κ β) <+: keys additions) distinct

/-! ### Pairs that are put again -/

theorem merge_concat (pairs additions : Keyed κ β) (pair : κ × β) :
    merge pairs (additions ++ [pair]) = put pair.1 pair.2 (merge pairs additions) := by
  rw [merge, List.foldl_append]
  rfl

theorem put_put (key : κ) (first last : β) (pairs : Keyed κ β) :
    put key last (put key first pairs) = put key last pairs := by
  induction pairs with
  | nil => simp [put]
  | cons pair rest inductionHypothesis =>
      by_cases same : pair.1 = key
      · simp [put, same]
      · simp [put, same, inductionHypothesis]

/-- A key that is there already can be put before or after another key. -/
theorem put_comm {key other : κ} (distinct : other ≠ key) (value otherValue : β)
    {pairs : Keyed κ β} (present : key ∈ keys pairs) :
    put key value (put other otherValue pairs) = put other otherValue (put key value pairs) := by
  induction pairs with
  | nil => cases present
  | cons pair rest inductionHypothesis =>
      by_cases here : pair.1 = key
      · have apart : ¬ key = other := fun same => distinct same.symm
        simp [put, here, apart]
      · have later : key ∈ keys rest := by
          rcases List.mem_cons.mp present with same | later
          · exact absurd same.symm here
          · exact later
        by_cases there : pair.1 = other
        · subst there
          simp [put, here]
        · simp [put, here, there, inductionHypothesis later]

theorem put_merge {key : κ} (value : β) {pairs additions : Keyed κ β}
    (present : key ∈ keys pairs) (absent : key ∉ keys additions) :
    put key value (merge pairs additions) = merge (put key value pairs) additions := by
  induction additions generalizing pairs with
  | nil => rfl
  | cons first rest inductionHypothesis =>
      rw [keys, List.map_cons, List.mem_cons, not_or] at absent
      have isThere : key ∈ keys (put first.1 first.2 pairs) :=
        (keys_prefix_put first.1 first.2 pairs).subset present
      change put key value (merge (put first.1 first.2 pairs) rest) =
        merge (put first.1 first.2 (put key value pairs)) rest
      rw [inductionHypothesis isThere absent.2, put_comm (Ne.symm absent.1) _ _ present]

/-- Putting a pair into what is put over a dictionary puts it over that dictionary last. -/
theorem merge_put (key : κ) (value : β) (pairs : Keyed κ β) {additions : Keyed κ β}
    (distinct : (keys additions).Nodup) :
    merge pairs (put key value additions) = put key value (merge pairs additions) := by
  induction additions generalizing pairs with
  | nil => rfl
  | cons first rest inductionHypothesis =>
      obtain ⟨absent, distinctRest⟩ := List.nodup_cons.mp distinct
      rw [put]
      split
      next same =>
        have present : key ∈ keys (put first.1 first.2 pairs) := by
          rw [← same, keys_put]
          split
          next isThere => exact isThere
          next => exact List.mem_append_right _ List.mem_cons_self
        rw [same] at absent
        change merge (put first.1 value pairs) rest =
          put key value (merge (put first.1 first.2 pairs) rest)
        rw [put_merge value present absent, same, put_put]
      next => exact inductionHypothesis _ distinctRest

/-- Pairs can be put together first. -/
theorem merge_merge (pairs additions : Keyed κ β) :
    merge pairs (merge [] additions) = merge pairs additions := by
  induction additions using List.reverseRecOn with
  | nil => rfl
  | append_singleton earlier last inductionHypothesis =>
      have nothing : (keys ([] : Keyed κ β)).Nodup := List.nodup_nil
      have distinct := nodup_keys_merge nothing earlier
      rw [merge_concat, merge_concat, merge_put _ _ _ distinct, inductionHypothesis]

/-- A key has the last value that was put under it, or else the one that it had before. -/
theorem find?_merge (key : κ) (pairs additions : Keyed κ β) :
    find? key (merge pairs additions) = (find? key additions.reverse).or (find? key pairs) := by
  induction additions using List.reverseRecOn with
  | nil => rfl
  | append_singleton earlier last inductionHypothesis =>
      rw [merge_concat, List.reverse_append, List.reverse_singleton, List.singleton_append, find?]
      split
      next same => rw [same, find?_put_self, Option.some_or]
      next different => rw [find?_put_of_ne different, inductionHypothesis]

/-- Keys that are put for the first time stand behind those that are there, in the order in which
they first appear. -/
theorem keys_merge [BEq κ] [LawfulBEq κ] (pairs additions : Keyed κ β) :
    keys (merge pairs additions) =
      keys pairs ++ ((keys additions).removeAll (keys pairs)).eraseDups := by
  induction additions generalizing pairs with
  | nil => simp [merge, keys, List.removeAll]
  | cons first rest inductionHypothesis =>
      change keys (merge (put first.1 first.2 pairs) rest) = _
      have own : keys (first :: rest) = first.1 :: keys rest := rfl
      rw [inductionHypothesis, keys_put, own, List.cons_removeAll]
      split
      next present => rw [if_neg (by simp [present])]
      next absent =>
        have others : (keys rest).removeAll (keys pairs ++ [first.1]) =
            ((keys rest).removeAll (keys pairs)).filter fun key => !key == first.1 := by
          rw [List.removeAll, List.removeAll, List.filter_filter]
          refine List.filter_congr fun key _ => ?_
          simp [beq_eq_decide, Bool.and_comm]
        rw [if_pos (by simp [absent]), others, List.eraseDups_cons, List.append_assoc,
          List.singleton_append]

end CueWatch.Keyed
