import CueWatch.Console.Code

/-!
Contract: a text in which codes have been replaced holds fewer colons, or is the same.

Owns:
- `Colonless`, of tables whose pictures hold no colon;
- that colons are lost wherever a picture of such a table is put in place of a code.

Does not own: which names have a picture (`Console`).
-/

namespace CueWatch.Console

/-- No picture holds a colon. -/
def Colonless (picture : Text → Option Text) : Prop :=
  ∀ name shown, picture name = some shown → ':' ∉ shown

variable {picture : Text → Option Text}

/-- What is replaced from some place on differs from what was written only if it has lost a colon. -/
theorem replaceCodesFrom_eq_or_lt (colonless : Colonless picture) (code : Option Text) (t : Text) :
    replaceCodesFrom picture code t = begun code ++ t ∨
      (replaceCodesFrom picture code t).count ':' < (begun code ++ t).count ':' := by
  fun_induction replaceCodesFrom picture code t with
  | case1 code => exact .inl (List.append_nil _).symm
  | case2 rest inductionHypothesis => exact inductionHypothesis
  | case3 c rest ordinary inductionHypothesis =>
      rw [begun, List.nil_append] at inductionHypothesis ⊢
      refine inductionHypothesis.imp (congrArg (c :: ·)) fun fewer => ?_
      rw [List.count_cons, List.count_cons]
      exact Nat.add_lt_add_right fewer _
  | case4 name rest inductionHypothesis =>
      rw [begun, List.nil_append] at inductionHypothesis
      have noMore : (replaceCodesFrom picture none rest).count ':' ≤ rest.count ':' := by
        rcases inductionHypothesis with same | fewer
        · exact Nat.le_of_eq (congrArg (List.count ':') same)
        · exact Nat.le_of_lt fewer
      cases shown : picture name.reverse with
      | none =>
          rw [Option.getD_none, List.append_assoc, List.singleton_append]
          refine inductionHypothesis.imp
            (fun same => congrArg (begun (some name) ++ ':' :: ·) same) fun fewer => ?_
          rw [List.count_append, List.count_append, List.count_cons_self, List.count_cons_self]
          omega
      | some pictured =>
          -- The two colons of the code are gone, and the picture brings none.
          right
          rw [Option.getD_some, List.count_append,
            List.count_eq_zero_of_not_mem (colonless _ _ shown), List.count_append,
            List.count_cons_self]
          omega
  | case5 name c rest ordinary blank inductionHypothesis =>
      rw [begun, List.nil_append] at inductionHypothesis
      refine inductionHypothesis.imp
        (fun same => congrArg (begun (some name) ++ c :: ·) same) fun fewer => ?_
      rw [List.count_append, List.count_append, List.count_cons, List.count_cons]
      omega
  | case6 name c rest ordinary solid inductionHypothesis =>
      have written : begun (some (c :: name)) ++ rest = begun (some name) ++ c :: rest := by
        rw [begun, begun, List.reverse_cons, ← List.cons_append, List.append_assoc,
          List.singleton_append]
      rwa [written] at inductionHypothesis

/-- Where codes are replaced, a text stays the same or loses a colon. -/
theorem replaceCodes_eq_self_or_lt (colonless : Colonless picture) (t : Text) :
    replaceCodes picture t = t ∨ (replaceCodes picture t).count ':' < t.count ':' :=
  replaceCodesFrom_eq_or_lt colonless none t

end CueWatch.Console
