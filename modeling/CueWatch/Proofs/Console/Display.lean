import CueWatch.Console.Standard
import CueWatch.Proofs.Console.Code
import CueWatch.Proofs.Console.Layout

/-!
Contract: which texts a console shows as they are written.

The tables of a console are not part of the program. What is relied on of them is documented: a blank
takes one column, and the pictures that stand for codes hold no colon.

Owns:
- `Documented`, the consoles of which this is so, and that the standard consoles are;
- `AsWritten`, that a text holds no tab, none of the control characters that are dropped and no code
  that has a picture, and that its lines fit the width;
- that a text is printed as it is exactly if it is such a text;
- that all solid characters are printed, in order, of what is left when codes have been replaced.

Does not own: the layout itself (`Proofs.Console.Layout`).
-/

namespace CueWatch.Console

/-- What is documented of the tables of a console. -/
structure Documented (console : Console) : Prop where
  blank : console.cells ' ' = 1
  colonless : Colonless console.picture

theorem documented_standard (width : Nat) : (standard width).Documented where
  blank := rfl
  colonless := nofun

/-- A text without tabs and without the control characters that are dropped. -/
def IsShowable (t : Text) : Prop := ∀ c ∈ t, c ≠ '\t' ∧ Text.isHiddenControl c = false

instance (t : Text) : Decidable (IsShowable t) :=
  decidable_of_iff ((t.all fun c => c ≠ '\t' && !Text.isHiddenControl c) = true)
    (by simp [IsShowable])

/-- A text that a console has no reason to change: no code in it has a picture, it can be shown, and
its lines fit the width and are not padded with blanks beyond it. -/
structure AsWritten (console : Console) (t : Text) : Prop where
  codeless : replaceCodes console.picture t = t
  showable : IsShowable t
  fits : ∀ line ∈ Text.splitOn '\n' t,
    columns console.cells line ≤ console.width ∧ dropBeyond console.width line = line

theorem withoutControls_of_isShowable {t : Text} (showable : IsShowable t) :
    Text.withoutControls t = t :=
  List.filter_eq_self.mpr fun c member => by simp [(showable c member).2]

theorem tab_notMem_of_isShowable {t : Text} (showable : IsShowable t) : '\t' ∉ t :=
  fun member => (showable '\t' member).1 rfl

theorem isShowable_plain (console : Console) (t : Text) : IsShowable (console.plain t) := by
  intro c member
  rcases of_mem_layOut member with rfl | rfl | ⟨kept, noTab⟩
  · decide
  · decide
  · exact ⟨noTab, by simpa using (List.mem_filter.mp kept).2⟩

/-- No more colons are printed than are left when codes have been replaced. -/
theorem count_colon_plain_le (console : Console) (t : Text) :
    (console.plain t).count ':' ≤ (replaceCodes console.picture t).count ':' := by
  have solid : isSolid ':' = true := by decide
  have laidOut := (filter_isSolid_layOut_sublist console.cells console.width
    (Text.withoutControls (replaceCodes console.picture t))).count_le ':'
  rw [List.count_filter solid, List.count_filter solid] at laidOut
  exact laidOut.trans (List.filter_sublist.count_le ':')

/-- A text is printed as it is exactly if the console has no reason to change it. -/
theorem plain_eq_self_iff {console : Console} (documented : console.Documented) (t : Text) :
    console.plain t = t ↔ console.AsWritten t := by
  constructor
  · intro same
    have showable : IsShowable t := by
      rw [← same]
      exact isShowable_plain console t
    have codeless : replaceCodes console.picture t = t := by
      have printed := count_colon_plain_le console t
      rw [same] at printed
      exact (replaceCodes_eq_self_or_lt documented.colonless t).resolve_right printed.not_gt
    rw [plain, codeless, withoutControls_of_isShowable showable] at same
    exact ⟨codeless, showable,
      (layOut_eq_self_iff documented.blank (tab_notMem_of_isShowable showable)).mp same⟩
  · rintro ⟨codeless, showable, fits⟩
    rw [plain, codeless, withoutControls_of_isShowable showable]
    exact (layOut_eq_self_iff documented.blank (tab_notMem_of_isShowable showable)).mpr fits

theorem filter_isSolid_withoutControls (t : Text) :
    (Text.withoutControls t).filter isSolid = t.filter isSolid := by
  rw [Text.withoutControls, List.filter_filter]
  congr 1
  funext c
  unfold isSolid
  cases Text.isHiddenControl c <;> simp

/-- Where no character is wider than a line, all solid characters that are left when codes have been
replaced are printed, in order. -/
theorem filter_isSolid_plain {console : Console} (narrow : ∀ c, console.cells c ≤ console.width)
    (t : Text) :
    (console.plain t).filter isSolid = (replaceCodes console.picture t).filter isSolid := by
  rw [plain, filter_isSolid_layOut (narrow ' ') fun c _ => narrow c]
  exact filter_isSolid_withoutControls _

end CueWatch.Console
