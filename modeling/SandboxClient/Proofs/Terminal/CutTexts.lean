/-
  SandboxClient/Proofs/Terminal/CutTexts.lean
  ===========================================
  **How wide texts are after they have been cut off.** What is kept before the dots
  is the longest start that leaves room for them, counted character by character.
  As a text it may take more columns than so counted, one for each control and
  each selector for emoji in it, and only then the limit is exceeded
  (`truncate_fits_iff`). The cells of tables are cut off in this way.
-/
import SandboxClient.Terminal.Table
import SandboxClient.Proofs.Terminal.Wrapped

namespace SandboxClient.Terminal

open SandboxClient.Text

/-! ### The start that is kept -/

/-- What is kept of a text that is cut off: the longest start whose characters, one by one, leave
room for the dots. -/
structure IsKept (width : Nat) (s kept : List Char) : Prop where
  starts : kept <+: s
  leaves_room : loneTotal kept + dots.length ≤ width
  longest : ∀ p, p <+: s → loneTotal p + dots.length ≤ width → p <+: kept

section Cutting

variable {width used : Nat} {s p kept : List Char}

theorem cut_longest (hp : p <+: s) (hroom : used + loneTotal p + dots.length ≤ width) :
    p <+: cut width used s := by
  induction p generalizing used s with
  | nil => exact List.nil_prefix
  | cons c p ih =>
    obtain ⟨t, rfl, hrest⟩ := List.cons_prefix_iff.mp hp
    rw [loneTotal_cons] at hroom
    unfold cut
    rw [if_neg (by omega)]
    exact (List.prefix_cons_inj c).mpr (ih hrest (by omega))

theorem isKept_cut (h : dots.length ≤ width) (s : List Char) : IsKept width s (cut width 0 s) where
  starts := cut_starts width 0 s
  leaves_room := by
    have hroom := @lone_cut_le width 0 (by omega) s
    omega
  longest p hp hroom := cut_longest hp (by omega)

end Cutting

/-! ### Texts that stay within a width

What is kept is measured character by character, the text as a whole; the two differ for some
characters. -/

/-- A text that is no wider than a width after it has been cut off: it was not before, or the start
that is kept leaves room for the dots as a text, too. -/
def StaysWithin (width : Nat) (s : List Char) : Prop :=
  columns s ≤ width ∨ columns (cut width 0 s) + dots.length ≤ width

instance (width : Nat) (s : List Char) : Decidable (StaysWithin width s) :=
  inferInstanceAs (Decidable (_ ∨ _))

theorem displayWidth_truncate_le_iff (s : String) (width : Nat) :
    displayWidth (truncate s width) ≤ width ↔ StaysWithin width s.toList := by
  unfold displayWidth truncate StaysWithin
  rw [String.toList_ofList, columns_truncateChars]
  split <;> omega

section Truncating

variable {s : String} {width : Nat}

theorem truncate_of_le (h : displayWidth s ≤ width) : truncate s width = s := by
  have hcolumns : columns s.toList ≤ width := h
  unfold truncate truncateChars
  rw [if_pos hcolumns, String.ofList_toList]

theorem exists_kept (hdots : dots.length ≤ width) (h : width < displayWidth s) :
    ∃ kept, IsKept width s.toList kept ∧ truncate s width = String.ofList kept ++ "..." ∧
      displayWidth (truncate s width) ≤ width + kept.countP isInflating := by
  have hwide : ¬ columns s.toList ≤ width := Nat.not_le.mpr h
  refine ⟨cut width 0 s.toList, isKept_cut hdots _, ?_, ?_⟩
  · unfold truncate truncateChars
    rw [if_neg hwide, String.ofList_append]
    rfl
  · unfold displayWidth truncate
    rw [String.toList_ofList, columns_truncateChars, if_neg hwide]
    exact columns_cut_le hdots _

theorem staysWithin_of_not_inflating (hdots : dots.length ≤ width)
    (h : ∀ c ∈ s.toList, isInflating c = false) : StaysWithin width s.toList :=
  Or.inr (columns_cut_of_not_inflating hdots h)

end Truncating

theorem cells_within_iff (headers : List String) (rows : List (List Cell)) :
    (∀ r ∈ (Table.of headers rows).rows, ∀ c ∈ r, displayWidth c.text ≤ maxCellWidth) ↔
      ∀ r ∈ rows, ∀ c ∈ r, StaysWithin maxCellWidth c.text.toList := by
  simp only [Table.of, List.forall_mem_map, Cell.fitted, displayWidth_truncate_le_iff]

/-- **How wide texts are after they have been cut off.** A text that is not too wide stays as it is.
Of any other the longest start that leaves room for the dots, character by character, is kept, and
the dots follow it; the limit is exceeded by at most as many columns as this start has inflating
characters. That no text is too wide after that, and that only those that were too wide have been
changed, holds exactly for a text that stays within the width, and so it does for one without
inflating characters. In a table, the cells are not too wide if and only if this is so for all of
them. -/
theorem truncate_fits_iff (s : String) {width : Nat} (hdots : 3 ≤ width) :
    ((displayWidth (truncate s width) ≤ width ∧
        (truncate s width = s ↔ displayWidth s ≤ width)) ↔ StaysWithin width s.toList) ∧
      (displayWidth s ≤ width → truncate s width = s) ∧
      (width < displayWidth s →
        ∃ kept, IsKept width s.toList kept ∧ truncate s width = String.ofList kept ++ "..." ∧
          displayWidth (truncate s width) ≤ width + kept.countP isInflating) ∧
      ((∀ c ∈ s.toList, isInflating c = false) → StaysWithin width s.toList) ∧
      ∀ headers rows,
        (∀ r ∈ (Table.of headers rows).rows, ∀ c ∈ r, displayWidth c.text ≤ 48) ↔
          ∀ r ∈ rows, ∀ c ∈ r, StaysWithin 48 c.text.toList := by
  refine ⟨?_, truncate_of_le, exists_kept hdots, staysWithin_of_not_inflating hdots,
    cells_within_iff⟩
  rw [displayWidth_truncate_le_iff]
  constructor
  · rintro ⟨hwithin, -⟩
    exact hwithin
  · intro hwithin
    refine ⟨hwithin, ?_, truncate_of_le⟩
    intro hsame
    rw [← displayWidth_truncate_le_iff, hsame] at hwithin
    exact hwithin

theorem wide_name_cut :
    3 ≤ 8 ∧ displayWidth (truncate "日本語の名前" 8) ≤ 8 := by
  have hdots : 3 ≤ 8 := by decide
  have hcut := truncate_fits_iff "日本語の名前" hdots
  have hplain : "日本語の名前".toList.all (fun c => !isInflating c) = true := by decide
  have hwithin : StaysWithin 8 "日本語の名前".toList := hcut.2.2.2.1 (by simpa using hplain)
  exact ⟨hdots, (hcut.1.mpr hwithin).1⟩

/-- Controls take a column each in a text, and none as what is kept is measured: they make a cell
too wide, and a text that is too wide can be left as it is. -/
theorem controls_escape_cut :
    (∃ r ∈ (Table.of [] [[.plain (String.ofList (List.replicate 49 '\x01'))]]).rows,
      ∃ c ∈ r, displayWidth c.text = 52) ∧
    truncate "\x01..." 3 = "\x01..." ∧ displayWidth "\x01..." = 4 := by
  have hdot : 1 ≤ loneColumns '.' := by
    rw [loneColumns_eq (by decide)]
    exact charColumns_pos ((Unicode.columnless_avoids (0, 0xAC) (by decide)).contains (by decide)
      (by decide))
  have hcut : cut 3 0 ['\x01', '.', '.', '.'] = ['\x01'] := by
    have hcontrol : loneColumns '\x01' = 0 := rfl
    have hlength : dots.length = 3 := rfl
    rw [cut, hcontrol, hlength, if_neg (by omega), cut, hlength, if_pos (by omega)]
  have hwide : ¬ columns ['\x01', '.', '.', '.'] ≤ 3 := by decide +kernel
  refine ⟨by decide +kernel, ?_, by decide +kernel⟩
  show String.ofList (truncateChars ['\x01', '.', '.', '.'] 3) = _
  rw [truncateChars, if_neg hwide, hcut]
  rfl

end SandboxClient.Terminal
