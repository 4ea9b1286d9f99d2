/-
  SandboxClient/Proofs/Terminal/Wrapped.lean
  ==========================================
  **How wide wrapped lines are.** A word is only put behind another one where
  both fit, so a line wider than asked for is a single word that is still too
  wide after it was cut off (`wrapChars_le_iff`). The words are cut by the
  columns of their characters alone, and looked at by their columns as texts.
-/
import SandboxClient.Terminal.Wrap
import SandboxClient.Proofs.Text.Columns

namespace SandboxClient.Text

/-! ### Pieces of a text -/

theorem mem_splitOnP {p : Char → Bool} {s piece : List Char} (h : piece ∈ s.splitOnP p) {c : Char}
    (hc : c ∈ piece) : c ∈ s ∧ p c = false := by
  induction s generalizing piece with
  | nil =>
    rw [List.splitOnP_nil, List.mem_singleton] at h
    rw [h] at hc
    cases hc
  | cons d s ih =>
    rw [List.splitOnP_cons_eq_if_modifyHead] at h
    split at h
    · rcases List.mem_cons.mp h with rfl | h
      · cases hc
      · obtain ⟨hmem, hp⟩ := ih h hc
        exact ⟨List.mem_cons_of_mem d hmem, hp⟩
    · rename_i hd
      obtain ⟨first, rest, hsplit⟩ := List.exists_cons_of_ne_nil (List.splitOnP_ne_nil p s)
      rw [hsplit] at h ih
      rcases List.mem_cons.mp h with rfl | h
      · rcases List.mem_cons.mp hc with rfl | hc
        · exact ⟨by simp, by simpa using hd⟩
        · obtain ⟨hmem, hp⟩ := ih List.mem_cons_self hc
          exact ⟨List.mem_cons_of_mem d hmem, hp⟩
      · obtain ⟨hmem, hp⟩ := ih (List.mem_cons_of_mem first h) hc
        exact ⟨List.mem_cons_of_mem d hmem, hp⟩

theorem mem_words {s w : List Char} (h : w ∈ words s) :
    w ≠ [] ∧ ∀ c ∈ w, c ∈ s ∧ isBlank c = false := by
  obtain ⟨hsplit, hne⟩ := List.mem_filter.mp h
  refine ⟨?_, fun c hc => mem_splitOnP hsplit hc⟩
  rintro rfl
  cases hne

theorem mem_dropReturn {s : List Char} {c : Char} (h : c ∈ dropReturn s) : c ∈ s := by
  unfold dropReturn at h
  split at h
  · exact List.dropLast_subset _ h
  · exact h

theorem mem_lines {s l : List Char} (h : l ∈ lines s) {c : Char} (hc : c ∈ l) : c ∈ s := by
  rcases List.mem_append.mp h with h | h
  · obtain ⟨piece, hpiece, rfl⟩ := List.mem_map.mp h
    exact (mem_splitOnP (List.dropLast_subset _ hpiece) (mem_dropReturn hc)).1
  · have hlast := (List.mem_filter.mp h).1
    rw [Option.mem_toList] at hlast
    exact (mem_splitOnP (List.mem_of_getLast? hlast) hc).1

end SandboxClient.Text

namespace SandboxClient.Terminal

open SandboxClient.Text

/-! ### Words that are cut off -/

theorem cut_starts (width used : Nat) (s : List Char) : cut width used s <+: s := by
  induction s generalizing used with
  | nil => exact List.prefix_rfl
  | cons c s ih =>
    unfold cut
    split
    · exact List.nil_prefix
    · exact (List.prefix_cons_inj c).mpr (ih _)

/-- What is kept of a text leaves room for the dots, counted character by character. -/
theorem lone_cut_le {width used : Nat} (h : used + dots.length ≤ width) (s : List Char) :
    used + loneTotal (cut width used s) + dots.length ≤ width := by
  induction s generalizing used with
  | nil => simpa [cut] using h
  | cons c s ih =>
    unfold cut
    split
    · simpa using h
    · rename_i hfits
      have hrest := @ih (used + loneColumns c) (by omega)
      rw [loneTotal_cons]
      omega

/-- As a text it leaves room for the dots, too, but for its inflating characters. -/
theorem columns_cut_le {width : Nat} (h : dots.length ≤ width) (s : List Char) :
    columns (cut width 0 s) + dots.length ≤ width + (cut width 0 s).countP isInflating := by
  have hlone := @lone_cut_le width 0 (by omega) s
  have hcolumns := columns_le (cut width 0 s)
  omega

theorem columns_cut_of_not_inflating {width : Nat} {s : List Char} (h : dots.length ≤ width)
    (hs : ∀ c ∈ s, isInflating c = false) : columns (cut width 0 s) + dots.length ≤ width := by
  have hnone : (cut width 0 s).countP isInflating = 0 := by
    rw [List.countP_eq_zero]
    intro c hc
    rw [hs c ((cut_starts width 0 s).subset hc)]
    exact Bool.false_ne_true
  have hcolumns := columns_cut_le h s
  omega

theorem columns_append_dots (s : List Char) : columns (s ++ dots) = columns s + dots.length := by
  have hdots : columns ['.', '.'] = 2 := by
    rw [columns_cons steady_dot, columns_cons steady_dot]
    rfl
  show columns (s ++ '.' :: ['.', '.']) = _
  rw [columns_append_cons steady_dot, hdots]
  rfl

theorem columns_truncateChars (s : List Char) (width : Nat) :
    columns (truncateChars s width) =
      if columns s ≤ width then columns s else columns (cut width 0 s) + dots.length := by
  unfold truncateChars
  split
  · rfl
  · exact columns_append_dots _

/-! ### Lines that are filled

A line with more than one word is as wide as its words and spaces, since spaces keep words apart. -/

/-- A line is wide only because of a word that is as wide. -/
theorem fill_le_iff {width bound : Nat} (hbound : width ≤ bound) {ws : List (List Char)}
    {begun : Filling} (hused : begun.used = columns begun.text) :
    (∀ l ∈ fill width begun ws, columns l ≤ bound) ↔
      columns begun.text ≤ bound ∧ ∀ w ∈ ws, columns w ≤ bound := by
  induction ws generalizing begun with
  | nil => simp [fill]
  | cons w ws ih =>
    have hnil : columns [] = 0 := rfl
    rw [List.forall_mem_cons]
    unfold fill
    split
    · rename_i hempty
      rw [List.isEmpty_iff] at hempty
      rw [@ih ⟨w, columns w⟩ rfl, hempty, hnil]
      exact ⟨fun h => ⟨Nat.zero_le _, h⟩, fun h => h.2⟩
    · have hjoined : columns (begun.text ++ ' ' :: w) = begun.used + (1 + columns w) := by
        rw [columns_append_cons steady_space, hused]
      split
      · rename_i hfits
        rw [@ih ⟨begun.text ++ ' ' :: w, begun.used + (1 + columns w)⟩ hjoined.symm]
        simp only [hjoined]
        constructor
        · intro h
          exact ⟨by omega, by omega, h.2⟩
        · intro h
          exact ⟨by omega, h.2.2⟩
      · rw [List.forall_mem_cons, @ih ⟨w, columns w⟩ rfl]

theorem wrapLine_le_iff {width bound : Nat} (hbound : width ≤ bound) (s : List Char) :
    (∀ l ∈ wrapLine width s, columns l ≤ bound) ↔
      ∀ w ∈ words s, columns (truncateChars w width) ≤ bound := by
  unfold wrapLine
  rw [fill_le_iff hbound rfl, List.forall_mem_map]
  exact ⟨fun h => h.2, fun h => ⟨Nat.zero_le _, h⟩⟩

/-- **Which texts are wrapped within a bound.** -/
theorem wrapChars_le_iff {width bound : Nat} (hbound : width ≤ bound) (s : List Char) :
    (∀ l ∈ wrapChars s width, columns l ≤ bound) ↔
      ∀ p ∈ lines s, ∀ w ∈ words p, columns (truncateChars w width) ≤ bound := by
  have hlines : (∀ l ∈ (lines s).flatMap (wrapLine width), columns l ≤ bound) ↔
      ∀ p ∈ lines s, ∀ w ∈ words p, columns (truncateChars w width) ≤ bound := by
    simp only [← wrapLine_le_iff hbound, List.mem_flatMap]
    constructor
    · intro h p hp l hl
      exact h l ⟨p, hp, hl⟩
    · rintro h l ⟨p, hp, hl⟩
      exact h p hp l hl
  rw [← hlines]
  simp only [wrapChars]
  split
  · rename_i hempty
    rw [List.isEmpty_iff.mp hempty]
    constructor
    · intro _ l hl
      cases hl
    · intro _ l hl
      rw [List.mem_singleton.mp hl]
      exact Nat.zero_le _
  · rfl

end SandboxClient.Terminal
