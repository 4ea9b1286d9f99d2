/-
  SandboxClient/Proofs/Terminal/ErrorBox.lean
  ===========================================
  **When an error message has a place in its box.** The lines of a message are
  padded to the width of the box, which a line may exceed only if it is a single
  word. A word is cut by the columns of its characters alone and measured by its
  columns as a text, and controls and the selector for emoji take columns in a
  text that they do not take alone. So there are messages without a place in the
  box: `errorBox_places` says which, and that all other boxes are as wide
  everywhere as their borders.
-/
import SandboxClient.Terminal.Message
import SandboxClient.Proofs.Terminal.Wrapped

namespace SandboxClient.Terminal

open SandboxClient.Text

/-! ### Lines in the box -/

/-- A line between the sides of the box, padded to its width. With `id` for `paint` it is the line
as it is seen. -/
def framed (paint : String → String) (s : String) : String :=
  paint "│" ++ "  " ++ paint s ++ spaces (boxWidth - 2 - displayWidth s) ++ paint "│"

/-- A border of the box. -/
def border (paint : String → String) (left right : String) : String :=
  paint (left ++ String.ofList (List.replicate boxWidth '─') ++ right)

theorem boxLine_eq (s : String) :
    boxLine s = if displayWidth s ≤ 66 then some (framed (coloured .red) s) else none := by
  unfold boxLine boxWidth
  by_cases h : displayWidth s ≤ 66
  · rw [if_neg (by omega), if_pos h]
    rfl
  · rw [if_pos (by omega), if_neg h]

/-- A line that has a place in the box is padded to the width of its borders. -/
theorem displayWidth_framed {s : String} (h : displayWidth s ≤ 66) :
    displayWidth (framed id s) = 70 := by
  have hside : Steady '│' := steady_of_drawing (by decide) (by decide)
  have hlist : (framed id s).toList = '│' :: ' ' :: (' ' ::
      (s.toList ++ (List.replicate (66 - displayWidth s) ' ' ++ ['│']))) := by
    simp [framed, spaces, boxWidth, String.toList_append]
  have hend : columns (s.toList ++ (List.replicate (66 - displayWidth s) ' ' ++ ['│'])) =
      displayWidth s + (66 - displayWidth s + 1) := by
    -- the line ends at the first space behind it, or at the side
    cases hpad : 66 - displayWidth s with
    | zero =>
      rw [List.replicate_zero, List.nil_append, columns_append_cons hside]
      rfl
    | succ n =>
      rw [List.replicate_succ, List.cons_append, columns_append_cons steady_space,
        columns_replicate_append steady_space, columns_cons hside]
      show displayWidth s + (1 + (n + (1 + 0))) = _
      omega
  unfold displayWidth at *
  rw [hlist, columns_cons hside, columns_cons steady_space, columns_cons steady_space, hend]
  omega

theorem displayWidth_border : displayWidth (border id "╭" "╮") = 70 := by
  have hline : Steady '─' := steady_of_drawing (by decide) (by decide)
  have hleft : Steady '╭' := steady_of_drawing (by decide) (by decide)
  have hright : Steady '╮' := steady_of_drawing (by decide) (by decide)
  have hlist : (border id "╭" "╮").toList = '╭' :: (List.replicate 68 '─' ++ ['╮']) := by
    simp [border, boxWidth]
  unfold displayWidth
  rw [hlist, columns_cons hleft, columns_replicate_append hline, columns_cons hright]
  rfl

/-! ### Messages

A message has a place line by line, and a line has one word by word. -/

/-- A word that has a place in the box: it is not too wide, or the start that is kept of it leaves
room for the dots. -/
def HasPlace (w : List Char) : Prop := columns w ≤ 64 ∨ columns (cut 64 0 w) ≤ 63

instance (w : List Char) : Decidable (HasPlace w) :=
  inferInstanceAs (Decidable (columns w ≤ 64 ∨ columns (cut 64 0 w) ≤ 63))

theorem hasPlace_iff (w : List Char) : HasPlace w ↔ columns (truncateChars w 64) ≤ 66 := by
  have hdots : dots.length = 3 := rfl
  unfold HasPlace
  rw [columns_truncateChars, hdots]
  split <;> omega

/-- A word without characters that take more columns in a text than alone has a place. -/
theorem hasPlace_of_not_inflating {w : List Char} (h : ∀ c ∈ w, isInflating c = false) :
    HasPlace w := by
  have hcolumns := columns_cut_of_not_inflating (show dots.length ≤ 64 by decide) h
  have hdots : dots.length = 3 := rfl
  apply Or.inr
  omega

theorem wrap_le_iff (message : String) :
    (∀ l ∈ wrap message 64, displayWidth l ≤ 66) ↔
      ∀ p ∈ lines message.toList, ∀ w ∈ words p, HasPlace w := by
  simp only [hasPlace_iff, ← wrapChars_le_iff (show 64 ≤ 66 by decide)]
  unfold wrap displayWidth
  rw [List.forall_mem_map]
  simp only [String.toList_ofList]

/-- The box around its lines. -/
def boxAround (body : List String) : String :=
  String.join (([boxRule "╭" "╮", boxTitle, boxRule "├" "┤"] ++ body ++ [boxRule "╰" "╯"]).map line)

theorem errorBox_eq (message : String) :
    errorBox message = ((wrap message 64).mapM boxLine).map boxAround := by
  have hwidth : boxWidth - 4 = 64 := rfl
  unfold errorBox
  rw [hwidth]
  generalize (wrap message 64).mapM boxLine = body
  cases body with
  | none => rfl
  | some _ => rfl

theorem mapM_boxLine {ls : List String} (h : ∀ l ∈ ls, displayWidth l ≤ 66) :
    ls.mapM boxLine = some (ls.map (framed (coloured .red))) := by
  induction ls with
  | nil => rfl
  | cons l ls ih =>
    have hl : boxLine l = some (framed (coloured .red) l) := by
      rw [boxLine_eq, if_pos (h l (by simp))]
    rw [List.mapM_cons, hl, ih (fun k hk => h k (List.mem_cons_of_mem l hk))]
    rfl

theorem mapM_boxLine_eq_none {ls : List String} {l : String} (hl : l ∈ ls)
    (hwide : 66 < displayWidth l) : ls.mapM boxLine = none := by
  induction ls with
  | nil => cases hl
  | cons k ls ih =>
    rw [List.mapM_cons]
    rcases List.mem_cons.mp hl with rfl | hl
    · have hnone : boxLine l = none := by rw [boxLine_eq, if_neg (by omega)]
      rw [hnone]
      rfl
    · rw [ih hl]
      cases boxLine k with
      | none => rfl
      | some _ => rfl

/-- **Which messages have a place in the box.** If each word of a message has one, the box is
drawn, no line in it is wider than 66 columns, and each is padded to the width of the borders. If
some word has none, there is a line that is wider and no box. Every word has a place in a message
in which controls that are not blank and the selector for emoji do not occur. -/
theorem errorBox_places (message : String) :
    ((∀ p ∈ lines message.toList, ∀ w ∈ words p, HasPlace w) →
      errorBox message = some (boxAround ((wrap message 64).map (framed (coloured .red)))) ∧
      ∀ l ∈ wrap message 64, displayWidth l ≤ 66 ∧
        displayWidth (framed id l) = displayWidth (border id "╭" "╮")) ∧
    (¬ (∀ p ∈ lines message.toList, ∀ w ∈ words p, HasPlace w) →
      errorBox message = none ∧ ∃ l ∈ wrap message 64, 66 < displayWidth l) ∧
    ((∀ c ∈ message.toList, isBlank c = true ∨ isInflating c = false) →
      ∀ p ∈ lines message.toList, ∀ w ∈ words p, HasPlace w) := by
  refine ⟨?_, ?_, ?_⟩
  · intro hplaces
    have hfits := (wrap_le_iff message).mpr hplaces
    refine ⟨?_, ?_⟩
    · rw [errorBox_eq, mapM_boxLine hfits, Option.map_some]
    · intro l hl
      rw [displayWidth_framed (hfits l hl), displayWidth_border]
      exact ⟨hfits l hl, rfl⟩
  · intro hno
    rw [← wrap_le_iff] at hno
    obtain ⟨l, hl⟩ := Classical.not_forall.mp hno
    obtain ⟨hmem, hwide⟩ := Classical.not_imp.mp hl
    have hwide : 66 < displayWidth l := Nat.lt_of_not_le hwide
    rw [errorBox_eq, mapM_boxLine_eq_none hmem hwide, Option.map_none]
    exact ⟨rfl, l, hmem, hwide⟩
  · intro hplain p hp w hw
    apply hasPlace_of_not_inflating
    intro c hc
    obtain ⟨hline, hblank⟩ := (mem_words hw).2 c hc
    rcases hplain c (mem_lines hp hline) with hb | hinflating
    · rw [hblank] at hb
      cases hb
    · exact hinflating

theorem escaped_message_boxed :
    let message := "API error (404): no sandbox named \x1b[31mbox-1\x1b[39m"
    errorBox message = some (boxAround ((wrap message 64).map (framed (coloured .red)))) := by
  intro message
  have hplaces : ∀ p ∈ lines message.toList, ∀ w ∈ words p, HasPlace w := by decide +kernel
  exact ((errorBox_places message).1 hplaces).1

/-- Controls take a column each in a text, and none as what is kept of a word is measured. -/
theorem controls_without_box :
    errorBox (String.ofList (List.replicate 65 '\x01')) = none ∧
      ∃ l ∈ wrap (String.ofList (List.replicate 65 '\x01')) 64, displayWidth l = 68 := by
  decide +kernel

end SandboxClient.Terminal
