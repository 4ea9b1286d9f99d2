/-
  SandboxClient/Proofs/Text/Columns.lean
  ======================================
  **Columns of texts that are put together.** The columns of a text are counted
  from the right, and each character looks at what stands right of it. A steady
  character takes one column wherever it stands and is not looked at by the one
  before it, so at a steady character the columns of both sides add up
  (`columns_append_cons`). Counted character by character a text can seem wider
  than it is. It can seem narrower only by one column for each control and each
  selector for emoji in it (`columns_le`): these two take more columns in a text
  than alone.
-/
import SandboxClient.Proofs.Unicode.Tables
import SandboxClient.Text.Width

namespace SandboxClient.Unicode

/-! ### Blocks without members of the sets -/

/-- Space and full stop. -/
def asciiBlocks : List (Nat × Nat) := [(0x20, 0x20), (0x2E, 0x2E)]

/-- The characters that boxes are drawn with. -/
def drawingBlock : Nat × Nat := (0x2500, 0x257F)

/-- Blocks that all characters before a selector are in. -/
def selectableBlocks : List (Nat × Nat) :=
  [(0, 0xAC), (0xAE, 0xAE), (0x203C, 0x2049), (0x2122, 0x2B55), (0x3030, 0x303D),
    (0x3297, 0x3299), (0x1F004, 0x1F6F3)]

/-- The blocks between these, up to the last character. -/
def selectableGaps : List (Nat × Nat) :=
  [(0xAD, 0xAD), (0xAF, 0x203B), (0x204A, 0x2121), (0x2B56, 0x302F), (0x303E, 0x3296),
    (0x329A, 0x1F003), (0x1F6F4, 0x10FFFF)]

set_option maxRecDepth 40000 in
/-- The sets that decide about columns stay out of these blocks. The tables are evaluated one after
the other. -/
theorem sets_avoid :
    (∀ b ∈ [(0x1780, 0x17AF), (0x2D7F, 0x2D7F)] ++ selectableBlocks, columnless.Avoids b) ∧
    (∀ b ∈ [drawingBlock], wide.Avoids b) ∧
    (∀ b ∈ [drawingBlock], emojiPresentation.Avoids b) ∧
    (∀ b ∈ [drawingBlock], emojiModifierBase.Avoids b) ∧
    (∀ b ∈ asciiBlocks ++ [drawingBlock] ++ selectableGaps, emojiSelectable.Avoids b) ∧
    (∀ b ∈ drawingBlock :: selectableGaps, textSelectable.Avoids b) ∧
    ∀ b ∈ [drawingBlock], ligatureTransparent.Avoids b := by
  refine ⟨?_, ?_, ?_, ?_, ?_, ?_, ?_⟩
  · exact Ranges.avoids_ofTable ⟨_, by rfl, by decide +kernel⟩
  · exact Ranges.avoids_ofTable ⟨_, by rfl, by decide +kernel⟩
  · exact Ranges.avoids_ofTable ⟨_, by rfl, by decide +kernel⟩
  · exact Ranges.avoids_ofTable ⟨_, by rfl, by decide +kernel⟩
  · exact Ranges.avoids_ofTable ⟨_, by rfl, by decide +kernel⟩
  · exact Ranges.avoids_ofTable ⟨_, by rfl, by decide +kernel⟩
  · exact Ranges.avoids_ofTable ⟨_, by rfl, by decide +kernel⟩

theorem columnless_avoids :
    ∀ b ∈ [(0x1780, 0x17AF), (0x2D7F, 0x2D7F)] ++ selectableBlocks, columnless.Avoids b :=
  sets_avoid.1

theorem wide_avoids : ∀ b ∈ [drawingBlock], wide.Avoids b := sets_avoid.2.1

theorem emojiPresentation_avoids : ∀ b ∈ [drawingBlock], emojiPresentation.Avoids b :=
  sets_avoid.2.2.1

theorem emojiModifierBase_avoids : ∀ b ∈ [drawingBlock], emojiModifierBase.Avoids b :=
  sets_avoid.2.2.2.1

theorem emojiSelectable_avoids :
    ∀ b ∈ asciiBlocks ++ [drawingBlock] ++ selectableGaps, emojiSelectable.Avoids b :=
  sets_avoid.2.2.2.2.1

theorem textSelectable_avoids : ∀ b ∈ drawingBlock :: selectableGaps, textSelectable.Avoids b :=
  sets_avoid.2.2.2.2.2.1

theorem ligatureTransparent_avoids : ∀ b ∈ [drawingBlock], ligatureTransparent.Avoids b :=
  sets_avoid.2.2.2.2.2.2

end SandboxClient.Unicode

namespace SandboxClient.Text

open Unicode

/-! ### Steady characters

To these nothing looks from the left, so a text can be measured in pieces that end in front of one.
-/

/-- A character that takes one column wherever it stands, and nothing to the character before
it. -/
def Steady (c : Char) : Prop := ∀ a, addChar c a = (1, After.nothing)

theorem steady_of_ascii {c : Char} (hlow : 0x20 ≤ c.toNat) (hhigh : c.toNat ≤ 0x7E)
    (hselect : emojiSelectable.contains c = false) : Steady c := by
  have hreturn : c ≠ '\r' := by
    rintro rfl
    exact absurd hlow (by decide)
  have hfeed : c ≠ '\n' := by
    rintro rfl
    exact absurd hlow (by decide)
  have hsmall : c.toNat ≤ 0xA0 := by omega
  intro a
  simp [addChar, hselect, hsmall, hreturn, rightOf, hfeed, After.of, After.nothing]

/-- A number outside of the ranges of a class is that of no member. -/
theorem isAmong_eq_false {ranges : List (Nat × Nat)} {c : Char}
    (h : ∀ r ∈ ranges, c.toNat < r.1 ∨ r.2 < c.toNat) : isAmong ranges c = false := by
  apply Bool.eq_false_iff.mpr
  intro hc
  obtain ⟨r, hr, hmem⟩ := List.any_eq_true.mp hc
  have hout := h r hr
  simp only [Bool.and_eq_true, decide_eq_true_eq] at hmem
  omega

section Drawing

variable {c : Char} (hlow : 0x2500 ≤ c.toNat) (hhigh : c.toNat ≤ 0x257F)

include hlow hhigh

theorem beq_drawing {s : List Char}
    (h : s.all (fun d => d.toNat < 0x2500 || 0x257F < d.toNat) = true) :
    ∀ d ∈ s, (c == d) = false := by
  intro d hd
  have hapart := List.all_eq_true.mp h d hd
  apply beq_eq_false_iff_ne.mpr
  rintro rfl
  simp only [Bool.or_eq_true, decide_eq_true_eq] at hapart
  omega

theorem isAmong_drawing {ranges : List (Nat × Nat)}
    (h : ∀ r ∈ ranges, r.2 < 0x2500 ∨ 0x257F < r.1) : isAmong ranges c = false := by
  apply isAmong_eq_false
  intro r hr
  have hapart := h r hr
  omega

theorem columnless_drawing : columnless.contains c = false :=
  (columnless_avoids (0x2122, 0x2B55) (by decide)).contains (by omega) (by omega)

/-- No character that boxes are drawn with is drawn together with what stands right of it. -/
theorem together?_drawing (right : Right) (joiner : Bool) : together? c right joiner = none := by
  have hlam : isArabicLam c = false := isAmong_drawing hlow hhigh (by decide)
  have htifinagh : isTifinaghLetter c = false := isAmong_drawing hlow hhigh (by decide)
  have hlisu : isAmong [(0xA4F8, 0xA4FB)] c = false := isAmong_drawing hlow hhigh (by decide)
  have htone : isSkinTone c = false := isAmong_drawing hlow hhigh (by decide)
  have hcolumnless := columnless_drawing hlow hhigh
  have hbase := (emojiModifierBase_avoids drawingBlock (by decide)).contains hlow hhigh
  have hemoji := (emojiPresentation_avoids drawingBlock (by decide)).contains hlow hhigh
  have hother : ∀ d ∈ ['\u05D0', '\u17D2', '\u1A17', '\u1A15', '\u2D7F', '\u200D',
      Char.ofNat 0x10C32], (c == d) = false := beq_drawing hlow hhigh (by decide)
  cases right <;> cases joiner <;>
    simp [together?, hlam, htifinagh, hlisu, htone, hcolumnless, hbase, hemoji, hother]

theorem alone_drawing : alone c = (1, .nothing) := by
  have hcolumnless := columnless_drawing hlow hhigh
  have hwide := (wide_avoids drawingBlock (by decide)).contains hlow hhigh
  have hemoji := (emojiPresentation_avoids drawingBlock (by decide)).contains hlow hhigh
  have halef : isArabicAlef c = false := isAmong_drawing hlow hhigh (by decide)
  have hkhmer : isKhmerLetter c = false := isAmong_drawing hlow hhigh (by decide)
  have htifinagh : isTifinaghLetter c = false := isAmong_drawing hlow hhigh (by decide)
  have hlisu : isAmong [(0xA4FC, 0xA4FD)] c = false := isAmong_drawing hlow hhigh (by decide)
  have htone : isSkinTone c = false := isAmong_drawing hlow hhigh (by decide)
  have hlarge : ¬ c.toNat ≤ 0xA0 := by omega
  have hother : ∀ d ∈ ['\u17D8', '\u17A4', '\n', '\u05DC', '\u1A10', Char.ofNat 0x10C03],
      (c == d) = false := beq_drawing hlow hhigh (by decide)
  simp [alone, charColumns, rightOf, After.of, After.nothing, hcolumnless, hwide, hemoji, halef,
    hkhmer, htifinagh, hlisu, htone, hlarge, hother]

theorem steady_of_drawing : Steady c := by
  have hselect := (emojiSelectable_avoids drawingBlock (by decide)).contains hlow hhigh
  have htext := (textSelectable_avoids drawingBlock (by decide)).contains hlow hhigh
  have hclear := (ligatureTransparent_avoids drawingBlock (by decide)).contains hlow hhigh
  have hlarge : ¬ c.toNat ≤ 0xA0 := by omega
  have hother : ∀ d ∈ ['\uFE0F', '\uFE0E', '\u200D'], (c == d) = false :=
    beq_drawing hlow hhigh (by decide)
  intro a
  simp [addChar, hselect, htext, hclear, hlarge, hother, together?_drawing hlow hhigh,
    alone_drawing hlow hhigh]

end Drawing

theorem steady_space : Steady ' ' :=
  steady_of_ascii (by decide) (by decide)
    ((emojiSelectable_avoids (0x20, 0x20) (by decide)).contains (by decide) (by decide))

theorem steady_dot : Steady '.' :=
  steady_of_ascii (by decide) (by decide)
    ((emojiSelectable_avoids (0x2E, 0x2E) (by decide)).contains (by decide) (by decide))

/-! ### Adding up -/

/-- What stands left of a text to which nothing looks adds its columns. -/
theorem columnsAfter_append {t : List Char} (h : (columnsAfter t).2 = .nothing) (s : List Char) :
    columnsAfter (s ++ t) =
      ((columnsAfter s).1 + (columnsAfter t).1, (columnsAfter s).2) := by
  induction s with
  | nil => exact Prod.ext (Int.zero_add _).symm h
  | cons c s ih =>
    have hcons : ∀ r, columnsAfter (c :: r) =
        ((addChar c (columnsAfter r).2).1 + (columnsAfter r).1,
          (addChar c (columnsAfter r).2).2) := fun _ => rfl
    rw [List.cons_append, hcons, hcons, ih]
    simp only [Int.add_assoc]

theorem columnsAfter_cons_steady {c : Char} (h : Steady c) (t : List Char) :
    columnsAfter (c :: t) = (1 + (columnsAfter t).1, .nothing) := by
  show ((addChar c (columnsAfter t).2).1 + (columnsAfter t).1,
    (addChar c (columnsAfter t).2).2) = _
  rw [h]

/-! ### No fewer than none -/

/-- The columns that a text still has to give back when it is drawn together with what comes
before it. -/
def Right.owed : Right → Int
  | .khmerLetter => 1
  | .tifinaghJoined => 1
  | _ => 0

theorem Right.owed_nonneg (r : Right) : 0 ≤ r.owed := by
  cases r <;> decide

theorem charColumns_pos {c : Char} (h : columnless.contains c = false) : 1 ≤ charColumns c := by
  unfold charColumns
  rw [h]
  split
  · omega
  · split
    · omega
    · rw [if_neg Bool.false_ne_true]
      split <;> omega

theorem isKhmerLetter_block {c : Char} (h : isKhmerLetter c = true) :
    0x1780 ≤ c.toNat ∧ c.toNat ≤ 0x17AF := by
  obtain ⟨r, hr, hmem⟩ := List.any_eq_true.mp h
  have hbounds : 0x1780 ≤ r.1 ∧ r.2 ≤ 0x17AF := by
    clear hmem
    revert r
    decide
  simp only [Bool.and_eq_true, decide_eq_true_eq] at hmem
  omega

theorem owed_ite {p : Prop} [Decidable p] {r r' : Right} (h : p → r.owed = 0)
    (h' : r'.owed = 0) : (if p then r else r').owed = 0 := by
  by_cases hp : p
  · rw [if_pos hp]
    exact h hp
  · rw [if_neg hp]
    exact h'

theorem owed_rightOf_eq_zero {c : Char} (h : isKhmerLetter c = false) : (rightOf c).owed = 0 := by
  have hkhmer : isKhmerLetter c = true → Right.khmerLetter.owed = 0 := by
    rw [h]
    intro hfalse
    cases hfalse
  unfold rightOf
  repeat refine owed_ite (by first | exact hkhmer | exact fun _ => rfl) ?_
  rfl

theorem owed_rightOf (c : Char) : (rightOf c).owed ≤ charColumns c := by
  cases h : isKhmerLetter c with
  | false =>
    rw [owed_rightOf_eq_zero h]
    omega
  | true =>
    obtain ⟨hlow, hhigh⟩ := isKhmerLetter_block h
    have hpos := charColumns_pos
      ((columnless_avoids (0x1780, 0x17AF) (by decide)).contains hlow hhigh)
    have hone : (rightOf c).owed ≤ 1 := by cases rightOf c <;> decide
    omega

theorem owed_together {c : Char} {right : Right} {joiner : Bool} {x : Int × After}
    (h : together? c right joiner = some x) : x.2.right.owed ≤ x.1 + right.owed := by
  cases right <;> cases joiner <;> simp only [together?] at h <;> (repeat' split at h) <;>
    cases h <;> decide

theorem owed_past (a : After) (keep : Bool) : (a.past keep).right.owed ≤ a.right.owed := by
  unfold After.past
  split
  · exact Int.le_refl _
  · exact a.right.owed_nonneg

/-- A character adds at least what the text has to give back after it, less what it had to give
back before. -/
theorem owed_addChar (c : Char) (a : After) :
    (addChar c a).2.right.owed ≤ (addChar c a).1 + a.right.owed := by
  have hnonneg := a.right.owed_nonneg
  unfold addChar
  split
  · show (0 : Int) ≤ (if a.right == .joinedEmoji then 0 else 2) + a.right.owed
    split <;> omega
  · split
    · rename_i hsmall
      have hzero : (rightOf c).owed = 0 := by
        apply owed_rightOf_eq_zero
        apply Bool.eq_false_iff.mpr
        intro h
        have hblock := isKhmerLetter_block h
        omega
      show (rightOf c).owed ≤ (if c == '\r' && a == .of .lineFeed then 0 else 1) + a.right.owed
      split <;> omega
    · split
      · have hpast := owed_past a (a.right == .joinedEmoji)
        show (a.past (a.right == .joinedEmoji)).right.owed ≤ 0 + a.right.owed
        omega
      · split
        · have hpast := owed_past a false
          show (a.past false).right.owed ≤ 0 + a.right.owed
          omega
        · split
          · show (0 : Int) ≤ 1 + a.right.owed
            omega
          · split
            · exact Int.le_of_eq (Int.zero_add _).symm
            · split
              · exact Int.le_of_eq (Int.zero_add _).symm
              · cases htogether : together? c a.right a.joiner with
                | some x => exact owed_together htogether
                | none =>
                  have halone := owed_rightOf c
                  show (rightOf c).owed ≤ (charColumns c : Int) + a.right.owed
                  omega

theorem owed_columnsAfter (s : List Char) :
    (columnsAfter s).2.right.owed ≤ (columnsAfter s).1 := by
  induction s with
  | nil => decide
  | cons c s ih =>
    have hstep := owed_addChar c (columnsAfter s).2
    show (addChar c (columnsAfter s).2).2.right.owed ≤
      (addChar c (columnsAfter s).2).1 + (columnsAfter s).1
    omega

theorem columnsAfter_nonneg (s : List Char) : 0 ≤ (columnsAfter s).1 := by
  have howed := owed_columnsAfter s
  have hnonneg := (columnsAfter s).2.right.owed_nonneg
  omega

theorem columns_eq (s : List Char) : (columns s : Int) = (columnsAfter s).1 :=
  Int.toNat_of_nonneg (columnsAfter_nonneg s)

/-- At a steady character the columns of both sides add up. -/
theorem columns_append_cons {c : Char} (h : Steady c) (s t : List Char) :
    columns (s ++ c :: t) = columns s + (1 + columns t) := by
  have hcons := columnsAfter_cons_steady h t
  have happend := columnsAfter_append (t := c :: t) (by rw [hcons]) s
  have hsum := columns_eq (s ++ c :: t)
  have hs := columns_eq s
  have ht := columns_eq t
  rw [happend, hcons] at hsum
  omega

theorem columns_cons {c : Char} (h : Steady c) (t : List Char) :
    columns (c :: t) = 1 + columns t := by
  have hadd := columns_append_cons h [] t
  have hnil : columns [] = 0 := rfl
  rw [List.nil_append] at hadd
  omega

theorem columns_replicate_append {c : Char} (h : Steady c) (n : Nat) (t : List Char) :
    columns (List.replicate n c ++ t) = n + columns t := by
  induction n with
  | zero => simp
  | succ n ih =>
    rw [List.replicate_succ, List.cons_append, columns_cons h, ih]
    omega

/-! ### Character by character

The bound that the cutting of texts relies on without saying so, and the characters for which it
fails. -/

/-- The characters that take more columns in a text than alone, or make others do so. -/
def isInflating (c : Char) : Bool := isControlChar c || c == '\uFE0F'

theorem loneColumns_eq {c : Char} (h : isInflating c = false) : loneColumns c = charColumns c := by
  have hcontrol : isControlChar c = false := (Bool.or_eq_false_iff.mp h).1
  unfold loneColumns
  rw [hcontrol, if_neg Bool.false_ne_true]

/-- A character that a selector may follow takes a column. -/
theorem charColumns_pos_of_selectable {r : Ranges} (hr : ∀ b ∈ selectableGaps, r.Avoids b) {c : Char}
    (h : r.contains c = true) : 1 ≤ charColumns c := by
  have hout : ∀ b ∈ selectableGaps, c.toNat < b.1 ∨ b.2 < c.toNat := by
    intro b hb
    apply Classical.byContradiction
    intro hin
    rw [(hr b hb).contains (by omega) (by omega)] at h
    cases h
  have hlast : c.toNat ≤ 0x10FFFF := by
    have hv : c.toNat < 0xD800 ∨ (0xDFFF < c.toNat ∧ c.toNat < 0x110000) := c.valid
    omega
  obtain ⟨b, hb, hfirst, hlast⟩ : ∃ b ∈ selectableBlocks, b.1 ≤ c.toNat ∧ c.toNat ≤ b.2 := by
    simp only [selectableGaps, List.forall_mem_cons, List.not_mem_nil, false_implies,
      implies_true] at hout
    simp only [selectableBlocks, List.mem_cons, List.not_mem_nil, or_false, exists_eq_or_imp,
      exists_eq_left]
    omega
  exact charColumns_pos ((columnless_avoids b (List.mem_append_right _ hb)).contains hfirst hlast)

/-- What is drawn together takes no column more than its first character would alone, and no
selector is left to be seen. -/
theorem together?_le {c : Char} {right : Right} {joiner : Bool} {x : Int × After}
    (h : together? c right joiner = some x) : x.1 ≤ charColumns c ∧ x.2.style ≠ .asEmoji := by
  have hplain : (x.1 ≤ 0 ∨ x.1 = 1 ∧ c = '\u2D7F') ∧ x.2.style ≠ .asEmoji := by
    cases right <;> cases joiner <;> simp only [together?] at h <;> (repeat' split at h) <;>
      cases h <;> simp_all [After.of, After.nothing]
  refine ⟨?_, hplain.2⟩
  rcases hplain.1 with hle | ⟨hone, rfl⟩
  · omega
  · have hpos := charColumns_pos
      ((columnless_avoids (0x2D7F, 0x2D7F) (by decide)).contains (c := '\u2D7F') (by decide)
        (by decide))
    omega

/-- The column that a selector adds to the character before it. -/
def After.awaited (a : After) : Nat := if a.style = .asEmoji then 1 else 0

theorem After.awaited_le_one (a : After) : a.awaited ≤ 1 := by
  unfold After.awaited
  split <;> omega

theorem awaited_of (r : Right) : (After.of r).awaited = 0 := rfl

/-- How many columns more than alone a character may take in a text, or make another take. -/
def inflation (c : Char) : Nat := if isInflating c then 1 else 0

/-- A character that takes a column, or that makes another take one more. -/
theorem one_le_of_columns {c : Char} (hpos : 1 ≤ charColumns c) :
    1 ≤ loneColumns c + inflation c := by
  unfold inflation
  cases h : isInflating c with
  | true => simp
  | false => rwa [loneColumns_eq h]

/-- What leaves no selector to be seen takes nothing for one. -/
theorem le_of_quiet {c : Char} (hinflating : isInflating c = false) {x : Int × After}
    (hx : x.1 ≤ charColumns c) (hstyle : x.2.style ≠ .asEmoji) (a : After) :
    x.1 + x.2.awaited ≤ loneColumns c + inflation c + a.awaited := by
  have hawaited : x.2.awaited = 0 := if_neg hstyle
  rw [loneColumns_eq hinflating, hawaited]
  omega

/-- A character adds at most the columns that it takes alone and one more if it inflates; a selector
leaves this one to the character before it. -/
theorem addChar_le (c : Char) (a : After) :
    (addChar c a).1 + (addChar c a).2.awaited ≤ loneColumns c + inflation c + a.awaited := by
  unfold addChar
  split
  · rename_i hselect
    obtain ⟨hstyle, hselectable⟩ := Bool.and_eq_true_iff.mp hselect
    have hawaited : a.awaited = 1 := if_pos (beq_iff_eq.mp hstyle)
    have hpos := one_le_of_columns (charColumns_pos_of_selectable
      (fun b hb => emojiSelectable_avoids b (List.mem_append_right _ hb)) hselectable)
    show (if a.right == .joinedEmoji then (0 : Int) else 2) + (After.of .emoji).awaited ≤ _
    rw [awaited_of, hawaited]
    split <;> omega
  · split
    · rename_i hsmall
      have hcolumn : 1 ≤ charColumns c := charColumns_pos
        ((columnless_avoids (0, 0xAC) (by decide)).contains (Nat.zero_le _) (by omega))
      have hpos := one_le_of_columns hcolumn
      show (if c == '\r' && a == .of .lineFeed then (0 : Int) else 1) +
        (After.of (rightOf c)).awaited ≤ _
      rw [awaited_of]
      split <;> omega
    · rename_i hlarge
      have hcontrol : isControlChar c = false := by
        simp only [isControlChar, Bool.or_eq_false_iff, Bool.and_eq_false_iff, decide_eq_false_iff_not]
        omega
      split
      · rename_i hselector
        have hinflating : inflation c = 1 := if_pos (by simp [isInflating, hselector])
        have hone := After.awaited_le_one
          { a.past (a.right == .joinedEmoji) with style := .asEmoji }
        rw [hinflating]
        show (0 : Int) + After.awaited { a.past (a.right == .joinedEmoji) with style := .asEmoji } ≤ _
        omega
      · rename_i hselector
        -- neither a control nor a selector, so whatever it is drawn with, no selector is left
        have hinflating : isInflating c = false := by simp [isInflating, hcontrol, hselector]
        split
        · exact le_of_quiet hinflating (Int.natCast_nonneg _) (by simp) a
        · split
          · rename_i htext
            have hpos := charColumns_pos_of_selectable
              (fun b hb => textSelectable_avoids b (List.mem_cons_of_mem _ hb))
              (Bool.and_eq_true_iff.mp htext).2
            exact le_of_quiet hinflating (show (1 : Int) ≤ _ by omega) (by simp [After.nothing]) a
          · split
            · exact le_of_quiet hinflating (Int.natCast_nonneg _) (by simp) a
            · split
              · exact le_of_quiet hinflating (Int.natCast_nonneg _) (by simp) a
              · cases htogether : together? c a.right a.joiner with
                | some x =>
                  obtain ⟨hle, hstyle⟩ := together?_le htogether
                  exact le_of_quiet hinflating hle hstyle a
                | none =>
                  exact le_of_quiet hinflating (Int.le_refl _) (by simp [alone, After.of]) a

/-- The columns of the characters of a text, one by one. -/
def loneTotal (s : List Char) : Nat := s.foldr (fun c n => loneColumns c + n) 0

@[simp] theorem loneTotal_nil : loneTotal [] = 0 := rfl

@[simp] theorem loneTotal_cons (c : Char) (s : List Char) :
    loneTotal (c :: s) = loneColumns c + loneTotal s := rfl

/-- A text takes no more columns than its characters one by one, but for one more for each of them
that inflates. -/
theorem columns_le (s : List Char) : columns s ≤ loneTotal s + s.countP isInflating := by
  have hboth : (columnsAfter s).1 + (columnsAfter s).2.awaited ≤
      (loneTotal s + s.countP isInflating : Nat) := by
    induction s with
    | nil => decide
    | cons c s ih =>
      have hadd := addChar_le c (columnsAfter s).2
      have hcount : (c :: s).countP isInflating = s.countP isInflating + inflation c :=
        List.countP_cons
      show (addChar c (columnsAfter s).2).1 + (columnsAfter s).1 +
        (addChar c (columnsAfter s).2).2.awaited ≤ _
      rw [loneTotal_cons, hcount]
      omega
  have hcolumns := columns_eq s
  omega

end SandboxClient.Text
