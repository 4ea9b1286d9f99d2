/-
  SandboxClient/Proofs/Yaml/Placed.lean
  =====================================
  **Characters at their places.** The readers of tokens go over cells; what they do
  with a text is said in terms of its characters and the column it begins at.
-/
import SandboxClient.Yaml.Written

namespace SandboxClient.Yaml

/-! ### Characters that show as themselves -/

section Printable

variable {c : Char} (h : isPrintable c = true)

include h

theorem ne_of_printable {d : Char} (hd : isPrintable d = false) : (c == d) = false := by
  apply beq_eq_false_iff_ne.mpr
  rintro rfl
  rw [h] at hd
  cases hd

theorem isBreak_of_printable : isBreak c = isWrittenBreak c := by
  simp only [isBreak, isWrittenBreak, ne_of_printable h (by rfl : isPrintable '\r' = false),
    ne_of_printable h (by rfl : isPrintable '\u0085' = false), Bool.or_false]

theorem isGap_of_printable : isGap c = (c == ' ') := by
  simp only [isGap, ne_of_printable h (by rfl : isPrintable '\t' = false), Bool.or_false]

theorem isEnd_of_printable : isEnd c = false :=
  ne_of_printable h (by rfl : isPrintable '\x00' = false)

end Printable

/-! ### Cells -/

section Cells

variable {line column index : Nat} {c : Char} {text : List Char}

theorem place_cons (h : isBreak c = false) : place line column index (c :: text) =
    ⟨c, line, column, index⟩ :: place line (column + 1) (index + 1) text := by
  rw [place, h, if_neg Bool.false_ne_true]

theorem place_break (h : isBreak c = true) : place line column index (c :: text) =
    ⟨c, line, column, index⟩ :: place (line + 1) 0 (index + 1) text := by
  rw [place, h, if_pos rfl]

/-- The characters of the cells are those of the text, and the closing one. -/
theorem map_char_place (line column index : Nat) (text : List Char) :
    (place line column index text).map Cell.char = text ++ ['\x00'] := by
  induction text generalizing line column index with
  | nil => rfl
  | cons c text ih =>
    cases h : isBreak c with
    | false => rw [place_cons h, List.map_cons, ih, List.cons_append]
    | true => rw [place_break h, List.map_cons, ih, List.cons_append]

theorem length_place (line column index : Nat) (text : List Char) :
    (place line column index text).length = text.length + 1 := by
  have h := congrArg List.length (map_char_place line column index text)
  simpa using h

theorem exists_cons_place (line column index : Nat) (text : List Char) :
    ∃ cell rest, place line column index text = cell :: rest := by
  cases text with
  | nil => exact ⟨_, _, rfl⟩
  | cons c text => exact ⟨_, _, rfl⟩

theorem drop_place (h : isBreak c = false) : (place line column index (c :: text)).drop 1 =
    place line (column + 1) (index + 1) text := by
  rw [place_cons h, List.drop_one, List.tail_cons]

theorem here_place_cons :
    Source.here (place line column index (c :: text)) = ⟨c, line, column, index⟩ := by
  unfold place
  rfl

theorem column_place : (Source.here (place line column index text)).column = column := by
  cases text with
  | nil => rfl
  | cons c text => rw [here_place_cons]

theorem headD_append_closing (text : List Char) (n : Nat) :
    ((text ++ ['\x00']).drop n).headD '\x00' = text.getD n '\x00' := by
  induction text generalizing n with
  | nil => cases n <;> simp
  | cons c text ih =>
    cases n with
    | zero => rfl
    | succ n => simpa using ih n

theorem ahead_place (line column index : Nat) (text : List Char) (n : Nat) :
    Source.ahead (place line column index text) n = text.getD n '\x00' := by
  have hhead : ∀ s : Source, (s.headD .closing).char = (s.map Cell.char).headD '\x00' := by
    intro s
    cases s <;> rfl
  unfold Source.ahead
  rw [hhead, List.map_drop, map_char_place, headD_append_closing]

/-- The marks of documents stand at the beginning of a line. -/
theorem not_atDocumentMark {s : Source} (h : s.here.column ≠ 0) (d : Char) :
    s.atDocumentMark d = false := by
  unfold Source.atDocumentMark
  rw [beq_eq_false_iff_ne.mpr h]
  rfl

theorem not_atDocumentMark_of_ahead {s : Source} {d : Char} (h : (s.ahead 0 == d) = false) :
    s.atDocumentMark d = false := by
  simp only [Source.atDocumentMark, h, Bool.and_false, Bool.false_and]

end Cells

/-! ### Between tokens -/

/-- A text begins with something that is not skipped between tokens. -/
def beginsToken : List Char → Bool
  | [] => true
  | c :: _ => !(isBreak c || isEnd c || c == byteOrderMark || c == ' ' || c == '\t' || c == '#')

section Skipping

variable {line column index : Nat} {text : List Char} {keyAllowed : Bool}

theorem skip_margin (n : Nat) :
    skipToToken false keyAllowed false (place line column index (margin n ++ text)) =
      skipToToken false keyAllowed false (place line (column + n) (index + n) text) := by
  induction n generalizing column index with
  | zero => rfl
  | succ n ih =>
    rw [margin, List.replicate_succ, List.cons_append, place_cons rfl, skipToToken]
    have hnext := @ih (column + 1) (index + 1)
    rw [margin] at hnext
    rw [Nat.add_comm n 1, ← Nat.add_assoc, ← Nat.add_assoc]
    simpa [isBreak, isEnd, byteOrderMark] using hnext

theorem skip_token (h : beginsToken text = true) :
    skipToToken false keyAllowed false (place line column index text) =
      (keyAllowed, place line column index text) := by
  cases text with
  | nil => rfl
  | cons c text =>
    simp only [beginsToken, Bool.not_eq_true', Bool.or_eq_false_iff, beq_eq_false_iff_ne] at h
    obtain ⟨⟨⟨⟨⟨hbreak, hend⟩, hmark⟩, hspace⟩, htab⟩, hcomment⟩ := h
    rw [place_cons hbreak, skipToToken]
    simp [hbreak, hend, hmark, hspace, htab, hcomment]

theorem skip_line :
    skipToToken false keyAllowed false (place line column index ('\n' :: text)) =
      skipToToken false true false (place (line + 1) 0 (index + 1) text) := by
  rw [place_break rfl, skipToToken]
  simp [isBreak]

end Skipping

end SandboxClient.Yaml
