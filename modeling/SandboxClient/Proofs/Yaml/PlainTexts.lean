/-
  SandboxClient/Proofs/Yaml/PlainTexts.lean
  =========================================
  **Texts without quotes.** The writer leaves a text without quotes when no
  character in it is an indicator where it stands. Then the reader takes it as it
  is, up to the end of its line or the colon behind a key.
-/
import SandboxClient.Proofs.Yaml.Placed

namespace SandboxClient.Yaml

/-- What stands between two words on one line: nothing, or blanks, the last one first. -/
def foldOf (blanks : List Char) : Option Fold :=
  if blanks.isEmpty then none else some ⟨blanks, false, none, []⟩

theorem foldOf_nil : foldOf [] = none := rfl

section Steps

variable {indent : Int} {blanks done : List Char} {cell : Cell} {rest : Source}

theorem scanPlain_blank (hc : isGap cell.char = true) :
    scanPlain false indent (foldOf blanks) done (cell :: rest) =
      scanPlain false indent (foldOf (cell.char :: blanks)) done rest := by
  rw [scanPlain]
  cases blanks with
  | nil => simp [hc, foldOf, Fold.start, Fold.addBlank]
  | cons b bs => simp [hc, foldOf, Fold.addBlank]

theorem scanPlain_char (hgap : isGap cell.char = false) (hbreak : isBreak cell.char = false)
    (hend : isEnd cell.char = false) (hplace : blanks ≠ [] → indent ≤ cell.column ∧ cell.column ≠ 0)
    (hcomment : blanks ≠ [] → cell.char ≠ '#')
    (hcolon : cell.char = ':' → isSeparation (Source.ahead (cell :: rest) 1) = false) :
    scanPlain false indent (foldOf blanks) done (cell :: rest) =
      scanPlain false indent none (cell.char :: (blanks ++ done)) rest := by
  have hcolon' : (cell.char == ':' && isSeparation (Source.ahead (cell :: rest) 1)) = false := by
    cases h : cell.char == ':' with
    | false => rfl
    | true => rw [hcolon (beq_iff_eq.mp h)]; rfl
  rw [scanPlain]
  cases blanks with
  | nil => simp [hgap, hbreak, hend, hcolon', foldOf]
  | cons b bs =>
    obtain ⟨hcolumn, hpositive⟩ := hplace (List.cons_ne_nil b bs)
    have hmark : ∀ d, Source.atDocumentMark (cell :: rest) d = false :=
      not_atDocumentMark hpositive
    have hleft : ¬ (cell.column : Int) < indent := by omega
    have hnumber : cell.char ≠ '#' := hcomment (List.cons_ne_nil b bs)
    simp [hgap, hbreak, hend, hcolon', hmark, hleft, hnumber, foldOf, Fold.text]

end Steps

theorem isWrittenSeparation_of {c : Char} (h : isSeparation c = true) :
    isWrittenSeparation (some c) = true := by
  simp only [isSeparation, isGap, isLineOver, isBreak, isEnd, isWrittenSeparation, isWrittenBreak,
    Bool.or_eq_true] at h ⊢
  grind

theorem isSeparation_of_not_written {c : Char} (h : isWrittenSeparation (some c) = false) :
    isSeparation c = false := by
  apply Bool.eq_false_iff.mpr
  intro hsep
  rw [isWrittenSeparation_of hsep] at h
  cases h

section Texts

variable {line column index : Nat} {indent : Int} {s tail : List Char}

/-- A colon in a text without indicators stands before something that is no separation. -/
theorem isSeparation_ahead {before : Option Char} {c : Char}
    (h : isBlockIndicatorAt before c s.head? = false) (hc : c = ':') :
    isSeparation (Source.ahead (⟨c, line, column, index⟩ ::
      place line (column + 1) (index + 1) (s ++ tail)) 1) = false := by
  show isSeparation (Source.ahead (place line (column + 1) (index + 1) (s ++ tail)) 0) = false
  rw [ahead_place]
  cases s with
  | nil => cases before <;> simp [isBlockIndicatorAt, isWrittenSeparation, hc] at h
  | cons d s =>
    apply isSeparation_of_not_written
    cases before with
    | none =>
      simp [isBlockIndicatorAt, hc] at h
      exact h.2
    | some b =>
      simp [isBlockIndicatorAt, hc] at h
      exact h

/-- A text is read up to what follows it. Only where it has blanks does it matter where it
stands. -/
theorem scanPlain_text {before : Char} {blanks done : List Char}
    (hplace : (blanks ≠ [] ∨ ∃ c ∈ s, isGap c = true) → indent ≤ column ∧ column ≠ 0)
    (hline : ∀ c ∈ s, isLineOver c = false)
    (hindicator : anyWithNeighbours isBlockIndicatorAt (some before) s = false)
    (hlast : ∀ c ∈ (before :: s).getLast?, isGap c = false)
    (hblanks : blanks ≠ [] → isGap before = true) (hword : isGap before = false → blanks = []) :
    scanPlain false indent (foldOf blanks) done (place line column index (s ++ tail)) =
      scanPlain false indent none (s.reverse ++ (blanks ++ done))
        (place line (column + s.length) (index + s.length) tail) := by
  induction s generalizing before blanks done column index with
  | nil =>
    have hbefore : isGap before = false := hlast before rfl
    rw [hword hbefore]
    rfl
  | cons c s ih =>
    have hc := hline c List.mem_cons_self
    rw [isLineOver, Bool.or_eq_false_iff] at hc
    obtain ⟨hbreak, hend⟩ := hc
    have hrest : ∀ d ∈ s, isLineOver d = false := fun d hd => hline d (List.mem_cons_of_mem c hd)
    rw [anyWithNeighbours, Bool.or_eq_false_iff] at hindicator
    obtain ⟨hhere, hafter⟩ := hindicator
    have hlast' : ∀ d ∈ (c :: s).getLast?, isGap d = false := by
      rwa [List.getLast?_cons_cons] at hlast
    have hlength : ∀ k, k + (c :: s).length = k + 1 + s.length := by
      intro k
      rw [List.length_cons]
      omega
    rw [List.cons_append, place_cons hbreak, hlength, hlength]
    cases hgap : isGap c with
    | true =>
      rw [scanPlain_blank hgap]
      have hplace' := hplace (Or.inr ⟨c, List.mem_cons_self, hgap⟩)
      rw [@ih (column + 1) (index + 1) c (c :: blanks) done (fun _ => by omega) hrest hafter hlast'
        (fun _ => hgap) (fun h => by rw [hgap] at h; cases h)]
      simp
    | false =>
      have hcomment : blanks ≠ [] → c ≠ '#' := by
        intro hne hnumber
        have hbefore := hblanks hne
        have hsep : isWrittenSeparation (some before) = true :=
          isWrittenSeparation_of (by simp [isSeparation, hbefore])
        simp [isBlockIndicatorAt, hnumber, hsep] at hhere
      rw [scanPlain_char hgap hbreak hend (fun hne => hplace (Or.inl hne)) hcomment
        (isSeparation_ahead hhere)]
      have hplace' : (([] : List Char) ≠ [] ∨ ∃ d ∈ s, isGap d = true) →
          indent ≤ ((column + 1 : Nat) : Int) ∧ column + 1 ≠ 0 := by
        rintro (hne | ⟨d, hd, hblank⟩)
        · exact absurd rfl hne
        · have hhere' := hplace (Or.inr ⟨d, List.mem_cons_of_mem c hd, hblank⟩)
          omega
      have hnext := @ih (column + 1) (index + 1) c [] (c :: (blanks ++ done)) hplace' hrest hafter
        hlast' (fun h => absurd rfl h) (fun _ => rfl)
      rw [foldOf_nil] at hnext
      rw [hnext]
      simp

end Texts

/-! ### Texts that are written without quotes -/

/-- A text that the writer leaves without quotes if it does not mean anything else. -/
structure IsPlain (s : List Char) : Prop where
  ne_nil : s ≠ []
  printable : ∀ c ∈ s, isPrintable c = true
  line : ∀ c ∈ s, isWrittenBreak c = false
  first : s.head? ≠ some ' '
  last : s.getLast? ≠ some ' '
  indicator : anyWithNeighbours isBlockIndicatorAt none s = false

section IsPlain

variable {line column index m : Nat} {indent : Int} {s tail : List Char} {c : Char}

theorem IsPlain.isLineOver (h : IsPlain s) (hc : c ∈ s) : isLineOver c = false := by
  rw [Yaml.isLineOver, isBreak_of_printable (h.printable c hc), h.line c hc,
    isEnd_of_printable (h.printable c hc)]
  rfl

theorem IsPlain.eq_space (h : IsPlain s) (hc : c ∈ s) (hgap : isGap c = true) : c = ' ' := by
  rw [isGap_of_printable (h.printable c hc)] at hgap
  exact beq_iff_eq.mp hgap

theorem IsPlain.isGap (h : IsPlain s) (hc : c ∈ s) (hspace : c ≠ ' ') : isGap c = false := by
  apply Bool.eq_false_iff.mpr
  intro hgap
  exact hspace (h.eq_space hc hgap)

theorem IsPlain.isGap_first (h : IsPlain (c :: s)) : Yaml.isGap c = false := by
  apply h.isGap List.mem_cons_self
  rintro rfl
  exact h.first rfl

theorem scanPlain_isPlain (h : IsPlain s) (hplace : ' ' ∈ s → indent ≤ column ∧ column ≠ 0) :
    scanPlain false indent none [] (place line column index (s ++ tail)) =
      scanPlain false indent none s.reverse
        (place line (column + s.length) (index + s.length) tail) := by
  cases s with
  | nil => exact absurd rfl h.ne_nil
  | cons c s =>
    have hover := h.isLineOver List.mem_cons_self
    rw [Yaml.isLineOver, Bool.or_eq_false_iff] at hover
    have hgap := h.isGap_first
    have hindicator := h.indicator
    rw [anyWithNeighbours, Bool.or_eq_false_iff] at hindicator
    have hlast : ∀ d ∈ (c :: s).getLast?, Yaml.isGap d = false := by
      intro d hd
      apply h.isGap (List.mem_of_mem_getLast? hd)
      rintro rfl
      exact h.last hd
    have hfirst := @scanPlain_char indent [] [] ⟨c, line, column, index⟩
      (place line (column + 1) (index + 1) (s ++ tail)) hgap hover.1 hover.2
      (fun hne => absurd rfl hne) (fun hne => absurd rfl hne) (isSeparation_ahead hindicator.1)
    have hplace' : (([] : List Char) ≠ [] ∨ ∃ d ∈ s, Yaml.isGap d = true) →
        indent ≤ ((column + 1 : Nat) : Int) ∧ column + 1 ≠ 0 := by
      rintro (hne | ⟨d, hd, hblank⟩)
      · exact absurd rfl hne
      · have hspace := h.eq_space (List.mem_cons_of_mem c hd) hblank
        have hhere := hplace (hspace ▸ List.mem_cons_of_mem c hd)
        omega
    have hrest := @scanPlain_text line (column + 1) (index + 1) indent s tail c [] [c] hplace'
      (fun d hd => h.isLineOver (List.mem_cons_of_mem c hd)) hindicator.2 hlast
      (fun hne => absurd rfl hne) (fun _ => rfl)
    rw [foldOf_nil] at hfirst hrest
    rw [List.cons_append, place_cons hover.1]
    refine (hfirst.trans hrest).trans ?_
    have hlength : ∀ k, k + 1 + s.length = k + (c :: s).length := by
      intro k
      rw [List.length_cons]
      omega
    rw [hlength, hlength]
    simp

/-- A key without quotes is read up to the colon behind it. -/
theorem scanPlain_key (h : IsPlain s) (hword : ' ' ∉ s)
    (hsep : isSeparation (tail.getD 0 '\x00') = true) :
    scanPlain false indent none [] (place line column index (s ++ ':' :: tail)) =
      .ok ⟨String.ofList s, place line (column + s.length) (index + s.length) (':' :: tail),
        false⟩ := by
  rw [scanPlain_isPlain h (fun hspace => absurd hspace hword)]
  have hahead : isSeparation (Source.ahead (place line (column + s.length) (index + s.length)
      (':' :: tail)) 1) = true := by
    rw [ahead_place]
    exact hsep
  rw [place_cons rfl] at hahead ⊢
  rw [scanPlain]
  simp [isGap, isBreak, isEnd, hahead]

/-- Behind the end of a line its margin is left out. -/
theorem scanPlain_margin {f : Fold} {done : List Char} (hf : f.broken = true) (n : Nat) :
    scanPlain false indent (some f) done (place line column index (margin n ++ tail)) =
      scanPlain false indent (some f) done (place line (column + n) (index + n) tail) := by
  induction n generalizing column index with
  | zero => rfl
  | succ n ih =>
    have hnext := @ih (column + 1) (index + 1)
    rw [margin] at hnext
    rw [margin, List.replicate_succ, List.cons_append, place_cons rfl, scanPlain,
      Nat.add_comm n 1, ← Nat.add_assoc, ← Nat.add_assoc]
    simpa [isGap, Fold.addBlank, hf] using hnext

/-- A text without quotes is read up to the next line, which is not indented as much. -/
theorem scanPlain_line (h : IsPlain s) (hcolumn : indent ≤ column) (hpositive : column ≠ 0)
    (hm : (m : Int) < indent) (htail : beginsToken tail = true) :
    scanPlain false indent none [] (place line column index (s ++ '\n' :: (margin m ++ tail))) =
      .ok ⟨String.ofList s, place (line + 1) m (index + s.length + 1 + m) tail, true⟩ := by
  have hstart : scanPlain false indent none s.reverse (place line (column + s.length)
      (index + s.length) ('\n' :: (margin m ++ tail))) =
      scanPlain false indent (some ⟨[], true, some '\n', []⟩) s.reverse
        (place (line + 1) 0 (index + s.length + 1) (margin m ++ tail)) := by
    rw [place_break rfl, scanPlain]
    simp [isGap, isBreak, Fold.start, Fold.addBreak]
  rw [scanPlain_isPlain h (fun _ => ⟨hcolumn, hpositive⟩), hstart, scanPlain_margin rfl,
    Nat.zero_add]
  cases tail with
  | nil =>
    rw [place, scanPlain]
    simp [isGap, isBreak, isEnd]
  | cons c tail =>
    simp only [beginsToken, Bool.not_eq_true', Bool.or_eq_false_iff, beq_eq_false_iff_ne] at htail
    obtain ⟨⟨⟨⟨⟨hbreak, hend⟩, -⟩, hspace⟩, htab⟩, -⟩ := htail
    rw [place_cons hbreak, scanPlain]
    simp [Yaml.isGap, hbreak, hend, hspace, htab, hm]

end IsPlain

/-! ### Names -/

/-- A letter or a low line. -/
def isNameLetter (c : Char) : Bool := c.isAlpha || c == '_'

/-- A name of letters and low lines, as fields have them. -/
structure IsName (s : List Char) : Prop where
  ne_nil : s ≠ []
  letters : s.all isNameLetter = true

section IsName

variable {c d : Char} {s : List Char}

theorem ne_of_isNameLetter (h : isNameLetter c = true) (hd : isNameLetter d = false) :
    (c == d) = false := by
  apply beq_eq_false_iff_ne.mpr
  rintro rfl
  rw [h] at hd
  cases hd

theorem isPrintable_of_isNameLetter (h : isNameLetter c = true) : isPrintable c = true := by
  have hrange : 0x20 ≤ c.toNat ∧ c.toNat ≤ 0x7E := by
    unfold isNameLetter Char.isAlpha Char.isUpper Char.isLower at h
    simp only [Bool.or_eq_true, Bool.and_eq_true, decide_eq_true_eq, beq_iff_eq] at h
    rcases h with (⟨hlow, hhigh⟩ | ⟨hlow, hhigh⟩) | rfl
    · have hlow : 0x41 ≤ c.toNat := hlow
      have hhigh : c.toNat ≤ 0x5A := hhigh
      omega
    · have hlow : 0x61 ≤ c.toNat := hlow
      have hhigh : c.toNat ≤ 0x7A := hhigh
      omega
    · decide
  simp [isPrintable, hrange]

theorem isBlockIndicatorAt_of_isNameLetter (h : isNameLetter c = true)
    (before after : Option Char) :
    isBlockIndicatorAt before c after = false := by
  have hne : ∀ d, isNameLetter d = false → (c == d) = false := fun d hd => ne_of_isNameLetter h hd
  cases before <;>
    simp [isBlockIndicatorAt, isLeadingIndicator, isFlowIndicator, hne '#' rfl, hne ',' rfl,
      hne '[' rfl, hne ']' rfl, hne '{' rfl, hne '}' rfl, hne '&' rfl, hne '*' rfl, hne '!' rfl,
      hne '|' rfl, hne '>' rfl, hne '\'' rfl, hne '"' rfl, hne '%' rfl, hne '@' rfl,
      hne '\u0060' rfl, hne '?' rfl, hne ':' rfl, hne '-' rfl]

theorem IsName.letter (h : IsName s) (hc : c ∈ s) : isNameLetter c = true :=
  List.all_eq_true.mp h.letters c hc

theorem IsName.not_mem (h : IsName s) (hd : isNameLetter d = false) : d ∉ s := by
  intro hmem
  rw [h.letter hmem] at hd
  cases hd

theorem IsName.isPlain (h : IsName s) : IsPlain s := by
  refine ⟨h.ne_nil, fun c hc => isPrintable_of_isNameLetter (h.letter hc), ?_, ?_, ?_, ?_⟩
  · intro c hc
    have hne : ∀ d, isNameLetter d = false → (c == d) = false :=
      fun d hd => ne_of_isNameLetter (h.letter hc) hd
    simp [isWrittenBreak, hne '\n' rfl, hne '\r' rfl, hne '\u0085' rfl, hne '\u2028' rfl,
      hne '\u2029' rfl]
  · intro hfirst
    exact h.not_mem (by rfl) (List.mem_of_mem_head? hfirst)
  · intro hlast
    exact h.not_mem (by rfl) (List.mem_of_mem_getLast? hlast)
  · have hletters := h.letters
    generalize none = before
    clear h
    induction s generalizing before with
    | nil => rfl
    | cons c s ih =>
      rw [List.all_cons, Bool.and_eq_true] at hletters
      rw [anyWithNeighbours, isBlockIndicatorAt_of_isNameLetter hletters.1, ih hletters.2]
      rfl

end IsName

end SandboxClient.Yaml
