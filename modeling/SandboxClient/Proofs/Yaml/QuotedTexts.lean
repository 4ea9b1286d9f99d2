/-
  SandboxClient/Proofs/Yaml/QuotedTexts.lean
  ==========================================
  **Texts in quotes.** Between double quotes every character that cannot stand for
  itself is an escape, and what the escapes stand for is read back. Between single
  quotes a quote is doubled, and a line that ends goes on behind a margin.
-/
import SandboxClient.Proofs.Yaml.Placed

namespace SandboxClient.Yaml

/-! ### Words and blanks -/

/-- Where the reader of a quoted text is when it has read so many blanks, the last one first. -/
def modeOf (blanks : List Char) : QuotedMode :=
  if blanks.isEmpty then .word else .fold ⟨blanks, false, none, []⟩

theorem modeOf_nil : modeOf [] = .word := rfl

section Steps

variable {double : Bool} {blanks done : List Char} {cell next : Cell} {rest : Source}

/-- The quote that ends a text. -/
def quoteOf (double : Bool) : Char := if double then '"' else '\''

theorem scanQuoted_word (hgap : isGap cell.char = false) (hbreak : isBreak cell.char = false)
    (hcolumn : cell.column ≠ 0) :
    scanQuoted double (modeOf blanks) done (cell :: rest) =
      scanQuoted.atWord double (quoteOf double) (blanks ++ done) cell rest := by
  have hmark : ∀ d, Source.atDocumentMark (cell :: rest) d = false := not_atDocumentMark hcolumn
  rw [scanQuoted.eq_def]
  cases blanks with
  | nil => simp [modeOf, quoteOf]
  | cons b bs => simp [modeOf, hgap, hbreak, hmark, Fold.text, quoteOf]

theorem scanQuoted_blank (hcell : cell.char = ' ') :
    scanQuoted double (modeOf blanks) done (cell :: next :: rest) =
      scanQuoted double (modeOf (' ' :: blanks)) done (next :: rest) := by
  rw [scanQuoted.eq_def]
  cases blanks with
  | nil =>
    cases double <;>
      simp [modeOf, hcell, scanQuoted.atWord, isGap, Fold.start, Fold.addBlank]
  | cons b bs => simp [modeOf, hcell, isGap, Fold.addBlank]

theorem atWord_char (hgap : isGap cell.char = false) (hbreak : isBreak cell.char = false)
    (hquote : cell.char ≠ quoteOf double) (hescape : double = true → cell.char ≠ '\\') :
    scanQuoted.atWord double (quoteOf double) done cell (next :: rest) =
      scanQuoted double .word (cell.char :: done) (next :: rest) := by
  cases double with
  | false =>
    have hsingle : cell.char ≠ '\'' := hquote
    simp [scanQuoted.atWord, quoteOf, hgap, hbreak, hsingle]
  | true =>
    have hdouble : cell.char ≠ '"' := hquote
    simp [scanQuoted.atWord, quoteOf, hgap, hbreak, hdouble, hescape rfl]

theorem atWord_end (hquote : cell.char = quoteOf double)
    (hnext : double = false → next.char ≠ '\'') :
    scanQuoted.atWord double (quoteOf double) done cell (next :: rest) =
      .ok (String.ofList done.reverse, next :: rest) := by
  cases double with
  | false => simp [scanQuoted.atWord, quoteOf, hquote, hnext rfl]
  | true => simp [scanQuoted.atWord, quoteOf, hquote]

end Steps

/-! ### Numbers of characters -/

/-- The number that hexadecimal digits go on to write. -/
def hexNumber (value : Nat) : List Char → Option Nat
  | [] => some value
  | c :: r => (hexValue c).bind (fun d => hexNumber (value * 16 + d) r)

theorem hexNumber_append (value : Nat) (a b : List Char) :
    hexNumber value (a ++ b) = (hexNumber value a).bind (fun v => hexNumber v b) := by
  induction a generalizing value with
  | nil => rfl
  | cons c a ih =>
    rw [List.cons_append, hexNumber, hexNumber, Option.bind_assoc]
    congr 1
    funext d
    exact ih _

theorem hexValue_upper {d : Nat} (h : d < 16) :
    hexValue (Nat.digitChar d).toUpper = some d := by
  have hall : ∀ d < 16, hexValue (Nat.digitChar d).toUpper = some d := by decide
  exact hall d h

theorem hexNumber_toDigits (n : Nat) :
    hexNumber 0 ((Nat.toDigits 16 n).map Char.toUpper) = some n := by
  induction n using Nat.strongRecOn with
  | ind n ih =>
    by_cases hn : n < 16
    · rw [Nat.toDigits_of_lt_base hn]
      simp [hexNumber, hexValue_upper hn]
    · rw [Nat.toDigits_of_base_le (by decide) (by omega), List.map_append, hexNumber_append,
        ih (n / 16) (by omega)]
      have hdigit := hexValue_upper (show n % 16 < 16 by omega)
      simp only [List.map_cons, List.map_nil, hexNumber, Option.bind_some, hdigit,
        Option.some.injEq]
      omega

theorem hexNumber_zeros (k : Nat) (ds : List Char) :
    hexNumber 0 (List.replicate k '0' ++ ds) = hexNumber 0 ds := by
  induction k with
  | zero => rfl
  | succ k ih =>
    rw [List.replicate_succ, List.cons_append, hexNumber]
    exact ih

theorem hexNumber_hexDigits (width n : Nat) : hexNumber 0 (hexDigits width n) = some n := by
  unfold hexDigits
  rw [hexNumber_zeros, hexNumber_toDigits]

theorem length_hexDigits {width n : Nat} (h : (Nat.toDigits 16 n).length ≤ width) :
    (hexDigits width n).length = width := by
  simp only [hexDigits, List.length_append, List.length_replicate, List.length_map]
  omega

theorem isBreak_of_hexValue {c : Char} {d : Nat} (h : hexValue c = some d) : isBreak c = false := by
  apply Bool.eq_false_iff.mpr
  intro hbreak
  simp only [isBreak, Bool.or_eq_true, beq_iff_eq] at hbreak
  rcases hbreak with (rfl | rfl) | rfl <;> cases h

theorem charOfNumber_toNat (c : Char) : charOfNumber c.toNat = some c := by
  have hvalid := c.valid
  simp only [UInt32.isValidChar, Nat.isValidChar] at hvalid
  have hval : c.val.toNat = c.toNat := rfl
  have hno : ¬ (((0xD800 ≤ c.toNat && c.toNat ≤ 0xDFFF) || c.toNat > 0x10FFFF) = true) := by
    simp only [Bool.or_eq_true, Bool.and_eq_true, decide_eq_true_eq]
    omega
  rw [charOfNumber, if_neg hno, Char.ofNat_toNat]

section Digits

variable {line column index : Nat} {done ds tail : List Char} {x : Char}

theorem scanQuoted_digits {value : Nat} (hne : ds ≠ [])
    (h : (hexNumber value ds).bind charOfNumber = some x) :
    scanQuoted true (.digits ds.length value) done (place line column index (ds ++ tail)) =
      scanQuoted true .word (x :: done)
        (place line (column + ds.length) (index + ds.length) tail) := by
  induction ds generalizing value column index with
  | nil => exact absurd rfl hne
  | cons c ds ih =>
    cases hc : hexValue c with
    | none =>
      simp [hexNumber, hc] at h
    | some d =>
      have hnext : (hexNumber (value * 16 + d) ds).bind charOfNumber = some x := by
        simpa [hexNumber, hc] using h
      rw [List.cons_append, place_cons (isBreak_of_hexValue hc), scanQuoted.eq_def]
      cases ds with
      | nil =>
        have hx : charOfNumber (value * 16 + d) = some x := by simpa [hexNumber] using hnext
        simp [hc, hx]
      | cons e es =>
        have hrest := @ih (column + 1) (index + 1) (value * 16 + d) (List.cons_ne_nil e es) hnext
        have hlong : ¬ (c :: e :: es).length ≤ 1 := by simp
        have hlength : ∀ k, k + 1 + (e :: es).length = k + (c :: e :: es).length := by
          intro k
          simp only [List.length_cons]
          omega
        rw [hlength, hlength] at hrest
        simp only [hc]
        rw [if_neg hlong]
        exact hrest

end Digits

/-! ### Escapes -/

/-- How a character is written between double quotes: as an escape of its own, as itself, or by its
number. -/
theorem escaped_cases (c : Char) :
    (∃ x, escaped c = ['\\', x] ∧ isBreak x = false ∧ escapedChar x = some c) ∨
      (escaped c = [c] ∧ isBreak c = false ∧ c ≠ '"' ∧ c ≠ '\\' ∧ (isGap c = true → c = ' ')) ∨
      ∃ mark width, escaped c = '\\' :: mark :: hexDigits width c.toNat ∧ isBreak mark = false ∧
        escapedChar mark = none ∧ escapeDigits mark = some width ∧ 0 < width ∧
        (hexDigits width c.toNat).length = width := by
  unfold escaped
  split
  case h_15 =>
    rename_i htab hline _ _ _ _ hquote hescape _ hseparator hparagraph
    apply Or.inr
    by_cases hprint : isPrintable c = true
    · rw [if_pos hprint]
      refine Or.inl ⟨rfl, ?_, hquote, hescape, ?_⟩
      · simp only [isBreak, Bool.or_eq_false_iff, beq_eq_false_iff_ne]
        exact ⟨⟨hline, hseparator⟩, hparagraph⟩
      · intro hgap
        rw [isGap, Bool.or_eq_true, beq_iff_eq, beq_iff_eq] at hgap
        rcases hgap with hspace | hgap
        · exact hspace
        · exact absurd hgap htab
    · rw [if_neg hprint]
      have hbits : c.toNat < 2 ^ 32 := c.val.toNat_lt
      have hdigits : ∀ width, 0 < width → c.toNat < 16 ^ width →
          (hexDigits width c.toNat).length = width := fun width hwidth h =>
        length_hexDigits ((Nat.length_toDigits_le_iff (by decide) hwidth).mpr h)
      refine Or.inr ?_
      split
      · exact ⟨'x', 2, rfl, rfl, rfl, rfl, by decide, hdigits 2 (by decide) (by omega)⟩
      · split
        · exact ⟨'u', 4, rfl, rfl, rfl, rfl, by decide, hdigits 4 (by decide) (by omega)⟩
        · exact ⟨'U', 8, rfl, rfl, rfl, rfl, by decide, hdigits 8 (by decide) (by omega)⟩
  all_goals exact Or.inl ⟨_, rfl, rfl, rfl⟩

section DoubleQuoted

variable {line column index : Nat} {s tail blanks done : List Char}

/-- What is written between double quotes is read back, blanks at its ends included. -/
theorem scanQuoted_escaped (hcolumn : column ≠ 0) :
    ∃ column' index', scanQuoted true (modeOf blanks) done
        (place line column index (s.flatMap escaped ++ '"' :: tail)) =
      .ok (String.ofList ((blanks ++ done).reverse ++ s), place line column' index' tail) := by
  induction s generalizing blanks done column index with
  | nil =>
    obtain ⟨next, rest, hnext⟩ := exists_cons_place line (column + 1) (index + 1) tail
    refine ⟨column + 1, index + 1, ?_⟩
    rw [List.flatMap_nil, List.nil_append, place_cons rfl,
      scanQuoted_word rfl rfl (by exact hcolumn), hnext, atWord_end rfl (fun h => by cases h)]
    simp
  | cons c s ih =>
    rw [List.flatMap_cons, List.append_assoc]
    rcases escaped_cases c with ⟨x, hx, hbreak, hescape⟩ | ⟨hself, hbreak, hquote, hescape, hgap⟩ |
      ⟨mark, width, hx, hbreak, hchar, hmark, hwidth, hlength⟩
    · obtain ⟨column', index', hrest⟩ := @ih (column + 1 + 1) (index + 1 + 1) []
        (c :: (blanks ++ done)) (by omega)
      refine ⟨column', index', ?_⟩
      rw [modeOf_nil] at hrest
      rw [hx, List.cons_append, List.cons_append, List.nil_append, place_cons rfl, place_cons hbreak,
        scanQuoted_word rfl rfl (by exact hcolumn), scanQuoted.atWord.eq_def]
      simp [quoteOf, hbreak, hescape, hrest]
    · rw [hself, List.cons_append, List.nil_append, place_cons hbreak]
      obtain ⟨next, rest, hnext⟩ := exists_cons_place line (column + 1) (index + 1)
        (s.flatMap escaped ++ '"' :: tail)
      cases hc : isGap c with
      | true =>
        obtain ⟨column', index', hrest⟩ := @ih (column + 1) (index + 1) (' ' :: blanks) done
          (by omega)
        refine ⟨column', index', ?_⟩
        rw [hnext] at hrest ⊢
        rw [scanQuoted_blank (hgap hc), hrest, hgap hc]
        simp
      | false =>
        obtain ⟨column', index', hrest⟩ := @ih (column + 1) (index + 1) [] (c :: (blanks ++ done))
          (by omega)
        refine ⟨column', index', ?_⟩
        rw [modeOf_nil, hnext] at hrest
        rw [hnext, scanQuoted_word hc hbreak (by exact hcolumn),
          atWord_char hc hbreak hquote (fun _ => hescape), hrest]
        simp
    · obtain ⟨column', index', hrest⟩ := @ih (column + 1 + 1 + width) (index + 1 + 1 + width) []
        (c :: (blanks ++ done)) (by omega)
      refine ⟨column', index', ?_⟩
      have hread : (hexNumber 0 (hexDigits width c.toNat)).bind charOfNumber = some c := by
        rw [hexNumber_hexDigits]
        exact charOfNumber_toNat c
      have hdigits := @scanQuoted_digits line (column + 1 + 1) (index + 1 + 1) (blanks ++ done)
        (hexDigits width c.toNat) (s.flatMap escaped ++ '"' :: tail) c 0
        (List.ne_nil_of_length_pos (by omega)) hread
      rw [hlength] at hdigits
      rw [modeOf_nil] at hrest
      rw [hx, List.cons_append, List.cons_append, place_cons rfl, place_cons hbreak,
        scanQuoted_word rfl rfl (by exact hcolumn), scanQuoted.atWord.eq_def]
      simp [quoteOf, hbreak, hchar, hmark, hdigits, hrest]

end DoubleQuoted

/-! ### Single quotes

The mode of the reader says where the text was left, and the writer's flag says the same. -/

/-- A character that may stand in single quotes. Line feeds are written in another way. -/
def IsShown (c : Char) : Prop := isPrintable c = true ∧ c ≠ '\n'

/-- A space behind the end of a line. -/
def isBreakSpace (before : Option Char) (c : Char) (_ : Option Char) : Bool :=
  before.any isWrittenBreak && c == ' '

/-- The end of a line behind a space. -/
def isSpaceBreak (before : Option Char) (c : Char) (_ : Option Char) : Bool :=
  before == some ' ' && isWrittenBreak c

section SingleQuoted

variable {line column index indent : Nat} {s tail : List Char}

/-- Behind the end of a line its margin is left out. -/
theorem scanQuoted_margin {f : Fold} {done : List Char} (hf : f.broken = true) (n : Nat) :
    scanQuoted false (.fold f) done (place line column index (margin n ++ tail)) =
      scanQuoted false (.fold f) done (place line (column + n) (index + n) tail) := by
  induction n generalizing column index with
  | zero => rfl
  | succ n ih =>
    have hnext := @ih (column + 1) (index + 1)
    rw [margin] at hnext
    rw [margin, List.replicate_succ, List.cons_append, place_cons rfl, scanQuoted.eq_def,
      Nat.add_comm n 1, ← Nat.add_assoc, ← Nat.add_assoc]
    simpa [isGap, Fold.addBlank, hf] using hnext

/-- Behind the end of a line a word goes on behind what stands between them. -/
theorem scanQuoted_resume {f : Fold} {done : List Char} {cell : Cell} {rest : Source}
    (hgap : isGap cell.char = false) (hbreak : isBreak cell.char = false)
    (hcolumn : cell.column ≠ 0) :
    scanQuoted false (.fold f) done (cell :: rest) =
      scanQuoted false .word (f.text.reverse ++ done) (cell :: rest) := by
  have hmark : ∀ d, Source.atDocumentMark (cell :: rest) d = false := not_atDocumentMark hcolumn
  rw [scanQuoted.eq_def, scanQuoted.eq_def]
  simp [hgap, hbreak, hmark]

/-- What stands between two words is the end of the first line, and of those after it. -/
theorem text_of_broken {c : Char} (hc : c ≠ '\n') (more : List Char) :
    Fold.text ⟨[], true, some c, more⟩ = c :: more.reverse := by
  simp [Fold.text, hc]

theorem scanQuoted_quote {blanks done : List Char} (hcolumn : column ≠ 0)
    (htail : tail.head? ≠ some '\'') :
    scanQuoted false (modeOf blanks) done (place line column index ('\'' :: tail)) =
      .ok (String.ofList (blanks ++ done).reverse, place line (column + 1) (index + 1) tail) := by
  obtain ⟨next, rest, hnext⟩ := exists_cons_place line (column + 1) (index + 1) tail
  have hother : next.char ≠ '\'' := by
    have hahead := ahead_place line (column + 1) (index + 1) tail 0
    rw [hnext] at hahead
    have hchar : next.char = tail.getD 0 '\x00' := hahead
    rw [hchar]
    cases tail with
    | nil => decide
    | cons d tail =>
      intro hd
      exact htail (by rw [← hd]; rfl)
  rw [place_cons rfl, scanQuoted_word rfl rfl (by exact hcolumn), hnext,
    atWord_end rfl (fun _ => hother)]

/-- A character of a word in single quotes. -/
theorem scanQuoted_shown {blanks done : List Char} {c : Char} (hcolumn : column ≠ 0)
    (hgap : isGap c = false) (hbreak : isBreak c = false) :
    ∃ column' index', scanQuoted false (modeOf blanks) done
        (place line column index ((if c == '\'' then ['\'', '\''] else [c]) ++ tail)) =
      scanQuoted false .word (c :: (blanks ++ done)) (place line column' index' tail) ∧
        column' ≠ 0 := by
  by_cases hquote : c = '\''
  · refine ⟨column + 1 + 1, index + 1 + 1, ?_, by omega⟩
    rw [hquote, if_pos (by rfl), List.cons_append, List.cons_append, List.nil_append, place_cons rfl,
      place_cons rfl, scanQuoted_word rfl rfl (by exact hcolumn), scanQuoted.atWord.eq_def]
    simp
  · obtain ⟨next, rest, hnext⟩ := exists_cons_place line (column + 1) (index + 1) tail
    refine ⟨column + 1, index + 1, ?_, by omega⟩
    rw [if_neg (by simpa using hquote), List.cons_append, List.nil_append, place_cons hbreak,
      scanQuoted_word hgap hbreak (by exact hcolumn), hnext,
      atWord_char hgap hbreak hquote (fun h => by cases h)]

/-- A text between single quotes is read back from among the characters of a word, or behind
blanks. -/
def ReadInWord (indent : Nat) (tail : List Char) (before : Option Char) (s : List Char) : Prop :=
  ∀ blanks done line column index, column ≠ 0 → (blanks ≠ [] → before = some ' ') →
    ∃ line' column' index', scanQuoted false (modeOf blanks) done
        (place line column index (singleQuotedBody indent false s ++ '\'' :: tail)) =
      .ok (String.ofList ((blanks ++ done).reverse ++ s), place line' column' index' tail)

/-- A text between single quotes is read back from where a line has ended. -/
def ReadInFold (indent : Nat) (tail : List Char) (before : Option Char) (s : List Char) : Prop :=
  ∀ e more done line index, e ≠ '\n' → before.any isWrittenBreak = true →
    ∃ line' column' index', scanQuoted false (.fold ⟨[], true, some e, more⟩) done
        (place line 0 index (singleQuotedBody indent true s ++ '\'' :: tail)) =
      .ok (String.ofList (done.reverse ++ (e :: more.reverse) ++ s), place line' column' index' tail)

section Characters

variable {before : Option Char} {c : Char}

theorem isGap_of_isWrittenBreak (hc : IsShown c) (hbreak : isWrittenBreak c = true) :
    isGap c = false := by
  rw [isGap_of_printable hc.1]
  apply beq_eq_false_iff_ne.mpr
  rintro rfl
  cases hbreak

theorem readInWord_nil (htail : tail.head? ≠ some '\'') : ReadInWord indent tail before [] := by
  intro blanks done line column index hcolumn _
  refine ⟨line, column + 1, index + 1, ?_⟩
  rw [List.append_nil]
  exact scanQuoted_quote hcolumn htail

theorem readInFold_nil (hindent : indent ≠ 0) (htail : tail.head? ≠ some '\'') :
    ReadInFold indent tail before [] := by
  intro e more done line index he _
  refine ⟨line, 0 + indent + 1, index + indent + 1, ?_⟩
  have hquote := @scanQuoted_quote line (0 + indent) (index + indent) tail []
    ((e :: more.reverse).reverse ++ done) (by omega) htail
  rw [modeOf_nil, List.nil_append] at hquote
  rw [singleQuotedBody, if_pos rfl, scanQuoted_margin rfl, place_cons rfl,
    scanQuoted_resume rfl rfl (by show 0 + indent ≠ 0; omega), text_of_broken he,
    ← place_cons rfl, hquote]
  simp

/-- A line ends in the text. No blanks stand before its end, which would be lost. -/
theorem readInWord_break (hc : IsShown c) (hbreak : isWrittenBreak c = true)
    (hspace : isSpaceBreak before c s.head? = false) (h : ReadInFold indent tail (some c) s) :
    ReadInWord indent tail before (c :: s) := by
  intro blanks done line column index hcolumn hblanks
  have hnone : blanks = [] := by
    by_cases hne : blanks = []
    · exact hne
    · rw [hblanks hne, isSpaceBreak, hbreak] at hspace
      cases hspace
  obtain ⟨line', column', index', hrest⟩ := h c [] done (line + 1) (index + 1) hc.2 hbreak
  obtain ⟨next, rest, hnext⟩ := exists_cons_place (line + 1) 0 (index + 1)
    (singleQuotedBody indent true s ++ '\'' :: tail)
  have hquote : c ≠ '\'' := by
    rintro rfl
    cases hbreak
  have hgap := isGap_of_isWrittenBreak hc hbreak
  refine ⟨line', column', index', ?_⟩
  rw [hnext] at hrest
  rw [hnone, modeOf_nil, singleQuotedBody, if_pos hbreak, List.cons_append,
    place_break ((isBreak_of_printable hc.1).trans hbreak), hnext, scanQuoted.eq_def]
  simp [scanQuoted.atWord, hquote, hgap, isBreak_of_printable hc.1, hbreak, Fold.start,
    Fold.addBreak, hrest]

/-- A character of the text on its line. -/
theorem readInWord_shown (hc : IsShown c) (hbreak : isWrittenBreak c = false)
    (h : ReadInWord indent tail (some c) s) : ReadInWord indent tail before (c :: s) := by
  intro blanks done line column index hcolumn _
  rw [singleQuotedBody, if_neg (by rw [hbreak]; exact Bool.false_ne_true),
    if_neg Bool.false_ne_true, List.nil_append]
  cases hgap : isGap c with
  | true =>
    have hspace : c = ' ' := beq_iff_eq.mp ((isGap_of_printable hc.1).symm.trans hgap)
    obtain ⟨line', column', index', hrest⟩ := h (' ' :: blanks) done line (column + 1)
      (index + 1) (by omega) (fun _ => by rw [hspace])
    obtain ⟨next, rest, hnext⟩ := exists_cons_place line (column + 1) (index + 1)
      (singleQuotedBody indent false s ++ '\'' :: tail)
    refine ⟨line', column', index', ?_⟩
    rw [hnext] at hrest
    rw [hspace, if_neg (by decide), List.append_assoc, List.cons_append, List.nil_append,
      place_cons rfl, hnext, scanQuoted_blank rfl, hrest]
    simp
  | false =>
    obtain ⟨column₁, index₁, hstep, hcolumn₁⟩ := @scanQuoted_shown line column index
      (singleQuotedBody indent false s ++ '\'' :: tail) blanks done c hcolumn hgap
      ((isBreak_of_printable hc.1).trans hbreak)
    obtain ⟨line', column', index', hrest⟩ := h [] (c :: (blanks ++ done)) line column₁
      index₁ hcolumn₁ (fun hne => absurd rfl hne)
    refine ⟨line', column', index', ?_⟩
    rw [modeOf_nil] at hrest
    rw [List.append_assoc, hstep, hrest]
    simp

/-- One more line ends. -/
theorem readInFold_break (hc : IsShown c) (hbreak : isWrittenBreak c = true)
    (h : ReadInFold indent tail (some c) s) : ReadInFold indent tail before (c :: s) := by
  intro e more done line index he _
  obtain ⟨line', column', index', hrest⟩ := h e (c :: more) done (line + 1) (index + 1) he hbreak
  have hgap := isGap_of_isWrittenBreak hc hbreak
  refine ⟨line', column', index', ?_⟩
  rw [singleQuotedBody, if_pos hbreak, List.cons_append,
    place_break ((isBreak_of_printable hc.1).trans hbreak), scanQuoted.eq_def]
  simp [hgap, isBreak_of_printable hc.1, hbreak, Fold.addBreak, hrest]

/-- The text goes on behind the margin of a line. It does not begin with a space there, which would
be taken for margin. -/
theorem readInFold_shown (hindent : indent ≠ 0) (hc : IsShown c) (hbreak : isWrittenBreak c = false)
    (hspace : isBreakSpace before c s.head? = false) (h : ReadInWord indent tail before (c :: s)) :
    ReadInFold indent tail before (c :: s) := by
  intro e more done line index he hbefore
  have hgap : isGap c = false := by
    rw [isGap_of_printable hc.1]
    rw [isBreakSpace, hbefore] at hspace
    exact hspace
  have hshort := (isBreak_of_printable hc.1).trans hbreak
  have hbody : singleQuotedBody indent true (c :: s) =
      margin indent ++ singleQuotedBody indent false (c :: s) := by
    simp [singleQuotedBody, hbreak]
  obtain ⟨line', column', index', hrest⟩ := h [] ((e :: more.reverse).reverse ++ done) line
    (0 + indent) (index + indent) (by omega) (fun hne => absurd rfl hne)
  refine ⟨line', column', index', ?_⟩
  rw [modeOf_nil] at hrest
  obtain ⟨t, ht⟩ : ∃ t, singleQuotedBody indent false (c :: s) = c :: t := by
    by_cases hquote : c = '\''
    · exact ⟨'\'' :: singleQuotedBody indent false s,
        by simp [singleQuotedBody, hquote, isWrittenBreak]⟩
    · exact ⟨singleQuotedBody indent false s, by simp [singleQuotedBody, hbreak, hquote]⟩
  rw [ht, List.cons_append, place_cons hshort] at hrest
  rw [hbody, ht, List.append_assoc, scanQuoted_margin rfl, List.cons_append, place_cons hshort,
    scanQuoted_resume hgap hshort (by show 0 + indent ≠ 0; omega), text_of_broken he, hrest]
  simp

end Characters

/-- What is written between single quotes is read back, on one line or behind the end of one. -/
theorem scanQuoted_single (hindent : indent ≠ 0) (htail : tail.head? ≠ some '\'')
    (hshown : ∀ c ∈ s, IsShown c) {before : Option Char}
    (hbreakSpace : anyWithNeighbours isBreakSpace before s = false)
    (hspaceBreak : anyWithNeighbours isSpaceBreak before s = false) :
    ReadInWord indent tail before s ∧ ReadInFold indent tail before s := by
  induction s generalizing before with
  | nil => exact ⟨readInWord_nil htail, readInFold_nil hindent htail⟩
  | cons c s ih =>
    have hc := hshown c List.mem_cons_self
    rw [anyWithNeighbours, Bool.or_eq_false_iff] at hbreakSpace hspaceBreak
    obtain ⟨ihword, ihfold⟩ := ih (fun d hd => hshown d (List.mem_cons_of_mem c hd)) hbreakSpace.2
      hspaceBreak.2
    cases hbreak : isWrittenBreak c with
    | true =>
      exact ⟨readInWord_break hc hbreak hspaceBreak.1 ihfold, readInFold_break hc hbreak ihfold⟩
    | false =>
      have hword : ReadInWord indent tail before (c :: s) := readInWord_shown hc hbreak ihword
      exact ⟨hword, readInFold_shown hindent hc hbreak hbreakSpace.1 hword⟩

end SingleQuoted

end SandboxClient.Yaml
