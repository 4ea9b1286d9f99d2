/-
  SandboxClient/Proofs/Yaml/WrittenLeaves.lean
  ============================================
  **Leaves behind a colon.** Whatever the way in which a text is written as the
  value of a field, the reader makes one token of it and comes to the next line.
-/
import SandboxClient.Proofs.Yaml.PlainTexts
import SandboxClient.Proofs.Yaml.QuotedTexts
import SandboxClient.Proofs.Yaml.LiteralTexts
import SandboxClient.Proofs.Yaml.Reaching

namespace SandboxClient.Yaml

/-! ### What the ways of writing a text say about it -/

section Styles

variable {s : String}

theorem features_of_plain (h : styleOf s = .plain) : meaning s = .text ∧ '\n' ∉ s.toList ∧
    (Features.ofText s.toList).edge = false ∧ (Features.ofText s.toList).special = false ∧
    (Features.ofText s.toList).multiline = false ∧
    (Features.ofText s.toList).indicator = false := by
  unfold styleOf at h
  simp only at h
  split at h
  · split at h <;> cases h
  · rename_i hfeed
    split at h
    · split at h <;> cases h
    · rename_i hmeaning
      split at h
      · split at h <;> cases h
      · rename_i hfeatures
        simp only [Bool.or_eq_true, not_or, Bool.not_eq_true, bne_eq_false_iff_eq,
          List.contains_eq_mem, decide_eq_false_iff_not] at hfeed hmeaning hfeatures
        obtain ⟨⟨⟨⟨⟨hedge, -⟩, -⟩, hspecial⟩, hmultiline⟩, hindicator⟩ := hfeatures
        exact ⟨hmeaning.1, hfeed, hedge, hspecial, hmultiline, hindicator⟩

theorem isPlain_of_plain (h : styleOf s = .plain) : IsPlain s.toList := by
  obtain ⟨hmeaning, -, hedge, hspecial, hmultiline, hindicator⟩ := features_of_plain h
  simp only [Features.ofText, Bool.or_eq_false_iff, List.any_eq_false, Bool.not_eq_true',
    Bool.not_eq_true, Bool.not_eq_false] at hedge hspecial hmultiline hindicator
  refine ⟨?_, hspecial, hmultiline, ?_, ?_, hindicator.2⟩
  · intro hnil
    obtain rfl : s = "" := String.toList_eq_nil_iff.mp hnil
    cases hmeaning
  · intro hfirst
    simp [hfirst] at hedge
  · intro hlast
    simp [hlast] at hedge

theorem isShown_of_singleQuoted (h : styleOf s = .singleQuoted) : (∀ c ∈ s.toList, IsShown c) ∧
    anyWithNeighbours isBreakSpace none s.toList = false ∧
    anyWithNeighbours isSpaceBreak none s.toList = false := by
  have hfeatures : '\n' ∉ s.toList ∧ (Features.ofText s.toList).breakSpace = false ∧
      (Features.ofText s.toList).spaceBreak = false ∧
      (Features.ofText s.toList).special = false := by
    have hquoted : (if ((Features.ofText s.toList).breakSpace || (Features.ofText s.toList).spaceBreak ||
        (Features.ofText s.toList).special) = true then Style.doubleQuoted else .singleQuoted) =
          .singleQuoted →
        (Features.ofText s.toList).breakSpace = false ∧
          (Features.ofText s.toList).spaceBreak = false ∧
          (Features.ofText s.toList).special = false := by
      intro hstyle
      split at hstyle
      · cases hstyle
      · rename_i hno
        simpa [and_assoc] using hno
    unfold styleOf at h
    simp only at h
    split at h
    · split at h <;> cases h
    · rename_i hfeed
      have hfeed' : '\n' ∉ s.toList := by simpa using hfeed
      split at h
      · exact ⟨hfeed', hquoted h⟩
      · split at h
        · exact ⟨hfeed', hquoted h⟩
        · cases h
  obtain ⟨hfeed, hbreakSpace, hspaceBreak, hspecial⟩ := hfeatures
  refine ⟨?_, hbreakSpace, hspaceBreak⟩
  intro c hc
  refine ⟨?_, fun hnewline => hfeed (hnewline ▸ hc)⟩
  simpa using List.any_eq_false.mp hspecial c hc

theorem printable_of_literal (h : styleOf s = .literal) :
    s.toList ≠ [] ∧ ∀ c ∈ s.toList, isPrintable c = true := by
  unfold styleOf at h
  simp only at h
  split at h
  · rename_i hfeed
    split at h
    · cases h
    · rename_i hno
      simp only [Bool.or_eq_true, not_or, Bool.not_eq_true] at hno
      refine ⟨?_, ?_⟩
      · intro hnil
        rw [hnil] at hfeed
        cases hfeed
      · intro c hc
        simpa using List.any_eq_false.mp hno.2 c hc
  · split at h
    · split at h <;> cases h
    · split at h
      · split at h <;> cases h
      · cases h

theorem styleOf_ne_folded : styleOf s ≠ .folded := by
  intro h
  unfold styleOf at h
  simp only at h
  repeat' split at h
  all_goals cases h

end Styles

/-! ### The end of its line -/

section LineEnds

theorem endLine_eq (text : List Char) : endLine text = text ++ endOf text := by
  unfold endLine endOf
  split
  · rw [List.append_nil]
  · rfl

theorem endOf_of_last {text : List Char} (h : ∀ c ∈ text.getLast?, isWrittenBreak c = false) :
    endOf text = ['\n'] := by
  have hno : text.getLast?.any isWrittenBreak = false := by
    cases hlast : text.getLast? with
    | none => rfl
    | some c => exact h c hlast
  rw [endOf, hno, if_neg Bool.false_ne_true]

theorem getLast?_literalBody {w : Nat} {afterBreak : Bool} {text : List Char} (hne : text ≠ []) :
    (literalBody w afterBreak text).getLast? = text.getLast? := by
  induction text generalizing afterBreak with
  | nil => exact absurd rfl hne
  | cons c text ih =>
    cases text with
    | nil => cases hc : isWrittenBreak c <;> simp [literalBody, hc]
    | cons d text =>
      have hrest := fun b => @ih b (List.cons_ne_nil d text)
      rw [literalBody]
      split
      · simp [List.getLast?_cons, hrest]
      · simp [List.getLast?_append, List.getLast?_cons, hrest]

theorem endOf_writeLiteral {w : Nat} {text : List Char} (hne : text ≠ []) :
    endOf (writeLiteral w text) = endOf text := by
  have hlast : (writeLiteral w text).getLast? = text.getLast? := by
    unfold writeLiteral
    rw [List.getLast?_cons, List.getLast?_append, List.getLast?_cons, getLast?_literalBody hne,
      List.getLast?_eq_some_getLast hne]
    simp
  rw [endOf, endOf, hlast]

end LineEnds

/-! ### Tokens of texts -/

/-- A plain text starts where no indicator does. -/
theorem Scanner.readToken_eq_readPlain {s : Scanner} (hflow : s.flow = 0)
    (hmark : ∀ d, d = '-' ∨ d = '.' → s.rest.atDocumentMark d = false)
    (hlead : isLeadingIndicator (s.rest.ahead 0) = false)
    (hword : isSeparation (s.rest.ahead 0) = false)
    (hnext : s.rest.ahead 0 = '-' ∨ s.rest.ahead 0 = '?' ∨ s.rest.ahead 0 = ':' →
      isSeparation (s.rest.ahead 1) = false) : s.readToken = s.readPlain := by
  have hflow' : s.inFlow = false := by simp [Scanner.inFlow, hflow]
  have hplain : s.atPlain = true := by
    unfold Scanner.atPlain
    by_cases hdash : s.rest.ahead 0 = '-' ∨ s.rest.ahead 0 = '?' ∨ s.rest.ahead 0 = ':'
    · have hsep := hnext hdash
      have hgap : isGap (s.rest.ahead 1) = false := by
        simp only [isSeparation, Bool.or_eq_false_iff] at hsep
        exact hsep.1
      rcases hdash with h | h | h <;> simp [h, hsep, hgap, hflow']
    · simp only [not_or] at hdash
      simp only [isLeadingIndicator, Bool.or_eq_false_iff] at hlead
      simp [isIndicator, hword, hlead, hdash]
  have hdash : (s.rest.ahead 0 == '-' && isSeparation (s.rest.ahead 1)) = false := by
    cases h : s.rest.ahead 0 == '-' with
    | false => rfl
    | true => exact hnext (Or.inl (beq_iff_eq.mp h))
  have hquestion : (s.rest.ahead 0 == '?' && isSeparation (s.rest.ahead 1)) = false := by
    cases h : s.rest.ahead 0 == '?' with
    | false => rfl
    | true => exact hnext (Or.inr (Or.inl (beq_iff_eq.mp h)))
  have hcolon : (s.rest.ahead 0 == ':' && isSeparation (s.rest.ahead 1)) = false := by
    cases h : s.rest.ahead 0 == ':' with
    | false => rfl
    | true => exact hnext (Or.inr (Or.inr (beq_iff_eq.mp h)))
  unfold Scanner.readToken
  simp only [isLeadingIndicator, isFlowIndicator, Bool.or_eq_false_iff] at hlead
  simp [hmark, hlead, hdash, hquestion, hcolon, hplain, hflow']

section Tokens

variable {ts : List Token} {indent : Int} {outer : List Int} {keyAllowed : Bool}
  {n m line column index : Nat} {text tail : List Char}

@[simp] theorem Scanner.between_rest (rest : Source) :
    (Scanner.between ts indent outer keyAllowed rest).rest = rest := rfl

@[simp] theorem Scanner.between_flow (rest : Source) :
    (Scanner.between ts indent outer keyAllowed rest).flow = 0 := rfl

theorem Scanner.between_emit (rest rest' : Source) (token : Token) (keyAllowed' : Bool) :
    { (Scanner.between ts indent outer keyAllowed rest).emit token with
        rest := rest', keyAllowed := keyAllowed' } =
      Scanner.between (ts ++ [token]) indent outer keyAllowed' rest' := by
  simp [Scanner.between, Scanner.emit]

/-! Behind a colon no key starts, and so a text is a token at once. -/

theorem Scanner.readPlain_between {rest : Source} {p : PlainScalar}
    (h : scanPlain false (indent + 1) none [] rest = .ok p) :
    (Scanner.between ts indent outer false rest).readPlain =
      .ok (Scanner.between (ts ++ [.scalar p.text .plain]) indent outer p.lineOver p.rest) := by
  unfold Scanner.readPlain
  show (scanPlain false (indent + 1) none [] rest >>= _) = _
  rw [h]
  exact congrArg Except.ok (Scanner.between_emit _ _ _ _)

theorem Scanner.readNode_between {rest rest' : Source} {token : Token}
    {scan : Source → Except Fault (Token × Source)} (h : scan rest = .ok (token, rest')) :
    (Scanner.between ts indent outer false rest).readNode scan =
      .ok (Scanner.between (ts ++ [token]) indent outer false rest') := by
  unfold Scanner.readNode
  show (scan rest >>= _) = _
  rw [h]
  exact congrArg Except.ok (Scanner.between_emit _ _ _ _)

theorem Scanner.readBlock_between {rest rest' : Source} {text : String}
    (h : scanBlock false indent (rest.drop 1) = .ok (text, rest')) :
    (Scanner.between ts indent outer keyAllowed rest).readBlock false =
      .ok (Scanner.between (ts ++ [.scalar text .literal]) indent outer true rest') := by
  unfold Scanner.readBlock
  show (scanBlock false indent (rest.drop 1) >>= _) = _
  rw [h]
  exact congrArg Except.ok (Scanner.between_emit _ _ _ _)

/-- What decides that a text is plain is seen by the reader of tokens too. -/
theorem IsPlain.readToken_eq (h : IsPlain text) (hmark : ∀ d, d = '-' ∨ d = '.' →
      Source.atDocumentMark (place line column index (text ++ tail)) d = false) :
    (Scanner.between ts indent outer keyAllowed (place line column index (text ++ tail))).readToken =
      (Scanner.between ts indent outer keyAllowed
        (place line column index (text ++ tail))).readPlain := by
  have hindicator := h.indicator
  cases text with
  | nil => exact absurd rfl h.ne_nil
  | cons c text =>
    have hover := h.isLineOver List.mem_cons_self
    have hgap := h.isGap_first
    rw [anyWithNeighbours, Bool.or_eq_false_iff] at hindicator
    obtain ⟨hfirst, -⟩ := hindicator
    have hhere : Source.ahead (place line column index (c :: text ++ tail)) 0 = c :=
      ahead_place _ _ _ _ _
    simp only [isBlockIndicatorAt, Bool.or_eq_false_iff] at hfirst
    refine Scanner.readToken_eq_readPlain rfl hmark ?_ ?_ ?_
    · rw [Scanner.between_rest, hhere]
      exact hfirst.1
    · rw [Scanner.between_rest, hhere, isSeparation, hgap, hover]
      rfl
    · rw [Scanner.between_rest, hhere, ahead_place]
      intro hc
      have hafter : isWrittenSeparation text.head? = false := by
        rcases hc with rfl | rfl | rfl <;> simpa using hfirst.2
      cases text with
      | nil => cases hafter
      | cons d text => exact isSeparation_of_not_written hafter

theorem readToken_plain (h : IsPlain text) (hcolumn : n < column) (hm : m ≤ n)
    (htail : beginsToken tail = true) :
    ∃ index', (Scanner.between ts n outer false
        (place line column index (text ++ '\n' :: (margin m ++ tail)))).readToken =
      .ok (Scanner.between (ts ++ [.scalar (String.ofList text) .plain]) n outer true
        (place (line + 1) m index' tail)) := by
  refine ⟨index + text.length + 1 + m, ?_⟩
  have hscan := @scanPlain_line line column index m (n + 1 : Int) text tail h (by omega) (by omega)
    (by omega) htail
  rw [h.readToken_eq (fun d _ => not_atDocumentMark (by rw [column_place]; omega) d)]
  exact Scanner.readPlain_between hscan

/-- Reads a text in quotes. -/
def scanQuote (double : Bool) (rest : Source) : Except Fault (Token × Source) :=
  (scanQuoted double .word [] (rest.drop 1)).map
    (fun r => (.scalar r.1 (if double then .doubleQuoted else .singleQuoted), r.2))

theorem readToken_quote {double : Bool} (hcolumn : 0 < column) :
    (Scanner.between ts indent outer keyAllowed
        (place line column index (quoteOf double :: text))).readToken =
      (Scanner.between ts indent outer keyAllowed
        (place line column index (quoteOf double :: text))).readNode (scanQuote double) := by
  have hmark : ∀ d, Source.atDocumentMark (place line column index (quoteOf double :: text)) d =
      false := not_atDocumentMark (by rw [column_place]; omega)
  unfold Scanner.readToken
  simp only [Scanner.between_rest, hmark, ahead_place, List.getD_cons_zero]
  cases double with
  | false =>
    simp [quoteOf, Scanner.inFlow, -List.drop_one]
    rfl
  | true =>
    simp [quoteOf, Scanner.inFlow, -List.drop_one]
    rfl

theorem readToken_bar (hcolumn : 0 < column) :
    (Scanner.between ts indent outer keyAllowed (place line column index ('|' :: text))).readToken =
      (Scanner.between ts indent outer keyAllowed
        (place line column index ('|' :: text))).readBlock false := by
  have hmark : ∀ d, Source.atDocumentMark (place line column index ('|' :: text)) d = false :=
    not_atDocumentMark (by rw [column_place]; omega)
  unfold Scanner.readToken
  simp only [Scanner.between_rest, hmark, ahead_place, List.getD_cons_zero]
  simp [Scanner.inFlow]

/-! Texts in quotes and texts as lines, as the writer writes them. -/

theorem readToken_singleQuoted (hcolumn : 0 < column) (hn : n ≠ 0) (hshown : ∀ c ∈ text, IsShown c)
    (hbreakSpace : anyWithNeighbours isBreakSpace none text = false)
    (hspaceBreak : anyWithNeighbours isSpaceBreak none text = false) :
    ∃ line' column' index', (Scanner.between ts indent outer false
        (place line column index (writeSingleQuoted n text ++ '\n' :: tail))).readToken =
      .ok (Scanner.between (ts ++ [.scalar (String.ofList text) .singleQuoted]) indent outer false
        (place line' column' index' ('\n' :: tail))) := by
  obtain ⟨line', column', index', hscan⟩ := (@scanQuoted_single n text ('\n' :: tail) hn
    (by simp) hshown none hbreakSpace hspaceBreak).1 [] [] line (column + 1) (index + 1) (by omega)
    (fun hne => absurd rfl hne)
  refine ⟨line', column', index', ?_⟩
  have htext : writeSingleQuoted n text ++ '\n' :: tail =
      quoteOf false :: (singleQuotedBody n false text ++ '\'' :: '\n' :: tail) := by
    simp [writeSingleQuoted, quoteOf]
  rw [htext, readToken_quote hcolumn]
  apply Scanner.readNode_between
  rw [scanQuote, drop_place rfl]
  exact congrArg _ hscan

theorem readToken_doubleQuoted (hcolumn : 0 < column) :
    ∃ line' column' index', (Scanner.between ts indent outer false
        (place line column index (writeDoubleQuoted text ++ '\n' :: tail))).readToken =
      .ok (Scanner.between (ts ++ [.scalar (String.ofList text) .doubleQuoted]) indent outer false
        (place line' column' index' ('\n' :: tail))) := by
  obtain ⟨column', index', hscan⟩ := @scanQuoted_escaped line (column + 1) (index + 1) text
    ('\n' :: tail) [] [] (by omega)
  refine ⟨line, column', index', ?_⟩
  have htext : writeDoubleQuoted text ++ '\n' :: tail =
      quoteOf true :: (text.flatMap escaped ++ '"' :: '\n' :: tail) := by
    simp [writeDoubleQuoted, quoteOf]
  rw [htext, readToken_quote hcolumn]
  apply Scanner.readNode_between
  rw [scanQuote, drop_place rfl]
  exact congrArg _ hscan

theorem readToken_literal (hcolumn : 0 < column) (hne : text ≠ [])
    (hprintable : ∀ c ∈ text, isPrintable c = true) (hm : m ≤ n) (htail : beginsToken tail = true) :
    ∃ line' index', (Scanner.between ts n outer false
        (place line column index (writeLiteral (n + 2) text ++
          (endOf text ++ (margin m ++ tail))))).readToken =
      .ok (Scanner.between (ts ++ [.scalar (String.ofList text) .literal]) n outer true
        (place line' m index' tail)) := by
  have htab : ∀ c ∈ text, c ≠ '\t' := by
    rintro c hc rfl
    cases hprintable _ hc
  obtain ⟨line', index', hscan⟩ := @scanBlock_literal line (column + 1) (index + 1) n m text tail hne
    (fun c hc => isEnd_of_printable (hprintable c hc))
    (fun c hc => isBreak_of_printable (hprintable c hc)) htab (by omega) htail
  refine ⟨line', index', ?_⟩
  have htext : writeLiteral (n + 2) text ++ (endOf text ++ (margin m ++ tail)) =
      '|' :: (literalHints text ++ '\n' :: (literalBody (n + 2) true text ++
        (endOf text ++ (margin m ++ tail)))) := by
    simp [writeLiteral]
  rw [htext, readToken_bar hcolumn]
  apply Scanner.readBlock_between
  rw [drop_place rfl]
  exact hscan

end Tokens

/-! ### From the colon to the next line

One lemma for each way of writing a text. -/

section Values

variable {s : Scanner} {ts : List Token} {outer : List Int} {n m line column index : Nat}
  {text tail : List Char}

theorem isEnd_of_beginsToken (h : beginsToken text = true) (hne : text ≠ []) :
    isEnd (Source.ahead (place line column index text) 0) = false := by
  rw [ahead_place]
  cases text with
  | nil => exact absurd rfl hne
  | cons c text =>
    simp only [beginsToken, Bool.not_eq_true', Bool.or_eq_false_iff] at h
    exact h.1.1.1.1.2

/-- A value on the line of its colon is one token. -/
theorem Scanner.run_of_value {after : List Char} {token : Token} {keyAllowed : Bool}
    {line' column' index' : Nat}
    (hrun : s.run = (Scanner.between ts n outer false (place line column index (' ' :: text))).run)
    (hcolumn : n ≤ column) (hbegin : beginsToken text = true) (hne : text ≠ [])
    (hread : (Scanner.between ts n outer false (place line (column + 1) (index + 1) text)).readToken =
      .ok (Scanner.between (ts ++ [token]) n outer keyAllowed (place line' column' index' after)))
    (hlength : after.length < text.length) :
    s.run = (Scanner.between (ts ++ [token]) n outer keyAllowed
      (place line' column' index' after)).run := by
  have hskip : skipToToken false false false (place line column index (' ' :: text)) =
      (false, place line (column + 1) (index + 1) text) := (skip_margin 1).trans (skip_token hbegin)
  have hsettled := @Scanner.settled_between ts n outer false _ _ _ hskip
  have hin : (n : Int) ≤ (column + 1 : Nat) := by omega
  rw [column_place, Scanner.closeBlocks_stay rfl hin] at hsettled
  rw [hrun]
  refine Scanner.run_of_readToken hsettled (isEnd_of_beginsToken hbegin hne) hread ?_
  rw [Scanner.between_rest, Scanner.between_rest, length_place, length_place]
  omega

theorem IsPlain.beginsToken (h : IsPlain text) : beginsToken (text ++ tail) = true := by
  cases text with
  | nil => exact absurd rfl h.ne_nil
  | cons c text =>
    have hover := h.isLineOver List.mem_cons_self
    have hprintable := h.printable c List.mem_cons_self
    have hgap := h.isGap_first
    have hindicator := h.indicator
    simp only [anyWithNeighbours, isBlockIndicatorAt, isLeadingIndicator, Bool.or_eq_false_iff]
      at hindicator
    have hmark : (c == byteOrderMark) = false := ne_of_printable hprintable (by rfl)
    simp only [Yaml.isLineOver, Yaml.isGap, Bool.or_eq_false_iff] at hover hgap
    simp [Yaml.beginsToken, hover, hgap, hmark, hindicator]

/-- Behind a plain text the reader comes to the next line. -/
theorem IsPlain.reaches (h : IsPlain text) (hcolumn : n ≤ column) (hm : m ≤ n)
    (htail : Yaml.beginsToken tail = true)
    (hrun : s.run = (Scanner.between ts n outer false (place line column index
      (' ' :: (text ++ '\n' :: (margin m ++ tail))))).run) :
    s.Reaches (ts ++ [.scalar (String.ofList text) .plain]) n outer m tail := by
  obtain ⟨index', hread⟩ := @readToken_plain ts outer n m line (column + 1) (index + 1) text tail h
    (by omega) hm htail
  have hvalue := Scanner.run_of_value hrun hcolumn h.beginsToken (by simp) hread
    (by simp only [List.length_append, List.length_cons]; omega)
  exact Scanner.reaches_of_run hvalue (skip_token htail)

/-- Where a line ends the reader comes to the next one. -/
theorem Scanner.reaches_next_line {column' : Nat} (htail : beginsToken tail = true)
    (hrun : s.run = (Scanner.between ts n outer false
      (place line column' index ('\n' :: (margin m ++ tail)))).run) :
    s.Reaches ts n outer m tail := by
  have hskip : skipToToken false false false
      (place line column' index ('\n' :: (margin m ++ tail))) =
      (true, place (line + 1) (0 + m) (index + 1 + m) tail) := by
    rw [skip_line, skip_margin, skip_token htail]
  rw [Nat.zero_add] at hskip
  exact Scanner.reaches_of_run hrun hskip

theorem endOf_quoted {quote : Char} (hquote : isWrittenBreak quote = false) (text : List Char) :
    endOf (quote :: (text ++ [quote])) = ['\n'] := by
  apply endOf_of_last
  intro c hc
  rw [← List.cons_append, List.getLast?_concat] at hc
  cases hc
  exact hquote

/-- A text that is the value of a field is one token, and its quotation tells how it is read. -/
theorem reaches_of_text {t : String} (hcolumn : n ≤ column) (hm : m ≤ n)
    (htail : beginsToken tail = true)
    (hrun : s.run = (Scanner.between ts n outer false (place line column index
      ((Block.text t).writeValue n ++ (margin m ++ tail)))).run) :
    s.Reaches (ts ++ [.scalar t (styleOf t)]) n outer m tail := by
  rw [Block.writeValue, endLine_eq, List.cons_append, List.append_assoc, writeText] at hrun
  cases hstyle : styleOf t with
  | plain =>
    have hplain := isPlain_of_plain hstyle
    have hlast : endOf t.toList = ['\n'] :=
      endOf_of_last (fun c hc => hplain.line c (List.mem_of_mem_getLast? hc))
    rw [hstyle] at hrun
    simp only [hlast] at hrun
    have hreaches := hplain.reaches hcolumn hm htail hrun
    rwa [String.ofList_toList] at hreaches
  | singleQuoted =>
    obtain ⟨hshown, hbreakSpace, hspaceBreak⟩ := isShown_of_singleQuoted hstyle
    have hlast : endOf (writeSingleQuoted (n + 2) t.toList) = ['\n'] := endOf_quoted rfl _
    rw [hstyle] at hrun
    simp only [hlast] at hrun
    obtain ⟨line', column', index', hread⟩ := @readToken_singleQuoted ts n outer (n + 2) line
      (column + 1) (index + 1) t.toList (margin m ++ tail) (by omega) (by omega) hshown hbreakSpace
      hspaceBreak
    have hvalue := Scanner.run_of_value hrun hcolumn rfl (by simp) hread
      (by simp only [List.length_append, List.length_cons, writeSingleQuoted]; omega)
    rw [String.ofList_toList] at hvalue
    exact Scanner.reaches_next_line htail hvalue
  | doubleQuoted =>
    have hlast : endOf (writeDoubleQuoted t.toList) = ['\n'] := endOf_quoted rfl _
    rw [hstyle] at hrun
    simp only [hlast] at hrun
    obtain ⟨line', column', index', hread⟩ := @readToken_doubleQuoted ts n outer line
      (column + 1) (index + 1) t.toList (margin m ++ tail) (by omega)
    have hvalue := Scanner.run_of_value hrun hcolumn rfl (by simp) hread
      (by simp only [List.length_append, List.length_cons, writeDoubleQuoted]; omega)
    rw [String.ofList_toList] at hvalue
    exact Scanner.reaches_next_line htail hvalue
  | literal =>
    obtain ⟨hne, hprintable⟩ := printable_of_literal hstyle
    rw [hstyle] at hrun
    simp only [endOf_writeLiteral hne] at hrun
    obtain ⟨line', index', hread⟩ := @readToken_literal ts outer n m line (column + 1) (index + 1)
      t.toList tail (by omega) hne hprintable hm htail
    have hvalue := Scanner.run_of_value hrun hcolumn rfl (by simp [writeLiteral]) hread
      (by simp only [List.length_append, List.length_cons, writeLiteral]; omega)
    rw [String.ofList_toList] at hvalue
    exact Scanner.reaches_of_run hvalue (skip_token htail)
  | folded => exact absurd hstyle styleOf_ne_folded

def flagText (b : Bool) : String := if b then "true" else "false"

theorem isPlain_flagText (b : Bool) : IsPlain (flagText b).toList := by
  have hname : IsName (flagText b).toList := by cases b <;> exact ⟨by decide, by decide⟩
  exact hname.isPlain

theorem reaches_of_flag {b : Bool} (hcolumn : n ≤ column) (hm : m ≤ n)
    (htail : beginsToken tail = true)
    (hrun : s.run = (Scanner.between ts n outer false (place line column index
      ((Block.flag b).writeValue n ++ (margin m ++ tail)))).run) :
    s.Reaches (ts ++ [.scalar (flagText b) .plain]) n outer m tail := by
  have htext : (Block.flag b).writeValue n ++ (margin m ++ tail) =
      ' ' :: ((flagText b).toList ++ '\n' :: (margin m ++ tail)) := by
    cases b <;> rfl
  rw [htext] at hrun
  have hreaches := (isPlain_flagText b).reaches hcolumn hm htail hrun
  rwa [String.ofList_toList] at hreaches

end Values

end SandboxClient.Yaml
