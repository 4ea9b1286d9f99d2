/-
  SandboxClient/Proofs/Yaml/Reaching.lean
  =======================================
  **The reader between two tokens.** A step of the reader skips what stands between
  tokens, closes the collections that are over, and reads one token. A reader
  *reaches* a text when some steps bring it there; what it gives in the end is then
  decided by the tokens so far, the open collections and that text.
-/
import SandboxClient.Proofs.Yaml.Placed
import SandboxClient.Yaml.Tokens

namespace SandboxClient.Yaml

/-! ### Steps -/

/-- The reader in front of a token, with the collections closed that the token is not in. -/
def Scanner.settled (s : Scanner) : Except Fault Scanner := do
  let (keyAllowed, rest) := skipToToken s.inFlow s.keyAllowed false s.rest
  let s ← { s with keyAllowed := keyAllowed, rest := rest }.dropStale
  return s.closeBlocks s.column

theorem Scanner.step_of_settled {s s' : Scanner} (h : s.settled = .ok s') :
    s.step = (if isEnd (s'.rest.ahead 0) then s'.breakOff.map (·, true)
      else s'.readToken.map (·, false)) := by
  unfold Scanner.settled at h
  unfold Scanner.step
  rcases hskip : skipToToken s.inFlow s.keyAllowed false s.rest with ⟨keyAllowed, rest⟩
  simp only [hskip] at h ⊢
  cases hstale : Scanner.dropStale { s with keyAllowed := keyAllowed, rest := rest } with
  | error fault =>
    rw [hstale] at h
    cases h
  | ok s₁ =>
    rw [hstale] at h
    cases h
    rfl

theorem Scanner.closeBlocks_go_rest (s : Scanner) (column indent : Int) (tokens : Array Token)
    (outer : List Int) : (Scanner.closeBlocks.go s column indent tokens outer).rest = s.rest := by
  induction outer generalizing indent tokens with
  | nil => rfl
  | cons o outer ih =>
    unfold Scanner.closeBlocks.go
    split
    · exact ih _ _
    · rfl

theorem Scanner.closeBlocks_rest (s : Scanner) (column : Int) :
    (s.closeBlocks column).rest = s.rest := by
  unfold Scanner.closeBlocks
  split
  · rfl
  · exact s.closeBlocks_go_rest _ _ _ _

theorem length_skipToToken (inFlow keyAllowed inComment : Bool) (s : Source) :
    (skipToToken inFlow keyAllowed inComment s).2.length ≤ s.length := by
  induction s generalizing keyAllowed inComment with
  | nil => exact Nat.le_refl _
  | cons cell rest ih =>
    have hrest : ∀ k i, (skipToToken inFlow k i rest).2.length ≤ (cell :: rest).length := by
      intro k i
      have h := ih k i
      rw [List.length_cons]
      omega
    unfold skipToToken
    dsimp only
    repeat' split
    all_goals first | exact hrest _ _ | exact Nat.le_refl _

theorem Scanner.length_of_settled {s s' : Scanner} (h : s.settled = .ok s') :
    s'.rest.length ≤ s.rest.length := by
  have hskip := length_skipToToken s.inFlow s.keyAllowed false s.rest
  unfold Scanner.settled at h
  rcases hs : skipToToken s.inFlow s.keyAllowed false s.rest with ⟨keyAllowed, rest⟩
  rw [hs] at hskip
  simp only [hs] at h
  cases hstale : Scanner.dropStale { s with keyAllowed := keyAllowed, rest := rest } with
  | error fault =>
    rw [hstale] at h
    cases h
  | ok s₁ =>
    rw [hstale] at h
    cases h
    unfold Scanner.dropStale at hstale
    simp only at hstale
    split at hstale
    · cases hstale
    · cases hstale
      rw [Scanner.closeBlocks_rest]
      exact hskip

/-- Reading a token that takes something of the source leaves what the reader gives. -/
theorem Scanner.run_of_readToken {s s₁ s₂ : Scanner} (h : s.settled = .ok s₁)
    (hend : isEnd (s₁.rest.ahead 0) = false) (hread : s₁.readToken = .ok s₂)
    (hlength : s₂.rest.length < s₁.rest.length) : s.run = s₂.run := by
  have hstep : s.step = .ok (s₂, false) := by
    rw [Scanner.step_of_settled h, hend, hread]
    rfl
  have hlt : s₂.rest.length < s.rest.length := by
    have hle := Scanner.length_of_settled h
    omega
  rw [Scanner.run.eq_def s, hstep]
  simp only [Bool.false_eq_true, if_false]
  rw [dif_pos hlt]

/-! ### Where block collections are open -/

/-- The reader outside flow collections, with no key pending. -/
def Scanner.between (ts : List Token) (indent : Int) (outer : List Int) (keyAllowed : Bool)
    (rest : Source) : Scanner :=
  ⟨rest, ts.toArray, 0, indent, outer, keyAllowed, [none]⟩

section Between

variable {ts : List Token} {indent o column : Int} {outer : List Int} {keyAllowed : Bool}
  {rest : Source}

theorem Scanner.closeBlocks_stay {s : Scanner} (hflow : s.flow = 0) (h : s.indent ≤ column) :
    s.closeBlocks column = s := by
  obtain ⟨rest, tokens, flow, indent, outer, keyAllowed, keys⟩ := s
  obtain rfl : flow = 0 := hflow
  have hno : ¬ indent > column := by
    have hle : indent ≤ column := h
    omega
  cases outer with
  | nil => rfl
  | cons o outer => simp [Scanner.closeBlocks, Scanner.inFlow, Scanner.closeBlocks.go, hno]

/-- The loop is told what is open and does not ask the state for it. -/
theorem Scanner.closeBlocks_go_between {ts' : List Token} {indent' : Int} {outer' : List Int}
    (tokens : Array Token) (os : List Int) :
    Scanner.closeBlocks.go (Scanner.between ts indent outer keyAllowed rest) column o tokens os =
      Scanner.closeBlocks.go (Scanner.between ts' indent' outer' keyAllowed rest) column o tokens
        os := by
  induction os generalizing tokens o with
  | nil => rfl
  | cons p os ih =>
    unfold Scanner.closeBlocks.go
    split
    · exact ih _
    · rfl

theorem Scanner.closeBlocks_close (h : column < indent) :
    (Scanner.between ts indent (o :: outer) keyAllowed rest).closeBlocks column =
      (Scanner.between (ts ++ [.blockEnd]) o outer keyAllowed rest).closeBlocks column := by
  have hfirst : (Scanner.between ts indent (o :: outer) keyAllowed rest).closeBlocks column =
      Scanner.closeBlocks.go (Scanner.between ts indent (o :: outer) keyAllowed rest) column o
        (ts ++ [Token.blockEnd]).toArray outer := by
    have hyes : indent > column := h
    simp [Scanner.closeBlocks, Scanner.between, Scanner.inFlow, Scanner.closeBlocks.go, hyes]
  exact hfirst.trans (Scanner.closeBlocks_go_between _ _)

theorem Scanner.settled_between {rest' : Source} {keyAllowed' : Bool}
    (h : skipToToken false keyAllowed false rest = (keyAllowed', rest')) :
    (Scanner.between ts indent outer keyAllowed rest).settled =
      .ok ((Scanner.between ts indent outer keyAllowed' rest').closeBlocks
        rest'.here.column) := by
  unfold Scanner.settled Scanner.between Scanner.inFlow
  simp only [Nat.lt_irrefl, decide_false, h]
  rfl

end Between

/-! ### Reaching a text

The relation that the proofs about written blocks are put together with. -/

/-- With the tokens `ts` read and block collections open at `indent` and around it, the reader comes
to a text at a column, where a key may start. -/
def Scanner.Reaches (s : Scanner) (ts : List Token) (indent : Int) (outer : List Int) (column : Nat)
    (text : List Char) : Prop :=
  ∃ (s' : Scanner) (line index : Nat), s.run = s'.run ∧
    s'.settled = .ok ((Scanner.between ts indent outer true
      (place line column index text)).closeBlocks column)

section Reaches

variable {s : Scanner} {ts : List Token} {indent o : Int} {outer : List Int} {column : Nat}
  {text : List Char}

/-- A collection that the text is not in is closed. -/
theorem Scanner.Reaches.close (h : s.Reaches ts indent (o :: outer) column text)
    (hcolumn : (column : Int) < indent) : s.Reaches (ts ++ [.blockEnd]) o outer column text := by
  obtain ⟨s', line, index, hrun, hsettled⟩ := h
  rw [Scanner.closeBlocks_close hcolumn] at hsettled
  exact ⟨s', line, index, hrun, hsettled⟩

theorem Scanner.Reaches.settled (h : s.Reaches ts indent outer column text)
    (hcolumn : indent ≤ column) : ∃ (s' : Scanner) (line index : Nat), s.run = s'.run ∧
      s'.settled = .ok (Scanner.between ts indent outer true (place line column index text)) := by
  obtain ⟨s', line, index, hrun, hsettled⟩ := h
  rw [Scanner.closeBlocks_stay rfl hcolumn] at hsettled
  exact ⟨s', line, index, hrun, hsettled⟩

theorem Scanner.reaches_of_run {keyAllowed : Bool} {rest : Source} {line index : Nat}
    (hrun : s.run = (Scanner.between ts indent outer keyAllowed rest).run)
    (hskip : skipToToken false keyAllowed false rest = (true, place line column index text)) :
    s.Reaches ts indent outer column text := by
  refine ⟨_, line, index, hrun, ?_⟩
  rw [Scanner.settled_between hskip, column_place]

/-- At the end of the text all is closed. -/
theorem Scanner.Reaches.run_end (h : s.Reaches ts 0 [-1] 0 []) :
    s.run = .ok (ts ++ [.blockEnd]) := by
  obtain ⟨s', line, index, hrun, hsettled⟩ := h.settled (Int.le_refl 0)
  have hstep : s'.step = .ok (Scanner.between (ts ++ [.blockEnd]) (-1) [] false
      (place line 0 index []), true) := by
    rw [Scanner.step_of_settled hsettled]
    have hclose : (Scanner.between ts 0 [-1] true (place line 0 index [])).closeBlocks (-1) =
        Scanner.between (ts ++ [.blockEnd]) (-1) [] true (place line 0 index []) := by
      rw [Scanner.closeBlocks_close (by decide)]
      exact Scanner.closeBlocks_stay rfl (Int.le_refl _)
    unfold Scanner.breakOff
    rw [hclose]
    rfl
  rw [hrun, Scanner.run.eq_def, hstep]
  rfl

end Reaches

end SandboxClient.Yaml
