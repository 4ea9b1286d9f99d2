/-
  SandboxClient/Proofs/Yaml/LiteralTexts.lean
  ===========================================
  **Texts as literal lines.** A text with line feeds is written line by line behind
  a margin. The reader finds the margin, by the hint or at the first line, and
  keeps as many line ends at the end as the chomping says.
-/
import SandboxClient.Proofs.Yaml.Placed

namespace SandboxClient.Yaml

/-! ### Lines

The reader is followed line by line, the last line apart, behind which its end is only kept in mind.
-/

section Lines

variable {chomping : Chomping} {parent : Int} {line column index w widest : Nat}
  {done more tail : List Char} {lineEnd : Option Char} {indented : Bool}

theorem joined_literal (b : BlockState) (c : Char) :
    b.joined false c = b.more ++ (b.lineEnd.toList ++ b.done) := by
  unfold BlockState.joined
  rcases b with ⟨indent, done, lineEnd, more, indented⟩
  split
  · rename_i h
    simp only at h
    simp [h]
  · rename_i e _ h
    simp only at h
    simp [h]
  · rename_i h
    simp only at h
    simp [h]

/-- The spaces of a margin are left out. -/
theorem scanBlockLines_margin (b : BlockState) (n : Nat)
    (h : b.indent = 0 ∨ column + n ≤ b.indent) :
    scanBlockLines false chomping parent (.margin widest) b
        (place line column index (margin n ++ tail)) =
      scanBlockLines false chomping parent (.margin widest) b
        (place line (column + n) (index + n) tail) := by
  induction n generalizing column index with
  | zero => rfl
  | succ n ih =>
    have hnext := @ih (column + 1) (index + 1) (by omega)
    have hin : (b.indent == 0 || decide (column < b.indent)) = true := by
      rw [Bool.or_eq_true, beq_iff_eq, decide_eq_true_eq]
      omega
    rw [margin] at hnext
    rw [margin, List.replicate_succ, List.cons_append, place_cons rfl, scanBlockLines.eq_def,
      Nat.add_comm n 1, ← Nat.add_assoc, ← Nat.add_assoc]
    simp [hin, hnext]

/-- The first character of a line, behind the margin. -/
theorem scanBlockLines_first {b : BlockState} {c : Char} (hbreak : isBreak c = false)
    (hend : isEnd c = false) (hw : w ≠ 0)
    (h : b.indent = w ∨
      b.indent = 0 ∧ c ≠ ' ' ∧ c ≠ '\t' ∧ widest ≤ w ∧ (parent + 1).toNat ≤ w) :
    scanBlockLines false chomping parent (.margin widest) b
        (place line w index (c :: tail)) =
      scanBlockLines false chomping parent .line
        ⟨w, c :: (b.more ++ (b.lineEnd.toList ++ b.done)), none, [], isGap c⟩
        (place line (w + 1) (index + 1) tail) := by
  rw [place_cons hbreak, scanBlockLines.eq_def, ← joined_literal b c]
  rcases h with h | ⟨h, hspace, htab, hwidest, hparent⟩
  · simp [h, hw, hbreak, hend]
  · have hindent : max (max widest w) (max (parent + 1).toNat 1) = w := by omega
    simp [h, hspace, htab, hbreak, hend, hindent]

/-- Lines are read to the end of the last one that has characters. -/
theorem scanBlockLines_body {body : List Char} (hw : w ≠ 0)
    (hend : ∀ c ∈ body, isEnd c = false)
    (hbreak : ∀ c ∈ body, isBreak c = isWrittenBreak c)
    (hlast : ∀ c ∈ body.getLast?, isBreak c = false) :
    (∀ done indented line column index,
      ∃ indented' line' column' index', scanBlockLines false chomping parent .line
          ⟨w, done, none, [], indented⟩
          (place line column index (literalBody w false body ++ tail)) =
        scanBlockLines false chomping parent .line ⟨w, body.reverse ++ done, none, [], indented'⟩
          (place line' column' index' tail)) ∧
    (body ≠ [] → ∀ widest done lineEnd more indented line index,
      ∃ indented' line' column' index', scanBlockLines false chomping parent (.margin widest)
          ⟨w, done, lineEnd, more, indented⟩
          (place line 0 index (literalBody w true body ++ tail)) =
        scanBlockLines false chomping parent .line
          ⟨w, body.reverse ++ (more ++ (lineEnd.toList ++ done)), none, [], indented'⟩
          (place line' column' index' tail)) := by
  -- both at once: the end of a line leads to a margin, and its first character back to a line
  induction body with
  | nil =>
    exact ⟨fun done indented line column index => ⟨_, _, _, _, rfl⟩, fun hne => absurd rfl hne⟩
  | cons c body ih =>
    have hc := hbreak c List.mem_cons_self
    have hce := hend c List.mem_cons_self
    have hlast' : ∀ d ∈ body.getLast?, isBreak d = false := by
      intro d hd
      apply hlast d
      cases body with
      | nil => cases hd
      | cons b body => rwa [List.getLast?_cons_cons]
    obtain ⟨ihline, ihmargin⟩ := ih (fun d hd => hend d (List.mem_cons_of_mem c hd))
      (fun d hd => hbreak d (List.mem_cons_of_mem c hd)) hlast'
    have hmore : isBreak c = true → body ≠ [] := by
      rintro hcb rfl
      rw [hlast c rfl] at hcb
      cases hcb
    constructor
    · intro done indented line column index
      cases hcb : isBreak c with
      | true =>
        obtain ⟨indented', line', column', index', hrest⟩ := ihmargin (hmore hcb) 0 done (some c) []
          indented (line + 1) (index + 1)
        refine ⟨indented', line', column', index', ?_⟩
        rw [literalBody, if_pos (hc.symm.trans hcb), List.cons_append, place_break hcb,
          scanBlockLines.eq_def]
        simp [hcb, hrest]
      | false =>
        obtain ⟨indented', line', column', index', hrest⟩ := ihline (c :: done) indented line
          (column + 1) (index + 1)
        refine ⟨indented', line', column', index', ?_⟩
        rw [literalBody, if_neg (by rw [← hc, hcb]; exact Bool.false_ne_true),
          if_neg Bool.false_ne_true, List.nil_append, List.cons_append, place_cons hcb,
          scanBlockLines.eq_def]
        simp [hcb, hce, hrest]
    · intro _ widest done lineEnd more indented line index
      cases hcb : isBreak c with
      | true =>
        obtain ⟨indented', line', column', index', hrest⟩ := ihmargin (hmore hcb) (max widest 0) done
          lineEnd (c :: more) indented (line + 1) (index + 1)
        refine ⟨indented', line', column', index', ?_⟩
        have hspace : c ≠ ' ' := by
          rintro rfl
          cases hcb
        have htab : c ≠ '\t' := by
          rintro rfl
          cases hcb
        rw [literalBody, if_pos (hc.symm.trans hcb), List.cons_append, place_break hcb,
          scanBlockLines.eq_def]
        simp at hrest
        simp [hcb, hspace, htab, hrest]
      | false =>
        obtain ⟨indented', line', column', index', hrest⟩ := ihline
          (c :: (more ++ (lineEnd.toList ++ done))) (isGap c) line (w + 1) (index + w + 1)
        refine ⟨indented', line', column', index', ?_⟩
        rw [literalBody, if_neg (by rw [← hc, hcb]; exact Bool.false_ne_true), if_pos rfl,
          List.append_assoc, scanBlockLines_margin _ w (Or.inr (by simp)), Nat.zero_add,
          List.cons_append, scanBlockLines_first hcb hce hw (Or.inl rfl), hrest]
        simp

/-- Behind the last line its end is kept in mind, and that of the empty lines after it. -/
theorem scanBlockLines_ends {ends : List Char} {b : BlockState} {m : Nat} (hindent : b.indent ≠ 0)
    (hends : ∀ c ∈ ends, isBreak c = true) (hm : m < b.indent) (htail : beginsToken tail = true) :
    ∃ line' index', scanBlockLines false chomping parent (.margin widest) b
        (place line 0 index (ends ++ (margin m ++ tail))) =
      .ok (BlockState.finish chomping { b with more := ends.reverse ++ b.more },
        place line' m index' tail) := by
  induction ends generalizing b widest line index with
  | nil =>
    refine ⟨line, index + m, ?_⟩
    rw [List.nil_append, scanBlockLines_margin b m (Or.inr (by omega)), Nat.zero_add]
    cases tail with
    | nil =>
      rw [place, scanBlockLines.eq_def]
      simp [hindent, isBreak, isEnd]
    | cons c tail =>
      simp only [beginsToken, Bool.not_eq_true', Bool.or_eq_false_iff, beq_eq_false_iff_ne] at htail
      obtain ⟨⟨⟨⟨⟨hbreak, -⟩, -⟩, hspace⟩, htab⟩, -⟩ := htail
      have hne : m ≠ b.indent := by omega
      rw [place_cons hbreak, scanBlockLines.eq_def]
      simp [hindent, hbreak, hspace, htab, hne]
  | cons c ends ih =>
    have hc := hends c List.mem_cons_self
    obtain ⟨line', index', hrest⟩ := @ih (line + 1) (index + 1) (max widest 0)
      { b with more := c :: b.more } hindent (fun d hd => hends d (List.mem_cons_of_mem c hd)) hm
    refine ⟨line', index', ?_⟩
    have hspace : c ≠ ' ' := by
      rintro rfl
      cases hc
    have htab : c ≠ '\t' := by
      rintro rfl
      cases hc
    rw [List.cons_append, place_break hc, scanBlockLines.eq_def]
    simp at hrest
    simp [hc, hspace, htab, hrest]

/-- The last line, its end, and the empty lines after it. -/
theorem scanBlockLines_last {e : Char} {es : List Char} {m : Nat} (hw : w ≠ 0)
    (he : isBreak e = true) (hes : ∀ c ∈ es, isBreak c = true) (hm : m < w)
    (htail : beginsToken tail = true) :
    ∃ line' index', scanBlockLines false chomping parent .line ⟨w, done, none, [], indented⟩
        (place line column index (e :: (es ++ (margin m ++ tail)))) =
      .ok (BlockState.finish chomping ⟨w, done, some e, es.reverse, indented⟩,
        place line' m index' tail) := by
  obtain ⟨line', index', hrest⟩ := @scanBlockLines_ends chomping parent (line + 1) (index + 1) 0
    tail es ⟨w, done, some e, [], indented⟩ m hw hes hm htail
  refine ⟨line', index', ?_⟩
  rw [List.append_nil] at hrest
  rw [place_break he, scanBlockLines.eq_def]
  simp [he, hrest]

/-- The lines of a text that begins with a character are read without a hint. -/
theorem scanBlockLines_unhinted {c : Char} {body : List Char}
    (hend : ∀ d ∈ c :: body, isEnd d = false)
    (hbreak : ∀ d ∈ c :: body, isBreak d = isWrittenBreak d)
    (hlast : ∀ d ∈ (c :: body).getLast?, isBreak d = false) (hc : isBreak c = false)
    (hspace : c ≠ ' ') (htab : c ≠ '\t') (hw : w ≠ 0) (hparent : (parent + 1).toNat ≤ w) :
    ∃ indented' line' column' index', scanBlockLines false chomping parent (.margin 0)
        ⟨0, [], none, [], indented⟩
        (place line 0 index (literalBody w true (c :: body) ++ tail)) =
      scanBlockLines false chomping parent .line ⟨w, (c :: body).reverse, none, [], indented'⟩
        (place line' column' index' tail) := by
  have hwritten : isWrittenBreak c = false := (hbreak c List.mem_cons_self).symm.trans hc
  have hlast' : ∀ d ∈ body.getLast?, isBreak d = false := by
    intro d hd
    apply hlast d
    cases body with
    | nil => cases hd
    | cons b body => rwa [List.getLast?_cons_cons]
  have hrest := @scanBlockLines_body chomping parent w tail body hw
    (fun d hd => hend d (List.mem_cons_of_mem c hd))
    (fun d hd => hbreak d (List.mem_cons_of_mem c hd)) hlast'
  obtain ⟨indented', line', column', index', hread⟩ := hrest.1 [c] (isGap c) line (w + 1)
    (index + w + 1)
  refine ⟨indented', line', column', index', ?_⟩
  rw [literalBody, if_neg (by rw [hwritten]; exact Bool.false_ne_true), if_pos rfl,
    List.append_assoc, scanBlockLines_margin _ w (Or.inl rfl), Nat.zero_add, List.cons_append,
    scanBlockLines_first hc (hend c List.mem_cons_self) hw
      (Or.inr ⟨rfl, hspace, htab, Nat.zero_le w, hparent⟩)]
  refine hread.trans ?_
  rw [List.reverse_cons]

end Lines

/-! ### Headers -/

section Header

variable {line column index : Nat} {tail : List Char}

/-- The chomping that the hints of a text ask for. -/
def chompOf (s : List Char) : Chomping :=
  match s.reverse with
  | [] => .strip
  | c :: r =>
    if !isWrittenBreak c then .strip
    else match r with
      | [] => .keep
      | d :: _ => if isWrittenBreak d then .keep else .clip

/-- The indentation that the hints of a text give. -/
def incrementOf (s : List Char) : Option Nat :=
  if s.head?.any (fun c => c == ' ' || isWrittenBreak c) then some 2 else none

/-- How a chomping is written. -/
def Chomping.mark : Chomping → List Char
  | .strip => ['-']
  | .clip => []
  | .keep => ['+']

theorem literalHints_eq (s : List Char) : literalHints s =
    (if (incrementOf s).isSome then ['2'] else []) ++ (chompOf s).mark := by
  have hchomp : (chompOf s).mark = (match s.reverse with
      | [] => ['-']
      | c :: r =>
        if !isWrittenBreak c then ['-']
        else match r with
          | [] => ['+']
          | d :: _ => if isWrittenBreak d then ['+'] else []) := by
    unfold chompOf
    split
    · rfl
    · split
      · rfl
      · split
        · rfl
        · split <;> rfl
  have hincrement : (if (incrementOf s).isSome then ['2'] else []) =
      (if s.head?.any (fun c => c == ' ' || isWrittenBreak c) then ['2'] else []) := by
    unfold incrementOf
    split <;> rfl
  rw [hchomp, hincrement]
  rfl

theorem scanBlockHeader_hints (s : List Char) :
    ∃ column' index', scanBlockHeader (place line column index (literalHints s ++ '\n' :: tail)) =
      .ok (⟨chompOf s, incrementOf s⟩, place line column' index' ('\n' :: tail)) := by
  have hincrement : incrementOf s = none ∨ incrementOf s = some 2 := by
    unfold incrementOf
    split
    · exact Or.inr rfl
    · exact Or.inl rfl
  rw [literalHints_eq]
  rcases hincrement with hi | hi <;> rw [hi] <;> cases chompOf s
  · exact ⟨column + 1, index + 1, rfl⟩
  · exact ⟨column, index, rfl⟩
  · exact ⟨column + 1, index + 1, rfl⟩
  · exact ⟨column + 2, index + 2, rfl⟩
  · exact ⟨column + 1, index + 1, rfl⟩
  · exact ⟨column + 2, index + 2, rfl⟩

/-- The indentation at which the lines of a text are looked for; zero where the first line tells. -/
def startOf (parent : Nat) (s : List Char) : Nat :=
  if s.head?.any (fun c => c == ' ' || isWrittenBreak c) then parent + 2 else 0

/-- Behind the hints of a text its lines begin. -/
theorem scanBlock_hints (parent : Nat) (s : List Char) :
    ∃ index', scanBlock false parent (place line column index (literalHints s ++ '\n' :: tail)) =
      scanBlockLines false (chompOf s) parent (.margin 0) ⟨startOf parent s, [], none, [], false⟩
        (place (line + 1) 0 index' tail) := by
  obtain ⟨column', index', hheader⟩ := @scanBlockHeader_hints line column index tail s
  refine ⟨index' + 1, ?_⟩
  have hfinish : finishLine (place line column' index' ('\n' :: tail)) =
      .ok (place (line + 1) 0 (index' + 1) tail) := rfl
  unfold scanBlock
  rw [hheader]
  simp only [bind, Except.bind, hfinish, incrementOf, startOf]
  cases s.head?.any (fun c => c == ' ' || isWrittenBreak c) with
  | false => rfl
  | true => simp

end Header

/-! ### The end of a text -/

/-- A text is lines with characters at its end, and line ends after them. -/
theorem exists_body_ends (s : List Char) : ∃ body ends, s = body ++ ends ∧
    (∀ c ∈ body.getLast?, isBreak c = false) ∧ ∀ c ∈ ends, isBreak c = true := by
  refine ⟨(s.reverse.dropWhile isBreak).reverse, (s.reverse.takeWhile isBreak).reverse, ?_, ?_, ?_⟩
  · rw [← List.reverse_append, List.takeWhile_append_dropWhile, List.reverse_reverse]
  · intro c hc
    rw [List.getLast?_reverse] at hc
    have hhead := List.head?_dropWhile_not isBreak s.reverse
    rw [Option.mem_def.mp hc] at hhead
    simpa using hhead
  · intro c hc
    exact List.all_eq_true.mp List.all_takeWhile c (List.mem_reverse.mp hc)

theorem literalBody_append {w : Nat} {body ends : List Char} {afterBreak : Bool}
    (hends : ∀ c ∈ ends, isWrittenBreak c = true) :
    literalBody w afterBreak (body ++ ends) = literalBody w afterBreak body ++ ends := by
  induction body generalizing afterBreak with
  | nil =>
    rw [List.nil_append, literalBody, List.nil_append]
    induction ends generalizing afterBreak with
    | nil => rfl
    | cons c ends ih =>
      rw [literalBody, if_pos (hends c List.mem_cons_self),
        ih (fun d hd => hends d (List.mem_cons_of_mem c hd))]
  | cons c body ih =>
    rw [List.cons_append, literalBody, literalBody]
    split
    · rw [ih, List.cons_append]
    · rw [ih, List.append_assoc, List.cons_append]

/-- What ends the last line when it is written. -/
def endOf (s : List Char) : List Char := if s.getLast?.any isWrittenBreak then [] else ['\n']

theorem endOf_append_breaks {body ends : List Char} (hne : ends ≠ [])
    (hends : ∀ c ∈ ends, isWrittenBreak c = true) : endOf (body ++ ends) = [] := by
  have hlast : (body ++ ends).getLast?.any isWrittenBreak = true := by
    rw [List.getLast?_append, List.getLast?_eq_some_getLast hne, Option.some_or,
      Option.any_some]
    exact hends _ (List.getLast_mem hne)
  rw [endOf, if_pos hlast]

/-- The chomping that so many line ends behind the last character ask for. -/
def chompOfEnds : List Char → Chomping
  | [] => .strip
  | [_] => .clip
  | _ => .keep

theorem chompOf_append {body ends : List Char} {d : Char} {r : List Char}
    (hbody : body.reverse = d :: r) (hd : isWrittenBreak d = false)
    (hends : ∀ c ∈ ends, isWrittenBreak c = true) :
    chompOf (body ++ ends) = chompOfEnds ends := by
  match ends with
  | [] => simp [chompOf, chompOfEnds, hbody, hd]
  | [e] => simp [chompOf, chompOfEnds, hbody, hd, hends e (by simp)]
  | e :: c :: es =>
    obtain ⟨front, last, hlast⟩ : ∃ front last, c :: es = front ++ [last] :=
      ⟨_, _, (List.dropLast_concat_getLast (List.cons_ne_nil c es)).symm⟩
    have hkeep : chompOfEnds (e :: c :: es) = .keep := rfl
    rw [hkeep, hlast]
    rw [hlast] at hends
    have hlastBreak : isWrittenBreak last = true := hends last (by simp)
    cases hfront : front.reverse with
    | nil =>
      have hebreak : isWrittenBreak e = true := hends e (by simp)
      simp [chompOf, hbody, hfront, hlastBreak, hebreak]
    | cons f fs =>
      have hmem : f ∈ front := by
        rw [← List.mem_reverse, hfront]
        exact List.mem_cons_self
      have hfbreak : isWrittenBreak f = true := hends f (by simp [hmem])
      simp [chompOf, hfront, hlastBreak, hfbreak]

theorem chompOf_breaks {ends : List Char} (hne : ends ≠ [])
    (hends : ∀ c ∈ ends, isWrittenBreak c = true) : chompOf ends = .keep := by
  have hmem : ∀ c ∈ ends.reverse, isWrittenBreak c = true :=
    fun c hc => hends c (List.mem_reverse.mp hc)
  unfold chompOf
  split
  · rename_i hnil
    exact absurd (List.reverse_eq_nil_iff.mp hnil) hne
  · rename_i c r hreverse
    rw [hreverse] at hmem
    rw [hmem c List.mem_cons_self]
    cases r with
    | nil => rfl
    | cons d r => simp [hmem d (by simp)]

/-- The text that is left of all lines and line ends is the one that was written. -/
theorem finish_literal {body ends es : List Char} {e : Char} {w : Nat} {indented : Bool}
    (hne : body ≠ []) (hlast : ∀ c ∈ body.getLast?, isWrittenBreak c = false)
    (hends : ∀ c ∈ ends, isWrittenBreak c = true) (h : ends ++ endOf (body ++ ends) = e :: es) :
    BlockState.finish (chompOf (body ++ ends)) ⟨w, body.reverse, some e, es.reverse, indented⟩ =
      String.ofList (body ++ ends) := by
  obtain ⟨d, r, hbody⟩ : ∃ d r, body.reverse = d :: r :=
    List.exists_cons_of_ne_nil (fun hnil => hne (List.reverse_eq_nil_iff.mp hnil))
  have hd : isWrittenBreak d = false := by
    apply hlast d
    rw [← List.head?_reverse, hbody]
    rfl
  rw [chompOf_append hbody hd hends]
  match ends with
  | [] => simp [chompOfEnds, BlockState.finish]
  | [c] =>
    rw [endOf_append_breaks (List.cons_ne_nil c []) hends, List.append_nil] at h
    cases h
    simp [chompOfEnds, BlockState.finish]
  | c :: c' :: cs =>
    rw [endOf_append_breaks (List.cons_ne_nil c _) hends, List.append_nil] at h
    cases h
    simp [chompOfEnds, BlockState.finish]

section Literal

variable {line column index parent m : Nat} {s body tail : List Char} {chomping : Chomping}

/-- The lines of a text are read, with a hint or without, to the end of the last one that has
characters. -/
theorem scanBlockLines_start (hne : body ≠ []) (hend : ∀ c ∈ body, isEnd c = false)
    (hbreak : ∀ c ∈ body, isBreak c = isWrittenBreak c) (htab : ∀ c ∈ body, c ≠ '\t')
    (hlast : ∀ c ∈ body.getLast?, isBreak c = false) (ends : List Char) :
    ∃ indented line' column' index', scanBlockLines false chomping parent (.margin 0)
        ⟨startOf parent (body ++ ends), [], none, [], false⟩
        (place line 0 index (literalBody (parent + 2) true body ++ tail)) =
      scanBlockLines false chomping parent .line ⟨parent + 2, body.reverse, none, [], indented⟩
        (place line' column' index' tail) := by
  obtain ⟨c, rest, rfl⟩ := List.exists_cons_of_ne_nil hne
  have hstart : startOf parent (c :: rest ++ ends) =
      if c == ' ' || isWrittenBreak c then parent + 2 else 0 := rfl
  rw [hstart]
  cases hfirst : c == ' ' || isWrittenBreak c with
  | true =>
    obtain ⟨indented, line', column', index', hread⟩ := (@scanBlockLines_body chomping parent
      (parent + 2) tail (c :: rest) (by omega) hend hbreak hlast).2 hne 0 [] none [] false line index
    refine ⟨indented, line', column', index', hread.trans ?_⟩
    simp
  | false =>
    rw [Bool.or_eq_false_iff, beq_eq_false_iff_ne] at hfirst
    exact @scanBlockLines_unhinted chomping parent line index (parent + 2) tail false c rest hend
      hbreak hlast ((hbreak c List.mem_cons_self).trans hfirst.2) hfirst.1
      (htab c List.mem_cons_self) (by omega) (by omega)

/-- The ends of the lines behind the last one that has characters, the written one included. -/
theorem exists_cons_ends {ends : List Char} (hlast : ∀ c ∈ body.getLast?, isWrittenBreak c = false)
    (hends : ∀ c ∈ ends, isBreak c = true) (hwritten : ∀ c ∈ ends, isWrittenBreak c = true) :
    ∃ e es, ends ++ endOf (body ++ ends) = e :: es ∧ ∀ c ∈ e :: es, isBreak c = true := by
  cases ends with
  | nil =>
    have hno : body.getLast?.any isWrittenBreak = false := by
      cases hb : body.getLast? with
      | none => rfl
      | some c => exact hlast c hb
    refine ⟨'\n', [], ?_, by simp [isBreak]⟩
    simp [endOf, hno]
  | cons e es =>
    refine ⟨e, es, ?_, hends⟩
    rw [endOf_append_breaks (List.cons_ne_nil e es) hwritten, List.append_nil]

/-- A text as literal lines is read back, whatever line comes after it that is not indented as
much. -/
theorem scanBlock_literal (hne : s ≠ []) (hend : ∀ c ∈ s, isEnd c = false)
    (hbreak : ∀ c ∈ s, isBreak c = isWrittenBreak c) (htab : ∀ c ∈ s, c ≠ '\t')
    (hm : m < parent + 2) (htail : beginsToken tail = true) :
    ∃ line' index', scanBlock false parent (place line column index (literalHints s ++
        '\n' :: (literalBody (parent + 2) true s ++ (endOf s ++ (margin m ++ tail))))) =
      .ok (String.ofList s, place line' m index' tail) := by
  obtain ⟨body, ends, rfl, hlast, hends⟩ := exists_body_ends s
  have hwritten : ∀ c ∈ ends, isWrittenBreak c = true := by
    intro c hc
    rw [← hbreak c (List.mem_append_right body hc)]
    exact hends c hc
  obtain ⟨index₁, hhints⟩ := @scanBlock_hints line column index
    (literalBody (parent + 2) true (body ++ ends) ++ (endOf (body ++ ends) ++ (margin m ++ tail)))
    parent (body ++ ends)
  rw [hhints, literalBody_append hwritten, List.append_assoc]
  by_cases hbody : body = []
  · -- nothing but line ends
    subst hbody
    obtain ⟨e, es, rfl⟩ := List.exists_cons_of_ne_nil (by simpa using hne)
    have hstart : startOf parent ([] ++ e :: es) = parent + 2 := by
      simp [startOf, hwritten e List.mem_cons_self]
    rw [endOf_append_breaks (List.cons_ne_nil e es) hwritten, hstart]
    obtain ⟨line', index', hread⟩ := @scanBlockLines_ends (chompOf ([] ++ e :: es)) parent (line + 1)
      index₁ 0 tail (e :: es) ⟨parent + 2, [], none, [], false⟩ m (by simp) hends hm htail
    refine ⟨line', index', hread.trans ?_⟩
    rw [List.nil_append, chompOf_breaks (List.cons_ne_nil e es) hwritten]
    simp [BlockState.finish]
  · have hlast' : ∀ c ∈ body.getLast?, isWrittenBreak c = false := by
      intro c hc
      rw [← hbreak c (List.mem_append_left _ (List.mem_of_mem_getLast? hc))]
      exact hlast c hc
    obtain ⟨e, es, hes, hesBreak⟩ := exists_cons_ends hlast' hends hwritten
    have htext : ends ++ (endOf (body ++ ends) ++ (margin m ++ tail)) =
        e :: (es ++ (margin m ++ tail)) := by
      rw [← List.append_assoc, hes, List.cons_append]
    obtain ⟨indented, line₂, column₂, index₂, hread⟩ := @scanBlockLines_start (line + 1) index₁ parent
      body (e :: (es ++ (margin m ++ tail))) (chompOf (body ++ ends)) hbody
      (fun c hc => hend c (List.mem_append_left _ hc))
      (fun c hc => hbreak c (List.mem_append_left _ hc))
      (fun c hc => htab c (List.mem_append_left _ hc)) hlast ends
    obtain ⟨line', index', hfinish⟩ := @scanBlockLines_last (chompOf (body ++ ends)) parent line₂
      column₂ index₂ (parent + 2) body.reverse tail indented e es m (by omega)
      (hesBreak e List.mem_cons_self) (fun c hc => hesBreak c (List.mem_cons_of_mem e hc)) hm htail
    refine ⟨line', index', ?_⟩
    rw [htext, hread, hfinish, finish_literal hbody hlast' hwritten hes]

end Literal

end SandboxClient.Yaml
