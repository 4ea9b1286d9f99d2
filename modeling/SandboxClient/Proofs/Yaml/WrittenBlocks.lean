/-
  SandboxClient/Proofs/Yaml/WrittenBlocks.lean
  ============================================
  **The tokens of a written block.** A mapping is opened in front of its first key,
  a list behind a colon is not indented and has no tokens of its own around it.
-/
import SandboxClient.Proofs.Yaml.WrittenLeaves

namespace SandboxClient.Yaml

/-! ### Keys -/

theorem insertIdx_length_append (ts xs : List Token) (t : Token) :
    (ts ++ xs).toArray.insertIdxIfInBounds ts.length t = (ts ++ t :: xs).toArray := by
  have hlist : ∀ ts : List Token, (ts ++ xs).insertIdx ts.length t = ts ++ t :: xs := by
    intro ts
    induction ts with
    | nil => cases xs <;> rfl
    | cons u ts ih => simpa using ih
  unfold Array.insertIdxIfInBounds
  rw [dif_pos (by simp), List.insertIdx_toArray, hlist]

/-- The token in front of the first key of a mapping at a column. -/
def openingOf (indent : Int) (column : Nat) : List Token :=
  if indent < column then [.blockMappingStart] else []

/-- The indentations around a mapping at a column. -/
def aroundOf (indent : Int) (column : Nat) (outer : List Int) : List Int :=
  if indent < column then indent :: outer else outer

/-- The reader behind a text that may turn out to be a key. -/
def Scanner.pending (ts : List Token) (indent : Int) (outer : List Int) (text : String) (cell : Cell)
    (rest : Source) : Scanner :=
  ⟨rest, (ts ++ [Token.scalar text .plain]).toArray, 0, indent, outer, false,
    [some ⟨indent == (cell.column : Int), ts.length, cell⟩]⟩

section Keys

variable {s : Scanner} {ts : List Token} {indent : Int} {outer : List Int} {text : String}
  {cell : Cell} {rest : Source} {line column index : Nat} {k tail : List Char}

/-- A text in front of which a key may start is kept in mind as one. -/
theorem Scanner.readPlain_key {rest' : Source}
    (h : scanPlain false (indent + 1) none [] rest = .ok ⟨text, rest', false⟩) :
    (Scanner.between ts indent outer true rest).readPlain =
      .ok (Scanner.pending ts indent outer text rest.here rest') := by
  unfold Scanner.readPlain
  show (scanPlain false (indent + 1) none [] rest >>= _) = _
  rw [h]
  refine congrArg Except.ok ?_
  simp [Scanner.emit, Scanner.between, Scanner.pending, Scanner.inFlow, Scanner.column]

/-- The colon behind such a text makes it a key. -/
theorem Scanner.readValue_key (hindent : indent ≤ cell.column) :
    (Scanner.pending ts indent outer text cell rest).readValue =
      .ok (Scanner.between (ts ++ (openingOf indent cell.column ++
          [.keyMark, .scalar text .plain, .valueMark]))
        cell.column (aroundOf indent cell.column outer) false (rest.drop 1)) := by
  unfold Scanner.readValue Scanner.pending
  simp only [insertIdx_length_append]
  unfold Scanner.openBlock openingOf aroundOf
  by_cases hopen : indent < cell.column
  · have hinsert := insertIdx_length_append ts [.keyMark, .scalar text .plain] .blockMappingStart
    simp only [Scanner.inFlow, hopen, Nat.lt_irrefl, decide_false, decide_true, Bool.not_false,
      Bool.and_self, if_true, hinsert]
    simp [Scanner.emit, Scanner.between]
    rfl
  · have hequal : indent = cell.column := by omega
    simp [Scanner.inFlow, hopen, Scanner.emit, Scanner.between]
    rw [hequal]
    rfl

/-- A name is read up to its colon. -/
theorem Scanner.readToken_name (hk : IsName k) (hsep : isSeparation (tail.getD 0 '\x00') = true) :
    ∃ cell, cell.line = line ∧ cell.column = column ∧ cell.index = index ∧
      (Scanner.between ts indent outer true (place line column index (k ++ ':' :: tail))).readToken =
        .ok (Scanner.pending ts indent outer (String.ofList k) cell
          (place line (column + k.length) (index + k.length) (':' :: tail))) := by
  obtain ⟨c, k, rfl⟩ := List.exists_cons_of_ne_nil hk.ne_nil
  refine ⟨⟨c, line, column, index⟩, rfl, rfl, rfl, ?_⟩
  have hmark : ∀ d, d = '-' ∨ d = '.' →
      Source.atDocumentMark (place line column index (c :: k ++ ':' :: tail)) d = false := by
    intro d hd
    apply not_atDocumentMark_of_ahead
    rw [ahead_place]
    apply ne_of_isNameLetter (hk.letter List.mem_cons_self)
    rcases hd with rfl | rfl <;> rfl
  have hscan := @scanPlain_key line column index (indent + 1) (c :: k) tail hk.isPlain
    (hk.not_mem rfl) hsep
  rw [hk.isPlain.readToken_eq hmark, Scanner.readPlain_key hscan, List.cons_append, here_place_cons]

/-- The colon behind a name is the next token. -/
theorem Scanner.settled_pending (hcolumn : indent ≤ (column : Nat)) (hline : cell.line = line)
    (hreach : index ≤ cell.index + keyReach) :
    (Scanner.pending ts indent outer text cell (place line column index (':' :: tail))).settled =
      .ok (Scanner.pending ts indent outer text cell (place line column index (':' :: tail))) := by
  have hskip : skipToToken false false false (place line column index (':' :: tail)) =
      (false, place line column index (':' :: tail)) := skip_token rfl
  have hkeys : (Scanner.pending ts indent outer text cell
      (place line column index (':' :: tail))).dropStale =
      .ok (Scanner.pending ts indent outer text cell (place line column index (':' :: tail))) := by
    have hline' : ¬ cell.line < line := by omega
    have hreach' : ¬ cell.index + keyReach < index := by omega
    simp [Scanner.dropStale, Scanner.pending, here_place_cons, hline', hreach']
  have hsettled : (Scanner.pending ts indent outer text cell
      (place line column index (':' :: tail))).settled =
      (Scanner.pending ts indent outer text cell
        (place line column index (':' :: tail))).dropStale.map
          (fun s => s.closeBlocks s.column) := by
    unfold Scanner.settled Scanner.pending Scanner.inFlow
    simp only [Nat.lt_irrefl, decide_false, hskip]
    rfl
  rw [hsettled, hkeys]
  exact congrArg Except.ok (Scanner.closeBlocks_stay rfl hcolumn)

theorem Scanner.readToken_colon (hsep : isSeparation (tail.getD 0 '\x00') = true) :
    (Scanner.pending ts indent outer text cell (place line column index (':' :: tail))).readToken =
      (Scanner.pending ts indent outer text cell
        (place line column index (':' :: tail))).readValue := by
  have hmark : ∀ d, (':' == d) = false →
      Source.atDocumentMark (place line column index (':' :: tail)) d = false := by
    intro d hd
    apply not_atDocumentMark_of_ahead
    rw [ahead_place]
    exact hd
  unfold Scanner.readToken
  simp only [Scanner.pending, hmark '-' rfl, hmark '.' rfl, ahead_place, List.getD_cons_zero,
    List.getD_cons_succ, hsep]
  simp [Scanner.inFlow]

/-- A key up to its colon is three tokens, and the first key of a mapping opens it. -/
theorem Scanner.Reaches.key (h : s.Reaches ts indent outer column (k ++ ':' :: tail))
    (hindent : indent ≤ column) (hk : IsName k) (hreach : k.length ≤ keyReach)
    (hsep : isSeparation (tail.getD 0 '\x00') = true) :
    ∃ line column' index, column ≤ column' ∧
      s.run = (Scanner.between (ts ++ (openingOf indent column ++
          [.keyMark, .scalar (String.ofList k) .plain, .valueMark]))
        column (aroundOf indent column outer) false (place line column' index tail)).run := by
  obtain ⟨s', line, index, hrun, hsettled⟩ := h.settled hindent
  obtain ⟨cell, hline, hcolumn, hindex, hname⟩ := @Scanner.readToken_name ts indent outer line column
    index k tail hk hsep
  refine ⟨line, column + k.length + 1, index + k.length + 1, by omega, ?_⟩
  have hfirst := Scanner.run_of_readToken hsettled
    (isEnd_of_beginsToken hk.isPlain.beginsToken (by simp)) hname
    (by simp [Scanner.pending, length_place, List.length_pos_iff.mpr hk.ne_nil])
  have hvalue := @Scanner.readToken_colon ts indent outer (String.ofList k) cell line
    (column + k.length) (index + k.length) tail hsep
  rw [Scanner.readValue_key (by omega), drop_place rfl, hcolumn] at hvalue
  have hsecond := Scanner.run_of_readToken (Scanner.settled_pending (by omega) hline (by omega))
    (isEnd_of_beginsToken rfl (by simp)) hvalue (by simp [Scanner.pending, length_place])
  rw [hrun, hfirst, hsecond]

end Keys

/-! ### Blocks as stores are

The shape that written stores have, with a bound on its depth. -/

/-- What fields are called: a name that is not too long and means nothing else. -/
structure IsKey (k : String) : Prop where
  name : IsName k.toList
  reach : k.toList.length ≤ keyReach
  meaning : Yaml.meaning k = .text

/-- A block whose mappings have fields with different names and whose lists are of mappings; at most
`depth` collections are inside each other. -/
inductive Block.Regular : Nat → Block → Prop
  | text (depth : Nat) (s : String) : Regular depth (.text s)
  | flag (depth : Nat) (b : Bool) : Regular depth (.flag b)
  | items {depth : Nat} {bs : List Block} (ne_nil : bs ≠ [])
      (mappings : ∀ b ∈ bs, ∃ fs, b = .fields fs) (regular : ∀ b ∈ bs, Regular depth b) : Regular (depth + 1) (.items bs)
  | fields {depth : Nat} {fs : List (String × Block)} (ne_nil : fs ≠ []) (keys : ∀ f ∈ fs, IsKey f.1)
      (nodup : (fs.map Prod.fst).Nodup) (regular : ∀ f ∈ fs, Regular depth f.2) :
      Regular (depth + 1) (.fields fs)

mutual

/-- The tokens of a block. -/
def Block.tokens : Block → List Token
  | .text s => [.scalar s (styleOf s)]
  | .flag b => [.scalar (flagText b) .plain]
  | .items bs => itemTokens bs
  | .fields fs => .blockMappingStart :: (fieldTokens fs ++ [.blockEnd])

def itemTokens : List Block → List Token
  | [] => []
  | b :: bs => .entryMark :: (b.tokens ++ itemTokens bs)

def fieldTokens : List (String × Block) → List Token
  | [] => []
  | (k, b) :: fs => .keyMark :: .scalar k .plain :: .valueMark :: (b.tokens ++ fieldTokens fs)

end

/-! ### Fields -/

/-- A block behind a colon is read as its tokens. -/
def Block.ReadBehind (b : Block) : Prop :=
  ∀ (s : Scanner) (ts : List Token) (outer : List Int) (n m line column index : Nat)
    (tail : List Char),
    n ≤ column → m ≤ n → beginsToken tail = true →
    s.run = (Scanner.between ts n outer false
      (place line column index (b.writeValue n ++ (margin m ++ tail)))).run →
    s.Reaches (ts ++ b.tokens) n outer m tail

/-- Fields at a column are read as their tokens, behind the one that opens their mapping. -/
def FieldsRead (fs : List (String × Block)) : Prop :=
  ∀ (s : Scanner) (ts : List Token) (indent : Int) (outer : List Int) (column m : Nat)
    (tail : List Char), indent ≤ column → m ≤ column → beginsToken tail = true →
    s.Reaches ts indent outer column (writeFields column fs ++ (margin m ++ tail)) →
    s.Reaches (ts ++ (openingOf indent column ++ fieldTokens fs)) column
      (aroundOf indent column outer) m tail

theorem isSeparation_writeValue (b : Block) (n : Nat) (tail : List Char) :
    isSeparation ((b.writeValue n ++ tail).getD 0 '\x00') = true := by
  cases b with
  | text s => rfl
  | flag b => rfl
  | items bs => cases bs <;> rfl
  | fields fs => cases fs <;> rfl

theorem beginsToken_writeFields {k : String} {b : Block} {fs : List (String × Block)} (hk : IsKey k)
    (n : Nat) (tail : List Char) : beginsToken (writeFields n ((k, b) :: fs) ++ tail) = true := by
  cases fs with
  | nil =>
    rw [writeFields, List.append_assoc]
    exact hk.name.isPlain.beginsToken
  | cons f fs =>
    rw [writeFields, List.append_assoc, List.append_assoc, List.append_assoc]
    exact hk.name.isPlain.beginsToken

section Fields

variable {s : Scanner} {ts : List Token} {indent : Int} {outer : List Int} {column m n : Nat}
  {tail : List Char}

theorem reaches_of_field {k : String} {b : Block} (hk : IsKey k) (hb : b.ReadBehind)
    (hindent : indent ≤ column) (hm : m ≤ column) (htail : beginsToken tail = true)
    (h : s.Reaches ts indent outer column
      (k.toList ++ ':' :: (b.writeValue column ++ (margin m ++ tail)))) :
    s.Reaches (ts ++ (openingOf indent column ++
      (.keyMark :: .scalar k .plain :: .valueMark :: b.tokens))) column
      (aroundOf indent column outer) m tail := by
  obtain ⟨line, column', index, hcolumn, hrun⟩ := h.key hindent hk.name hk.reach
    (isSeparation_writeValue b column _)
  have hvalue := hb _ _ _ _ _ _ _ _ _ hcolumn hm htail hrun
  simpa using hvalue

theorem openingOf_self (n : Nat) : openingOf n n = [] := if_neg (by omega)

theorem aroundOf_self (n : Nat) (outer : List Int) : aroundOf n n outer = outer := if_neg (by omega)

theorem fieldsRead {fs : List (String × Block)} (hne : fs ≠ []) (hkeys : ∀ f ∈ fs, IsKey f.1)
    (hvalues : ∀ f ∈ fs, f.2.ReadBehind) : FieldsRead fs := by
  induction fs with
  | nil => exact absurd rfl hne
  | cons f fs ih =>
    obtain ⟨k, b⟩ := f
    have hk := hkeys (k, b) List.mem_cons_self
    have hb := hvalues (k, b) List.mem_cons_self
    intro s ts indent outer column m tail hindent hm htail h
    cases fs with
    | nil =>
      rw [writeFields, List.append_assoc, List.cons_append] at h
      have hfield := reaches_of_field hk hb hindent hm htail h
      simpa [fieldTokens] using hfield
    | cons f fs =>
      have hk' := hkeys f (by simp)
      have hrest := ih (List.cons_ne_nil f fs) (fun g hg => hkeys g (List.mem_cons_of_mem _ hg))
        (fun g hg => hvalues g (List.mem_cons_of_mem _ hg))
      rw [writeFields] at h
      simp only [List.append_assoc, List.cons_append] at h
      have hfield := reaches_of_field hk hb hindent (Nat.le_refl column)
        (beginsToken_writeFields hk' column _) h
      -- the other fields stand in the mapping that the first one has opened
      have hall := hrest _ _ _ _ _ _ _ (Int.le_refl _) hm htail hfield
      rw [openingOf_self, aroundOf_self] at hall
      rw [fieldTokens]
      simpa using hall

/-- A mapping whose text is at a column deeper than what follows is read and closed. -/
theorem reaches_of_mapping {fs : List (String × Block)} (hfs : FieldsRead fs)
    (hindent : indent < column) (hm : (m : Int) ≤ indent) (htail : beginsToken tail = true)
    (h : s.Reaches ts indent outer column (writeFields column fs ++ (margin m ++ tail))) :
    s.Reaches (ts ++ (Block.fields fs).tokens) indent outer m tail := by
  have hfields := hfs _ _ _ _ _ _ _ (by omega) (by omega) htail h
  rw [openingOf, if_pos hindent, aroundOf, if_pos hindent] at hfields
  have hclosed := hfields.close (by omega)
  simpa [Block.tokens] using hclosed

end Fields

/-! ### Lists -/

section Items

variable {s : Scanner} {ts : List Token} {outer : List Int} {column m n : Nat} {tail : List Char}

/-- The dash in front of an item of a list that is not indented. -/
theorem Scanner.Reaches.entry {fs : List Char} (hbegin : beginsToken fs = true)
    (h : s.Reaches ts n outer n ('-' :: ' ' :: fs)) :
    s.Reaches (ts ++ [.entryMark]) n outer (n + 2) fs := by
  obtain ⟨s', line, index, hrun, hsettled⟩ := h.settled (Int.le_refl _)
  have hread : (Scanner.between ts n outer true (place line n index ('-' :: ' ' :: fs))).readToken =
      .ok (Scanner.between (ts ++ [.entryMark]) n outer true
        (place line (n + 1) (index + 1) (' ' :: fs))) := by
    have hfirst : Source.ahead (place line n index ('-' :: ' ' :: fs)) 0 = '-' :=
      ahead_place _ _ _ _ _
    have hsecond : Source.ahead (place line n index ('-' :: ' ' :: fs)) 1 = ' ' :=
      ahead_place _ _ _ _ _
    have hmark : Source.atDocumentMark (place line n index ('-' :: ' ' :: fs)) '-' = false := by
      simp [Source.atDocumentMark, hsecond]
    have hmark' : Source.atDocumentMark (place line n index ('-' :: ' ' :: fs)) '.' = false := by
      simp [Source.atDocumentMark, hfirst]
    have hentry : (Scanner.between ts n outer true (place line n index ('-' :: ' ' :: fs))).readEntry =
        .ok (Scanner.between (ts ++ [.entryMark]) n outer true
          (place line (n + 1) (index + 1) (' ' :: fs))) := by
      have hopen : (Scanner.between ts n outer true (place line n index ('-' :: ' ' :: fs))).openBlock
          n none .blockSequenceStart =
          Scanner.between ts n outer true (place line n index ('-' :: ' ' :: fs)) := by
        simp [Scanner.openBlock, Scanner.between]
      unfold Scanner.readEntry Scanner.column
      rw [Scanner.between_rest, column_place, hopen, ← @drop_place line n index '-' (' ' :: fs) rfl]
      exact congrArg Except.ok (Scanner.between_emit _ _ _ _)
    unfold Scanner.readToken
    simp only [Scanner.between_rest, hfirst, hsecond, hmark, hmark', hentry]
    simp [isSeparation, isGap]
  have hnext := Scanner.run_of_readToken hsettled (isEnd_of_beginsToken rfl (by simp)) hread
    (by simp [length_place])
  exact Scanner.reaches_of_run (hrun.trans hnext) ((skip_margin 1).trans (skip_token hbegin))

theorem items_read {bs : List Block} (hne : bs ≠ [])
    (hbs : ∀ b ∈ bs, ∃ k c fs, b = .fields ((k, c) :: fs) ∧ IsKey k ∧ FieldsRead ((k, c) :: fs)) :
    ∃ text, writeItems n bs = margin n ++ text ∧ (∀ tail, beginsToken (text ++ tail) = true) ∧
      ∀ ts m tail, m ≤ n → beginsToken tail = true →
        s.Reaches ts n outer n (text ++ (margin m ++ tail)) →
          s.Reaches (ts ++ itemTokens bs) n outer m tail := by
  induction bs with
  | nil => exact absurd rfl hne
  | cons b bs ih =>
    obtain ⟨k, c, fs, rfl, hk, hfs⟩ := hbs b List.mem_cons_self
    cases bs with
    | nil =>
      refine ⟨'-' :: ' ' :: writeFields (n + 2) ((k, c) :: fs), ?_, fun _ => rfl, ?_⟩
      · simp [writeItems]
      · intro ts m tail hm htail h
        have hentry := h.entry (beginsToken_writeFields hk _ _)
        have hitem := reaches_of_mapping hfs (by omega) (by omega) htail hentry
        simpa [itemTokens] using hitem
    | cons b' bs =>
      obtain ⟨text, htext, hbegin, hrest⟩ := ih (List.cons_ne_nil b' bs)
        (fun d hd => hbs d (List.mem_cons_of_mem _ hd))
      refine ⟨'-' :: ' ' :: (writeFields (n + 2) ((k, c) :: fs) ++ (margin n ++ text)), ?_,
        fun _ => rfl, ?_⟩
      · rw [writeItems, htext]
        simp
      · intro ts m tail hm htail h
        simp only [List.cons_append, List.append_assoc] at h
        have hentry := h.entry (beginsToken_writeFields hk _ _)
        -- the dash of the next item closes the mapping of this one
        have hitem := reaches_of_mapping hfs (by omega) (by omega) (hbegin _) hentry
        have hall := hrest _ _ _ hm htail hitem
        rw [itemTokens]
        simpa using hall

end Items

/-! ### Whole blocks

By induction on the shape. -/

section Regular

variable {fs : List (String × Block)} {bs : List Block}

theorem readBehind_text (t : String) : (Block.text t).ReadBehind := by
  intro s ts outer n m line column index tail hcolumn hm htail hrun
  exact reaches_of_text hcolumn hm htail hrun

theorem readBehind_flag (b : Bool) : (Block.flag b).ReadBehind := by
  intro s ts outer n m line column index tail hcolumn hm htail hrun
  exact reaches_of_flag hcolumn hm htail hrun

theorem readBehind_fields (hne : fs ≠ []) (hkeys : ∀ f ∈ fs, IsKey f.1) (hfs : FieldsRead fs) :
    (Block.fields fs).ReadBehind := by
  intro s ts outer n m line column index tail hcolumn hm htail hrun
  obtain ⟨⟨k, b⟩, fs, rfl⟩ := List.exists_cons_of_ne_nil hne
  rw [Block.writeValue, List.cons_append, List.append_assoc] at hrun
  have hnext : s.Reaches ts n outer (n + 2)
      (writeFields (n + 2) ((k, b) :: fs) ++ (margin m ++ tail)) :=
    Scanner.reaches_next_line (beginsToken_writeFields (hkeys (k, b) List.mem_cons_self) _ _) hrun
  exact reaches_of_mapping hfs (by omega) (by omega) htail hnext

theorem readBehind_items (hne : bs ≠ [])
    (hbs : ∀ b ∈ bs, ∃ k c fs, b = .fields ((k, c) :: fs) ∧ IsKey k ∧ FieldsRead ((k, c) :: fs)) :
    (Block.items bs).ReadBehind := by
  intro s ts outer n m line column index tail hcolumn hm htail hrun
  obtain ⟨text, htext, hbegin, hread⟩ := @items_read s outer n bs hne hbs
  have hvalue : (Block.items bs).writeValue n = '\n' :: (margin n ++ text) := by
    obtain ⟨b, bs, rfl⟩ := List.exists_cons_of_ne_nil hne
    rw [Block.writeValue, htext]
  rw [hvalue, List.cons_append, List.append_assoc] at hrun
  exact hread ts m tail hm htail (Scanner.reaches_next_line (hbegin _) hrun)

/-- Every regular block is read as its tokens, behind a colon and, if it is a mapping, anywhere. -/
theorem Block.Regular.reads {depth : Nat} {b : Block} (h : b.Regular depth) :
    b.ReadBehind ∧ ∀ fs, b = .fields fs → FieldsRead fs := by
  induction h with
  | text depth t => exact ⟨readBehind_text t, fun fs hfs => by cases hfs⟩
  | flag depth b => exact ⟨readBehind_flag b, fun fs hfs => by cases hfs⟩
  | items hne hmappings hregular ih =>
    refine ⟨readBehind_items hne ?_, fun fs hfs => by cases hfs⟩
    intro b hb
    obtain ⟨fs, rfl⟩ := hmappings b hb
    cases hregular _ hb with
    | fields hne hkeys hnodup hvalues =>
      obtain ⟨⟨k, c⟩, fs, rfl⟩ := List.exists_cons_of_ne_nil hne
      exact ⟨k, c, fs, rfl, hkeys (k, c) List.mem_cons_self, (ih _ hb).2 _ rfl⟩
  | fields hne hkeys hnodup hregular ih =>
    have hfs := fieldsRead hne hkeys (fun f hf => (ih f hf).1)
    refine ⟨readBehind_fields hne hkeys hfs, ?_⟩
    intro fs heq
    cases heq
    exact hfs

/-- The characters of a regular mapping are read as its tokens. -/
theorem run_start_write {depth : Nat} (h : (Block.fields fs).Regular depth) :
    (Scanner.start (place 0 0 0 (writeFields 0 fs))).run = .ok (Block.fields fs).tokens := by
  have hfs := h.reads.2 fs rfl
  have hstart : (Scanner.start (place 0 0 0 (writeFields 0 fs))).Reaches [] (-1) [] 0
      (writeFields 0 fs ++ (margin 0 ++ [])) := by
    cases h with
    | fields hne hkeys hnodup hregular =>
      obtain ⟨⟨k, b⟩, fs, rfl⟩ := List.exists_cons_of_ne_nil hne
      have hbegin := @beginsToken_writeFields k b fs (hkeys (k, b) List.mem_cons_self) 0 []
      rw [List.append_nil] at hbegin
      rw [margin, List.replicate_zero, List.append_nil, List.append_nil]
      exact Scanner.reaches_of_run rfl (skip_token hbegin)
  have hend := (hfs _ _ _ _ _ _ _ (by decide) (Nat.le_refl 0) rfl hstart).run_end
  rw [hend]
  rfl

end Regular

end SandboxClient.Yaml
