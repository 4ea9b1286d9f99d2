/-
  SandboxClient/Proofs/Yaml/WrittenDocuments.lean
  ===============================================
  **Written documents are read back.** The characters of a document show as
  themselves, so it is made of cells as it stands; its tokens form the tree of its
  block, and the tree has the value that the block stands for.
-/
import SandboxClient.Proofs.Yaml.WrittenBlocks
import SandboxClient.Proofs.Yaml.Blocks

namespace SandboxClient.Yaml

/-! ### The characters of a document -/

section Characters

variable {n : Nat} {s : List Char}

theorem all_printable_margin (n : Nat) : (margin n).all isPrintable = true := by
  rw [margin, List.all_replicate]
  split <;> rfl

theorem all_printable_marginIf (afterBreak : Bool) (n : Nat) :
    (if afterBreak then margin n else []).all isPrintable = true := by
  cases afterBreak
  · rfl
  · exact all_printable_margin n

theorem isPrintable_hexDigit {d : Nat} (h : d < 16) :
    isPrintable (Nat.digitChar d).toUpper = true := by
  have hall : ∀ d < 16, isPrintable (Nat.digitChar d).toUpper = true := by decide
  exact hall d h

theorem all_printable_hexDigits (width n : Nat) : (hexDigits width n).all isPrintable = true := by
  have hdigits : ((Nat.toDigits 16 n).map Char.toUpper).all isPrintable = true := by
    induction n using Nat.strongRecOn with
    | ind n ih =>
      by_cases hn : n < 16
      · rw [Nat.toDigits_of_lt_base hn]
        simp [isPrintable_hexDigit hn]
      · rw [Nat.toDigits_of_base_le (by decide) (by omega), List.map_append, List.all_append,
          ih (n / 16) (by omega)]
        simp [isPrintable_hexDigit (Nat.mod_lt n (by decide : 16 > 0))]
  unfold hexDigits
  rw [List.all_append, hdigits, List.all_replicate]
  split <;> rfl

theorem all_printable_escaped (c : Char) : (escaped c).all isPrintable = true := by
  unfold escaped
  split
  case h_15 =>
    split
    · simpa
    · split
      · rw [List.all_cons, List.all_cons, all_printable_hexDigits]
        rfl
      · split
        · rw [List.all_cons, List.all_cons, all_printable_hexDigits]
          rfl
        · rw [List.all_cons, List.all_cons, all_printable_hexDigits]
          rfl
  all_goals rfl

theorem all_printable_doubleQuoted (s : List Char) :
    (writeDoubleQuoted s).all isPrintable = true := by
  have hbody : (s.flatMap escaped).all isPrintable = true := by
    rw [List.all_flatMap]
    exact List.all_eq_true.mpr (fun c _ => all_printable_escaped c)
  rw [writeDoubleQuoted, List.all_cons, List.all_append, hbody]
  rfl

theorem all_printable_singleQuoted (h : s.all isPrintable = true) :
    (writeSingleQuoted n s).all isPrintable = true := by
  have hbody : ∀ afterBreak, (singleQuotedBody n afterBreak s).all isPrintable = true := by
    induction s with
    | nil =>
      intro afterBreak
      cases afterBreak
      · rfl
      · exact all_printable_margin n
    | cons c s ih =>
      intro afterBreak
      rw [List.all_cons, Bool.and_eq_true] at h
      rw [singleQuotedBody]
      split
      · rw [List.all_cons, h.1, ih h.2]
        rfl
      · have hquote : (if c == '\'' then ['\'', '\''] else [c]).all isPrintable = true := by
          split
          · rfl
          · simpa using h.1
        rw [List.all_append, List.all_append, ih h.2, hquote, all_printable_marginIf]
        rfl
  rw [writeSingleQuoted, List.all_cons, List.all_append, hbody]
  rfl

theorem all_printable_literal (h : s.all isPrintable = true) :
    (writeLiteral n s).all isPrintable = true := by
  have hbody : ∀ afterBreak, (literalBody n afterBreak s).all isPrintable = true := by
    induction s with
    | nil => intro afterBreak; rfl
    | cons c s ih =>
      intro afterBreak
      rw [List.all_cons, Bool.and_eq_true] at h
      rw [literalBody]
      split
      · rw [List.all_cons, h.1, ih h.2]
        rfl
      · rw [List.all_append, List.all_cons, h.1, ih h.2, all_printable_marginIf]
        rfl
  have hhints : (literalHints s).all isPrintable = true := by
    rw [literalHints_eq, List.all_append]
    cases chompOf s <;> split <;> rfl
  rw [writeLiteral, List.all_cons, List.all_append, List.all_cons, hbody, hhints]
  rfl

theorem all_printable_writeText (n : Nat) (t : String) :
    (writeText n t).all isPrintable = true := by
  unfold writeText
  cases hstyle : styleOf t with
  | plain => exact List.all_eq_true.mpr (isPlain_of_plain hstyle).printable
  | singleQuoted =>
    exact all_printable_singleQuoted
      (List.all_eq_true.mpr (fun c hc => ((isShown_of_singleQuoted hstyle).1 c hc).1))
  | literal => exact all_printable_literal (List.all_eq_true.mpr (printable_of_literal hstyle).2)
  | doubleQuoted => exact all_printable_doubleQuoted _
  | folded => exact all_printable_doubleQuoted _

theorem all_printable_endLine (h : s.all isPrintable = true) :
    (endLine s).all isPrintable = true := by
  unfold endLine
  split
  · exact h
  · rw [List.all_append, h]
    rfl

theorem IsKey.all_printable {k : String} (h : IsKey k) : k.toList.all isPrintable = true :=
  List.all_eq_true.mpr h.name.isPlain.printable

theorem all_printable_writeFields {fs : List (String × Block)} (hkeys : ∀ f ∈ fs, IsKey f.1)
    (hvalues : ∀ f ∈ fs, ∀ n, (f.2.writeValue n).all isPrintable = true) (n : Nat) :
    (writeFields n fs).all isPrintable = true := by
  induction fs with
  | nil => rfl
  | cons f fs ih =>
    obtain ⟨k, b⟩ := f
    have hk := (hkeys (k, b) List.mem_cons_self).all_printable
    have hb := hvalues (k, b) List.mem_cons_self n
    have hcolon : isPrintable ':' = true := rfl
    cases fs with
    | nil => rw [writeFields, List.all_append, List.all_cons, hk, hb, hcolon]; rfl
    | cons f fs =>
      have hrest := ih (fun g hg => hkeys g (List.mem_cons_of_mem _ hg))
        (fun g hg => hvalues g (List.mem_cons_of_mem _ hg))
      rw [writeFields, List.all_append, List.all_append, List.all_append, List.all_cons, hk, hb,
        hcolon, all_printable_margin, hrest]
      rfl

theorem all_printable_writeItems {bs : List Block}
    (hbs : ∀ b ∈ bs, ∃ fs, b = .fields fs ∧ ∀ n, (writeFields n fs).all isPrintable = true)
    (n : Nat) :
    (writeItems n bs).all isPrintable = true := by
  induction bs with
  | nil => rfl
  | cons b bs ih =>
    obtain ⟨fs, rfl, hfs⟩ := hbs b List.mem_cons_self
    have hrest := ih (fun d hd => hbs d (List.mem_cons_of_mem _ hd))
    cases fs with
    | nil =>
      rw [writeItems, List.all_append, List.all_append, all_printable_margin, hrest]
      rfl
    | cons f fs =>
      rw [writeItems, List.all_append, List.all_append, List.all_append, all_printable_margin, hrest,
        hfs]
      rfl

theorem Block.Regular.all_printable {depth : Nat} {b : Block} (h : b.Regular depth) :
    (∀ n, (b.writeValue n).all isPrintable = true) ∧
      ∀ fs, b = .fields fs → ∀ n, (writeFields n fs).all isPrintable = true := by
  induction h with
  | text depth t =>
    refine ⟨fun n => ?_, fun fs hfs => by cases hfs⟩
    rw [Block.writeValue, List.all_cons, all_printable_endLine (all_printable_writeText n t)]
    rfl
  | flag depth b =>
    refine ⟨fun n => ?_, fun fs hfs => by cases hfs⟩
    cases b <;> rfl
  | @items depth bs hne hmappings hregular ih =>
    refine ⟨fun n => ?_, fun fs hfs => by cases hfs⟩
    have hbs : ∀ b ∈ bs, ∃ fs, b = .fields fs ∧ ∀ n, (writeFields n fs).all isPrintable = true := by
      intro b hb
      obtain ⟨fs, rfl⟩ := hmappings b hb
      exact ⟨fs, rfl, (ih _ hb).2 fs rfl⟩
    have hitems := all_printable_writeItems hbs n
    obtain ⟨b, bs, rfl⟩ := List.exists_cons_of_ne_nil hne
    rw [Block.writeValue, List.all_cons, hitems]
    rfl
  | @fields depth fs hne hkeys hnodup hregular ih =>
    have hfs := all_printable_writeFields hkeys (fun f hf => (ih f hf).1)
    refine ⟨fun n => ?_, ?_⟩
    · obtain ⟨f, fs, rfl⟩ := List.exists_cons_of_ne_nil hne
      rw [Block.writeValue, List.all_cons, List.all_append, all_printable_margin, hfs]
      rfl
    · intro fs' heq
      cases heq
      exact hfs

end Characters

/-! ### Documents -/

section Documents

variable {text : List Char}

theorem isAllowed_of_printable {c : Char} (h : isPrintable c = true) : isAllowed c = true := by
  simp only [isPrintable, Bool.or_eq_true, Bool.and_eq_true, beq_iff_eq, decide_eq_true_eq,
    bne_iff_ne] at h
  simp only [isAllowed, Bool.or_eq_true, Bool.and_eq_true, beq_iff_eq, decide_eq_true_eq]
  omega

theorem unifyBreaks_of_printable (h : text.all isPrintable = true) : unifyBreaks text = text := by
  induction text with
  | nil => rfl
  | cons c text ih =>
    rw [List.all_cons, Bool.and_eq_true] at h
    have hreturn : c ≠ '\r' := beq_eq_false_iff_ne.mp (ne_of_printable h.1 rfl)
    have hnext : c ≠ '\u0085' := beq_eq_false_iff_ne.mp (ne_of_printable h.1 rfl)
    have hrest := ih h.2
    unfold unifyBreaks
    split
    · rename_i heq
      cases heq
      exact absurd rfl hreturn
    · rename_i heq
      cases heq
      exact absurd rfl hreturn
    · rename_i heq
      cases heq
      exact absurd rfl hnext
    · rename_i heq
      cases heq
      rw [hrest]
    · rename_i heq
      cases heq

theorem ofText_of_printable (h : text.all isPrintable = true) :
    Source.ofText text = .ok (place 0 0 0 text) := by
  have hall : text.all isAllowed = true := by
    rw [List.all_eq_true] at h ⊢
    exact fun c hc => isAllowed_of_printable (h c hc)
  unfold Source.ofText
  cases text with
  | nil => rfl
  | cons c text =>
    have hmark : (c == byteOrderMark) = false := by
      rw [List.all_cons, Bool.and_eq_true] at h
      exact ne_of_printable h.1 rfl
    simp only [hmark, Bool.false_eq_true, if_false]
    rw [if_pos hall, unifyBreaks_of_printable h]

/-- A written document is read as the tokens of its block. -/
theorem tokens_write {depth : Nat} {fs : List (String × Block)}
    (h : (Block.fields fs).Regular depth) :
    tokens (Block.fields fs).write.toList = .ok (Block.fields fs).tokens := by
  have hwrite : (Block.fields fs).write.toList = writeFields 0 fs := by
    cases fs with
    | nil => cases h with | fields hne => exact absurd rfl hne
    | cons f fs =>
      rw [Block.write, String.toList_ofList]
      intro hnil
      cases hnil
  have htext := ofText_of_printable (h.all_printable.2 fs rfl 0)
  unfold tokens
  rw [hwrite, htext]
  exact run_start_write h

end Documents

/-! ### Trees

The tokens are read as the tree that they came from; the recursion is that of the shape. -/

mutual

/-- The tree that the tokens of a block form. -/
def Block.tree : Block → Tree
  | .text s => .scalar ⟨none, none⟩ s (styleOf s == .plain)
  | .flag b => .scalar ⟨none, none⟩ (flagText b) true
  | .items bs => .sequence ⟨none, none⟩ (itemTrees bs)
  | .fields fs => .mapping ⟨none, none⟩ (fieldTrees fs)

def itemTrees : List Block → List Tree
  | [] => []
  | b :: bs => b.tree :: itemTrees bs

def fieldTrees : List (String × Block) → List (Tree × Tree)
  | [] => []
  | (k, b) :: fs => (.scalar ⟨none, none⟩ k true, b.tree) :: fieldTrees fs

end

section Trees

variable {handles : Handles} {block indentless : Bool} {r : List Token}

theorem unlessLonger_of_le {α : Type} {n : Nat} {rest : List Token}
    {f : rest.length ≤ n → Except Fault α} (h : rest.length ≤ n) : unlessLonger n rest f = f h :=
  dif_pos h

theorem readNode_scalar (text : String) (style : Style) :
    readNode handles block indentless (.scalar text style :: r) =
      .ok (.scalar ⟨none, none⟩ text (style == .plain), r) := by
  rw [readNode.eq_def]
  rfl

theorem readNode_entries {items : List Tree} {rest : List Token}
    (h : readIndentless handles (.entryMark :: r) [] = .ok (items, rest)) :
    readNode handles block true (.entryMark :: r) = .ok (.sequence ⟨none, none⟩ items, rest) := by
  rw [readNode.eq_def]
  show (readIndentless handles (.entryMark :: r) [] >>= _) = _
  rw [h]
  rfl

theorem readNode_mapping {entries : List (Tree × Tree)} {rest : List Token}
    (h : readBlockMapping handles r [] = .ok (entries, rest)) :
    readNode handles true indentless (.blockMappingStart :: r) =
      .ok (.mapping ⟨none, none⟩ entries, rest) := by
  rw [readNode.eq_def]
  show (readBlockMapping handles r [] >>= _) = _
  rw [h]
  rfl

/-- A block behind a key or value indicator is read as its tree. -/
def Block.TreeRead (b : Block) : Prop :=
  ∀ (handles : Handles) (r : List Token), nextIs (· == .entryMark) r = false →
    readNode handles true true (b.tokens ++ r) = .ok (b.tree, r)

/-- A block is read as its tree anywhere. -/
def Block.TreeReadAlone (b : Block) : Prop :=
  ∀ (handles : Handles) (indentless : Bool) (r : List Token),
    readNode handles true indentless (b.tokens ++ r) = .ok (b.tree, r)

theorem readIndentless_items {bs : List Block} (hmappings : ∀ b ∈ bs, ∃ fs, b = .fields fs)
    (hbs : ∀ b ∈ bs, b.TreeReadAlone) (hr : nextIs (· == .entryMark) r = false) (done : List Tree) :
    readIndentless handles (itemTokens bs ++ r) done = .ok (done.reverse ++ itemTrees bs, r) := by
  induction bs generalizing done with
  | nil =>
    rw [itemTokens, itemTrees, List.nil_append, List.append_nil, readIndentless.eq_def]
    split
    · cases hr
    · rfl
  | cons b bs ih =>
    obtain ⟨fs, rfl⟩ := hmappings b List.mem_cons_self
    have hitem := hbs _ List.mem_cons_self handles false (itemTokens bs ++ r)
    have hrest := ih (fun d hd => hmappings d (List.mem_cons_of_mem _ hd))
      (fun d hd => hbs d (List.mem_cons_of_mem _ hd)) ((Block.fields fs).tree :: done)
    rw [itemTokens, List.cons_append, List.append_assoc, readIndentless.eq_def]
    show (readNode handles true false ((Block.fields fs).tokens ++ (itemTokens bs ++ r)) >>= _) = _
    rw [hitem]
    show unlessLonger _ (itemTokens bs ++ r) _ = _
    rw [unlessLonger_of_le (by simp), hrest, itemTrees]
    simp

theorem readBlockMapping_fields {fs : List (String × Block)} (hfs : ∀ f ∈ fs, f.2.TreeRead)
    (hbegin : ∀ f ∈ fs, ∀ r, nextIs endsBlockField (f.2.tokens ++ r) = false)
    (done : List (Tree × Tree)) :
    readBlockMapping handles (fieldTokens fs ++ .blockEnd :: r) done =
      .ok (done.reverse ++ fieldTrees fs, r) := by
  induction fs generalizing done with
  | nil =>
    rw [fieldTokens, fieldTrees, List.nil_append, List.append_nil, readBlockMapping.eq_def]
  | cons f fs ih =>
    obtain ⟨k, b⟩ := f
    have hrest := ih (fun g hg => hfs g (List.mem_cons_of_mem _ hg))
      (fun g hg => hbegin g (List.mem_cons_of_mem _ hg))
      ((.scalar ⟨none, none⟩ k true, b.tree) :: done)
    -- a list behind the colon ends at the next key or with the mapping
    have hnext : nextIs (· == .entryMark) (fieldTokens fs ++ .blockEnd :: r) = false := by
      cases fs <;> rfl
    have hb := hfs (k, b) List.mem_cons_self handles _ hnext
    have hvalue : readBlockValue handles (.scalar ⟨none, none⟩ k true)
        (.valueMark :: (b.tokens ++ (fieldTokens fs ++ .blockEnd :: r))) done =
        .ok (done.reverse ++ fieldTrees ((k, b) :: fs), r) := by
      rw [readBlockValue.eq_def]
      simp only [hbegin (k, b) List.mem_cons_self, Bool.false_eq_true, if_false]
      show (readNode handles true true (b.tokens ++ (fieldTokens fs ++ .blockEnd :: r)) >>= _) = _
      rw [hb]
      show unlessLonger _ (fieldTokens fs ++ .blockEnd :: r) _ = _
      rw [unlessLonger_of_le (by simp), hrest, fieldTrees]
      simp
    rw [fieldTokens]
    simp only [List.cons_append, List.append_assoc]
    rw [readBlockMapping.eq_def]
    show (readNode handles true true (.scalar k .plain :: .valueMark ::
      (b.tokens ++ (fieldTokens fs ++ .blockEnd :: r))) >>= _) = _
    rw [readNode_scalar]
    show unlessLonger _ _ _ = _
    rw [unlessLonger_of_le (by simp)]
    exact hvalue

theorem Block.Regular.nextIs_tokens {depth : Nat} {b : Block} (h : b.Regular depth)
    (r : List Token) :
    nextIs endsBlockField (b.tokens ++ r) = false := by
  cases h with
  | text => rfl
  | flag => rfl
  | items hne =>
    obtain ⟨b, bs, rfl⟩ := List.exists_cons_of_ne_nil hne
    rfl
  | fields => rfl

theorem Block.Regular.treeRead {depth : Nat} {b : Block} (h : b.Regular depth) :
    b.TreeRead ∧ ∀ fs, b = .fields fs → b.TreeReadAlone := by
  induction h with
  | text depth s =>
    exact ⟨fun handles r _ => readNode_scalar _ _, fun fs hfs => by cases hfs⟩
  | flag depth b =>
    exact ⟨fun handles r _ => readNode_scalar _ _, fun fs hfs => by cases hfs⟩
  | @items depth bs hne hmappings hregular ih =>
    refine ⟨?_, fun fs hfs => by cases hfs⟩
    intro handles r hr
    have halone : ∀ b ∈ bs, b.TreeReadAlone := by
      intro b hb
      obtain ⟨fs, rfl⟩ := hmappings b hb
      exact (ih _ hb).2 fs rfl
    have hitems := @readIndentless_items handles r bs hmappings halone hr []
    obtain ⟨b, bs, rfl⟩ := List.exists_cons_of_ne_nil hne
    exact readNode_entries hitems
  | @fields depth fs hne hkeys hnodup hregular ih =>
    have halone : (Block.fields fs).TreeReadAlone := by
      intro handles indentless r
      have hfields := @readBlockMapping_fields handles r fs (fun f hf => (ih f hf).1)
        (fun f hf => (hregular f hf).nextIs_tokens) []
      rw [Block.tokens, List.cons_append, List.append_assoc]
      exact readNode_mapping hfields
    exact ⟨fun handles r _ => halone handles true r, fun _ _ => halone⟩

/-- The tokens of a regular mapping are one document. -/
theorem readDocument_tokens {depth : Nat} {fs : List (String × Block)}
    (h : (Block.fields fs).Regular depth) :
    readDocument (Block.fields fs).tokens = .ok (some (Block.fields fs).tree) := by
  have hread := h.treeRead.2 fs rfl Handles.standard false []
  rw [List.append_nil] at hread
  unfold readDocument
  show (readNode Handles.standard true false (Block.fields fs).tokens >>= _) = _
  rw [hread]
  rfl

end Trees

/-! ### Values -/

mutual

/-- The tree of a block, which has no references. -/
def Block.linked : Block → Linked
  | .text s => .scalar none s (styleOf s == .plain)
  | .flag b => .scalar none (flagText b) true
  | .items bs => .sequence none (itemsLinked bs)
  | .fields fs => .mapping none (fieldsLinked fs)

def itemsLinked : List Block → List Linked
  | [] => []
  | b :: bs => b.linked :: itemsLinked bs

def fieldsLinked : List (String × Block) → List (Linked × Linked)
  | [] => []
  | (k, b) :: fs => (.scalar none k true, b.linked) :: fieldsLinked fs

end

theorem tally_tally (a : Anchors) (m n : Nat) : (a.tally m).tally n = a.tally (m + n) := by
  simp [Anchors.tally, Nat.add_assoc]

mutual

theorem link_tree (b : Block) (a : Anchors) : ∃ n, b.tree.link a = .ok (b.linked, a.tally n) := by
  cases b with
  | text s => exact ⟨1, rfl⟩
  | flag b => exact ⟨1, rfl⟩
  | items bs =>
    obtain ⟨n, hitems⟩ := link_itemTrees bs (a.tally 2)
    refine ⟨2 + n, ?_⟩
    rw [Block.tree, Tree.link]
    show (linkItems (a.tally 2) (itemTrees bs) >>= _) = _
    rw [hitems, tally_tally]
    rfl
  | fields fs =>
    obtain ⟨n, hfields⟩ := link_fieldTrees fs (a.tally 2)
    refine ⟨2 + n, ?_⟩
    rw [Block.tree, Tree.link]
    show (linkEntries (a.tally 2) (fieldTrees fs) >>= _) = _
    rw [hfields, tally_tally]
    rfl

theorem link_itemTrees (bs : List Block) (a : Anchors) :
    ∃ n, linkItems a (itemTrees bs) = .ok (itemsLinked bs, a.tally n) := by
  cases bs with
  | nil => exact ⟨0, rfl⟩
  | cons b bs =>
    obtain ⟨n, hb⟩ := link_tree b a
    obtain ⟨n', hbs⟩ := link_itemTrees bs (a.tally n)
    refine ⟨n + n', ?_⟩
    rw [itemTrees, linkItems, hb]
    show (linkItems (a.tally n) (itemTrees bs) >>= _) = _
    rw [hbs, tally_tally]
    rfl

theorem link_fieldTrees (fs : List (String × Block)) (a : Anchors) :
    ∃ n, linkEntries a (fieldTrees fs) = .ok (fieldsLinked fs, a.tally n) := by
  cases fs with
  | nil => exact ⟨0, rfl⟩
  | cons f fs =>
    obtain ⟨k, b⟩ := f
    obtain ⟨n, hb⟩ := link_tree b (a.tally 1)
    obtain ⟨n', hfs⟩ := link_fieldTrees fs ((a.tally 1).tally n)
    refine ⟨1 + (n + n'), ?_⟩
    rw [fieldTrees, linkEntries]
    show (b.tree.link (a.tally 1) >>= _) = _
    rw [hb]
    show (linkEntries ((a.tally 1).tally n) (fieldTrees fs) >>= _) = _
    rw [hfs, tally_tally, tally_tally]
    rfl

end

section Values

variable {a : Anchors} {depth : Nat} {tag : Option String}

/-! The value of a node that is no reference, by its kind. -/

theorem value_scalar (text : String) (plain : Bool) :
    (Linked.scalar tag text plain).value a depth = liftM (scalarValue tag text plain) := by
  cases depth <;>
    · delta Linked.value
      with_unfolding_all rfl

theorem value_sequence (items : List Linked) :
    (Linked.sequence tag items).value a (depth + 1) = (do
      let items ← items.mapM (fun i => i.value a depth)
      return underTag tag (.sequence items)) := by
  delta Linked.value
  with_unfolding_all rfl

theorem value_mapping (entries : List (Linked × Linked)) :
    (Linked.mapping tag entries).value a (depth + 1) = (do
      let entries ← entries.foldlM (fun done (k, v) => do
        let k ← k.value a depth
        let v ← v.value a depth
        liftM (addEntry done k v)) []
      return underTag tag (.mapping entries.reverse)) := by
  delta Linked.value
  with_unfolding_all rfl

theorem value_text (s : String) : (Block.text s).linked.value a depth = pure (.text s) := by
  have hmeaning : scalarValue none s (styleOf s == .plain) = .ok (.text s) := by
    cases hstyle : styleOf s == .plain with
    | false => rfl
    | true =>
      show plainValue s = .ok (.text s)
      rw [plainValue, (features_of_plain (beq_iff_eq.mp hstyle)).1]
  rw [Block.linked, value_scalar, hmeaning]
  rfl

theorem value_flag (b : Bool) : (Block.flag b).linked.value a depth = pure (.bool b) := by
  rw [Block.linked, value_scalar]
  cases b <;> rfl

theorem value_key {k : String} (hk : IsKey k) :
    (Linked.scalar none k true).value a depth = pure (.text k) := by
  have hmeaning : scalarValue none k true = .ok (.text k) := by
    show plainValue k = .ok (.text k)
    rw [plainValue, hk.meaning]
  rw [value_scalar, hmeaning]
  rfl

theorem value_items {bs : List Block} (hbs : ∀ b ∈ bs, b.linked.value a depth = pure b.node) :
    (Block.items bs).linked.value a (depth + 1) = pure (Block.items bs).node := by
  have hmap : (itemsLinked bs).mapM (fun i => i.value a depth) = pure (itemNodes bs) := by
    induction bs with
    | nil => rfl
    | cons b bs ih =>
      rw [itemsLinked, List.mapM_cons, hbs b List.mem_cons_self,
        ih (fun d hd => hbs d (List.mem_cons_of_mem _ hd))]
      rfl
  rw [Block.linked, value_sequence, hmap]
  rfl

theorem addEntry_of_new {entries : List (Node × Node)} {k : String} (v : Node)
    (h : ∀ e ∈ entries, e.1.same (.text k) = false) :
    addEntry entries (.text k) v = .ok ((.text k, v) :: entries) := by
  rw [addEntry, if_neg]
  rw [Bool.not_eq_true, List.any_eq_false]
  intro e he
  rw [h e he]
  exact Bool.false_ne_true

theorem value_fields {fs : List (String × Block)} (hkeys : ∀ f ∈ fs, IsKey f.1)
    (hnodup : (fs.map Prod.fst).Nodup)
    (hfs : ∀ f ∈ fs, f.2.linked.value a depth = pure f.2.node) :
    (Block.fields fs).linked.value a (depth + 1) = pure (Block.fields fs).node := by
  -- no key among those that are still to come has been met
  have hfold : ∀ done : List (Node × Node),
      (∀ e ∈ done, ∀ f ∈ fs, e.1.same (.text f.1) = false) →
      (fieldsLinked fs).foldlM (fun done (k, v) => (do
        let k ← k.value a depth
        let v ← v.value a depth
        liftM (addEntry done k v) : StateT Nat (Except Fault) (List (Node × Node)))) done =
      pure ((fieldNodes fs).reverse ++ done) := by
    induction fs with
    | nil =>
      intro done hdone
      rfl
    | cons f fs ih =>
      intro done hdone
      obtain ⟨k, b⟩ := f
      rw [List.map_cons, List.nodup_cons] at hnodup
      have hadd := addEntry_of_new b.node (fun e he => hdone e he (k, b) List.mem_cons_self)
      have hdone' : ∀ e ∈ (Node.text k, b.node) :: done, ∀ f ∈ fs,
          e.1.same (.text f.1) = false := by
        intro e he f hf
        rcases List.mem_cons.mp he with rfl | he
        · have hne : k ≠ f.1 := by
            intro heq
            exact hnodup.1 (List.mem_map.mpr ⟨f, hf, heq.symm⟩)
          simp [Node.same, hne]
        · exact hdone e he f (List.mem_cons_of_mem _ hf)
      have hrest := ih (fun g hg => hkeys g (List.mem_cons_of_mem _ hg)) hnodup.2
        (fun g hg => hfs g (List.mem_cons_of_mem _ hg)) _ hdone'
      rw [fieldsLinked, List.foldlM_cons]
      simp only [value_key (hkeys (k, b) List.mem_cons_self), hfs (k, b) List.mem_cons_self,
        pure_bind, hadd]
      have hlist : (fieldNodes fs).reverse ++ (Node.text k, b.node) :: done =
          (fieldNodes ((k, b) :: fs)).reverse ++ done := by
        simp [fieldNodes]
      rw [← hlist]
      exact hrest
  rw [Block.linked, value_mapping, hfold [] (fun e he => by cases he)]
  simp [underTag, localTag, Block.node]

theorem Block.Regular.value {b : Block} (h : b.Regular depth) :
    b.linked.value a depth = pure b.node := by
  induction h with
  | text depth s => exact value_text s
  | flag depth b => exact value_flag b
  | items hne hmappings hregular ih => exact value_items ih
  | fields hne hkeys hnodup hregular ih => exact value_fields hkeys hnodup ih

end Values

/-- **What is written is read back**: the text of a mapping whose collections are not too deep has
the value that it was written for. -/
theorem Block.Regular.readsBack {fs : List (String × Block)}
    (h : (Block.fields fs).Regular depthLimit) : (Block.fields fs).ReadsBack := by
  obtain ⟨n, hlink⟩ := link_tree (.fields fs) ⟨[], [], [], 0, 0⟩
  unfold Block.ReadsBack read
  rw [tokens_write h]
  show (readDocument (Block.fields fs).tokens >>= _) = _
  rw [readDocument_tokens h]
  show ((Block.fields fs).tree.link ⟨[], [], [], 0, 0⟩ >>= _) = _
  rw [hlink]
  show ((((Block.fields fs).linked.value _ depthLimit).run 0) >>= _) = _
  rw [h.value]
  rfl

end SandboxClient.Yaml
