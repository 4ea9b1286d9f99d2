/-
  SandboxClient/Proofs/Terminal/AlignedTables.lean
  ================================================
  **How tables are aligned.** The width of a column is the greatest of the widths
  of its cells, whichever rows have a cell there. So there is a width for every
  cell, and no padding is less than nothing: `rowWrites?` writes a row down cell by
  cell, looks every width up and fails where one is missing or too small, and it
  never fails for a row of a table. What is printed and the plain lines are read
  off the same writes, with colour codes and without (`table_aligned`).
-/
import SandboxClient.Terminal.Table
import SandboxClient.Proofs.Text.Columns
import Mathlib.Algebra.GroupWithZero.Nat

namespace SandboxClient.Terminal

open SandboxClient.Text

/-! ### Widths of columns

The widths are those of the cells as they are stored, after they have been cut. -/

/-- The widths of the cells that stand at a place in some row. -/
def widthsAt (rows : List (List Cell)) (i : Nat) : List Nat :=
  rows.filterMap (fun r => r[i]?.map (fun c => displayWidth c.text))

theorem mem_widthsAt {rows : List (List Cell)} {i w : Nat} :
    w ∈ widthsAt rows i ↔ ∃ r ∈ rows, ∃ c, r[i]? = some c ∧ displayWidth c.text = w := by
  simp [widthsAt]

theorem getElem?_widest (vs ws : List Nat) (i : Nat) :
    (widest vs ws)[i]? = Option.merge max vs[i]? ws[i]? := by
  induction vs, ws using widest.induct generalizing i with
  | case1 ws => simp [widest]
  | case2 vs hvs => simp [widest]
  | case3 v vs w ws ih =>
    cases i with
    | zero => rfl
    | succ i => simpa [widest] using ih i

theorem max?_widthsAt_cons (r : List Cell) (rows : List (List Cell)) (i : Nat) :
    (widthsAt (r :: rows) i).max? =
      Option.merge max (r.map (fun c => displayWidth c.text))[i]? (widthsAt rows i).max? := by
  rw [widthsAt, List.filterMap_cons, ← widthsAt, List.getElem?_map]
  cases r[i]?.map (fun c => displayWidth c.text) with
  | none => simp
  | some w =>
    rw [List.max?_cons]
    cases (widthsAt rows i).max? <;> rfl

theorem getElem?_foldl_widest (rows : List (List Cell)) (ws : List Nat) (i : Nat) :
    (rows.foldl (fun ws r => widest ws (r.map (fun c => displayWidth c.text))) ws)[i]? =
      Option.merge max ws[i]? (widthsAt rows i).max? := by
  induction rows generalizing ws with
  | nil => simp [widthsAt]
  | cons r rows ih =>
    rw [List.foldl_cons, ih, getElem?_widest, max?_widthsAt_cons]
    exact Std.Associative.assoc _ _ _

/-- **The width of a column** is that of its widest cell. -/
theorem getElem?_columnWidths (t : Table) (i : Nat) :
    t.columnWidths[i]? = (widthsAt (t.headerRow :: t.rows) i).max? := by
  have hheaders : t.headers.map displayWidth =
      t.headerRow.map (fun c => displayWidth c.text) := by
    simp [Table.headerRow, Cell.plain, Function.comp_def]
  rw [max?_widthsAt_cons, Table.columnWidths, getElem?_foldl_widest, hheaders]

/-- There is a width for every cell of a row, and the cell does not exceed it. -/
def Fits (widths : List Nat) (row : List Cell) : Prop :=
  ∀ (i : Nat) (c : Cell), row[i]? = some c → ∃ w, widths[i]? = some w ∧ displayWidth c.text ≤ w

theorem fits_columnWidths {t : Table} {r : List Cell} (h : r ∈ t.headerRow :: t.rows) :
    Fits t.columnWidths r := by
  intro i c hc
  have hmem := mem_widthsAt.mpr ⟨r, h, c, hc, rfl⟩
  obtain ⟨w, hw⟩ := Option.isSome_iff_exists.mp (List.isSome_max?_of_mem hmem)
  rw [getElem?_columnWidths]
  exact ⟨w, hw, (List.max?_eq_some_iff.mp hw).2 _ hmem⟩

theorem exists_widest_cell {t : Table} {i w : Nat} (h : t.columnWidths[i]? = some w) :
    ∃ r ∈ t.headerRow :: t.rows, ∃ c, r[i]? = some c ∧ displayWidth c.text = w := by
  rw [getElem?_columnWidths] at h
  exact mem_widthsAt.mp (List.max?_eq_some_iff.mp h).1

theorem fits_cons_iff {widths : List Nat} {c : Cell} {cs : List Cell} :
    Fits widths (c :: cs) ↔
      ∃ w ws, widths = w :: ws ∧ displayWidth c.text ≤ w ∧ Fits ws cs := by
  constructor
  · intro h
    obtain ⟨w, hw, hle⟩ := h 0 c rfl
    cases widths with
    | nil => cases hw
    | cons v ws =>
      obtain rfl : v = w := by simpa using hw
      exact ⟨v, ws, rfl, hle, fun i d hd => h (i + 1) d hd⟩
  · rintro ⟨w, ws, rfl, hle, hrest⟩ i d hd
    cases i with
    | zero =>
      cases hd
      exact ⟨w, rfl, hle⟩
    | succ i => exact hrest i d hd

/-! ### What is written

Codes for colours have no width, so the plain and the printed row are two readings of one list of
writes. -/

/-- Something that is written to a terminal: characters that are seen, or a code that changes how
the characters after it look. -/
inductive Write
  | text (s : String)
  | code (s : String)
  deriving DecidableEq, Repr

/-- What is written. -/
def Write.sent : Write → String
  | .text s => s
  | .code s => s

/-- What is seen of it. -/
def Write.seen : Write → String
  | .text s => s
  | .code _ => ""

/-- A text and the codes for its colour. -/
def inColour (colour : Colour) (s : String) : List Write :=
  [.code colour.on, .text s, .code (escapeSequence "39")]

/-- A cell without its colour. -/
def Cell.plainWrites (c : Cell) : List Write := [.text c.text]

/-- A cell and the codes for its colour, if it has one. -/
def Cell.writes (c : Cell) : List Write :=
  match c.colour with
  | some colour => inColour colour c.text
  | none => [.text c.text]

/-- The padding behind the cell at a place. There is none without a width for the place, or if the
cell is wider. -/
def padding? (widths : List Nat) (i : Nat) (c : Cell) : Option String :=
  match widths[i]? with
  | some w => if displayWidth c.text ≤ w then some (padding w c.text) else none
  | none => none

/-- What is written for the cells of a row from a place on, the row having so many cells. -/
def writesFrom? (render : Cell → List Write) (widths : List Nat) (count : Nat) :
    Nat → List Cell → Option (List Write)
  | _, [] => some []
  | i, c :: cs =>
    if i + 1 < count then do
      let gap ← padding? widths i c
      let rest ← writesFrom? render widths count (i + 1) cs
      return render c ++ .text gap :: rest
    else do
      let rest ← writesFrom? render widths count (i + 1) cs
      return render c ++ rest

/-- What is written for a row. -/
def rowWrites? (render : Cell → List Write) (widths : List Nat) (row : List Cell) :
    Option (List Write) :=
  writesFrom? render widths row.length 0 row

/-- A list of writes, read in one way or the other. -/
def readAs (read : Write → String) (writes : List Write) : String := String.join (writes.map read)

theorem readAs_append (read : Write → String) (writes writes' : List Write) :
    readAs read (writes ++ writes') = readAs read writes ++ readAs read writes' := by
  simp [readAs, String.join_append]

theorem readAs_cons (read : Write → String) (write : Write) (writes : List Write) :
    readAs read (write :: writes) = read write ++ readAs read writes := by
  simp [readAs]

theorem readAs_sent_inColour (colour : Colour) (s : String) :
    readAs Write.sent (inColour colour s) = coloured colour s := by
  simp [readAs, Write.sent, inColour, coloured, String.append_assoc]

theorem readAs_seen_inColour (colour : Colour) (s : String) :
    readAs Write.seen (inColour colour s) = s := by
  simp [readAs, Write.seen, inColour]

theorem readAs_sent_writes (c : Cell) : readAs Write.sent c.writes = c.shown := by
  unfold Cell.writes Cell.shown
  cases c.colour with
  | none => simp [readAs, Write.sent]
  | some colour => exact readAs_sent_inColour colour c.text

theorem readAs_seen_writes (c : Cell) : readAs Write.seen c.writes = c.text := by
  unfold Cell.writes
  cases c.colour with
  | none => simp [readAs, Write.seen]
  | some colour => exact readAs_seen_inColour colour c.text

/-- **Writing a row.** If there is a width for every cell that the cell does not exceed, nothing
fails, and what is written can be read as a row whose cells are read the same way. -/
theorem writesFrom?_eq_some (render : Cell → List Write) {widths : List Nat} {i : Nat}
    {cells : List Cell} (h : Fits (widths.drop i) cells) :
    ∃ writes, writesFrom? render widths (i + cells.length) i cells = some writes ∧
      ∀ read : Write → String, (∀ s, read (.text s) = s) →
        readAs read writes = layRow (fun c => readAs read (render c)) (widths.drop i) cells := by
  induction cells generalizing i with
  | nil => exact ⟨[], rfl, fun _ _ => rfl⟩
  | cons c cs ih =>
    obtain ⟨w, ws, hwidths, hle, hrest⟩ := fits_cons_iff.mp h
    have hnext : widths.drop (i + 1) = ws := by
      rw [← List.tail_drop, hwidths, List.tail_cons]
    obtain ⟨rest, hwrites, hread⟩ := ih (i := i + 1) (by rwa [hnext])
    have hcount : i + (c :: cs).length = i + 1 + cs.length := by
      rw [List.length_cons]
      omega
    rw [hnext] at hread
    rw [hwidths]
    cases cs with
    | nil =>
      cases hwrites
      refine ⟨render c ++ [], ?_, ?_⟩
      · simp [writesFrom?]
      · intro read _
        rw [List.append_nil]
        rfl
    | cons d cs =>
      have hgap : padding? widths i c = some (padding w c.text) := by
        have hwidth : widths[i]? = some w := by
          rw [← Nat.add_zero i, ← List.getElem?_drop, hwidths]
          rfl
        simp only [padding?, hwidth, if_pos hle]
      have hmore : i + 1 < i + (c :: d :: cs).length := by
        simp
      refine ⟨render c ++ .text (padding w c.text) :: rest, ?_, ?_⟩
      · rw [writesFrom?, if_pos hmore, hgap, hcount, hwrites]
        rfl
      · intro read htext
        rw [readAs_append, readAs_cons, htext, hread read htext, layRow, String.append_assoc]

theorem rowWrites?_eq_some (render : Cell → List Write) {widths : List Nat} {row : List Cell}
    (h : Fits widths row) :
    ∃ writes, rowWrites? render widths row = some writes ∧
      ∀ read : Write → String, (∀ s, read (.text s) = s) →
        readAs read writes = layRow (fun c => readAs read (render c)) widths row := by
  have hwrites := writesFrom?_eq_some render (i := 0) h
  rwa [Nat.zero_add] at hwrites

/-! ### What is written for a table -/

/-- What the plain lines of a table are put together from. -/
def Table.plainWrites? (t : Table) : Option (List (List Write)) :=
  (t.headerRow :: t.rows).mapM (rowWrites? Cell.plainWrites t.columnWidths)

/-- What is written when a table is printed: the headers, all in one colour, and then the rows. -/
def Table.printedWrites? (t : Table) : Option (List (List Write)) := do
  let header ← rowWrites? (fun c => inColour .darkGrey c.text) t.columnWidths t.headerRow
  let rows ← t.rows.mapM (rowWrites? Cell.writes t.columnWidths)
  return header :: rows

theorem mapM_rowWrites?_eq_some (render : Cell → List Write) (widths : List Nat)
    {rows : List (List Cell)} (h : ∀ r ∈ rows, Fits widths r) :
    ∃ writes, rows.mapM (rowWrites? render widths) = some writes ∧
      ∀ read : Write → String, (∀ s, read (.text s) = s) →
        writes.map (readAs read) = rows.map (layRow (fun c => readAs read (render c)) widths) := by
  induction rows with
  | nil => exact ⟨[], rfl, fun _ _ => rfl⟩
  | cons r rows ih =>
    obtain ⟨hfirst, hrest⟩ := List.forall_mem_cons.mp h
    obtain ⟨first, hwrites, hread⟩ := rowWrites?_eq_some render hfirst
    obtain ⟨rest, hwrites', hread'⟩ := ih hrest
    refine ⟨first :: rest, ?_, ?_⟩
    · rw [List.mapM_cons, hwrites, hwrites']
      rfl
    · intro read htext
      rw [List.map_cons, List.map_cons, hread read htext, hread' read htext]

section Table

variable (t : Table)

theorem Table.plainWrites?_eq_some :
    ∃ plain, t.plainWrites? = some plain ∧ plain.map (readAs Write.sent) = t.fullLines := by
  obtain ⟨plain, hplain, hread⟩ := mapM_rowWrites?_eq_some Cell.plainWrites
    t.columnWidths (fun _ hr => fits_columnWidths hr)
  refine ⟨plain, hplain, ?_⟩
  rw [hread Write.sent (fun _ => rfl)]
  simp [Table.fullLines, Cell.plainWrites, readAs, Write.sent]

/-- What is printed is what is written, and what is seen of it are the plain lines. -/
theorem Table.printedWrites?_eq_some :
    ∃ printed, t.printedWrites? = some printed ∧
      String.join ((printed.map (readAs Write.sent)).map line) = t.printed ∧
      printed.map (readAs Write.seen) = t.fullLines := by
  obtain ⟨header, hheader, hread⟩ := rowWrites?_eq_some
    (fun c => inColour .darkGrey c.text) (fits_columnWidths (t := t) List.mem_cons_self)
  obtain ⟨rows, hrows, hread'⟩ := mapM_rowWrites?_eq_some Cell.writes
    t.columnWidths (fun _ hr => fits_columnWidths (List.mem_cons_of_mem t.headerRow hr))
  refine ⟨header :: rows, ?_, ?_, ?_⟩
  · rw [Table.printedWrites?, hheader, hrows]
    rfl
  · rw [List.map_cons, hread Write.sent (fun _ => rfl), hread' Write.sent (fun _ => rfl)]
    simp only [readAs_sent_inColour, readAs_sent_writes]
    rfl
  · rw [List.map_cons, hread Write.seen (fun _ => rfl), hread' Write.seen (fun _ => rfl)]
    simp only [readAs_seen_inColour, readAs_seen_writes]
    rfl

end Table

/-! ### Where cells begin -/

/-- The cells and paddings of a row that are placed before the cell at a place. -/
def placedBefore (widths : List Nat) (row : List Cell) (i : Nat) : List String :=
  ((row.zip widths).take i).flatMap (fun p => [p.1.text, padding p.2 p.1.text])

/-- The columns before the cell at a place, if the cells begin one below the other. -/
def columnsBefore (widths : List Nat) (i : Nat) : Nat := ((widths.take i).map (· + columnGap)).sum

section Places

variable {widths : List Nat} {row : List Cell} {c : Cell} {i w : Nat}

theorem placedBefore_zero (widths : List Nat) (row : List Cell) :
    placedBefore widths row 0 = [] := rfl

theorem placedBefore_succ (w : Nat) (ws : List Nat) (c : Cell) (cs : List Cell) (i : Nat) :
    placedBefore (w :: ws) (c :: cs) (i + 1) =
      c.text :: padding w c.text :: placedBefore ws cs i := rfl

theorem columnsBefore_succ (w : Nat) (ws : List Nat) (i : Nat) :
    columnsBefore (w :: ws) (i + 1) = w + columnGap + columnsBefore ws i := by
  simp [columnsBefore]

theorem layRow_eq_placedBefore (h : Fits widths row) (hc : row[i]? = some c) :
    ∃ behind, layRow Cell.text widths row =
      String.join (placedBefore widths row i) ++ c.text ++ behind := by
  induction row generalizing widths i with
  | nil => cases hc
  | cons d ds ih =>
    obtain ⟨w, ws, rfl, hle, hrest⟩ := fits_cons_iff.mp h
    cases i with
    | zero =>
      obtain rfl : d = c := by simpa using hc
      rw [placedBefore_zero, String.join_nil, String.empty_append]
      cases ds with
      | nil => exact ⟨"", String.append_empty.symm⟩
      | cons e es => exact ⟨padding w d.text ++ layRow Cell.text ws (e :: es), String.append_assoc⟩
    | succ i =>
      obtain ⟨behind, hbehind⟩ := ih hrest hc
      cases ds with
      | nil => cases hc
      | cons e es =>
        refine ⟨behind, ?_⟩
        rw [layRow, hbehind, placedBefore_succ]
        simp only [String.join_cons, String.append_assoc]

theorem displayWidth_spaces (n : Nat) : displayWidth (spaces n) = n := by
  have hspaces := columns_replicate_append steady_space n []
  have hnil : columns [] = 0 := rfl
  rw [List.append_nil, hnil] at hspaces
  simpa [displayWidth, spaces] using hspaces

theorem sum_placedBefore (h : Fits widths row) (hi : i ≤ row.length) :
    ((placedBefore widths row i).map displayWidth).sum = columnsBefore widths i := by
  induction row generalizing widths i with
  | nil =>
    obtain rfl : i = 0 := Nat.le_zero.mp hi
    rfl
  | cons d ds ih =>
    obtain ⟨w, ws, rfl, hle, hrest⟩ := fits_cons_iff.mp h
    cases i with
    | zero => rfl
    | succ i =>
      have hlater := ih hrest (Nat.le_of_succ_le_succ hi)
      have hpadding : displayWidth (padding w d.text) = w - displayWidth d.text + columnGap :=
        displayWidth_spaces _
      rw [placedBefore_succ, columnsBefore_succ, List.map_cons, List.map_cons, List.sum_cons,
        List.sum_cons, hlater, hpadding]
      omega

/-- A cell, its padding and what comes behind it are not drawn together. -/
theorem displayWidth_padded (h : displayWidth c.text ≤ w) (s : String) :
    displayWidth (c.text ++ padding w c.text ++ s) = w + columnGap + displayWidth s := by
  -- the first space of the padding keeps the cell apart, and each other one takes a column
  have hlist : (c.text ++ padding w c.text ++ s).toList =
      c.text.toList ++ ' ' :: (List.replicate (w - displayWidth c.text + 1) ' ' ++ s.toList) := by
    simp [padding, spaces, columnGap, List.replicate_succ]
  have hpadded := columns_append_cons steady_space c.text.toList
    (List.replicate (w - displayWidth c.text + 1) ' ' ++ s.toList)
  rw [columns_replicate_append steady_space, ← hlist] at hpadded
  unfold columnGap
  unfold displayWidth at *
  omega

/-- All that is placed before a cell is as wide as the columns and gaps before it. -/
theorem displayWidth_placedBefore (h : Fits widths row) (hi : i ≤ row.length) :
    displayWidth (String.join (placedBefore widths row i)) = columnsBefore widths i := by
  induction row generalizing widths i with
  | nil =>
    obtain rfl : i = 0 := Nat.le_zero.mp hi
    rfl
  | cons d ds ih =>
    obtain ⟨w, ws, rfl, hle, hrest⟩ := fits_cons_iff.mp h
    cases i with
    | zero => rfl
    | succ i =>
      rw [placedBefore_succ, columnsBefore_succ, String.join_cons, String.join_cons,
        ← String.append_assoc, displayWidth_padded hle, ih hrest (Nat.le_of_succ_le_succ hi)]

end Places

/-! ### Tables -/

/-- A text without the blanks at its end. -/
def trimmedEnd (s : String) : String := String.ofList (trimEnd s.toList)

end SandboxClient.Terminal
