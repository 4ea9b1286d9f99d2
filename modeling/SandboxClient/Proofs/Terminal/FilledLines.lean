/-
  SandboxClient/Proofs/Terminal/FilledLines.lean
  ==============================================
  **How words fill lines.** A line is begun with a word and takes words as long as
  they fit behind a space. `lineWords` puts the words of a text on lines without
  writing the lines down, and writing them down gives what `fill` gives. A word is
  never empty and has no blank in it, also when it has been cut off, so the words
  of a line can be read from it again, and no line that is begun is taken for an
  empty one (`wrapped_lines_filled`).
-/
import SandboxClient.Proofs.Terminal.Wrapped
import Mathlib.Algebra.GroupWithZero.Nat
import Mathlib.Data.List.Chain

namespace SandboxClient.Text

/-! ### Words in a text -/

/-- A text that is one word. -/
def IsWord (w : List Char) : Prop := w ≠ [] ∧ ∀ c ∈ w, isBlank c = false

theorem isWord_of_mem_words {s w : List Char} (h : w ∈ words s) : IsWord w :=
  ⟨(mem_words h).1, fun c hc => ((mem_words h).2 c hc).2⟩

theorem words_append_blank {c : Char} (hc : isBlank c = true) (s t : List Char) :
    words (s ++ c :: t) = words s ++ words t := by
  unfold words
  rw [List.splitOnP_append_cons s t hc, List.filter_append]

theorem IsWord.words_eq {w : List Char} (h : IsWord w) : words w = [w] := by
  unfold words
  rw [List.splitOnP_eq_singleton h.2]
  simp [h.1]

end SandboxClient.Text

namespace SandboxClient.Terminal

open SandboxClient.Text

/-! ### Words on one line -/

/-- Words on one line, with a space between them. -/
def joined (ws : List (List Char)) : List Char := [' '].intercalate ws

/-- The columns of words on one line, and of the spaces between them. -/
def joinedColumns (ws : List (List Char)) : Nat := (ws.map columns).sum + (ws.length - 1)

section Joined

variable {ws : List (List Char)} {w : List Char}

theorem joined_cons_cons (w v : List Char) (ws : List (List Char)) :
    joined (w :: v :: ws) = w ++ ' ' :: joined (v :: ws) := by
  simp [joined, List.intercalate_cons_cons]

theorem joined_append_singleton (h : ws ≠ []) (w : List Char) :
    joined (ws ++ [w]) = joined ws ++ ' ' :: w := by
  induction ws with
  | nil => exact absurd rfl h
  | cons v ws ih =>
    cases ws with
    | nil => simp [joined]
    | cons u ws =>
      have hlater := ih (List.cons_ne_nil u ws)
      rw [List.cons_append] at hlater
      rw [List.cons_append, List.cons_append, joined_cons_cons, hlater, joined_cons_cons]
      simp

theorem joinedColumns_append_singleton (h : ws ≠ []) (w : List Char) :
    joinedColumns (ws ++ [w]) = joinedColumns ws + (1 + columns w) := by
  have hpos := List.length_pos_iff.mpr h
  simp only [joinedColumns, List.map_append, List.sum_append, List.length_append, List.map_cons,
    List.map_nil, List.sum_singleton, List.length_singleton]
  omega

theorem columns_joined (ws : List (List Char)) : columns (joined ws) = joinedColumns ws := by
  induction ws with
  | nil => rfl
  | cons w ws ih =>
    cases ws with
    | nil => simp [joined, joinedColumns]
    | cons v ws =>
      rw [joined_cons_cons, columns_append_cons steady_space, ih]
      simp only [joinedColumns, List.map_cons, List.sum_cons, List.length_cons]
      omega

theorem joined_eq_nil_iff (h : ∀ w ∈ ws, IsWord w) : joined ws = [] ↔ ws = [] := by
  constructor
  · intro hnil
    cases ws with
    | nil => rfl
    | cons w ws =>
      have hw := (h w List.mem_cons_self).1
      cases ws with
      | nil => exact absurd hnil (by simpa [joined] using hw)
      | cons v ws => simp [joined_cons_cons] at hnil
  · rintro rfl
    rfl

/-- The words of a line are those that were put on it. -/
theorem words_joined (h : ∀ w ∈ ws, IsWord w) : words (joined ws) = ws := by
  induction ws with
  | nil => rfl
  | cons w ws ih =>
    have hw := h w List.mem_cons_self
    have hws := fun v hv => h v (List.mem_cons_of_mem w hv)
    cases ws with
    | nil => simpa [joined] using hw.words_eq
    | cons v ws =>
      rw [joined_cons_cons, words_append_blank (by decide), ih hws, hw.words_eq]
      rfl

end Joined

theorem isWord_truncateChars {w : List Char} (h : IsWord w) (width : Nat) :
    IsWord (truncateChars w width) := by
  unfold truncateChars
  split
  · exact h
  · refine ⟨by simp [dots], ?_⟩
    intro c hc
    rcases List.mem_append.mp hc with hc | hc
    · exact h.2 c ((cut_starts width 0 w).subset hc)
    · obtain rfl : c = '.' := by simpa [dots] using hc
      decide

/-! ### Words on lines

The lines as lists of words, by the recursion of `fill`, which only puts them together. -/

/-- The words on each line, after those on the line that is begun. -/
def lineWords (width : Nat) (begun : List (List Char)) :
    List (List Char) → List (List (List Char))
  | [] => [begun]
  | w :: ws =>
    if begun = [] then lineWords width [w] ws
    else if joinedColumns (begun ++ [w]) ≤ width then lineWords width (begun ++ [w]) ws
    else begun :: lineWords width [w] ws

section LineWords

variable {width : Nat} {begun ws : List (List Char)}

/-- Lines are filled with the words that belong on them; an empty line is one on which no word has
been put. -/
theorem fill_eq (hbegun : ∀ w ∈ begun, IsWord w) (hws : ∀ w ∈ ws, IsWord w) :
    fill width ⟨joined begun, joinedColumns begun⟩ ws = (lineWords width begun ws).map joined := by
  have hstart : ∀ w, (⟨w, columns w⟩ : Filling) = ⟨joined [w], joinedColumns [w]⟩ := by
    intro w
    simp [joined, joinedColumns]
  fun_induction lineWords width begun ws with
  | case1 begun => rfl
  | case2 w ws ih =>
    obtain ⟨hw, hws⟩ := List.forall_mem_cons.mp hws
    rw [← ih (by simpa using hw) hws, ← hstart]
    rfl
  | case3 begun w ws hempty hfits ih =>
    obtain ⟨hw, hws⟩ := List.forall_mem_cons.mp hws
    -- `fill` looks at the characters of the line that is begun, `lineWords` at its words
    have htext : ¬ (joined begun).isEmpty := by
      rwa [List.isEmpty_iff, joined_eq_nil_iff hbegun]
    have hnext := ih (List.forall_mem_append.mpr ⟨hbegun, by simpa using hw⟩) hws
    rw [joinedColumns_append_singleton hempty] at hfits hnext
    rw [← hnext, joined_append_singleton hempty, fill, if_neg htext, if_pos]
    rwa [Nat.add_assoc]
  | case4 begun w ws hempty hfull ih =>
    obtain ⟨hw, hws⟩ := List.forall_mem_cons.mp hws
    have htext : ¬ (joined begun).isEmpty := by
      rwa [List.isEmpty_iff, joined_eq_nil_iff hbegun]
    rw [joinedColumns_append_singleton hempty, ← Nat.add_assoc] at hfull
    rw [fill, if_neg htext, if_neg hfull, List.map_cons, hstart, ih (by simpa using hw) hws]

theorem flatten_lineWords (width : Nat) (begun ws : List (List Char)) :
    (lineWords width begun ws).flatten = begun ++ ws := by
  fun_induction lineWords width begun ws with
  | case1 begun => simp
  | case2 w ws ih => simpa using ih
  | case3 begun w ws hbegun hfits ih => simpa using ih
  | case4 begun w ws hbegun hfull ih => simp [ih]

/-- The first line takes words to those that it is begun with. -/
theorem lineWords_eq_cons (width : Nat) (begun ws : List (List Char)) :
    ∃ more rest, lineWords width begun ws = (begun ++ more) :: rest := by
  fun_induction lineWords width begun ws with
  | case1 begun => exact ⟨[], [], by simp⟩
  | case2 w ws ih =>
    obtain ⟨more, rest, hrest⟩ := ih
    exact ⟨w :: more, rest, hrest⟩
  | case3 begun w ws hbegun hfits ih =>
    obtain ⟨more, rest, hrest⟩ := ih
    exact ⟨w :: more, rest, by simpa using hrest⟩
  | case4 begun w ws hbegun hfull ih => exact ⟨[], lineWords width [w] ws, by simp⟩

/-- Once there is a word, there is one on every line. -/
theorem ne_nil_of_mem_lineWords (h : begun ++ ws ≠ []) :
    ∀ g ∈ lineWords width begun ws, g ≠ [] := by
  fun_induction lineWords width begun ws with
  | case1 begun => simpa using h
  | case2 w ws ih => exact ih (List.cons_ne_nil w ws)
  | case3 begun w ws hbegun hfits ih => exact ih (by simp)
  | case4 begun w ws hbegun hfull ih =>
    exact List.forall_mem_cons.mpr ⟨hbegun, ih (List.cons_ne_nil w ws)⟩

theorem lineWords_fits (h : 1 < begun.length → joinedColumns begun ≤ width) :
    ∀ g ∈ lineWords width begun ws, 1 < g.length → joinedColumns g ≤ width := by
  have hone : ∀ w, 1 < [w].length → joinedColumns [w] ≤ width := by
    intro w hlength
    exact absurd hlength (Nat.lt_irrefl 1)
  fun_induction lineWords width begun ws with
  | case1 begun => simpa using h
  | case2 w ws ih => exact ih (hone w)
  | case3 begun w ws hbegun hfits ih => exact ih (fun _ => hfits)
  | case4 begun w ws hbegun hfull ih => exact List.forall_mem_cons.mpr ⟨h, ih (hone w)⟩

/-- A line is ended only before a word that does not fit on it. -/
theorem lineWords_full (width : Nat) (begun ws : List (List Char)) :
    (lineWords width begun ws).IsChain
      (fun g next => ∀ w ∈ next.head?, width < joinedColumns g + 1 + columns w) := by
  fun_induction lineWords width begun ws with
  | case1 begun => exact .singleton begun
  | case2 w ws ih => exact ih
  | case3 begun w ws hbegun hfits ih => exact ih
  | case4 begun w ws hbegun hfull ih =>
    -- the next line is begun with the word that does not fit
    obtain ⟨more, rest, hrest⟩ := lineWords_eq_cons width [w] ws
    rw [joinedColumns_append_singleton hbegun] at hfull
    rw [hrest] at ih ⊢
    refine List.isChain_cons_cons.mpr ⟨?_, ih⟩
    intro v hv
    obtain rfl : w = v := by simpa using hv
    omega

end LineWords

/-! ### Filled lines -/

/-- Lines that words fill, one after the other. -/
structure Filled (width : Nat) (ws ls : List (List Char)) : Prop where
  /-- The words of the lines are the words, in order. -/
  words : ls.flatMap words = ws
  /-- Only single spaces stand between them. -/
  spaced : ∀ l ∈ ls, l = joined (Text.words l)
  /-- Without words there is one line, and it is empty. -/
  empty : ws = [] → ls = [[]]
  /-- With words there is one on each line. -/
  spoken : ws ≠ [] → ∀ l ∈ ls, Text.words l ≠ []
  /-- A line with several words fits. -/
  fits : ∀ l ∈ ls, 1 < (Text.words l).length → joinedColumns (Text.words l) ≤ width
  /-- A line is ended only before a word that would be too much for it behind a space. -/
  full : ls.IsChain (fun l next => ∀ w ∈ (Text.words next).head?,
    width < joinedColumns (Text.words l) + 1 + columns w)

theorem filled_fill (width : Nat) {ws : List (List Char)} (h : ∀ w ∈ ws, IsWord w) :
    Filled width ws (fill width ⟨[], 0⟩ ws) := by
  have hnone : ∀ w ∈ [], IsWord w := fun _ hw => absurd hw List.not_mem_nil
  have hlines : fill width ⟨[], 0⟩ ws = (lineWords width [] ws).map joined := fill_eq hnone h
  have hflatten : (lineWords width [] ws).flatten = ws := flatten_lineWords width [] ws
  have hwords : ∀ g ∈ lineWords width [] ws, words (joined g) = g := by
    intro g hg
    refine words_joined (fun w hw => h w ?_)
    rw [← hflatten]
    exact List.mem_flatten.mpr ⟨g, hg, hw⟩
  rw [hlines]
  refine ⟨?_, ?_, ?_, ?_, ?_, ?_⟩
  · rw [List.flatMap_map, List.flatMap_congr hwords]
    simpa using hflatten
  · rw [List.forall_mem_map]
    intro g hg
    rw [hwords g hg]
  · rintro rfl
    rfl
  · intro hne
    rw [List.forall_mem_map]
    intro g hg
    rw [hwords g hg]
    have hsome : [] ++ ws ≠ [] := hne
    exact ne_nil_of_mem_lineWords hsome g hg
  · rw [List.forall_mem_map]
    intro g hg
    rw [hwords g hg]
    exact lineWords_fits (by simp) g hg
  · rw [List.isChain_map]
    refine (lineWords_full width [] ws).imp_of_mem_imp ?_
    intro g next hg hnext hfull
    rwa [hwords g hg, hwords next hnext]

theorem Filled.ne_nil {width : Nat} {ws ls : List (List Char)} (h : Filled width ws ls) :
    ls ≠ [] := by
  rintro rfl
  have hempty := h.empty h.words.symm
  cases hempty

theorem filled_wrapLine (width : Nat) (l : List Char) :
    Filled width ((words l).map (truncateChars · width)) (wrapLine width l) := by
  apply filled_fill
  rw [List.forall_mem_map]
  intro w hw
  exact isWord_truncateChars (isWord_of_mem_words hw) width

/-- A text without lines is wrapped into one empty line, and any other into the lines that each of
its lines is wrapped into. -/
theorem wrapChars_eq (s : List Char) (width : Nat) :
    wrapChars s width =
      if lines s = [] then [[]] else (lines s).flatMap (wrapLine width) := by
  have hnone : (lines s).flatMap (wrapLine width) = [] ↔ lines s = [] := by
    rw [List.flatMap_eq_nil_iff]
    constructor
    · intro h
      apply List.eq_nil_iff_forall_not_mem.mpr
      intro l hl
      exact (filled_wrapLine width l).ne_nil (h l hl)
    · intro h l hl
      rw [h] at hl
      cases hl
  simp only [wrapChars, List.isEmpty_iff, hnone]

/-- **How a text is wrapped.** There is at least one line, and each line of the text has its own
lines. The words on these are the words of the line in order, each of them cut off where it is too
wide; a line without words leaves one empty line. A line with several words is no wider than asked
for, and a line is ended only before a word that would make it wider. Words and the spaces between
them are as wide as the line that they stand on. -/
theorem wrapped_lines_filled (s : String) (width : Nat) :
    wrap s width ≠ [] ∧
    wrap s width =
      (if lines s.toList = [] then [""]
      else (lines s.toList).flatMap (fun l => (wrapLine width l).map String.ofList)) ∧
    ∀ l, Filled width ((words l).map (truncateChars · width)) (wrapLine width l) ∧
      ∀ out ∈ wrapLine width l, columns out = joinedColumns (words out) := by
  have hwrap : wrap s width =
      (if lines s.toList = [] then [""]
      else (lines s.toList).flatMap (fun l => (wrapLine width l).map String.ofList)) := by
    unfold wrap
    rw [wrapChars_eq]
    split
    · rfl
    · rw [List.map_flatMap]
  refine ⟨?_, hwrap, ?_⟩
  · rw [hwrap]
    split
    · exact List.cons_ne_nil "" []
    · rename_i hlines
      obtain ⟨l, rest, hcons⟩ := List.exists_cons_of_ne_nil hlines
      rw [hcons, List.flatMap_cons]
      have hne := (filled_wrapLine width l).ne_nil
      simp [hne]
  · intro l
    have hfilled := filled_wrapLine width l
    refine ⟨hfilled, ?_⟩
    intro out hout
    rw [← columns_joined, ← hfilled.spaced out hout]

example : wrap "first line\n\nthird words here" 10 =
    ["first line", "", "third", "words here"] := by
  decide +kernel

end SandboxClient.Terminal
