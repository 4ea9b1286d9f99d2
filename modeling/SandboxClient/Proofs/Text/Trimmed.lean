/-
  SandboxClient/Proofs/Text/Trimmed.lean
  ======================================
  **Texts without their ends.** What is dropped at the end of a text is the
  longest tail of one kind of characters, so the text is what is left and such a
  tail. A text without its surrounding blanks neither begins nor ends with one,
  so trimming it once more changes nothing.
-/
import Mathlib.Data.List.TakeWhile
import SandboxClient.Text.Blank

namespace SandboxClient.Text

section Tails

variable {p : Char → Bool} {c : Char}

theorem dropTail_append (s w : List Char) :
    dropTail p (s ++ w) = if dropTail p w = [] then dropTail p s else s ++ dropTail p w := by
  simp only [dropTail, List.reverse_append, List.dropWhile_append, List.isEmpty_iff,
    List.reverse_eq_nil_iff]
  split
  · rfl
  · simp

theorem exists_dropTail (p : Char → Bool) (s : List Char) :
    ∃ y, s = dropTail p s ++ y ∧ ∀ c ∈ y, p c = true := by
  refine ⟨(s.reverse.takeWhile p).reverse, ?_, ?_⟩
  · rw [dropTail, ← List.reverse_append, List.takeWhile_append_dropWhile, List.reverse_reverse]
  · intro c hc
    exact List.all_eq_true.mp List.all_takeWhile c (List.mem_reverse.mp hc)

theorem exists_dropWhile (p : Char → Bool) (s : List Char) :
    ∃ y, s = y ++ s.dropWhile p ∧ ∀ c ∈ y, p c = true :=
  ⟨s.takeWhile p, List.takeWhile_append_dropWhile.symm, List.all_eq_true.mp List.all_takeWhile⟩

theorem head?_dropTail {s : List Char} (hc : c ∈ (dropTail p s).head?) : c ∈ s.head? := by
  obtain ⟨y, hy, -⟩ := exists_dropTail p s
  rw [hy, List.head?_append, Option.mem_def.mp hc]
  rfl

theorem head?_dropWhile {s : List Char} (hc : c ∈ (s.dropWhile p).head?) : p c = false := by
  have hhead := List.head?_dropWhile_not p s
  rw [Option.mem_def.mp hc] at hhead
  simpa using hhead

theorem mem_dropWhile {s : List Char} (hc : c ∈ s) (hp : p c = false) : c ∈ s.dropWhile p := by
  obtain ⟨y, hy, hdropped⟩ := exists_dropWhile p s
  rw [hy] at hc
  rcases List.mem_append.mp hc with hc | hc
  · rw [hdropped c hc] at hp
    cases hp
  · exact hc

theorem mem_dropTail {s : List Char} (hc : c ∈ s) (hp : p c = false) : c ∈ dropTail p s :=
  List.mem_reverse.mpr (mem_dropWhile (List.mem_reverse.mpr hc) hp)

theorem dropWhile_of_head? {s : List Char} (h : ∀ c ∈ s.head?, p c = false) :
    s.dropWhile p = s := by
  cases s with
  | nil => rfl
  | cons c s => exact List.dropWhile_cons_of_neg (by simp [h c rfl])

theorem dropTail_of_getLast? {s : List Char} (h : ∀ c ∈ s.getLast?, p c = false) :
    dropTail p s = s := by
  rw [dropTail, dropWhile_of_head?, List.reverse_reverse]
  rwa [List.head?_reverse]

/-- A tail of the kind that is dropped goes, and no more where what is before it ends otherwise. -/
theorem dropTail_append_of_forall {s w : List Char} (hw : ∀ c ∈ w, p c = true)
    (hs : ∀ c ∈ s.getLast?, p c = false) : dropTail p (s ++ w) = s := by
  have htail : dropTail p w = [] := by
    rw [dropTail, List.reverse_eq_nil_iff, List.dropWhile_eq_nil_iff]
    simpa using hw
  rw [dropTail_append, if_pos htail, dropTail_of_getLast? hs]

theorem getLast?_dropTail {s : List Char} (hc : c ∈ (dropTail p s).getLast?) : p c = false := by
  rw [dropTail, List.getLast?_reverse] at hc
  exact head?_dropWhile hc

end Tails

/-! ### Surrounding blanks

A text is what is left of it, between blanks; the pieces are unique. -/

section Trimming

variable {s : List Char} {c : Char}

theorem head?_trim (hc : c ∈ (trim s).head?) : isBlank c = false :=
  head?_dropWhile (head?_dropTail hc)

theorem getLast?_trim (hc : c ∈ (trim s).getLast?) : isBlank c = false :=
  getLast?_dropTail hc

theorem mem_trim (hc : c ∈ s) (hblank : isBlank c = false) : c ∈ trim s :=
  mem_dropTail (mem_dropWhile hc hblank) hblank

/-- A text is what is left of it between two texts of blanks. -/
theorem exists_trim (s : List Char) : ∃ before after, s = before ++ trim s ++ after ∧
    (∀ c ∈ before, isBlank c = true) ∧ ∀ c ∈ after, isBlank c = true := by
  obtain ⟨before, hbefore, hblank⟩ := exists_dropWhile isBlank s
  obtain ⟨after, hafter, hblank'⟩ := exists_dropTail isBlank (s.dropWhile isBlank)
  refine ⟨before, after, ?_, hblank, hblank'⟩
  rw [List.append_assoc]
  exact hbefore.trans (congrArg (before ++ ·) hafter)

theorem trim_of_ends (hhead : ∀ c ∈ s.head?, isBlank c = false)
    (hlast : ∀ c ∈ s.getLast?, isBlank c = false) : trim s = s := by
  rw [trim, trimStart, dropWhile_of_head? hhead]
  exact dropTail_of_getLast? hlast

theorem trim_append_append {before after : List Char} (hbefore : ∀ c ∈ before, isBlank c = true)
    (hhead : ∀ c ∈ s.head?, isBlank c = false) (hlast : ∀ c ∈ s.getLast?, isBlank c = false)
    (hafter : ∀ c ∈ after, isBlank c = true) : trim (before ++ s ++ after) = s := by
  cases s with
  | nil =>
    have hall : (before ++ [] ++ after).dropWhile isBlank = [] := by
      rw [List.dropWhile_eq_nil_iff]
      simpa [or_imp, forall_and] using ⟨hbefore, hafter⟩
    rw [trim, trimStart, hall]
    rfl
  | cons x s =>
    have hstart : trimStart (before ++ (x :: s) ++ after) = (x :: s) ++ after := by
      rw [trimStart, List.append_assoc, List.dropWhile_append_of_pos hbefore]
      exact dropWhile_of_head? hhead
    rw [trim, hstart]
    exact dropTail_append_of_forall hafter hlast

theorem trim_sublist (s : List Char) : (trim s).Sublist s := by
  obtain ⟨before, after, hs, -⟩ := exists_trim s
  have hmiddle : (trim s).Sublist (before ++ trim s ++ after) :=
    (List.sublist_append_right before _).trans (List.sublist_append_left _ after)
  rwa [← hs] at hmiddle

theorem trim_trim (s : List Char) : trim (trim s) = trim s :=
  trim_of_ends (fun _ => head?_trim) (fun _ => getLast?_trim)

/-- A blank at the end makes no difference. -/
theorem trim_concat (hblank : isBlank c = true) (s : List Char) : trim (s ++ [c]) = trim s := by
  obtain ⟨before, after, hs, hbefore, hafter⟩ := exists_trim s
  have hends : s ++ [c] = before ++ trim s ++ (after ++ [c]) := by
    rw [← List.append_assoc, ← hs]
  rw [hends]
  refine trim_append_append hbefore (fun _ => head?_trim) (fun _ => getLast?_trim) ?_
  intro x hx
  rcases List.mem_append.mp hx with hx | hx
  · exact hafter x hx
  · rw [List.mem_singleton.mp hx]
    exact hblank

theorem isBlankText_trimmed (s : String) : isBlankText (trimmed s) = isBlankText s := by
  rw [isBlankText, trimmed, String.toList_ofList, trim_trim]
  rfl

end Trimming

end SandboxClient.Text
