/-
  SandboxClient/Proofs/Json/Strings.lean
  ======================================
  **Strings that are told apart.** What is written for a character of a string is
  the character, or a backslash and what names it, and it never begins what is
  written for another one. So it is told by the writing which string was written.
-/
import SandboxClient.Json.Written

namespace SandboxClient.Json

/-- The characters that are not written as they are. -/
def escapedChars : List Char := '"' :: '\\' :: (List.range 0x20).map Char.ofNat

section Characters

variable {c d : Char}

theorem mem_escapedChars_of_lt (h : c.toNat < 0x20) : c ∈ escapedChars := by
  refine List.mem_cons_of_mem _ (List.mem_cons_of_mem _ (List.mem_map.mpr ?_))
  exact ⟨c.toNat, List.mem_range.mpr h, Char.ofNat_toNat c⟩

theorem escapeChar_of_not_mem (h : c ∉ escapedChars) : escapeChar c = [c] := by
  unfold escapeChar
  split
  case h_8 =>
    rw [if_neg]
    intro hlow
    exact h (mem_escapedChars_of_lt hlow)
  all_goals exact absurd (by decide) h

theorem escapeChar_of_mem (h : c ∈ escapedChars) :
    ∃ x name, escapeChar c = '\\' :: x :: name := by
  have hall : escapedChars.all
      (fun c => (escapeChar c).head? == some '\\' && 2 ≤ (escapeChar c).length) = true := by
    decide +kernel
  have hc := List.all_eq_true.mp hall c h
  rw [Bool.and_eq_true, beq_iff_eq, decide_eq_true_eq] at hc
  obtain ⟨hhead, hlength⟩ := hc
  match hc : escapeChar c with
  | [] => simp [hc] at hhead
  | [x] => simp [hc] at hlength
  | y :: x :: name =>
    obtain rfl : y = '\\' := by simpa [hc] using hhead
    exact ⟨x, name, rfl⟩

/-- What is written for a character does not begin what is written for another one. -/
theorem eq_of_escapeChar_begins (h : escapeChar c <+: escapeChar d) : c = d := by
  by_cases hc : c ∈ escapedChars
  · by_cases hd : d ∈ escapedChars
    · have hall : escapedChars.all (fun c => escapedChars.all
          (fun d => !(escapeChar c).isPrefixOf (escapeChar d) || c == d)) = true := by
        decide +kernel
      have hpair := List.all_eq_true.mp (List.all_eq_true.mp hall c hc) d hd
      rw [List.isPrefixOf_iff_prefix.mpr h] at hpair
      exact beq_iff_eq.mp hpair
    · obtain ⟨x, name, hname⟩ := escapeChar_of_mem hc
      have hlength := h.length_le
      rw [hname, escapeChar_of_not_mem hd] at hlength
      simp at hlength
  · rw [escapeChar_of_not_mem hc] at h
    by_cases hd : d ∈ escapedChars
    · obtain ⟨x, name, hname⟩ := escapeChar_of_mem hd
      rw [hname] at h
      obtain ⟨rest, hrest⟩ := h
      rw [(List.cons.inj hrest).1] at hc
      exact absurd (by decide) hc
    · rw [escapeChar_of_not_mem hd] at h
      obtain ⟨rest, hrest⟩ := h
      exact (List.cons.inj hrest).1

theorem escapeChar_ne_nil (c : Char) : escapeChar c ≠ [] := by
  by_cases hc : c ∈ escapedChars
  · obtain ⟨x, name, hname⟩ := escapeChar_of_mem hc
    rw [hname]
    exact List.cons_ne_nil _ _
  · rw [escapeChar_of_not_mem hc]
    exact List.cons_ne_nil _ _

end Characters

theorem flatMap_escapeChar_injective :
    Function.Injective (fun s : List Char => s.flatMap escapeChar) := by
  intro s t h
  induction s generalizing t with
  | nil =>
    cases t with
    | nil => rfl
    | cons d t => simp [escapeChar_ne_nil] at h
  | cons c s ih =>
    cases t with
    | nil => simp [escapeChar_ne_nil] at h
    | cons d t =>
      simp only [List.flatMap_cons] at h
      have hsame : c = d := by
        rcases List.append_eq_append_iff.mp h with ⟨more, hmore, -⟩ | ⟨more, hmore, -⟩
        · exact eq_of_escapeChar_begins ⟨more, hmore.symm⟩
        · exact (eq_of_escapeChar_begins ⟨more, hmore.symm⟩).symm
      subst hsame
      rw [ih (List.append_cancel_left h)]

/-- A string can be read off its writing. -/
theorem stringText_injective : Function.Injective stringText := by
  intro s t h
  unfold stringText at h
  have hchars := List.append_cancel_right (List.cons.inj h).2
  exact String.toList_injective (flatMap_escapeChar_injective hchars)

end SandboxClient.Json
