/-
  SandboxClient/Proofs/Text/Found.lean
  ====================================
  **Searching in texts.** One text is found in another where that is what stands
  before it, the text itself and what stands after it. A text is split at the
  first character of a kind, so text before which none stands does not change
  where.
-/
import Mathlib.Data.List.TakeDrop
import Mathlib.Data.List.TakeWhile
import SandboxClient.Text.Blank

namespace SandboxClient.Text

/-! ### Parts of a text -/

theorem occursIn_iff {part s : List Char} : occursIn part s = true ↔ part <:+: s := by
  induction s with
  | nil => rw [occursIn, List.isEmpty_iff, List.infix_nil]
  | cons c s ih =>
    rw [occursIn, Bool.or_eq_true, List.isPrefixOf_iff_prefix, ih, List.infix_cons_iff]

/-- A text stands somewhere in another one. -/
def StandsIn (part text : String) : Prop := ∃ before after, text = before ++ part ++ after

section Parts

variable {part text : String}

theorem standsIn_iff : StandsIn part text ↔ occursIn part.toList text.toList = true := by
  rw [occursIn_iff]
  constructor
  · rintro ⟨before, after, rfl⟩
    exact ⟨before.toList, after.toList, by simp only [String.toList_append]⟩
  · rintro ⟨before, after, h⟩
    refine ⟨String.ofList before, String.ofList after, String.toList_injective ?_⟩
    simp only [String.toList_append, String.toList_ofList, h]

instance : Decidable (StandsIn part text) := decidable_of_iff _ standsIn_iff.symm

theorem standsIn_self (text : String) : StandsIn text text :=
  ⟨"", "", by rw [String.empty_append, String.append_empty]⟩

theorem StandsIn.append (h : StandsIn part text) (s : String) : StandsIn part (text ++ s) := by
  obtain ⟨before, after, rfl⟩ := h
  exact ⟨before, after ++ s, String.append_assoc⟩

theorem StandsIn.behind (h : StandsIn part text) (s : String) : StandsIn part (s ++ text) := by
  obtain ⟨before, after, rfl⟩ := h
  exact ⟨s ++ before, after, by simp only [String.append_assoc]⟩

end Parts

/-! ### Runs -/

section Runs

variable {p : Char → Bool} {xs ys : List Char}

/-- Text at which a run ends does not change the run before it. -/
theorem span_append (h : ∀ y ∈ ys.head?, p y = false) :
    (xs ++ ys).span p = ((xs.span p).1, (xs.span p).2 ++ ys) := by
  simp only [List.span_eq_takeWhile_dropWhile]
  induction xs with
  | nil =>
    cases ys with
    | nil => rfl
    | cons y ys => simp [h y rfl]
  | cons x xs ih =>
    cases hx : p x with
    | true => simpa [hx] using ih
    | false => simp [hx]

theorem span_of_forall (h : ∀ x ∈ xs, p x = true) : xs.span p = (xs, []) := by
  rw [List.span_eq_takeWhile_dropWhile, List.takeWhile_eq_self_iff.mpr h,
    List.dropWhile_eq_nil_iff.mpr h]

end Runs

/-! ### Splitting -/

section Splitting

variable {p : Char → Bool} {s a b : List Char} {d : Char}

theorem splitFirst_eq_none (h : ∀ c ∈ s, p c = false) : splitFirst p s = none := by
  have hrun : s.span (fun c => !p c) = (s, []) := span_of_forall (fun c hc => by rw [h c hc]; rfl)
  unfold splitFirst
  rw [hrun]

theorem splitFirst_append_cons (h : ∀ c ∈ a, p c = false) (hd : p d = true) :
    splitFirst p (a ++ d :: b) = some (a, b) := by
  have hrun : a.span (fun c => !p c) = (a, []) := span_of_forall (fun c hc => by rw [h c hc]; rfl)
  have hends : ∀ y ∈ (d :: b).head?, (!p y) = false := by
    rintro y ⟨⟩
    rw [hd]
    rfl
  unfold splitFirst
  rw [span_append hends, hrun, List.nil_append]

end Splitting

end SandboxClient.Text
