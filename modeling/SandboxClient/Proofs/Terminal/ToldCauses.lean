/-
  SandboxClient/Proofs/Terminal/ToldCauses.lean
  =============================================
  **What an error message tells.** The message of an error is followed by its
  causes, one block for each that is told. Whether a cause is told depends on the
  whole text for the messages before it, in which it may stand by chance, across
  the bounds of blocks. All the same every cause stands in the text at last, and
  none is told twice (`causes_told_once`).
-/
import Mathlib.Data.List.Induction
import SandboxClient.Terminal.Message
import SandboxClient.Proofs.Text.Found

namespace SandboxClient.Terminal

open SandboxClient.Text (StandsIn standsIn_iff standsIn_self)

/-- The block of a cause. -/
def causeBlock (c : String) : String := "\n\nCaused by: " ++ c

/-- The causes that are told, each with its place in the chain: those that do not stand in the text
for the messages before them. -/
def told (m : String) (causes : List String) : List (String × Nat) :=
  causes.zipIdx.filter (fun p => ¬ StandsIn p.1 (errorMessage (m :: causes.take p.2)))

section Chain

variable {m c : String} {causes : List String} {i : Nat}

/-! ### One more cause -/

theorem errorMessage_append_singleton (m : String) (causes : List String) (c : String) :
    errorMessage (m :: (causes ++ [c])) =
      if StandsIn c (errorMessage (m :: causes)) then errorMessage (m :: causes)
      else errorMessage (m :: causes) ++ causeBlock c := by
  simp only [errorMessage, List.foldl_append, List.foldl_cons, List.foldl_nil, standsIn_iff,
    causeBlock, String.append_assoc]

theorem told_append_singleton (m : String) (causes : List String) (c : String) :
    told m (causes ++ [c]) = told m causes ++
      if StandsIn c (errorMessage (m :: causes)) then [] else [(c, causes.length)] := by
  -- the messages before a cause are the same in a longer chain
  have hbefore : causes.zipIdx.filter
      (fun p => ¬ StandsIn p.1 (errorMessage (m :: (causes ++ [c]).take p.2))) = told m causes := by
    refine List.filter_congr ?_
    rintro ⟨d, i⟩ hd
    have hi : i < causes.length := by simpa using List.snd_lt_of_mem_zipIdx hd
    rw [List.take_append_of_le_length (Nat.le_of_lt hi)]
  have hlast : (causes ++ [c]).take causes.length = causes := List.take_left
  rw [told, List.zipIdx_append, List.filter_append, hbefore]
  congr 1
  simp only [List.zipIdx_singleton, Nat.zero_add, List.filter_cons, List.filter_nil, hlast]
  by_cases hc : StandsIn c (errorMessage (m :: causes)) <;> simp [hc]

/-! ### Chains

By induction from the end of the chain, one cause at a time. -/

theorem errorMessage_eq (m : String) (causes : List String) :
    errorMessage (m :: causes) =
      m ++ String.join ((told m causes).map (fun p => causeBlock p.1)) := by
  induction causes using List.reverseRecOn with
  | nil => exact String.append_empty.symm
  | append_singleton causes c ih =>
    rw [errorMessage_append_singleton, told_append_singleton]
    by_cases hc : StandsIn c (errorMessage (m :: causes))
    · rw [if_pos hc, if_pos hc, List.append_nil, ih]
    · rw [if_neg hc, if_neg hc, List.map_append, String.join_append, ← String.append_assoc, ← ih]
      simp

theorem mem_told : (c, i) ∈ told m causes ↔
    causes[i]? = some c ∧ ¬ StandsIn c (errorMessage (m :: causes.take i)) := by
  simp [told, List.mem_zipIdx_iff_getElem?]

/-- A message that stands in the text still does when more causes are told. -/
theorem standsIn_append_singleton (h : StandsIn c (errorMessage (m :: causes))) (d : String) :
    StandsIn c (errorMessage (m :: (causes ++ [d]))) := by
  rw [errorMessage_append_singleton]
  split
  · exact h
  · exact h.append _

theorem standsIn_errorMessage (h : c ∈ m :: causes) : StandsIn c (errorMessage (m :: causes)) := by
  induction causes using List.reverseRecOn with
  | nil =>
    rw [List.mem_singleton.mp h]
    exact standsIn_self m
  | append_singleton causes d ih =>
    rw [← List.cons_append, List.mem_append, List.mem_singleton] at h
    rcases h with h | rfl
    · exact standsIn_append_singleton (ih h) d
    · rw [errorMessage_append_singleton]
      by_cases hc : StandsIn c (errorMessage (m :: causes))
      · rwa [if_pos hc]
      · rw [if_neg hc]
        exact ((standsIn_self c).behind _).behind _

theorem nodup_told (m : String) (causes : List String) :
    ((told m causes).map Prod.fst).Nodup := by
  induction causes using List.reverseRecOn with
  | nil => exact List.nodup_nil
  | append_singleton causes c ih =>
    rw [told_append_singleton, List.map_append]
    by_cases hc : StandsIn c (errorMessage (m :: causes))
    · rwa [if_pos hc, List.map_nil, List.append_nil]
    · rw [if_neg hc, List.map_singleton]
      -- a cause that was told before would stand in the text
      refine List.nodup_append.mpr ⟨ih, by simp, ?_⟩
      intro d hd e he hde
      obtain ⟨⟨d', i⟩, htold, hd'⟩ := List.mem_map.mp hd
      obtain rfl : d' = c := hd'.trans (hde.trans (List.mem_singleton.mp he))
      exact hc (standsIn_errorMessage (List.mem_cons_of_mem m
        (List.mem_of_getElem? (mem_told.mp htold).1)))

end Chain

/-- **What an error message tells.** The text is the outermost message and a block for each cause
that is told, in the order of the chain. A cause is told exactly if it does not stand in the text
for the messages before it. No cause is told twice, and every message of the chain stands in the
text. -/
theorem causes_told_once (m : String) (causes : List String) :
    errorMessage (m :: causes) =
        m ++ String.join ((told m causes).map (fun p => causeBlock p.1)) ∧
      (told m causes).Sublist causes.zipIdx ∧
      (∀ (c : String) (i : Nat), (c, i) ∈ told m causes ↔
        causes[i]? = some c ∧ ¬ StandsIn c (errorMessage (m :: causes.take i))) ∧
      ((told m causes).map Prod.fst).Nodup ∧
      ∀ c ∈ m :: causes, StandsIn c (errorMessage (m :: causes)) := by
  refine ⟨errorMessage_eq m causes, List.filter_sublist, fun c i => mem_told,
    nodup_told m causes, fun c hc => standsIn_errorMessage hc⟩

/-- A cause that stands in the text only across two blocks is not told. -/
example : errorMessage ["save failed", "disk full", "full\n\nCaused by: quota", "quota",
    "disk full\n\nCaused by: full"] =
      "save failed\n\nCaused by: disk full\n\nCaused by: full\n\nCaused by: quota" := by
  decide +kernel

end SandboxClient.Terminal
