/-
  SandboxClient/Proofs/Server/Runs.lean
  =====================================
  **Stores over whole runs.** A run is any finite sequence of operations with any
  arguments; an operation that has no result leaves the store as it is and the
  run goes on. A store is coherent when its entries are apart from each other
  and its key, unless it is empty, names one of them. Each operation keeps a
  store coherent, so every store that a run from the empty one leads to is.
-/
import SandboxClient.Proofs.Server.Operations

namespace SandboxClient.Server

/-! ### Runs

Operations that fail are part of a run and leave it where it was. -/

/-- A use of the store. -/
inductive Operation
  | add (e : Entry)
  | remove (key : String)
  | use (key : String)
  /-- Stores a login. -/
  | set (name url token : String)
  deriving DecidableEq, Repr

namespace Config

/-- The store after an operation, and why the operation had no result, if it had none. -/
def perform (c : Config) : Operation → Config × Option Conflict
  | .add e =>
    match c.add e with
    | .ok c' => (c', none)
    | .error conflict => (c, some conflict)
  | .remove key =>
    match c.remove key with
    | .ok (c', _) => (c', none)
    | .error conflict => (c, some conflict)
  | .use key =>
    match c.use key with
    | .ok (c', _) => (c', none)
    | .error conflict => (c, some conflict)
  | .set name url token => (c.set name url token, none)

/-- The store after a run. -/
def run (c : Config) (ops : List Operation) : Config :=
  ops.foldl (fun c op => (c.perform op).1) c

@[simp] theorem run_nil (c : Config) : c.run [] = c := rfl

@[simp] theorem run_cons (c : Config) (op : Operation) (ops : List Operation) :
    c.run (op :: ops) = (c.perform op).1.run ops := rfl

@[simp] theorem run_append_singleton (c : Config) (ops : List Operation) (op : Operation) :
    c.run (ops ++ [op]) = ((c.run ops).perform op).1 := by
  simp [run]

/-- What every operation keeps, every run keeps. -/
theorem run_keeps {P : Config → Prop} (step : ∀ c op, P c → P (c.perform op).1) {c : Config}
    (h : P c) (ops : List Operation) : P (c.run ops) := by
  induction ops generalizing c with
  | nil => exact h
  | cons op ops ih => exact ih (step c op h)

/-- An operation leaves the store as it is, or it does what its own statement says. -/
theorem perform_cases (c : Config) (op : Operation) :
    (c.perform op).1 = c ∨
    (∃ e, op = .add e ∧ c.add e = .ok (c.perform op).1) ∨
    (∃ key e, op = .remove key ∧ c.remove key = .ok ((c.perform op).1, e)) ∨
    (∃ key e, op = .use key ∧ c.use key = .ok ((c.perform op).1, e)) ∨
    (∃ name url token, op = .set name url token ∧ (c.perform op).1 = c.set name url token) := by
  cases op with
  | add e =>
    cases h : c.add e with
    | error conflict => exact Or.inl (by simp [perform, h])
    | ok c' => exact Or.inr (Or.inl ⟨e, rfl, by simp [perform, h]⟩)
  | remove key =>
    cases h : c.remove key with
    | error conflict => exact Or.inl (by simp [perform, h])
    | ok r => exact Or.inr (Or.inr (Or.inl ⟨key, r.2, rfl, by simp [perform, h]⟩))
  | use key =>
    cases h : c.use key with
    | error conflict => exact Or.inl (by simp [perform, h])
    | ok r => exact Or.inr (Or.inr (Or.inr (Or.inl ⟨key, r.2, rfl, by simp [perform, h]⟩)))
  | set name url token => exact Or.inr (Or.inr (Or.inr (Or.inr ⟨name, url, token, rfl, rfl⟩)))

/-- An operation without result changes nothing, and its reason is a true one. -/
theorem perform_conflict {c : Config} {op : Operation} {conflict : Conflict}
    (h : (c.perform op).2 = some conflict) :
    (c.perform op).1 = c ∧ conflict.Holds c := by
  cases op with
  | add e =>
    cases hc : c.add e with
    | ok c' => simp [perform, hc] at h
    | error reason =>
      simp only [perform, hc, Option.some.injEq] at h ⊢
      exact ⟨trivial, h ▸ add_eq_error hc⟩
  | remove key =>
    cases hc : c.remove key with
    | ok r => simp [perform, hc] at h
    | error reason =>
      simp only [perform, hc, Option.some.injEq] at h ⊢
      exact ⟨trivial, h ▸ remove_eq_error hc⟩
  | use key =>
    cases hc : c.use key with
    | ok r => simp [perform, hc] at h
    | error reason =>
      simp only [perform, hc, Option.some.injEq] at h ⊢
      exact ⟨trivial, h ▸ use_eq_error hc⟩
  | set name url token => simp [perform] at h

/-! ### Unambiguous stores stay unambiguous -/

theorem Unambiguous.append {servers : List Entry} {e : Entry}
    (h : servers.Pairwise Entry.Apart) (he : ∀ s ∈ servers, e.Apart s) :
    (servers ++ [e]).Pairwise Entry.Apart := by
  rw [List.pairwise_append]
  refine ⟨h, List.pairwise_singleton _ _, ?_⟩
  intro s hs t ht
  rw [List.mem_singleton.mp ht]
  exact (he s hs).symm

theorem set_unambiguous {c : Config} (h : c.Unambiguous) (name url token : String) :
    (c.set name url token).Unambiguous := by
  obtain ⟨k, before, after, -, hset, hothers, -⟩ := set_spec c name url token
  have hpairs : (before ++ after).Pairwise Entry.Apart := by
    rw [hothers]
    exact h.filter _
  have hapart : ∀ e ∈ before ++ after, k.Apart e := by
    intro e he
    rw [hothers, List.mem_filter] at he
    exact staysBeside_iff.mp he.2
  rw [Unambiguous, hset]
  have hmiddle : (before ++ k :: after).Perm (k :: (before ++ after)) := List.perm_middle
  exact (hmiddle.pairwise_iff Entry.Apart.symm).mpr (List.pairwise_cons.mpr ⟨hapart, hpairs⟩)

theorem perform_unambiguous (c : Config) (op : Operation) (h : c.Unambiguous) :
    (c.perform op).1.Unambiguous := by
  rcases perform_cases c op with hsame | ⟨e, -, hadd⟩ | ⟨key, e, -, hremove⟩ | ⟨key, e, -, huse⟩ |
    ⟨name, url, token, -, hset⟩
  · rw [hsame]
    exact h
  · obtain ⟨hapart, hc⟩ := add_eq_ok hadd
    rw [hc]
    exact Unambiguous.append h hapart
  · obtain ⟨before, after, hl, hc⟩ := remove_eq_ok hremove
    rw [hc]
    refine List.Pairwise.sublist ?_ h
    rw [hl]
    exact (List.Sublist.refl before).append (List.sublist_cons_self e after)
  · rw [(use_eq_ok huse).2]
    exact h
  · rw [hset]
    exact set_unambiguous h name url token

/-! ### Coherent stores stay coherent -/

/-- The current key is empty or names an entry. -/
def Pointed (c : Config) : Prop := c.currentKey = "" ∨ c.current?.isSome = true

theorem pointed_iff {c : Config} : c.Pointed ↔
    c.currentKey = "" ∨ ∃ e ∈ c.servers, e.isNamed c.currentKey = true ∨ e.server = c.currentKey := by
  rw [Pointed, ← find?_isSome_iff]
  by_cases hk : c.currentKey = ""
  · exact ⟨fun _ => Or.inl hk, fun _ => Or.inl hk⟩
  · rw [current?_eq_find? hk]

/-- A store that points at the key of one of its entries points at something. -/
theorem pointed_of_key {c : Config} {e : Entry} (he : e ∈ c.servers) (hk : c.currentKey = e.key) :
    c.Pointed := by
  rw [pointed_iff, hk]
  rcases e.key_cases with ⟨hne, hkey⟩ | ⟨-, hkey⟩
  · exact Or.inr ⟨e, he, Or.inl (Entry.isNamed_iff.mpr ⟨hkey.symm, hkey ▸ hne⟩)⟩
  · exact Or.inr ⟨e, he, Or.inr hkey.symm⟩

theorem add_pointed {c c' : Config} {e : Entry} (h : c.Pointed) (hadd : c.add e = .ok c') :
    c'.Pointed := by
  obtain ⟨-, rfl⟩ := add_eq_ok hadd
  cases hl : c.servers with
  | nil => exact pointed_of_key (e := e.normalized) (by simp) (by simp)
  | cons s ss =>
    rw [pointed_iff] at h ⊢
    simp only [hl, List.isEmpty_cons, Bool.false_eq_true, if_false] at h ⊢
    refine h.imp_right ?_
    rintro ⟨t, ht, hk⟩
    exact ⟨t, List.mem_append_left _ ht, hk⟩

theorem remove_pointed {c c' : Config} {key : String} {e : Entry} (h : c.Pointed)
    (hremove : c.remove key = .ok (c', e)) : c'.Pointed := by
  obtain ⟨before, after, hl, rfl⟩ := remove_eq_ok hremove
  by_cases hcur : c.isCurrent e = true
  · exact Or.inl (by simp [hcur])
  · simp only [hcur, if_false, Bool.false_eq_true, pointed_iff]
    rcases h with h | h
    · exact Or.inl h
    · obtain ⟨cur, hc⟩ := Option.isSome_iff_exists.mp h
      obtain ⟨-, hmem, hnames⟩ := mem_of_current? hc
      -- the current entry is not the one that is removed, since that has another address
      have hne : cur ≠ e := fun heq => hcur (isCurrent_iff.mpr ⟨cur, hc, by rw [heq]⟩)
      have hstays : cur ∈ before ++ after := by
        rw [hl] at hmem
        simpa [hne] using hmem
      exact Or.inr ⟨cur, hstays, hnames⟩

theorem perform_pointed (c : Config) (op : Operation) (h : c.Pointed) :
    (c.perform op).1.Pointed := by
  rcases perform_cases c op with hsame | ⟨e, -, hadd⟩ | ⟨key, e, -, hremove⟩ | ⟨key, e, -, huse⟩ |
    ⟨name, url, token, -, hset⟩
  · rw [hsame]
    exact h
  · exact add_pointed h hadd
  · exact remove_pointed h hremove
  · obtain ⟨hfind, hc⟩ := use_eq_ok huse
    rw [hc]
    exact pointed_of_key (mem_of_find? hfind).1 rfl
  · obtain ⟨k, -, hkey, -, -, hmem, -⟩ := mem_set c name url token
    rw [hset]
    exact pointed_of_key ((hmem k).mpr (Or.inl rfl)) hkey

/-- What holds of every store that operations make. -/
structure Coherent (c : Config) : Prop where
  unambiguous : c.Unambiguous
  pointed : c.Pointed

theorem empty_coherent : empty.Coherent := ⟨List.Pairwise.nil, Or.inl rfl⟩

theorem run_coherent {c : Config} (h : c.Coherent) (ops : List Operation) :
    (c.run ops).Coherent :=
  ⟨run_keeps perform_unambiguous h.unambiguous ops, run_keeps perform_pointed h.pointed ops⟩

/-! ### The invariant of the store

From one step to whole runs by `run_keeps`. -/

/-- In a coherent store exactly one entry counts as the current one, unless none is current. -/
theorem countP_isCurrent {c : Config} (h : c.Unambiguous) :
    c.servers.countP c.isCurrent = if c.current?.isSome then 1 else 0 := by
  cases hc : c.current? with
  | none =>
    have hnone : ∀ e ∈ c.servers, ¬ c.isCurrent e = true := by
      intro e _ he
      obtain ⟨cur, hcur, -⟩ := isCurrent_iff.mp he
      simp [hc] at hcur
    simpa using List.countP_eq_zero.mpr hnone
  | some cur =>
    obtain ⟨-, hmem, -⟩ := mem_of_current? hc
    have hsame : c.isCurrent = fun e => e.server == cur.server := by
      funext e
      simp [isCurrent, hc, Bool.beq_comm]
    have hserver : cur.server ∈ c.servers.map Entry.server := List.mem_map_of_mem hmem
    have hcount := List.count_eq_one_of_mem (unambiguous_iff.mp h).2 hserver
    rw [List.count_eq_countP, List.countP_map] at hcount
    simpa [hsame, Function.comp_def] using hcount

/-- **The invariant of the store.** Whatever has been done to a store that began empty, its
aliases and its addresses are distinct, its key names an entry unless it is empty, one entry
counts as the current one if there is one and none otherwise, and an operation without result
leaves it as it is, for a reason that is true of it. -/
theorem run_invariant (ops : List Operation) :
    ((((empty.run ops).servers.map Entry.name).filter (· ≠ "")).Nodup ∧
      ((empty.run ops).servers.map Entry.server).Nodup) ∧
    ((empty.run ops).currentKey = "" ∨ (empty.run ops).current?.isSome = true) ∧
    ((empty.run ops).servers.countP (empty.run ops).isCurrent =
      if (empty.run ops).current?.isSome then 1 else 0) ∧
    ∀ op conflict, ((empty.run ops).perform op).2 = some conflict →
      ((empty.run ops).perform op).1 = empty.run ops ∧ conflict.Holds (empty.run ops) := by
  have h := run_coherent empty_coherent ops
  refine ⟨unambiguous_iff.mp h.unambiguous, h.pointed, countP_isCurrent h.unambiguous, ?_⟩
  intro op conflict hconflict
  exact perform_conflict hconflict

end Config

end SandboxClient.Server
