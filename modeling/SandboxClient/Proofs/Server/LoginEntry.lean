/-
  SandboxClient/Proofs/Server/LoginEntry.lean
  ===========================================
  **The entry of a login.** A login goes to one place in the list of entries, and
  the entries that may not stay beside the one that is stored there are dropped in
  one pass through the list, in which the place is counted down. `sweep` is this
  pass, and its count never falls below zero. `login_effect` says all that a login
  does.
-/
import SandboxClient.Proofs.Server.Runs

namespace SandboxClient.Server

namespace Config

variable {c : Config} {name url token : String} {before after : List Entry} {old : Option Entry}
  {k e : Entry}

/-! ### The pass that drops entries

The program's `set_server` counts a position down while it drops entries. That it never counts below
zero is part of what is proved. -/

section Sweeping

variable {place i position : Nat} {rest : List Entry}

/-- The pass through the entries from one of them on. An entry that may not stay beside the stored
one is dropped; if it stands before the place of that one, the position is counted down, and there
is no result if nothing is left to count down from. -/
def sweep (k : Entry) (place : Nat) : List Entry → Nat → Nat → Option (List Entry × Nat)
  | [], _, position => some ([], position)
  | e :: rest, i, position =>
    if i == place || staysBeside k e then
      (sweep k place rest (i + 1) position).map (fun r => (e :: r.1, r.2))
    else if i < place then
      if position = 0 then none else sweep k place rest (i + 1) (position - 1)
    else sweep k place rest (i + 1) position

/-- One step of the pass before the place: the entry is kept, or it is dropped and the position
is counted down. -/
theorem sweep_cons_before (h : i < place) :
    sweep k place (e :: rest) i (position + if staysBeside k e then 0 else 1) =
      (sweep k place rest (i + 1) position).map
        (fun r => (if staysBeside k e then e :: r.1 else r.1, r.2)) := by
  have hne : i ≠ place := Nat.ne_of_lt h
  by_cases hstays : staysBeside k e = true
  · simp [sweep, hstays]
  · simp [sweep, hstays, hne, h]

/-- Before the place every dropped entry is counted, so the position falls by their number. -/
theorem sweep_before (k : Entry) (position : Nat) (rest : List Entry)
    (h : i + before.length ≤ place) :
    sweep k place (before ++ rest) i (position + before.countP (fun e => !staysBeside k e)) =
      (sweep k place rest (i + before.length) position).map
        (fun r => (before.filter (staysBeside k) ++ r.1, r.2)) := by
  induction before generalizing i with
  | nil => simp
  | cons e before ih =>
    rw [List.length_cons] at h
    have hcount : position + (e :: before).countP (fun e => !staysBeside k e) =
        position + before.countP (fun e => !staysBeside k e) +
          if staysBeside k e then 0 else 1 := by
      by_cases hstays : staysBeside k e = true <;> simp [hstays, Nat.add_assoc]
    rw [hcount, List.cons_append, sweep_cons_before (by omega), ih (by omega), Option.map_map,
      List.length_cons, Nat.add_right_comm i 1, Nat.add_assoc i]
    congr 1
    funext r
    by_cases hstays : staysBeside k e = true <;> simp [hstays]

/-- Behind the place entries are dropped without being counted. -/
theorem sweep_behind (h : place < i) :
    sweep k place after i position = some (after.filter (staysBeside k), position) := by
  induction after generalizing i with
  | nil => rfl
  | cons e after ih =>
    have hne : i ≠ place := Nat.ne_of_gt h
    have hnot : ¬ i < place := Nat.not_lt_of_gt h
    by_cases hstays : staysBeside k e = true
    · simp [sweep, hstays, ih (Nat.lt_succ_of_lt h)]
    · simp [sweep, hstays, hne, hnot, ih (Nat.lt_succ_of_lt h)]

/-- The whole pass: it never runs out of a position to count down from, and what it ends with is
the position of the stored entry among the entries that are kept. -/
theorem sweep_eq : sweep k before.length (before ++ k :: after) 0 before.length =
    some (before.filter (staysBeside k) ++ k :: after.filter (staysBeside k),
      (before.filter (staysBeside k)).length) := by
  have hlength : before.length = (before.filter (staysBeside k)).length +
      before.countP (fun e => !staysBeside k e) := by
    have hle : before.countP (fun e => !staysBeside k e) ≤ before.length := List.countP_le_length
    rw [← length_sub_countP]
    omega
  have hpass := sweep_before k (before.filter (staysBeside k)).length (k :: after)
    (Nat.le_of_eq (Nat.zero_add before.length))
  rw [← hlength, Nat.zero_add] at hpass
  rw [hpass]
  simp [sweep, sweep_behind (Nat.lt_succ_self before.length)]

end Sweeping

/-! ### The whole effect -/

/-- **What storing a login does.** The entry that is given back has the normalised address, the
token, and the alias, or the one that it had before if none is given; it is trusted exactly if it
was trusted for this address before. Beside it stay, as they are and in their order, the other
entries with another address and not with its alias, if it has one; it is the current one. The
pass that drops the others never runs out of a position to count down from and ends with the
position of the entry. Aliases and addresses that were distinct are distinct afterwards. -/
theorem login_effect (c : Config) (name url token : String) :
    ∃ before old after k, c.Goes name (normalizeUrl url) before old after ∧
      c.setEntry? name url token = some k ∧
      k.server = normalizeUrl url ∧ k.token = token ∧
      k.name = (if name = "" then (old.map Entry.name).getD "" else name) ∧
      (k.insecure = true ↔ ∃ e, old = some e ∧ e.server = normalizeUrl url ∧ e.insecure = true) ∧
      (∃ stays : Entry → Bool,
        (∀ e, stays e = true ↔ e.server ≠ normalizeUrl url ∧ (k.name ≠ "" → e.name ≠ k.name)) ∧
        c.servers = before ++ old.toList ++ after ∧
        (c.set name url token).servers = before.filter stays ++ k :: after.filter stays ∧
        (c.set name url token).currentKey = k.key) ∧
      sweep k before.length (before ++ k :: after) 0 before.length =
        some ((c.set name url token).servers, (c.store name url token).position) ∧
      (c.set name url token).servers[(c.store name url token).position]? = some k ∧
      (c.Unambiguous → (c.set name url token).Unambiguous) := by
  obtain ⟨before, old, after, hgoes⟩ := exists_goes c name (normalizeUrl url)
  obtain ⟨k, hk⟩ : ∃ k, entryOf old name (normalizeUrl url) token = k := ⟨_, rfl⟩
  have hstore := store_of_goes hgoes hk
  have hentry : c.setEntry? name url token = some k := hk ▸ setEntry?_of_goes hgoes
  have hserver : k.server = normalizeUrl url := hk ▸ entryOf_server
  refine ⟨before, old, after, k, hgoes, hentry, hserver, hk ▸ entryOf_token, hk ▸ entryOf_name,
    hk ▸ entryOf_insecure, ⟨staysBeside k, ?_, hgoes.servers, ?_, ?_⟩, ?_, hentry, ?_⟩
  · intro e
    rw [staysBeside_iff, Entry.Apart, hserver]
    exact and_congr ne_comm (imp_congr_right (fun _ => ne_comm))
  · rw [set, hstore]
  · rw [set, hstore]
  · rw [sweep_eq, set, hstore]
  · intro hc
    exact set_unambiguous hc name url token

-- the first entry has the address and gives way, so the position goes down from 1 to 0
example : Config.set
    ⟨"b", [⟨"b", "https://b.example", "s", true⟩, ⟨"a", "https://a.example", "t", true⟩]⟩
      "a" "https://b.example/" "u" = ⟨"a", [⟨"a", "https://b.example", "u", false⟩]⟩ := by
  decide +kernel

end Config

end SandboxClient.Server
