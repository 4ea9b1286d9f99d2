/-
  SandboxClient/Proofs/Server/Operations.lean
  ===========================================
  **What each operation does to a store.** One statement for each of `add`,
  `remove`, `use` and `set` says everything that the operation can do: which
  entries stay and in which order, which entry is new, and where the current key
  points afterwards. Every later statement about runs is drawn from these four
  and never opens an operation again. A login goes to the first entry with its
  alias, or else to the first with its address, or else behind them all:
  `Config.Goes` names the three cases, and what becomes of the store follows
  from the place alone (`Config.store_of_goes`).
-/
import SandboxClient.Proofs.Server.Lookup

namespace SandboxClient.Server

/-- An entry with its address in the form in which addresses are stored. -/
def Entry.normalized (e : Entry) : Entry := { e with server := normalizeUrl e.server }

-- unfolded first, since comparing `e` with its normal form as a whole looks into `normalizeUrl`
@[simp] theorem Entry.normalized_name (e : Entry) : e.normalized.name = e.name := by
  rw [Entry.normalized]

@[simp] theorem Entry.normalized_server (e : Entry) :
    e.normalized.server = normalizeUrl e.server := by
  rw [Entry.normalized]

@[simp] theorem Entry.normalized_token (e : Entry) : e.normalized.token = e.token := by
  rw [Entry.normalized]

@[simp] theorem Entry.normalized_insecure (e : Entry) : e.normalized.insecure = e.insecure := by
  rw [Entry.normalized]

@[simp] theorem Entry.normalized_isNamed (e : Entry) (name : String) :
    e.normalized.isNamed name = e.isNamed name := by
  rw [Entry.isNamed, Entry.isNamed, Entry.normalized_name]

/-- A list with an element of a kind is cut at the first one. -/
theorem exists_append_first {α : Type} {p : α → Prop} [DecidablePred p] {l : List α}
    (h : ∃ a ∈ l, p a) :
    ∃ before a after, l = before ++ a :: after ∧ p a ∧ ∀ b ∈ before, ¬ p b := by
  have hsome : (l.find? (fun a => decide (p a))).isSome = true := by
    rw [List.find?_isSome]
    simpa using h
  obtain ⟨a, ha⟩ := Option.isSome_iff_exists.mp hsome
  obtain ⟨hp, before, after, hl, hfirst⟩ := List.find?_eq_some_iff_append.mp ha
  exact ⟨before, a, after, hl, by simpa using hp, by simpa using hfirst⟩

/-- As many elements are kept as there are, less those that are dropped. -/
theorem length_sub_countP {α : Type} (p : α → Bool) (l : List α) :
    l.length - l.countP (fun a => !p a) = (l.filter p).length := by
  have hlength := List.length_eq_countP_add_countP p (l := l)
  simp only [Bool.not_eq_true, Bool.decide_eq_false] at hlength
  rw [← List.countP_eq_length_filter]
  omega

namespace Config

/-- What a conflict says about the store it has been met in. -/
def Conflict.Holds (c : Config) : Conflict → Prop
  | .nameTaken name => name ≠ "" ∧ ∃ s ∈ c.servers, s.name = name
  | .serverKnown server => ∃ s ∈ c.servers, s.server = server
  | .notFound key => c.find? key = none

/-! ### Adding -/

theorem add_eq_ok {c c' : Config} {e : Entry} (h : c.add e = .ok c') :
    (∀ s ∈ c.servers, e.normalized.Apart s) ∧
      c' = ⟨if c.servers.isEmpty then e.normalized.key else c.currentKey,
        c.servers ++ [e.normalized]⟩ := by
  unfold add at h
  simp only at h
  split at h
  · cases h
  · rename_i hname
    split at h
    · cases h
    · rename_i hserver
      cases h
      refine ⟨?_, rfl⟩
      intro s hs
      refine ⟨?_, ?_⟩
      · intro heq
        apply hserver
        rw [List.any_eq_true]
        exact ⟨s, hs, by simpa using heq.symm⟩
      · intro hne heq
        apply hname
        rw [Bool.and_eq_true, List.any_eq_true]
        have hempty : e.name ≠ "" := Entry.normalized_name e ▸ hne
        exact ⟨by simpa [String.isEmpty_iff] using hempty, s, hs, by simpa using heq.symm⟩

theorem add_eq_error {c : Config} {e : Entry} {conflict : Conflict}
    (h : c.add e = .error conflict) : conflict.Holds c := by
  unfold add at h
  simp only at h
  split at h
  · rename_i hname
    cases h
    rw [Bool.and_eq_true, List.any_eq_true] at hname
    obtain ⟨hne, s, hs, heq⟩ := hname
    exact ⟨by simpa [String.isEmpty_iff] using hne, s, hs, by simpa using heq⟩
  · split at h
    · rename_i hserver
      cases h
      rw [List.any_eq_true] at hserver
      obtain ⟨s, hs, heq⟩ := hserver
      exact ⟨s, hs, by simpa using heq⟩
    · cases h

/-! ### Removing -/

theorem remove_eq_ok {c c' : Config} {key : String} {e : Entry}
    (h : c.remove key = .ok (c', e)) :
    ∃ before after, c.servers = before ++ e :: after ∧
      c' = ⟨if c.isCurrent e then "" else c.currentKey, before ++ after⟩ := by
  unfold remove at h
  cases hp : c.position? key with
  | none => simp [hp] at h
  | some i =>
    simp only [hp] at h
    cases he : c.servers[i]? with
    | none => simp [he] at h
    | some s =>
      simp only [he, Except.ok.injEq, Prod.mk.injEq] at h
      obtain ⟨rfl, rfl⟩ := h
      obtain ⟨hi, hget⟩ := List.getElem?_eq_some_iff.mp he
      refine ⟨c.servers.take i, c.servers.drop (i + 1), ?_, ?_⟩
      · rw [← hget]
        simp
      · rw [List.eraseIdx_eq_take_drop_succ]

theorem remove_eq_error {c : Config} {key : String} {conflict : Conflict}
    (h : c.remove key = .error conflict) : conflict.Holds c := by
  unfold remove at h
  cases hp : c.position? key with
  | none =>
    simp only [hp, Except.error.injEq] at h
    subst h
    simp [Conflict.Holds, find?, hp]
  | some i =>
    simp only [hp] at h
    cases he : c.servers[i]? with
    | none =>
      simp only [he, Except.error.injEq] at h
      subst h
      simp [Conflict.Holds, find?, hp, he]
    | some s => simp [he] at h

/-! ### Selecting -/

theorem use_eq_ok {c c' : Config} {key : String} {e : Entry} (h : c.use key = .ok (c', e)) :
    c.find? key = some e ∧ c' = ⟨e.key, c.servers⟩ := by
  unfold use at h
  cases hf : c.find? key with
  | none => simp [hf] at h
  | some s =>
    simp only [hf, Except.ok.injEq, Prod.mk.injEq] at h
    obtain ⟨rfl, rfl⟩ := h
    exact ⟨rfl, rfl⟩

theorem use_eq_error {c : Config} {key : String} {conflict : Conflict}
    (h : c.use key = .error conflict) : conflict.Holds c := by
  unfold use at h
  cases hf : c.find? key with
  | none =>
    simp only [hf, Except.error.injEq] at h
    subst h
    exact hf
  | some s => simp [hf] at h

/-! ### Where a login goes

The three cases of `set_server`: an entry with the alias, an entry with the address, or a new one.
-/

section Placing

/-- Where a login under an alias, or under no alias, at a normalised address goes: between which
entries, and in the place of which one. -/
inductive Goes (c : Config) (name url : String) : List Entry → Option Entry → List Entry → Prop
  /-- To the first entry with the alias. -/
  | named {before after : List Entry} {e : Entry} (hname : name ≠ "")
      (hservers : c.servers = before ++ e :: after) (he : e.name = name)
      (hfirst : ∀ s ∈ before, s.name ≠ name) : Goes c name url before (some e) after
  /-- If there is none, to the first entry with the address. -/
  | addressed {before after : List Entry} {e : Entry}
      (hfree : name ≠ "" → ∀ s ∈ c.servers, s.name ≠ name)
      (hservers : c.servers = before ++ e :: after) (he : e.server = url)
      (hfirst : ∀ s ∈ before, s.server ≠ url) : Goes c name url before (some e) after
  /-- If there is none either, behind all entries. -/
  | behind (hfree : name ≠ "" → ∀ s ∈ c.servers, s.name ≠ name)
      (hnone : ∀ s ∈ c.servers, s.server ≠ url) : Goes c name url c.servers none []

variable {c : Config} {name url token : String} {before after : List Entry} {old : Option Entry}
  {k e : Entry}

/-- A login goes somewhere, whatever the store is like. -/
theorem exists_goes (c : Config) (name url : String) :
    ∃ before old after, c.Goes name url before old after := by
  by_cases hnamed : name ≠ "" ∧ ∃ e ∈ c.servers, e.name = name
  · obtain ⟨hname, hexists⟩ := hnamed
    obtain ⟨before, e, after, hservers, he, hfirst⟩ := exists_append_first hexists
    exact ⟨before, some e, after, .named hname hservers he hfirst⟩
  · have hfree : name ≠ "" → ∀ s ∈ c.servers, s.name ≠ name := by
      intro hname s hs heq
      exact hnamed ⟨hname, s, hs, heq⟩
    by_cases haddressed : ∃ e ∈ c.servers, e.server = url
    · obtain ⟨before, e, after, hservers, he, hfirst⟩ := exists_append_first haddressed
      exact ⟨before, some e, after, .addressed hfree hservers he hfirst⟩
    · refine ⟨c.servers, none, [], .behind hfree ?_⟩
      intro s hs heq
      exact haddressed ⟨s, hs, heq⟩

theorem Goes.servers (h : c.Goes name url before old after) :
    c.servers = before ++ old.toList ++ after := by
  cases h with
  | named hname hservers he hfirst => simpa using hservers
  | addressed hfree hservers he hfirst => simpa using hservers
  | behind hfree hnone => simp

theorem findIdx?_append_cons {p : Entry → Bool} (he : p e = true)
    (hfirst : ∀ s ∈ before, p s = false) :
    (before ++ e :: after).findIdx? p = some before.length := by
  rw [List.findIdx?_append, List.findIdx?_eq_none_iff.mpr hfirst, List.findIdx?_cons, if_pos he]
  simp

/-- The position that is looked for is the place where the login goes. -/
theorem Goes.target?_eq (h : c.Goes name url before old after) :
    c.target? name url = old.map (fun _ => before.length) := by
  have hnone : (name ≠ "" → ∀ s ∈ c.servers, s.name ≠ name) →
      (if name.isEmpty then none else c.servers.findIdx? (fun e => e.name == name)) = none := by
    intro hfree
    split
    · rfl
    · rename_i hname
      rw [String.isEmpty_iff] at hname
      rw [List.findIdx?_eq_none_iff]
      simpa using hfree hname
  unfold target?
  cases h with
  | named hname hservers he hfirst =>
    rw [hservers, findIdx?_append_cons (by simpa using he) (by simpa using hfirst)]
    simp [String.isEmpty_iff, hname]
  | addressed hfree hservers he hfirst =>
    rw [hnone hfree, hservers, findIdx?_append_cons (by simpa using he) (by simpa using hfirst)]
    rfl
  | behind hfree hserver =>
    rw [hnone hfree]
    simpa [List.findIdx?_eq_none_iff] using hserver

/-! ### Storing a login -/

/-- What is stored in the place of an entry, or as a new one. -/
def entryOf (old : Option Entry) (name url token : String) : Entry :=
  match old with
  | some e => updated e name url token
  | none => ⟨name, url, token, false⟩

@[simp] theorem entryOf_server : (entryOf old name url token).server = url := by
  cases old <;> rfl

@[simp] theorem entryOf_token : (entryOf old name url token).token = token := by
  cases old <;> rfl

theorem entryOf_name : (entryOf old name url token).name =
    if name = "" then (old.map Entry.name).getD "" else name := by
  cases old with
  | some e => simp [entryOf, updated, String.isEmpty_iff]
  | none =>
    by_cases hname : name = ""
    · simp [entryOf, hname]
    · simp [entryOf, hname]

theorem entryOf_insecure : (entryOf old name url token).insecure = true ↔
    ∃ e, old = some e ∧ e.server = url ∧ e.insecure = true := by
  cases old with
  | some e => simp [entryOf, updated, and_comm]
  | none => simp [entryOf]

/-- The place where a login goes decides what becomes of the store. -/
theorem store_of_goes (h : c.Goes name (normalizeUrl url) before old after)
    (hk : entryOf old name (normalizeUrl url) token = k) :
    c.store name url token =
      ⟨⟨k.key, before.filter (staysBeside k) ++ k :: after.filter (staysBeside k)⟩,
        (before.filter (staysBeside k)).length⟩ := by
  cases old with
  | some e =>
    have hk : updated e name (normalizeUrl url) token = k := hk
    have hmodified : c.servers.modify before.length
        (fun e => updated e name (normalizeUrl url) token) = before ++ k :: after := by
      rw [h.servers, List.modify_eq_take_cons_drop (by simp)]
      simp [hk]
    simp [store, h.target?_eq, hmodified, length_sub_countP]
  | none =>
    have hk : (⟨name, normalizeUrl url, token, false⟩ : Entry) = k := hk
    obtain ⟨hbefore, hafter⟩ : before = c.servers ∧ after = [] := by
      cases h
      exact ⟨rfl, rfl⟩
    simp [store, h.target?_eq, hk, hbefore, hafter, length_sub_countP]

theorem setEntry?_of_goes (h : c.Goes name (normalizeUrl url) before old after) :
    c.setEntry? name url token = some (entryOf old name (normalizeUrl url) token) := by
  simp [ setEntry?, store_of_goes h rfl]

/-- Whether a login under an alias at an address is stored in an entry: its alias is the one that
is given, or its address is the right one and no entry has the alias. -/
def IsTarget (c : Config) (name url : String) (e : Entry) : Prop :=
  (name ≠ "" ∧ e.name = name) ∨
    (e.server = url ∧ (name ≠ "" → ∀ s ∈ c.servers, s.name ≠ name))

/-- The entry that a login is stored in does not stay beside what becomes of it. -/
theorem not_staysBeside_updated (h : c.IsTarget name url e) :
    staysBeside (updated e name url token) e = false := by
  rw [← Bool.not_eq_true, staysBeside_iff]
  rintro ⟨hserver, hname⟩
  rcases h with ⟨hne, heq⟩ | ⟨heq, -⟩
  · have hk : (updated e name url token).name = e.name := by
      simp [updated, String.isEmpty_iff, hne, heq]
    exact hname (by rw [hk, heq]; exact hne) hk
  · exact hserver heq.symm

/-- A login goes to an entry that it is stored in, or there is none such. -/
theorem Goes.origin (h : c.Goes name url before old after) :
    (∃ e ∈ c.servers, c.IsTarget name url e ∧ old = some e) ∨
      ((∀ e ∈ c.servers, ¬ c.IsTarget name url e) ∧ old = none) := by
  cases h with
  | named hname hservers he hfirst =>
    exact Or.inl ⟨_, by simp [hservers], Or.inl ⟨hname, he⟩, rfl⟩
  | addressed hfree hservers he hfirst =>
    exact Or.inl ⟨_, by simp [hservers], Or.inr ⟨he, hfree⟩, rfl⟩
  | behind hfree hnone =>
    refine Or.inr ⟨?_, rfl⟩
    rintro e he (⟨hname, heq⟩ | ⟨heq, -⟩)
    · exact hfree hname e he heq
    · exact hnone e he heq

end Placing

/-- The entry that a login is stored in, `k`, stands between those of the others that may stay
beside it, in their order. -/
theorem set_spec (c : Config) (name url token : String) :
    ∃ k before after, c.setEntry? name url token = some k ∧
      c.set name url token = ⟨k.key, before ++ k :: after⟩ ∧
      before ++ after = c.servers.filter (staysBeside k) ∧
      ((∃ e ∈ c.servers, c.IsTarget name (normalizeUrl url) e ∧
          k = updated e name (normalizeUrl url) token) ∨
        ((∀ e ∈ c.servers, ¬ c.IsTarget name (normalizeUrl url) e) ∧
          k = ⟨name, normalizeUrl url, token, false⟩)) := by
  obtain ⟨before, old, after, hgoes⟩ := exists_goes c name (normalizeUrl url)
  obtain ⟨k, hk⟩ : ∃ k, entryOf old name (normalizeUrl url) token = k := ⟨_, rfl⟩
  refine ⟨k, before.filter (staysBeside k), after.filter (staysBeside k),
    hk ▸ setEntry?_of_goes hgoes, by rw [set, store_of_goes hgoes hk], ?_⟩
  rcases hgoes.origin with ⟨e, he, htarget, rfl⟩ | ⟨hnone, rfl⟩
  · have hk : updated e name (normalizeUrl url) token = k := hk
    have hdropped : staysBeside k e = false := hk ▸ not_staysBeside_updated htarget
    exact ⟨by simp [hgoes.servers, hdropped], Or.inl ⟨e, he, htarget, hk.symm⟩⟩
  · have hk : (⟨name, normalizeUrl url, token, false⟩ : Entry) = k := hk
    exact ⟨by simp [hgoes.servers], Or.inr ⟨hnone, hk.symm⟩⟩

/-- The entries after a login: the one it is stored in, and all that are apart from it. -/
theorem mem_set (c : Config) (name url token : String) :
    ∃ k, c.setEntry? name url token = some k ∧ (c.set name url token).currentKey = k.key ∧
      k.server = normalizeUrl url ∧ k.token = token ∧
      (∀ e, e ∈ (c.set name url token).servers ↔ e = k ∨ (e ∈ c.servers ∧ k.Apart e)) ∧
      ((∃ e ∈ c.servers, c.IsTarget name (normalizeUrl url) e ∧
          k = updated e name (normalizeUrl url) token) ∨
        ((∀ e ∈ c.servers, ¬ c.IsTarget name (normalizeUrl url) e) ∧
          k = ⟨name, normalizeUrl url, token, false⟩)) := by
  obtain ⟨k, before, after, hk, hset, hothers, horigin⟩ := set_spec c name url token
  have hmem : ∀ e, e ∈ (c.set name url token).servers ↔
      e = k ∨ (e ∈ c.servers ∧ k.Apart e) := by
    intro e
    have hfilter : e ∈ before ++ after ↔ e ∈ c.servers ∧ k.Apart e := by
      rw [hothers, List.mem_filter, staysBeside_iff]
    rw [hset, ← hfilter]
    simp only [List.mem_append, List.mem_cons]
    exact or_left_comm
  have hfields : k.server = normalizeUrl url ∧ k.token = token := by
    rcases horigin with ⟨e, -, -, rfl⟩ | ⟨-, rfl⟩
    · exact ⟨rfl, rfl⟩
    · exact ⟨rfl, rfl⟩
  exact ⟨k, hk, by rw [hset], hfields.1, hfields.2, hmem, horigin⟩

end Config

end SandboxClient.Server
