/-
  SandboxClient/Proofs/Server/Migrated.lean
  =========================================
  **What becomes of the older layouts.** A mapping may name one address under
  several aliases. The first alias of each address is kept, with its own token,
  and a current key that named another one is moved to it. So whoever was logged
  in under a later alias stays at the same address, but with the token of the
  first alias: `migrated_login_iff` says exactly when that is no loss, and
  `migration_loses_login` shows that it can be one.
-/
import SandboxClient.Proofs.Server.Settled

namespace SandboxClient.Server

open SandboxClient.Files (Path Disk)
open SandboxClient.Yaml (Node)

/-! ### The first alias of an address -/

abbrev Mapped := String × MappedServer

/-- The entry that a server of a mapping becomes. -/
def MappedServer.entry (name : String) (m : MappedServer) : Entry :=
  ⟨name, normalizeUrl m.url, m.token, m.insecure⟩

@[simp] theorem MappedServer.entry_server (name : String) (m : MappedServer) :
    (m.entry name).server = normalizeUrl m.url := rfl

theorem MappedServer.entry_key {name : String} {m : MappedServer} (h : name ≠ "") :
    (m.entry name).key = name := by
  simp [Entry.key, entry, h]

theorem MappedServer.entry_key_empty {name : String} {m : MappedServer} (h : name = "") :
    (m.entry name).key = normalizeUrl m.url := by
  simp [Entry.key, entry, h]

/-- The first server of a mapping that has an address. -/
def firstAt (servers : List Mapped) (url : String) : Option Mapped :=
  servers.find? (fun s => normalizeUrl s.2.url == url)

section Mapping

variable {servers before after : List Mapped} {key k url : String} {m : MappedServer} {s : Mapped}

theorem firstAt_append : firstAt (before ++ after) url =
    (firstAt before url).or (firstAt after url) :=
  List.find?_append

theorem firstAt_eq_some (h : firstAt servers url = some s) :
    s ∈ servers ∧ normalizeUrl s.2.url = url :=
  ⟨List.mem_of_find?_eq_some h, by simpa using List.find?_some h⟩

theorem exists_firstAt (h : s ∈ servers) :
    ∃ t, firstAt servers (normalizeUrl s.2.url) = some t := by
  rw [← Option.isSome_iff_exists, firstAt, List.find?_isSome]
  exact ⟨s, h, by simp⟩

/-- What comes after a server says nothing about the first one at its address. -/
theorem firstAt_append_of_mem (h : s ∈ before) :
    firstAt (before ++ after) (normalizeUrl s.2.url) = firstAt before (normalizeUrl s.2.url) := by
  obtain ⟨t, ht⟩ := exists_firstAt h
  rw [firstAt_append, ht]
  rfl

@[simp] theorem ofMapped_nil : ofMapped key [] = ⟨key, []⟩ := rfl

@[simp] theorem ofMapped_append_singleton :
    ofMapped key (servers ++ [s]) = adopt (ofMapped key servers) s.1 s.2 := by
  simp [ofMapped]

/-! ### One server more

By induction from the end: what a server adds depends on what was kept before it. -/

theorem adopt_of_find? {c : Config} {kept : Entry}
    (h : c.servers.find? (fun e => e.server == normalizeUrl m.url) = some kept) :
    adopt c k m = ⟨if c.currentKey = k then kept.key else c.currentKey, c.servers⟩ := by
  unfold adopt
  by_cases hk : c.currentKey = k <;> simp [h, hk]

theorem adopt_of_find?_eq_none {c : Config}
    (h : c.servers.find? (fun e => e.server == normalizeUrl m.url) = none) :
    adopt c k m = ⟨c.currentKey, c.servers ++ [m.entry k]⟩ := by
  unfold adopt
  simp only [h]
  rfl

/-- Of each address the first server is kept, and nothing else. -/
theorem find?_ofMapped (key : String) (servers : List Mapped) (url : String) :
    (ofMapped key servers).servers.find? (fun e => e.server == url) =
      (firstAt servers url).map (fun s => s.2.entry s.1) := by
  induction servers using List.reverseRecOn generalizing url with
  | nil => rfl
  | append_singleton servers s ih =>
    rw [ofMapped_append_singleton, firstAt_append]
    cases hfirst : firstAt servers (normalizeUrl s.2.url) with
    | none =>
      rw [adopt_of_find?_eq_none (by rw [ih, hfirst]; rfl), List.find?_append, ih]
      by_cases hurl : normalizeUrl s.2.url = url
      · rw [← hurl, hfirst]
        simp [firstAt, MappedServer.entry]
      · simp [firstAt, MappedServer.entry, hurl]
    | some t =>
      rw [adopt_of_find? (by rw [ih, hfirst]; rfl), ih]
      by_cases hurl : normalizeUrl s.2.url = url
      · rw [← hurl, hfirst]
        rfl
      · simp [firstAt, hurl]

/-! ### The current key

The key moves when the server that it names is left out, and may be moved again by a later one. -/

theorem adopt_currentKey_of_ne {c : Config} (h : c.currentKey ≠ k) :
    (adopt c k m).currentKey = c.currentKey := by
  cases hfind : c.servers.find? (fun e => e.server == normalizeUrl m.url) with
  | none => rw [adopt_of_find?_eq_none hfind]
  | some kept => rw [adopt_of_find? hfind, if_neg h]

/-- Servers that the current key does not name leave the key as it is. -/
theorem currentKey_append (h : ∀ s ∈ after, (ofMapped key before).currentKey ≠ s.1) :
    (ofMapped key (before ++ after)).currentKey = (ofMapped key before).currentKey := by
  induction after using List.reverseRecOn with
  | nil => rw [List.append_nil]
  | append_singleton after s ih =>
    have hafter := ih (fun t ht => h t (List.mem_append_left _ ht))
    have hs : (ofMapped key (before ++ after)).currentKey ≠ s.1 := hafter ▸ h s (by simp)
    rw [← List.append_assoc, ofMapped_append_singleton, adopt_currentKey_of_ne hs, hafter]

/-- Once the server that the current key names has been read, the key is that of the first server
at its address. -/
theorem currentKey_append_singleton (hk : k ≠ "") (hcurrent : (ofMapped key before).currentKey = k)
    (hfirst : firstAt (before ++ (k, m) :: after) (normalizeUrl m.url) = some s) :
    (ofMapped key (before ++ [(k, m)])).currentKey = (s.2.entry s.1).key := by
  have hfind := find?_ofMapped key before (normalizeUrl m.url)
  rw [List.append_cons, firstAt_append_of_mem (s := (k, m)) (by simp), firstAt_append] at hfirst
  rw [ofMapped_append_singleton]
  cases hbefore : firstAt before (normalizeUrl m.url) with
  | none =>
    have hone : firstAt [(k, m)] (normalizeUrl m.url) = some (k, m) := by simp [firstAt]
    rw [hbefore, hone, Option.none_or, Option.some.injEq] at hfirst
    subst hfirst
    rw [adopt_of_find?_eq_none (by rw [hfind, hbefore]; rfl), hcurrent]
    exact (MappedServer.entry_key hk).symm
  | some t =>
    rw [hbefore, Option.some_or, Option.some.injEq] at hfirst
    subst hfirst
    rw [adopt_of_find? (by rw [hfind, hbefore]; rfl), hcurrent, if_pos rfl]

/-! ### Sorted mappings -/

theorem lt_of_not_lt {a b : String} (h : ¬ a < b) (hne : a ≠ b) : b < a := by
  by_contra hge
  exact hne (String.le_antisymm (String.not_lt.mp hge) (String.not_lt.mp h))

theorem not_lt_empty (s : String) : ¬ s < "" := by
  show ¬ s.toList < []
  exact List.not_lt_nil _

/-- The servers of a mapping are sorted by alias. -/
def Sorted (servers : List Mapped) : Prop := servers.Pairwise (fun a b => a.1 < b.1)

theorem mem_insertSorted {α : Type} {v : α} {l : List (String × α)} {x : String × α}
    (h : x ∈ insertSorted k v l) : x = (k, v) ∨ x ∈ l := by
  induction l with
  | nil => exact Or.inl (List.mem_singleton.mp h)
  | cons e es ih =>
    unfold insertSorted at h
    split at h
    · exact List.mem_cons.mp h
    · split at h
      · exact (List.mem_cons.mp h).imp_right (List.mem_cons_of_mem e)
      · rcases List.mem_cons.mp h with rfl | h
        · exact Or.inr List.mem_cons_self
        · exact (ih h).imp_right (List.mem_cons_of_mem e)

theorem Sorted.insert (h : Sorted servers) (k : String) (m : MappedServer) :
    Sorted (insertSorted k m servers) := by
  induction servers with
  | nil => exact List.pairwise_singleton _ _
  | cons e es ih =>
    obtain ⟨he, hes⟩ := List.pairwise_cons.mp h
    unfold insertSorted
    split
    · rename_i hlt
      refine List.pairwise_cons.mpr ⟨?_, h⟩
      intro x hx
      rcases List.mem_cons.mp hx with rfl | hx
      · exact hlt
      · exact String.lt_trans hlt (he x hx)
    · rename_i hge
      split
      · rename_i heq
        refine List.pairwise_cons.mpr ⟨?_, hes⟩
        intro x hx
        rw [heq]
        exact he x hx
      · rename_i hne
        refine List.pairwise_cons.mpr ⟨?_, ih hes⟩
        intro x hx
        rcases mem_insertSorted hx with rfl | hx
        · exact lt_of_not_lt hge hne
        · exact he x hx

theorem sorted_foldl_insertSorted (read : List Mapped) :
    Sorted (read.foldl (fun done s => insertSorted s.1 s.2 done) []) := by
  refine List.foldlRecOn read _ List.Pairwise.nil ?_
  intro done hdone s _
  exact hdone.insert s.1 s.2

theorem mappedServers_sorted {n : Node} (h : mappedServers n = some servers) : Sorted servers := by
  unfold mappedServers at h
  split at h
  · obtain ⟨read, -, h⟩ := Option.bind_eq_some_iff.mp h
    obtain rfl := Option.some.inj h
    exact sorted_foldl_insertSorted read
  · cases h

theorem Sorted.eq_of_key (h : Sorted servers) {a b : Mapped} (ha : a ∈ servers) (hb : b ∈ servers)
    (hab : a.1 = b.1) : a = b := by
  have hnodup : (servers.map Prod.fst).Nodup := by
    rw [List.Nodup, List.pairwise_map]
    exact h.imp (fun hlt heq => absurd (heq ▸ hlt) (String.lt_irrefl _))
  exact List.inj_on_of_nodup_map hnodup ha hb hab

theorem Sorted.around (h : Sorted (before ++ (k, m) :: after)) :
    (∀ s ∈ before, s.1 < k) ∧ (∀ s ∈ after, k < s.1) := by
  obtain ⟨-, hafter, hbefore⟩ := List.pairwise_append.mp h
  exact ⟨fun s hs => hbefore s hs (k, m) List.mem_cons_self, (List.pairwise_cons.mp hafter).1⟩

theorem Sorted.not_lt_of_mem (h : Sorted (before ++ (k, m) :: after))
    (hs : s ∈ before ++ [(k, m)]) : ¬ k < s.1 := by
  rcases List.mem_append.mp hs with hs | hs
  · exact String.lt_asymm (h.around.1 s hs)
  · rw [List.mem_singleton.mp hs]
    exact String.lt_irrefl k

/-- The first server with the address of another one has no later alias. -/
theorem Sorted.not_lt_of_firstAt (h : Sorted servers) (hmem : (k, m) ∈ servers)
    (hfirst : firstAt servers (normalizeUrl m.url) = some s) : ¬ k < s.1 := by
  obtain ⟨before, after, rfl⟩ := List.append_of_mem hmem
  rw [List.append_cons, firstAt_append_of_mem (s := (k, m)) (by simp)] at hfirst
  exact h.not_lt_of_mem (firstAt_eq_some hfirst).1

/-- While the servers before the one that it names are read, the current key stays. -/
theorem Sorted.currentKey_before (h : Sorted (before ++ (key, m) :: after)) :
    (ofMapped key before).currentKey = key := by
  have hnew : ∀ s ∈ before, (ofMapped key []).currentKey ≠ s.1 := by
    rintro s hs rfl
    exact String.lt_irrefl _ (h.around.1 s hs)
  simpa using currentKey_append hnew

/-- Once a server under the current key has been read, nothing behind it moves the key that has
been taken from an alias or address before it. -/
theorem Sorted.currentKey_after (h : Sorted (before ++ (k, m) :: after))
    (hcurrent : ¬ k < (ofMapped key (before ++ [(k, m)])).currentKey) :
    (ofMapped key (before ++ (k, m) :: after)).currentKey =
      (ofMapped key (before ++ [(k, m)])).currentKey := by
  rw [List.append_cons, currentKey_append]
  intro s hs heq
  exact hcurrent (heq ▸ h.around.2 s hs)

theorem Sorted.mem_after (h : Sorted (before ++ (k, m) :: after))
    (hs : s ∈ before ++ (k, m) :: after) (hlt : k < s.1) : s ∈ after := by
  rcases List.mem_append.mp hs with hs | hs
  · exact absurd (h.around.1 s hs) (String.lt_asymm hlt)
  · rcases List.mem_cons.mp hs with rfl | hs
    · exact absurd hlt (String.lt_irrefl k)
    · exact hs

/-- Once the server that it named has been read, the current key leads to the first server with the
address of that one, as long as no server with this key as alias is read. -/
theorem currentKey_until {mid : List Mapped} (hsorted : Sorted (before ++ (key, m) :: after))
    (hkey : key ≠ "") (hfirst : firstAt (before ++ (key, m) :: after) (normalizeUrl m.url) = some s)
    (hmid : ∀ x ∈ mid, (s.2.entry s.1).key ≠ x.1) :
    (ofMapped key (before ++ (key, m) :: mid)).currentKey = (s.2.entry s.1).key := by
  have hmoved := currentKey_append_singleton hkey hsorted.currentKey_before hfirst
  rw [List.append_cons, currentKey_append, hmoved]
  rw [hmoved]
  exact hmid

theorem currentKey_stays (hsorted : Sorted servers) (hkey : key ≠ "") (hmem : (key, m) ∈ servers)
    (hfirst : firstAt servers (normalizeUrl m.url) = some s)
    (hnone : ∀ m', ((s.2.entry s.1).key, m') ∈ servers → ¬ key < (s.2.entry s.1).key) :
    (ofMapped key servers).currentKey = (s.2.entry s.1).key := by
  obtain ⟨before, after, rfl⟩ := List.append_of_mem hmem
  refine currentKey_until hsorted hkey hfirst (fun x hx heq => ?_)
  exact hnone x.2 (by simp [heq, hx]) (heq ▸ hsorted.around.2 x hx)

/-- If the server that the current key leads to has no alias, the key is its address; a later server
with this address as alias takes the key to the first server with its own address. -/
theorem currentKey_moves {m' : MappedServer} {t : Mapped} (hsorted : Sorted servers)
    (hkey : key ≠ "") (hmem : (key, m) ∈ servers)
    (hfirst : firstAt servers (normalizeUrl m.url) = some s) (hk : (s.2.entry s.1).key = k)
    (hm' : (k, m') ∈ servers) (hlt : key < k)
    (ht : firstAt servers (normalizeUrl m'.url) = some t) :
    (ofMapped key servers).currentKey = (t.2.entry t.1).key := by
  have hsname : s.1 = "" := by
    rcases (s.2.entry s.1).key_cases with ⟨-, hkeys⟩ | ⟨hsname, -⟩
    · rw [← hk, hkeys] at hlt
      exact absurd hlt (hsorted.not_lt_of_firstAt hmem hfirst)
    · exact hsname
  have hne : k ≠ "" := by
    rintro rfl
    exact not_lt_empty _ hlt
  -- the alias of a server that has been read already is not later than `k`, and no more is its
  -- address if it has no alias, for then it is the server that the key led to
  have hread : ¬ k < (t.2.entry t.1).key := by
    rcases (t.2.entry t.1).key_cases with ⟨-, hkeyt⟩ | ⟨htname, -⟩
    · rw [hkeyt]
      exact hsorted.not_lt_of_firstAt hm' ht
    · rw [← hsorted.eq_of_key (firstAt_eq_some hfirst).1 (firstAt_eq_some ht).1
        (hsname.trans htname.symm), hk]
      exact String.lt_irrefl k
  obtain ⟨before, after, rfl⟩ := List.append_of_mem hmem
  obtain ⟨mid, rest, rfl⟩ := List.append_of_mem (hsorted.mem_after hm' hlt)
  have hcut : before ++ (key, m) :: (mid ++ (k, m') :: rest) =
      (before ++ (key, m) :: mid) ++ (k, m') :: rest := by simp
  have hsorted' := hcut ▸ hsorted
  have hkept : (ofMapped key (before ++ (key, m) :: mid)).currentKey = k := by
    rw [← hk]
    refine currentKey_until hsorted hkey hfirst (fun x hx heq => ?_)
    refine String.lt_irrefl k ?_
    rw [hk] at heq
    simpa [← heq] using hsorted'.around.1 x (by simp [hx])
  have hmoved := currentKey_append_singleton hne hkept (hcut ▸ ht)
  rw [hcut, hsorted'.currentKey_after, hmoved]
  rw [hmoved]
  exact hread

/-- What keeps a current server without alias from being found by its address: the address is the
alias of a server with another one, which is read later or is the first at its own address. -/
def Diverted (servers : List Mapped) (key url : String) : Prop :=
  ∃ m, (url, m) ∈ servers ∧ normalizeUrl m.url ≠ url ∧
    (key < url ∨ firstAt servers (normalizeUrl m.url) = some (url, m))

theorem mem_ofMapped {e : Entry} (h : e ∈ (ofMapped key servers).servers)
    (hunambiguous : (ofMapped key servers).Unambiguous) :
    ∃ t, firstAt servers e.server = some t ∧ e = t.2.entry t.1 := by
  have hsome : ((ofMapped key servers).servers.find? (fun s => s.server == e.server)).isSome := by
    rw [List.find?_isSome]
    exact ⟨e, h, by simp⟩
  obtain ⟨s, hs⟩ := Option.isSome_iff_exists.mp hsome
  have hse : s = e := hunambiguous.eq_of_server (List.mem_of_find?_eq_some hs) h
    (by simpa using List.find?_some hs)
  rw [find?_ofMapped, hse, Option.map_eq_some_iff] at hs
  obtain ⟨t, ht, hte⟩ := hs
  exact ⟨t, ht, hte.symm⟩

theorem entry_mem_ofMapped (key : String) (h : firstAt servers url = some s) :
    s.2.entry s.1 ∈ (ofMapped key servers).servers := by
  have hfind := find?_ofMapped key servers url
  rw [h] at hfind
  exact List.mem_of_find?_eq_some hfind

/-- Unless it is diverted, the key of a current server whose address has no alias is its address,
which is no alias. -/
theorem straight_ofMapped (hsorted : Sorted servers) (hkey : key ≠ "") (hmem : (key, m) ∈ servers)
    (hfirst : firstAt servers (normalizeUrl m.url) = some s) (hname : s.1 = "")
    (hunambiguous : (ofMapped key servers).Unambiguous) (hurl : normalizeUrl m.url ≠ "")
    (hstraight : ¬ Diverted servers key (normalizeUrl m.url)) :
    (ofMapped key servers).currentKey = normalizeUrl m.url ∧
      ∀ e ∈ (ofMapped key servers).servers, e.isNamed (normalizeUrl m.url) ≠ true := by
  have hk := (MappedServer.entry_key_empty hname).trans (firstAt_eq_some hfirst).2
  constructor
  · by_cases hlater : ∃ m', (normalizeUrl m.url, m') ∈ servers ∧ key < normalizeUrl m.url
    · obtain ⟨m', hm', hlt⟩ := hlater
      have hsame : normalizeUrl m'.url = normalizeUrl m.url := by
        by_contra hne
        exact hstraight ⟨m', hm', hne, Or.inl hlt⟩
      have hagain : firstAt servers (normalizeUrl m'.url) = some s := by
        rw [hsame]
        exact hfirst
      rw [currentKey_moves hsorted hkey hmem hfirst hk hm' hlt hagain, hk]
    · rw [← hk] at hlater ⊢
      exact currentKey_stays hsorted hkey hmem hfirst (fun m' hm' hlt => hlater ⟨m', hm', hlt⟩)
  · intro e he hnamed
    obtain ⟨⟨k', m'⟩, ht, rfl⟩ := mem_ofMapped he hunambiguous
    have hk' : k' = normalizeUrl m.url := (Entry.isNamed_iff.mp hnamed).1
    rw [hk'] at ht
    have hother : normalizeUrl m'.url ≠ normalizeUrl m.url := by
      intro hsame
      rw [MappedServer.entry_server, hsame, hfirst, Option.some.injEq] at ht
      rw [ht] at hname
      exact hurl hname
    exact hstraight ⟨m', (firstAt_eq_some ht).1, hother, Or.inr ht⟩

/-- A diverted address does not lead to a current server without alias. -/
theorem not_diverted_of_current? (hsorted : Sorted servers) (hkey : key ≠ "")
    (hmem : (key, m) ∈ servers) (hfirst : firstAt servers (normalizeUrl m.url) = some s)
    (hname : s.1 = "") (hunambiguous : (ofMapped key servers).Unambiguous)
    (hcurrent : (ofMapped key servers).current? = some (s.2.entry s.1)) :
    normalizeUrl m.url ≠ "" ∧ ¬ Diverted servers key (normalizeUrl m.url) := by
  obtain ⟨hs, hserver⟩ := firstAt_eq_some hfirst
  have hk := (MappedServer.entry_key_empty hname).trans hserver
  obtain ⟨hne, -, hnamed | hpoint⟩ := Config.mem_of_current? hcurrent
  · exact absurd ((Entry.isNamed_iff.mp hnamed).1.symm.trans hname) hne
  replace hpoint : normalizeUrl m.url = (ofMapped key servers).currentKey := hserver ▸ hpoint
  rw [Config.current?_eq_find? hne, ← hpoint] at hcurrent
  rw [← hpoint] at hne
  refine ⟨hne, ?_⟩
  rintro ⟨m', hm', hother, hwhen⟩
  have hkept : firstAt servers (normalizeUrl m'.url) = some (normalizeUrl m.url, m') := by
    rcases hwhen with hlt | hkept
    · obtain ⟨t, ht⟩ := exists_firstAt hm'
      have hmoved := currentKey_moves hsorted hkey hmem hfirst hk hm' hlt ht
      obtain ⟨htmem, htserver⟩ := firstAt_eq_some ht
      rw [← hpoint] at hmoved
      rcases (t.2.entry t.1).key_cases with ⟨-, hkt⟩ | ⟨-, hkt⟩
      · rw [hsorted.eq_of_key hm' htmem (hmoved.trans hkt)]
        exact ht
      · exact absurd (htserver.symm.trans (hmoved.trans hkt).symm) hother
    · exact hkept
  have hentry := entry_mem_ofMapped key hkept
  have hnamed : (m'.entry (normalizeUrl m.url)).isNamed (normalizeUrl m.url) = true :=
    Entry.isNamed_iff.mpr ⟨rfl, hne⟩
  have hfound := Config.find?_eq_of_named hunambiguous hentry hnamed
  rw [hcurrent, Option.some.injEq] at hfound
  exact hother ((congrArg Entry.server hfound).symm.trans hserver)

/-- The current entry is the first server with the address of the one that was current, unless
that server has no alias and its address is empty or leads elsewhere. -/
theorem current?_ofMapped_iff (hsorted : Sorted servers) (hkey : key ≠ "")
    (hmem : (key, m) ∈ servers) (hfirst : firstAt servers (normalizeUrl m.url) = some s)
    (hunambiguous : (ofMapped key servers).Unambiguous) :
    (ofMapped key servers).current? = some (s.2.entry s.1) ↔
      (s.1 = "" → normalizeUrl m.url ≠ "" ∧ ¬ Diverted servers key (normalizeUrl m.url)) := by
  have hentry := entry_mem_ofMapped key hfirst
  by_cases hname : s.1 = ""
  · constructor
    · intro hcurrent _
      exact not_diverted_of_current? hsorted hkey hmem hfirst hname hunambiguous hcurrent
    · intro hno
      obtain ⟨hurl, hstraight⟩ := hno hname
      obtain ⟨hpoint, hnone⟩ :=
        straight_ofMapped hsorted hkey hmem hfirst hname hunambiguous hurl hstraight
      rw [Config.current?_eq_find? (by rw [hpoint]; exact hurl), hpoint]
      exact Config.find?_eq_of_server hunambiguous hentry (firstAt_eq_some hfirst).2 hnone
  · -- an alias leads to the entry that has it
    have hcurrent : (ofMapped key servers).currentKey = s.1 := by
      rw [currentKey_stays hsorted hkey hmem hfirst, MappedServer.entry_key hname]
      intro m' _
      rw [MappedServer.entry_key hname]
      exact hsorted.not_lt_of_firstAt hmem hfirst
    refine ⟨fun _ hnone => absurd hnone hname, fun _ => ?_⟩
    rw [Config.current?_eq_find? (by rw [hcurrent]; exact hname), hcurrent]
    exact Config.find?_eq_of_named hunambiguous hentry (Entry.isNamed_iff.mpr ⟨rfl, hname⟩)

end Mapping

/-! ### Documents

What is read in a document before anything is dropped, so that a loss can be spoken of. -/

/-- The address and the token in a document with a single server. -/
def singleIn (n : Node) : Option (String × String) := do
  let fields ← knownFields ["server", "token"] n
  return (← requiredText fields "server", ← textOrNothing fields "token")

theorem convert_flat (n : Node) :
    Layout.flat.convert n = (singleIn n).map (fun s => ofSingle s.1 s.2) := by
  unfold Layout.convert readFlat singleIn
  cases knownFields ["server", "token"] n with
  | none => rfl
  | some fields =>
    cases hserver : requiredText fields "server" <;> cases htoken : textOrNothing fields "token" <;>
      simp [hserver, htoken]

/-- The current key and the servers, sorted by alias, of a document with a mapping. -/
def mappedIn (n : Node) : Option (String × List Mapped) := do
  let fields ← knownFields ["current_server", "servers"] n
  return (← textOrNothing fields "current_server", ← mappedServers (← fields.lookup "servers"))

theorem mappedIn_sorted {n : Node} {key : String} {servers : List Mapped}
    (h : mappedIn n = some (key, servers)) : Sorted servers := by
  obtain ⟨fields, -, h⟩ := Option.bind_eq_some_iff.mp h
  obtain ⟨key', -, h⟩ := Option.bind_eq_some_iff.mp h
  obtain ⟨v, -, h⟩ := Option.bind_eq_some_iff.mp h
  obtain ⟨servers', hservers, h⟩ := Option.bind_eq_some_iff.mp h
  cases h
  exact mappedServers_sorted hservers

theorem convert_serverMap (n : Node) :
    Layout.serverMap.convert n = (mappedIn n).map (fun s => ofMapped s.1 s.2) := by
  unfold Layout.convert readServerMap mappedIn
  cases knownFields ["current_server", "servers"] n with
  | none => rfl
  | some fields =>
    cases hkey : textOrNothing fields "current_server" with
    | none => simp [hkey]
    | some key =>
      cases hlookup : fields.lookup "servers" with
      | none => simp [hkey, hlookup]
      | some v => cases hservers : mappedServers v <;> simp [hkey, hlookup, hservers]

/-- What is read in a text that is a document of a layout. -/
def contentIn {α : Type} (l : Layout) (content : Node → Option α) (text : String) : Option α :=
  if Text.isBlankText text then none
  else match Yaml.read text.toList with
    | .error _ => none
    | .ok n => if Layout.detect n = some l then content n else none

/-- The address and the token in a text that is a document with a single server. -/
def singleOf (text : String) : Option (String × String) := contentIn .flat singleIn text

/-- The current key and the servers in a text that is a document with a mapping. -/
def mappingOf (text : String) : Option (String × List Mapped) :=
  contentIn .serverMap mappedIn text

section Documents

variable {text : String} {c : Config} {layout : Layout}

theorem contentIn_eq_some {α : Type} {l : Layout} {content : Node → Option α} {x : α}
    (h : contentIn l content text = some x) : Text.isBlankText text = false ∧
      ∃ n, Yaml.read text.toList = .ok n ∧ Layout.detect n = some l ∧ content n = some x := by
  unfold contentIn at h
  split at h
  · cases h
  · rename_i hblank
    split at h
    · cases h
    · rename_i n hread
      split at h
      · rename_i hdetect
        exact ⟨Bool.eq_false_iff.mpr hblank, n, hread, hdetect, h⟩
      · cases h

/-- The store that is read in a document is the one that its content stands for. -/
theorem eq_of_contentIn {α : Type} {l : Layout} {content : Node → Option α} {store : α → Config}
    {x : α} (hconvert : ∀ n, l.convert n = (content n).map store)
    (h : contentIn l content text = some x) (hparse : parse text = .ok (c, layout)) :
    c = store x := by
  obtain ⟨hblank, n, hread, hdetect, hcontent⟩ := contentIn_eq_some h
  unfold parse ofDocument at hparse
  simp only [hblank, if_neg Bool.false_ne_true, hread, hdetect, hconvert, hcontent,
    Option.map_some] at hparse
  cases hcheck : checkUnique (store x) with
  | error fault =>
    rw [hcheck] at hparse
    cases hparse
  | ok c₁ =>
    rw [hcheck] at hparse
    cases hparse
    exact (checkUnique_eq_ok.mp hcheck).1

end Documents

/-! ### Logins -/

/-- A single server is the current one unless nothing is left of its address. -/
theorem leadsTo_ofSingle_iff {url token : String} (hvisible : Text.isBlankText token = false) :
    (ofSingle url token).LeadsTo (normalizeUrl url) token ↔ normalizeUrl url ≠ "" := by
  rw [Config.leadsTo_iff]
  constructor
  · rintro ⟨-, e, he, -⟩ hempty
    simp [ofSingle, hempty, Config.empty, Config.current?] at he
  · intro hurl
    refine ⟨hvisible, ⟨"", normalizeUrl url, token, false⟩, ?_, rfl, rfl⟩
    simp [ofSingle, hurl, Config.current?, Config.find?_eq, Entry.isNamed]

/-- The current server of a mapping keeps its login if the first server at its address has the
same token and is the current one afterwards. -/
theorem leadsTo_ofMapped_iff {key : String} {servers : List Mapped} {m : MappedServer}
    (hsorted : Sorted servers) (hkey : key ≠ "") (hmem : (key, m) ∈ servers)
    (hvisible : Text.isBlankText m.token = false)
    (hunambiguous : (ofMapped key servers).Unambiguous) :
    (ofMapped key servers).LeadsTo (normalizeUrl m.url) m.token ↔
      ∃ s, firstAt servers (normalizeUrl m.url) = some s ∧
        Text.trimmed s.2.token = Text.trimmed m.token ∧
        (s.1 = "" → normalizeUrl m.url ≠ "" ∧ ¬ Diverted servers key (normalizeUrl m.url)) := by
  obtain ⟨s, hs⟩ := exists_firstAt hmem
  have hcurrent := current?_ofMapped_iff hsorted hkey hmem hs hunambiguous
  rw [Config.leadsTo_iff]
  constructor
  · rintro ⟨-, e, he, hserver, htoken⟩
    obtain ⟨t, ht, rfl⟩ := mem_ofMapped (Config.mem_of_current? he).2.1 hunambiguous
    rw [hserver, hs, Option.some.injEq] at ht
    subst ht
    exact ⟨s, hs, htoken, hcurrent.mp he⟩
  · rintro ⟨t, ht, htoken, hnameless⟩
    rw [hs, Option.some.injEq] at ht
    subst ht
    exact ⟨hvisible, s.2.entry s.1, hcurrent.mpr hnameless, (firstAt_eq_some hs).2, htoken⟩

/-- **When a login outlives its layout.** A file of an older layout that is loaded, and so written
anew, leads where it led before. A single server does unless nothing is left of its address. A
mapping does if the first of the servers with the address of the current one has the same token
and, should it have no alias, is found by its address. -/
theorem migrated_login_iff {path text : String} {c : Config} {d d₁ : Disk}
    (hstored : storedAt (Path.read path) d = some (Text.octets text))
    (hload : loadFrom path d = (.ok c, d₁)) :
    (∀ url token, singleOf text = some (url, token) → Text.isBlankText token = false →
      (c.LeadsTo (normalizeUrl url) token ↔ normalizeUrl url ≠ "")) ∧
    ∀ key servers m, mappingOf text = some (key, servers) → key ≠ "" → (key, m) ∈ servers →
      Text.isBlankText m.token = false →
      (c.LeadsTo (normalizeUrl m.url) m.token ↔
        ∃ s, firstAt servers (normalizeUrl m.url) = some s ∧
          Text.trimmed s.2.token = Text.trimmed m.token ∧
          (s.1 = "" → normalizeUrl m.url ≠ "" ∧
            ¬ Diverted servers key (normalizeUrl m.url))) := by
  obtain ⟨layout, hparse, -⟩ := loadFrom_stored hstored hload
  constructor
  · intro url token hsingle hvisible
    rw [eq_of_contentIn convert_flat hsingle hparse]
    exact leadsTo_ofSingle_iff hvisible
  · intro key servers m hmapping hkey hmem hvisible
    obtain ⟨-, n, -, -, hmapped⟩ := contentIn_eq_some hmapping
    have hunambiguous := parse_unambiguous hparse
    rw [eq_of_contentIn convert_serverMap hmapping hparse] at hunambiguous ⊢
    exact leadsTo_ofMapped_iff (mappedIn_sorted hmapped) hkey hmem hvisible hunambiguous

/-- A mapping in which one address has two aliases. The second one is the current one and has the
token `t`; the token of the first one is given. -/
def twiceText (first : String) : String :=
  "current_server: b\nservers:\n  a:\n    url: https://a.example\n    token: " ++ first ++
    "\n  b:\n    url: https://a.example/\n    token: t\n"

/-- A disk with that mapping in a file. -/
def twiceDisk (first : String) : Disk :=
  { Config.blankDisk with
    items := [(["servers.yaml"], .file 0 (Text.octets (twiceText first)) 0o600)]
    nextSerial := 1 }

/-- What is read in that mapping. -/
def twiceMapping (first : String) : List Mapped :=
  [("a", ⟨"https://a.example", first, false⟩), ("b", ⟨"https://a.example/", "t", false⟩)]

/-- If both servers have the token, the login is kept under the first alias. -/
theorem same_token_keeps_login :
    ∃ c, (loadFrom "servers.yaml" (twiceDisk "t")).1 = .ok c ∧
      c.LeadsTo "https://a.example" "t" := by
  have hstored : storedAt (Path.read "servers.yaml") (twiceDisk "t") =
      some (Text.octets (twiceText "t")) := by
    decide +kernel
  have hload : (loadFrom "servers.yaml" (twiceDisk "t")).1 =
      .ok ⟨"a", [⟨"a", "https://a.example", "t", false⟩]⟩ := by
    decide +kernel
  have hmapping : mappingOf (twiceText "t") = some ("b", twiceMapping "t") := by decide +kernel
  have hkept := (migrated_login_iff hstored (Prod.ext hload rfl)).2 "b" (twiceMapping "t")
    ⟨"https://a.example/", "t", false⟩ hmapping (by decide) (by decide) (by decide)
  have hurl : normalizeUrl "https://a.example/" = "https://a.example" := by decide
  rw [hurl] at hkept
  exact ⟨_, hload, hkept.mpr ⟨("a", ⟨"https://a.example", "t", false⟩), by decide, rfl,
    fun hnone => absurd hnone (by decide)⟩⟩

/-- A login can get lost: if the first server at the address has no token there is no connection,
although the current server had a token. If the first server has no alias, and its address is the
alias of another one, the connection goes to that other server. -/
theorem migration_loses_login :
    (mappingOf (twiceText "") = some ("b", twiceMapping "") ∧
      ("b", ⟨"https://a.example/", "t", false⟩) ∈ twiceMapping "" ∧
      ∃ c, (loadFrom "servers.yaml" (twiceDisk "")).1 = .ok c ∧
        c.connection none = .error (.notLoggedIn "https://a.example")) ∧
    (ofMapped "b" [("", ⟨"https://a.example", "t", false⟩),
        ("b", ⟨"https://a.example/", "t", false⟩),
        ("https://a.example", ⟨"https://o.example", "o", false⟩)]).connection none =
      .ok ⟨"https://o.example", "o", false⟩ := by
  refine ⟨⟨by decide +kernel, by decide,
    ⟨"a", [⟨"a", "https://a.example", "", false⟩]⟩, by decide +kernel, by decide +kernel⟩,
    by decide +kernel⟩

end SandboxClient.Server
