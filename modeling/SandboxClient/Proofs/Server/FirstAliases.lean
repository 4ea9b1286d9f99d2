/-
  SandboxClient/Proofs/Server/FirstAliases.lean
  =============================================
  **The list that a mapping becomes.** A document with a mapping says of each alias
  at which address its server is, and perhaps more; of several values under one
  alias the last one counts. The list has one entry for each address, as it is
  normalised: that of the first alias at this address, with what is said of this
  alias. It is sorted by alias, and the current key stays unless the server that it
  names is left out: `first_alias_of_each_address`.

  On the sorted mapping the list is a filter (`ofMapped_servers`). The document is
  related to the sorted mapping by what its last value under an alias says
  (`mem_mappedIn_iff`).
-/
import SandboxClient.Proofs.Server.Migrated

namespace SandboxClient.Server

open SandboxClient.Yaml (Node)

/-! ### The servers that are kept

By induction from the end of the mapping: a server is kept if its address is new. -/

section Mapping

variable {servers : List Mapped} {key k : String} {m : MappedServer} {s : Mapped}

theorem MappedServer.eq_entry_iff {e : Entry} : e = m.entry e.name ↔
    e.server = normalizeUrl m.url ∧ e.token = m.token ∧ e.insecure = m.insecure := by
  cases e
  simp [MappedServer.entry]

/-- The servers of a mapping that are the first at their addresses. -/
def keptOf (servers : List Mapped) : List Mapped :=
  servers.filter (fun s => firstAt servers (normalizeUrl s.2.url) == some s)

theorem mem_keptOf : s ∈ keptOf servers ↔ firstAt servers (normalizeUrl s.2.url) = some s := by
  unfold keptOf
  rw [List.mem_filter, beq_iff_eq]
  constructor
  · exact And.right
  · exact fun h => ⟨(firstAt_eq_some h).1, h⟩

/-- A server at the end of a sorted mapping is the first at its address only if the address is
new. -/
theorem Sorted.firstAt_append_singleton (h : Sorted (servers ++ [s])) :
    firstAt (servers ++ [s]) (normalizeUrl s.2.url) = some s ↔
      firstAt servers (normalizeUrl s.2.url) = none := by
  rw [firstAt_append]
  cases hfirst : firstAt servers (normalizeUrl s.2.url) with
  | none => simp [firstAt]
  | some t =>
    have hlt : t.1 < s.1 := h.around.1 t (firstAt_eq_some hfirst).1
    rw [Option.some_or, Option.some.injEq]
    constructor
    · rintro rfl
      exact absurd hlt (String.lt_irrefl _)
    · rintro ⟨⟩

theorem Sorted.of_append_singleton (h : Sorted (servers ++ [s])) : Sorted servers :=
  List.Pairwise.sublist (List.sublist_append_left servers [s]) h

theorem Sorted.keptOf_append_singleton (h : Sorted (servers ++ [s])) : keptOf (servers ++ [s]) =
    if firstAt servers (normalizeUrl s.2.url) = none then keptOf servers ++ [s]
    else keptOf servers := by
  have hbefore : servers.filter
      (fun t => firstAt (servers ++ [s]) (normalizeUrl t.2.url) == some t) = keptOf servers := by
    refine List.filter_congr (fun t ht => ?_)
    rw [firstAt_append_of_mem ht]
  unfold keptOf at hbefore ⊢
  rw [List.filter_append, hbefore]
  by_cases hnew : firstAt servers (normalizeUrl s.2.url) = none
  · simp [h.firstAt_append_singleton.mpr hnew, hnew]
  · simp [mt h.firstAt_append_singleton.mp hnew, hnew]

/-- The entries of the list are the servers that are kept. -/
theorem Sorted.ofMapped_servers (h : Sorted servers) :
    (ofMapped key servers).servers = (keptOf servers).map (fun s => s.2.entry s.1) := by
  induction servers using List.reverseRecOn with
  | nil => rfl
  | append_singleton servers s ih =>
    have hfind := find?_ofMapped key servers (normalizeUrl s.2.url)
    rw [ofMapped_append_singleton, h.keptOf_append_singleton]
    cases hfirst : firstAt servers (normalizeUrl s.2.url) with
    | none =>
      rw [hfirst] at hfind
      rw [adopt_of_find?_eq_none hfind, if_pos rfl, List.map_append, ← ih h.of_append_singleton]
      rfl
    | some t =>
      rw [hfirst] at hfind
      rw [adopt_of_find? hfind, if_neg (Option.some_ne_none t)]
      exact ih h.of_append_singleton

/-- The first server at an address is the one with the least alias. -/
theorem Sorted.firstAt_iff (h : Sorted servers) :
    firstAt servers (normalizeUrl s.2.url) = some s ↔
      s ∈ servers ∧ ∀ t ∈ servers, normalizeUrl t.2.url = normalizeUrl s.2.url → s.1 ≤ t.1 := by
  constructor
  · intro hfirst
    refine ⟨(firstAt_eq_some hfirst).1, fun t ht hurl => ?_⟩
    rw [← hurl] at hfirst
    exact String.not_lt.mp (h.not_lt_of_firstAt ht hfirst)
  · rintro ⟨hs, hleast⟩
    obtain ⟨t, ht⟩ := exists_firstAt hs
    obtain ⟨hmem, hurl⟩ := firstAt_eq_some ht
    have hname : s.1 = t.1 :=
      String.le_antisymm (hleast t hmem hurl) (String.not_lt.mp (h.not_lt_of_firstAt hs ht))
    rw [ht, h.eq_of_key hs hmem hname]

/-- An entry of the list is a server as it is described, at whose address no lesser alias is. -/
theorem Sorted.mem_ofMapped_iff {e : Entry} (h : Sorted servers) :
    e ∈ (ofMapped key servers).servers ↔ ∃ m, (e.name, m) ∈ servers ∧ e = m.entry e.name ∧
      ∀ t ∈ servers, normalizeUrl t.2.url = normalizeUrl m.url → e.name ≤ t.1 := by
  rw [h.ofMapped_servers, List.mem_map]
  constructor
  · rintro ⟨⟨k, m⟩, hs, rfl⟩
    obtain ⟨hmem, hleast⟩ := h.firstAt_iff.mp (mem_keptOf.mp hs)
    exact ⟨m, hmem, rfl, hleast⟩
  · rintro ⟨m, hmem, he, hleast⟩
    exact ⟨(e.name, m), mem_keptOf.mpr (h.firstAt_iff.mpr ⟨hmem, hleast⟩), he.symm⟩

theorem Sorted.names_ofMapped (h : Sorted servers) (key : String) :
    ((ofMapped key servers).servers.map Entry.name).Pairwise (· < ·) := by
  rw [h.ofMapped_servers, List.map_map, List.pairwise_map]
  exact h.filter _

theorem Sorted.eq_of_server {e e' : Entry} (h : Sorted servers)
    (he : e ∈ (ofMapped key servers).servers) (he' : e' ∈ (ofMapped key servers).servers)
    (hserver : e.server = e'.server) : e = e' := by
  obtain ⟨m, hmem, hm, hleast⟩ := h.mem_ofMapped_iff.mp he
  obtain ⟨m', hmem', hm', hleast'⟩ := h.mem_ofMapped_iff.mp he'
  rw [hm, hm', MappedServer.entry_server, MappedServer.entry_server] at hserver
  have hname : e.name = e'.name :=
    String.le_antisymm (hleast _ hmem' hserver.symm) (hleast' _ hmem hserver)
  obtain rfl : m = m' := congrArg Prod.snd (h.eq_of_key hmem hmem' hname)
  rw [hm, hm', hname]

theorem Sorted.addresses_ofMapped (h : Sorted servers) (key : String) :
    ((ofMapped key servers).servers.map Entry.server).Nodup := by
  refine List.Nodup.map_on (fun e he e' he' => h.eq_of_server he he') ?_
  refine (List.pairwise_map.mp (h.names_ofMapped key)).imp ?_
  rintro e e' hlt rfl
  exact String.lt_irrefl _ hlt

/-- Each address of a mapping has an entry in the list, and no other. -/
theorem Sorted.existsUnique_ofMapped (h : Sorted servers) (key : String) (hs : s ∈ servers) :
    ∃! e, e ∈ (ofMapped key servers).servers ∧ e.server = normalizeUrl s.2.url := by
  obtain ⟨t, ht⟩ := exists_firstAt hs
  have hurl := (firstAt_eq_some ht).2
  have hmem : t.2.entry t.1 ∈ (ofMapped key servers).servers := by
    rw [h.ofMapped_servers]
    exact List.mem_map_of_mem (mem_keptOf.mpr (by rw [hurl]; exact ht))
  refine ⟨t.2.entry t.1, ⟨hmem, hurl⟩, ?_⟩
  rintro e ⟨he, hserver⟩
  exact h.eq_of_server he hmem (hserver.trans hurl.symm)

/-- The current key stays as long as it does not name a server that is left out. -/
theorem Sorted.currentKey_of_kept (h : Sorted servers)
    (hkept : ∀ s ∈ servers, s.1 = key → firstAt servers (normalizeUrl s.2.url) = some s) :
    (ofMapped key servers).currentKey = key := by
  induction servers using List.reverseRecOn with
  | nil => rfl
  | append_singleton servers s ih =>
    have hbefore : (ofMapped key servers).currentKey = key := by
      refine ih h.of_append_singleton (fun t ht hname => ?_)
      rw [← firstAt_append_of_mem ht]
      exact hkept t (List.mem_append_left _ ht) hname
    rw [ofMapped_append_singleton]
    by_cases hname : s.1 = key
    · have hnew := h.firstAt_append_singleton.mp (hkept s (by simp) hname)
      rw [adopt_of_find?_eq_none (by rw [find?_ofMapped, hnew]; rfl)]
      exact hbefore
    · rw [adopt_currentKey_of_ne (fun heq => hname (heq.symm.trans hbefore)), hbefore]

/-! ### Values under one alias -/

/-- Inserting puts a value in the place of another one under the same key. -/
theorem Sorted.mem_insert_iff (h : Sorted servers) :
    s ∈ insertSorted k m servers ↔ s = (k, m) ∨ (s ∈ servers ∧ s.1 ≠ k) := by
  induction servers with
  | nil => simp [insertSorted]
  | cons e es ih =>
    obtain ⟨he, hes⟩ := List.pairwise_cons.mp h
    unfold insertSorted
    split
    · rename_i hlt
      have hother : ∀ t ∈ e :: es, t.1 ≠ k := by
        rintro t ht rfl
        rcases List.mem_cons.mp ht with rfl | ht
        · exact String.lt_irrefl _ hlt
        · exact String.lt_irrefl _ (String.lt_trans hlt (he t ht))
      rw [List.mem_cons]
      exact or_congr_right ⟨fun hs => ⟨hs, hother s hs⟩, And.left⟩
    · split
      · rename_i heq
        have hother : ∀ t ∈ es, t.1 ≠ k := by
          rintro t ht rfl
          exact String.lt_irrefl _ (heq ▸ he t ht)
        rw [List.mem_cons, List.mem_cons]
        refine or_congr_right ⟨fun hs => ⟨Or.inr hs, hother s hs⟩, ?_⟩
        rintro ⟨rfl | hs, hne⟩
        · exact absurd heq.symm hne
        · exact hs
      · rename_i hne
        rw [List.mem_cons, List.mem_cons, ih hes]
        constructor
        · rintro (rfl | rfl | ⟨hs, hsk⟩)
          · exact Or.inr ⟨Or.inl rfl, Ne.symm hne⟩
          · exact Or.inl rfl
          · exact Or.inr ⟨Or.inr hs, hsk⟩
        · rintro (rfl | ⟨rfl | hs, hsk⟩)
          · exact Or.inr (Or.inl rfl)
          · exact Or.inl rfl
          · exact Or.inr (Or.inr ⟨hs, hsk⟩)

end Mapping

/-! ### What a document says

Of several values under one alias the last one counts. -/

/-- A field says a text; one that is missing or null says that it is empty. -/
def SaysText (field : Option Node) (s : String) : Prop :=
  match field with
  | none | some .null => s = ""
  | some v => textOf v = some s

/-- A field says yes or no; one that is missing says no. -/
def SaysFlag (field : Option Node) (b : Bool) : Prop :=
  match field with
  | none => b = false
  | some v => v.untagged = .bool b

/-- The value under an alias describes a server. -/
def Describes (v : Node) (m : MappedServer) : Prop :=
  ∃ fields, knownFields ["url", "token", "insecure"] v = some fields ∧
    (∃ url, fields.lookup "url" = some url ∧ textOf url = some m.url) ∧
    SaysText (fields.lookup "token") m.token ∧ SaysFlag (fields.lookup "insecure") m.insecure

/-- The last value that the entries of a mapping have under an alias. -/
def lastUnder (k : String) (entries : List (Node × Node)) : Option Node :=
  (entries.reverse.find? (fun e => textOf e.1 == some k)).map Prod.snd

/-- A document says something about the server of an alias. -/
def Says (n : Node) (k : String) (m : MappedServer) : Prop :=
  ∃ fields v entries value, knownFields ["current_server", "servers"] n = some fields ∧
    fields.lookup "servers" = some v ∧ v.untagged = .mapping entries ∧
    lastUnder k entries = some value ∧ Describes value m

/-- A document says which key is current. -/
def PointsTo (n : Node) (key : String) : Prop :=
  ∃ fields, knownFields ["current_server", "servers"] n = some fields ∧
    SaysText (fields.lookup "current_server") key

section Reading

variable {fields : List (String × Node)} {name k : String} {v n : Node} {m : MappedServer}

theorem textOrNothing_eq_some {s : String} :
    textOrNothing fields name = some s ↔ SaysText (fields.lookup name) s := by
  unfold textOrNothing SaysText
  cases fields.lookup name with
  | none => simp [eq_comm]
  | some v => cases v <;> simp [eq_comm]

theorem flagOrFalse_eq_some {b : Bool} :
    flagOrFalse fields name = some b ↔ SaysFlag (fields.lookup name) b := by
  unfold flagOrFalse SaysFlag
  cases fields.lookup name with
  | none => simp [eq_comm]
  | some v => cases hv : v.untagged <;> simp [hv]

theorem mappedServerOf_eq_some : mappedServerOf v = some m ↔ Describes v m := by
  unfold mappedServerOf Describes requiredText
  simp only [Option.bind_eq_bind, Option.bind_eq_some_iff, Option.pure_def, Option.some.injEq,
    textOrNothing_eq_some, flagOrFalse_eq_some]
  constructor
  · rintro ⟨fields, hfields, url, hurl, token, htoken, insecure, hinsecure, rfl⟩
    exact ⟨fields, hfields, hurl, htoken, hinsecure⟩
  · rintro ⟨fields, hfields, hurl, htoken, hinsecure⟩
    exact ⟨fields, hfields, m.url, hurl, m.token, htoken, m.insecure, hinsecure, rfl⟩

theorem lastUnder_append_singleton (entries : List (Node × Node)) (e : Node × Node) :
    lastUnder k (entries ++ [e]) =
      if textOf e.1 = some k then some e.2 else lastUnder k entries := by
  unfold lastUnder
  rw [List.reverse_append, List.reverse_singleton, List.singleton_append, List.find?_cons]
  by_cases h : textOf e.1 = some k
  · simp [h]
  · simp [h, beq_false_of_ne h]

/-- What is said about an alias is what the last value under it says. -/
theorem mem_foldl_insertSorted {entries : List (Node × Node)} {read : List Mapped}
    (hread : entries.mapM (fun e => do return (← textOf e.1, ← mappedServerOf e.2)) = some read) :
    (k, m) ∈ read.foldl (fun done s => insertSorted s.1 s.2 done) [] ↔
      ∃ value, lastUnder k entries = some value ∧ Describes value m := by
  induction entries using List.reverseRecOn generalizing read with
  | nil =>
    cases hread
    simp [lastUnder]
  | append_singleton entries e ih =>
    rw [List.mapM_append] at hread
    obtain ⟨before, hbefore, hread⟩ := Option.bind_eq_some_iff.mp hread
    obtain ⟨last, hlast, hread⟩ := Option.bind_eq_some_iff.mp hread
    cases hread
    obtain ⟨s, hs, hnil⟩ := Option.bind_eq_some_iff.mp hlast
    cases hnil
    obtain ⟨name, hname, hs⟩ := Option.bind_eq_some_iff.mp hs
    obtain ⟨said, hsaid, hs⟩ := Option.bind_eq_some_iff.mp hs
    cases hs
    rw [List.foldl_append, lastUnder_append_singleton, hname]
    show (k, m) ∈ insertSorted name said _ ↔ _
    rw [(sorted_foldl_insertSorted before).mem_insert_iff, ih hbefore]
    by_cases hk : name = k
    · subst hk
      have hdescribes : Describes e.2 m ↔ m = said := by
        rw [← mappedServerOf_eq_some, hsaid, Option.some.injEq, eq_comm]
      simp [hdescribes]
    · simp [hk, Ne.symm hk]

/-- The sorted mapping has what the document says of each alias. -/
theorem mem_mappedIn_iff {key : String} {servers : List Mapped}
    (h : mappedIn n = some (key, servers)) :
    PointsTo n key ∧ ∀ k m, (k, m) ∈ servers ↔ Says n k m := by
  obtain ⟨fields, hfields, h⟩ := Option.bind_eq_some_iff.mp h
  obtain ⟨key', hkey, h⟩ := Option.bind_eq_some_iff.mp h
  obtain ⟨v, hv, h⟩ := Option.bind_eq_some_iff.mp h
  obtain ⟨servers', hservers, h⟩ := Option.bind_eq_some_iff.mp h
  cases h
  refine ⟨⟨fields, hfields, textOrNothing_eq_some.mp hkey⟩, fun k m => ?_⟩
  unfold mappedServers at hservers
  split at hservers
  · rename_i entries hentries
    obtain ⟨read, hread, hservers⟩ := Option.bind_eq_some_iff.mp hservers
    cases hservers
    rw [mem_foldl_insertSorted hread]
    constructor
    · rintro ⟨value, hvalue, hdescribes⟩
      exact ⟨fields, v, entries, value, hfields, hv, hentries, hvalue, hdescribes⟩
    · rintro ⟨fields', v', entries', value, hfields', hv', hentries', hvalue, hdescribes⟩
      cases hfields.symm.trans hfields'
      cases hv.symm.trans hv'
      cases hentries.symm.trans hentries'
      exact ⟨value, hvalue, hdescribes⟩
  · cases hservers

end Reading

/-! ### The list -/

/-- **The first alias of each address.** The list that a mapping becomes is sorted by alias, and no
address is in it twice. An entry is in it exactly if the document says what it says of its alias,
at the normalised address, and no lesser alias has this address; so each address that the document
speaks of has one entry. The current key is the one that the document tells unless this is the
alias of a server that is left out. -/
theorem first_alias_of_each_address {n : Node} {c : Config}
    (h : Layout.serverMap.convert n = some c) :
    (c.servers.map Entry.name).Pairwise (· < ·) ∧
    (c.servers.map Entry.server).Nodup ∧
    (∀ e, e ∈ c.servers ↔ ∃ m, Says n e.name m ∧ e.server = normalizeUrl m.url ∧
      e.token = m.token ∧ e.insecure = m.insecure ∧
      ∀ k' m', Says n k' m' → normalizeUrl m'.url = normalizeUrl m.url → e.name ≤ k') ∧
    (∀ k m, Says n k m → ∃! e, e ∈ c.servers ∧ e.server = normalizeUrl m.url) ∧
    ∃ key, PointsTo n key ∧
      ((∀ m, Says n key m → ∃ e ∈ c.servers, e.name = key) → c.currentKey = key) := by
  rw [convert_serverMap] at h
  obtain ⟨⟨key, servers⟩, hmapped, hc⟩ := Option.map_eq_some_iff.mp h
  obtain rfl : ofMapped key servers = c := hc
  have hsorted := mappedIn_sorted hmapped
  obtain ⟨hkey, hdescribes⟩ := mem_mappedIn_iff hmapped
  refine ⟨hsorted.names_ofMapped key, hsorted.addresses_ofMapped key, fun e => ?_, fun k m hm => ?_,
    key, hkey, fun hkept => ?_⟩
  · rw [hsorted.mem_ofMapped_iff]
    refine exists_congr (fun m => ?_)
    rw [hdescribes, MappedServer.eq_entry_iff, and_assoc, and_assoc, Prod.forall]
    simp only [hdescribes]
  · exact hsorted.existsUnique_ofMapped key (s := (k, m)) ((hdescribes k m).mpr hm)
  · refine hsorted.currentKey_of_kept ?_
    rintro ⟨k, m⟩ hs rfl
    obtain ⟨e, he, hname⟩ := hkept m ((hdescribes k m).mp hs)
    obtain ⟨m', hmem, -, hleast⟩ := hsorted.mem_ofMapped_iff.mp he
    rw [hname] at hmem hleast
    obtain rfl : m = m' := congrArg Prod.snd (hsorted.eq_of_key hs hmem rfl)
    exact hsorted.firstAt_iff.mpr ⟨hs, hleast⟩

/-- A mapping in which one address has two aliases and two spellings. -/
def spelledTwice : Node :=
  .mapping [(.text "current_server", .text "b"),
    (.text "servers", .mapping [
      (.text "b", .mapping [(.text "url", .text "https://a.example/"), (.text "token", .text "t")]),
      (.text "c", .mapping [(.text "url", .text "https://c.example"), (.text "token", .text "u")]),
      (.text "a", .mapping [(.text "url", .text " https://a.example"), (.text "token", .null),
        (.text "insecure", .bool true)])])]

/-- The entry for this address is that of the lesser alias, which is current now. -/
theorem lesser_alias_is_listed :
    Layout.serverMap.convert spelledTwice = some ⟨"a",
      [⟨"a", "https://a.example", "", true⟩, ⟨"c", "https://c.example", "u", false⟩]⟩ ∧
    ∃ m, Says spelledTwice "a" m ∧ normalizeUrl m.url = "https://a.example" ∧
      ∀ k' m', Says spelledTwice k' m' → normalizeUrl m'.url = normalizeUrl m.url → "a" ≤ k' := by
  have hconvert : Layout.serverMap.convert spelledTwice = some ⟨"a",
      [⟨"a", "https://a.example", "", true⟩, ⟨"c", "https://c.example", "u", false⟩]⟩ := by
    decide +kernel
  obtain ⟨-, -, hlisted, -⟩ := first_alias_of_each_address hconvert
  obtain ⟨m, hdescribes, hserver, -, -, hleast⟩ :=
    (hlisted ⟨"a", "https://a.example", "", true⟩).mp List.mem_cons_self
  exact ⟨hconvert, m, hdescribes, hserver.symm, hleast⟩

end SandboxClient.Server
