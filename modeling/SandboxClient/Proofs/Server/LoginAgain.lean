/-
  SandboxClient/Proofs/Server/LoginAgain.lean
  ===========================================
  **Logging in again.** The alias that a login is given depends on the entries
  that are there, and a login changes them. But once it is stored, the entry with
  its address is its own, and has the alias that was chosen for it; so the next
  login at this address is given the same alias and goes to the same place, and
  nothing but the token changes: `login_again`.
-/
import SandboxClient.Proofs.Server.DerivedAlias
import SandboxClient.Proofs.Server.LoginEntry
import SandboxClient.Proofs.Url.Hosts

namespace SandboxClient.Server

open SandboxClient.Url (Host)

/-! ### Derived aliases are visible -/

theorem loopbackAlias_ne_empty : loopbackAlias ≠ "" := by decide

theorem aliasOfV4_ne_empty (n : Nat) : aliasOfV4 n ≠ "" := by
  unfold aliasOfV4
  split
  · exact loopbackAlias_ne_empty
  · rw [Ne, String.ofList_eq_empty_iff]
    exact Url.V4.write_ne_nil n

theorem aliasOfV6_ne_empty {pieces : List Nat} (h : pieces ≠ []) : aliasOfV6 pieces ≠ "" := by
  unfold aliasOfV6
  split
  · exact loopbackAlias_ne_empty
  · rw [Ne, String.ofList_eq_empty_iff]
    exact Url.V6.display_ne_nil h

theorem firstLabel_ne_empty (s : List Char) : firstLabel s ≠ some "" := by
  unfold firstLabel
  dsimp only
  split
  · rintro ⟨⟩
  · rename_i hlabel
    rw [Ne, Option.some.injEq, String.ofList_eq_empty_iff, List.map_eq_nil_iff]
    simpa using hlabel

theorem aliasOfHost_ne_empty {h : Host} (hfull : h.Full) : aliasOfHost h ≠ some "" := by
  cases h with
  | v4 n => simpa [aliasOfHost] using aliasOfV4_ne_empty n
  | v6 pieces =>
    have hpieces : pieces ≠ [] := by
      rintro rfl
      cases hfull
    simpa [aliasOfHost] using aliasOfV6_ne_empty hpieces
  | name s =>
    simp only [aliasOfHost]
    split
    · simpa using loopbackAlias_ne_empty
    · split
      · simpa using aliasOfV4_ne_empty _
      · exact firstLabel_ne_empty s

theorem deriveAlias_ne_empty (url : String) : deriveAlias url ≠ some "" := by
  unfold deriveAlias
  split
  · rename_i u hparse
    intro hempty
    obtain ⟨h, hhost, hempty⟩ := Option.bind_eq_some_iff.mp hempty
    exact aliasOfHost_ne_empty (Url.full_of_parse hparse h hhost) hempty
  · rintro ⟨⟩

namespace Config

variable {c : Config} {name url t₁ t₂ : String} {given : Option String}
  {before after : List Entry} {old : Option Entry} {k : Entry}

/-! ### The same place

After a login its entry is the only one with its address, and nothing has its alias but itself. -/

/-- Tokens have no part in where a login is stored and in what stays beside it. -/
theorem entryOf_withToken (old : Option Entry) (name url t₁ t₂ : String) :
    entryOf old name url t₂ = { entryOf old name url t₁ with token := t₂ } := by
  cases old <;> rfl

/-- What has been stored, with the token in it left open: an entry with the address and with the
alias that was given, between entries that are apart from it. -/
structure Stores (c : Config) (name url : String) (before : List Entry) (k : Entry)
    (after : List Entry) : Prop where
  set_eq : ∀ token, c.set name url token =
    ⟨k.key, before ++ { k with token := token } :: after⟩
  server : k.server = normalizeUrl url
  name : name ≠ "" → k.name = name
  before : ∀ e ∈ before, k.Apart e
  after : ∀ e ∈ after, k.Apart e

theorem Goes.stores (h : c.Goes name (normalizeUrl url) before old after) (t₁ : String)
    (hk : entryOf old name (normalizeUrl url) t₁ = k) :
    c.Stores name url (before.filter (staysBeside k)) k (after.filter (staysBeside k)) where
  set_eq := by
    intro token
    rw [set, store_of_goes h rfl, entryOf_withToken old name (normalizeUrl url) t₁ token, hk]
    rfl
  server := hk ▸ entryOf_server
  name := by
    intro hname
    rw [← hk, entryOf_name, if_neg hname]
  before := by
    intro e he
    exact staysBeside_iff.mp (List.mem_filter.mp he).2
  after := by
    intro e he
    exact staysBeside_iff.mp (List.mem_filter.mp he).2

/-- A login that is stored goes, when it is stored again, to the place where it is. -/
theorem Stores.goes (h : c.Stores name url before k after) (token : String) :
    (c.set name url token).Goes name (normalizeUrl url) before
      (some { k with token := token }) after := by
  have hservers : (c.set name url token).servers =
      before ++ { k with token := token } :: after := by
    rw [h.set_eq]
  by_cases hname : name = ""
  · refine .addressed (fun hne => absurd hname hne) hservers h.server ?_
    intro s hs
    rw [← h.server]
    exact (h.before s hs).1.symm
  · refine .named hname hservers (h.name hname) ?_
    intro s hs
    rw [← h.name hname]
    exact ((h.before s hs).2 (h.name hname ▸ hname)).symm

/-- Storing a login again changes the token alone, since nothing is left that has to go. -/
theorem Stores.set_set (h : c.Stores name url before k after) (t₁ t₂ : String) :
    (c.set name url t₁).set name url t₂ = c.set name url t₂ := by
  have hentry : entryOf (some { k with token := t₁ }) name (normalizeUrl url) t₂ =
      { k with token := t₂ } := by
    have hname : name ≠ "" → name = k.name := fun hne => (h.name hne).symm
    simpa [entryOf, updated, h.server] using hname
  have hbefore : before.filter (staysBeside { k with token := t₂ }) = before := by
    rw [List.filter_eq_self]
    intro e he
    exact staysBeside_iff.mpr (h.before e he)
  have hafter : after.filter (staysBeside { k with token := t₂ }) = after := by
    rw [List.filter_eq_self]
    intro e he
    exact staysBeside_iff.mpr (h.after e he)
  rw [set, store_of_goes (h.goes t₁) hentry, hbefore, hafter, h.set_eq t₂]
  rfl

/-! ### The same alias -/

/-- An alias that is given and not blank is the one that is chosen. -/
theorem chooseAlias_eq_getD (c : Config) (url : String) (given : Option String) :
    c.chooseAlias url given =
      ((given.map Text.trimmed).filter (fun a => !a.isEmpty)).getD (c.chooseAlias url none) := by
  unfold chooseAlias
  cases (given.map Text.trimmed).filter (fun a => !a.isEmpty) <;> rfl

theorem freeAlias_ne_empty {base : String} (h : base ≠ "") : c.freeAlias base ≠ "" := by
  by_cases htaken : c.hasAlias base = true
  · obtain ⟨n, hn, hle⟩ := search_ends htaken
    rw [freeAlias_of_search htaken hn hle]
    simp [numbered]
  · rw [freeAlias_of_free (by simpa using htaken)]
    exact h

/-- No alias is chosen only if the address gives none. -/
theorem deriveAlias_of_chosen_empty (h : c.chooseAlias url none = "") :
    deriveAlias (normalizeUrl url) = none := by
  rcases chooseAlias_cases c url with ⟨e, -, -, hne, hchosen⟩ | ⟨-, hchosen⟩
  · exact absurd (hchosen.symm.trans h) hne
  · cases hderive : deriveAlias (normalizeUrl url) with
    | none => rfl
    | some base =>
      rw [hderive, h] at hchosen
      have hbase : base ≠ "" := by
        rintro rfl
        exact deriveAlias_ne_empty _ hderive
      exact absurd hchosen.symm (freeAlias_ne_empty hbase)

/-- Where the only entry with an address has an alias, or none and the address gives none, that is
what a login at the address is given. -/
theorem chooseAlias_of_only (hk : k ∈ c.servers) (hserver : k.server = normalizeUrl url)
    (honly : ∀ e ∈ c.servers, e.server = normalizeUrl url → e = k)
    (hderive : k.name = "" → deriveAlias (normalizeUrl url) = none) :
    c.chooseAlias url none = k.name := by
  rcases chooseAlias_cases c url with ⟨e, he, heserver, -, hchosen⟩ | ⟨hunnamed, hchosen⟩
  · rw [hchosen, honly e he heserver]
  · have hempty := hunnamed k hk hserver
    rw [hchosen, hderive hempty, hempty]
    rfl

/-- After a login for which no alias was given the address has an entry of its own, with the alias
that was chosen, and so the next one is given that. -/
theorem chooseAlias_none_again (c : Config) (url token : String) :
    (c.set (c.chooseAlias url none) url token).chooseAlias url none = c.chooseAlias url none := by
  obtain ⟨before, old, after, hgoes⟩ := exists_goes c (c.chooseAlias url none) (normalizeUrl url)
  obtain ⟨k, hk⟩ : ∃ k,
      entryOf old (c.chooseAlias url none) (normalizeUrl url) token = k := ⟨_, rfl⟩
  have hstores := hgoes.stores token hk
  have hname : k.name = c.chooseAlias url none :=
    name_of_setEntry? (hk ▸ setEntry?_of_goes hgoes) (fun hempty => chooseAlias_eq_empty hempty)
  have htoken : { k with token := token } = k := by
    rw [← hk]
    exact (entryOf_withToken old _ _ token token).symm
  have hset := hstores.set_eq token
  rw [htoken] at hset
  rw [← hname] at hset ⊢
  refine chooseAlias_of_only (by simp [hset]) hstores.server ?_ ?_
  · intro e he hserver
    rw [hset, List.mem_append, List.mem_cons] at he
    rcases he with he | rfl | he
    · exact absurd (hstores.server.trans hserver.symm) (hstores.before e he).1
    · rfl
    · exact absurd (hstores.server.trans hserver.symm) (hstores.after e he).1
  · intro hempty
    exact deriveAlias_of_chosen_empty (hname.symm.trans hempty)

/-- A login at an address is given the same alias once more. -/
theorem chooseAlias_again (c : Config) (url : String) (given : Option String) (token : String) :
    (c.set (c.chooseAlias url given) url token).chooseAlias url given =
      c.chooseAlias url given := by
  rw [chooseAlias_eq_getD c url given, chooseAlias_eq_getD]
  cases (given.map Text.trimmed).filter (fun a => !a.isEmpty) with
  | some a => rfl
  | none =>
    simp only [Option.getD_none]
    exact chooseAlias_none_again c url token

/-! ### The same login -/

/-- Stores a login under the alias that is chosen for it. -/
def withLogin (c : Config) (url : String) (given : Option String) (token : String) : Config :=
  c.set (c.chooseAlias url given) url token

/-- **Logging in again only replaces the token.** Whatever the store is like, a second login at an
address, with the same alias given or none, is stored under the alias that was chosen for the
first; the store is then the one that the second login alone would have made. No entry is added
or dropped, and all but the token of one of them stay as they are. -/
theorem login_again (c : Config) (url : String) (given : Option String) (t₁ t₂ : String) :
    (c.withLogin url given t₁).chooseAlias url given = c.chooseAlias url given ∧
    (c.withLogin url given t₁).withLogin url given t₂ = c.withLogin url given t₂ ∧
    ∃ (before : List Entry) (k : Entry) (after : List Entry), k.server = normalizeUrl url ∧
      c.withLogin url given t₁ = ⟨k.key, before ++ { k with token := t₁ } :: after⟩ ∧
      (c.withLogin url given t₁).withLogin url given t₂ =
        ⟨k.key, before ++ { k with token := t₂ } :: after⟩ := by
  obtain ⟨before, old, after, hgoes⟩ := exists_goes c (c.chooseAlias url given) (normalizeUrl url)
  have hstores := hgoes.stores t₁ rfl
  have halias := chooseAlias_again c url given t₁
  have hagain : (c.withLogin url given t₁).withLogin url given t₂ = c.withLogin url given t₂ := by
    unfold withLogin
    rw [halias]
    exact hstores.set_set t₁ t₂
  refine ⟨halias, hagain, _, _, _, hstores.server, hstores.set_eq t₁, ?_⟩
  rw [hagain]
  exact hstores.set_eq t₂

end Config

end SandboxClient.Server
