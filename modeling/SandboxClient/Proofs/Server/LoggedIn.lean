/-
  SandboxClient/Proofs/Server/LoggedIn.lean
  =========================================
  **Stores that a login is stored in.** A login that has been stored, saved and
  loaded again is the current one if its token is not blank and the store admits
  it: no other entry that stays has its address in another spelling, and if it is
  stored without alias then its address is nobody's alias. `loginLasts_iff` says
  that this is all there is to it.
-/
import SandboxClient.Proofs.Server.CurrentEntry
import SandboxClient.Proofs.Server.Settled
import SandboxClient.Proofs.Text.Found
import SandboxClient.Proofs.Text.Trimmed
import SandboxClient.Server.Alias

namespace SandboxClient.Server

open SandboxClient.Files (Path Disk)

/-! ### Addresses that users type -/

section Addresses

variable {x : Char}

/-- What is neither blank nor a slash is kept. -/
theorem mem_normalizeUrl {url : String} (hx : x ∈ url.toList) (hblank : Text.isBlank x = false)
    (hslash : x ≠ '/') : x ∈ (normalizeUrl url).toList := by
  unfold normalizeUrl normalizeChars
  rw [String.toList_ofList]
  exact Text.mem_dropTail (Text.mem_trim hx hblank) (by simpa using hslash)

theorem colon_mem_withScheme (input : String) : ':' ∈ (withScheme input).toList := by
  unfold withScheme
  dsimp only
  split
  · rename_i h
    rw [String.toList_ofList]
    exact (Text.occursIn_iff.mp h).subset (by decide)
  · rw [String.toList_append]
    exact List.mem_append_left _ (by decide)

/-- What an address that is accepted has been checked for. -/
theorem readAddress_eq_ok {input address : String} (h : readAddress input = .ok address) :
    normalizeUrl input ≠ "" ∧ address = normalizeUrl (withScheme input) ∧
      ∃ u, Url.parse (withScheme input) = .ok u ∧ u.host.isSome = true ∧
        ["http".toList, "https".toList].contains u.scheme = true := by
  unfold readAddress at h
  split at h
  · cases h
  · rename_i hinput
    dsimp only at h
    split at h
    · cases h
    · rename_i u hparse
      split at h
      · cases h
      · rename_i hscheme
        split at h
        · cases h
        · rename_i hhost
          exact ⟨by simpa [String.isEmpty_iff] using hinput, (Except.ok.inj h).symm, u, hparse,
            by simpa [Option.isSome_iff_ne_none] using hhost,
            by rwa [Bool.not_eq_true, Bool.not_eq_false'] at hscheme⟩

/-- Something is left of an address that is accepted, also when it is normalised once more. -/
theorem normalizeUrl_ne_empty {input address url : String} (h : readAddress input = .ok address)
    (hurl : url = input ∨ url = address) : normalizeUrl url ≠ "" := by
  obtain ⟨hinput, haddress, -⟩ := readAddress_eq_ok h
  rcases hurl with rfl | rfl
  · exact hinput
  · have hcolon : ':' ∈ (normalizeUrl (normalizeUrl (withScheme input))).toList :=
      mem_normalizeUrl (mem_normalizeUrl (colon_mem_withScheme input) (by decide) (by decide))
        (by decide) (by decide)
    intro hempty
    rw [← haddress, hempty] at hcolon
    cases hcolon

end Addresses

namespace Config

/-! ### The entry of a login -/

section Storing

variable {c : Config} {name url token : String} {k : Entry}

theorem Distinct.unambiguous (h : c.Distinct) : c.Unambiguous :=
  (distinct_iff.mp h).imp Entry.Apart.of_normalized

theorem chooseAlias_eq_empty {given : Option String} (h : c.chooseAlias url given = "") :
    ∀ e ∈ c.servers, e.server = normalizeUrl url → e.name = "" := by
  intro e he hserver
  unfold chooseAlias at h
  split at h
  · rename_i a ha
    obtain ⟨-, hvisible⟩ := Option.filter_eq_some_iff.mp ha
    rw [h] at hvisible
    cases hvisible
  · dsimp only at h
    split at h
    · rename_i s hs
      have hs' := List.find?_some hs
      rw [Bool.and_eq_true, h] at hs'
      cases hs'.2
    · rename_i hnone
      have hno := List.find?_eq_none.mp hnone e he
      simpa [hserver, String.isEmpty_iff] using hno

/-- A login is stored under the alias that it is given, unless its address has another one. -/
theorem name_of_setEntry? (hk : c.setEntry? name url token = some k)
    (hname : name = "" → ∀ e ∈ c.servers, e.server = normalizeUrl url → e.name = "") :
    k.name = name := by
  obtain ⟨before, old, after, hgoes⟩ := exists_goes c name (normalizeUrl url)
  obtain rfl : entryOf old name (normalizeUrl url) token = k :=
    Option.some.inj ((setEntry?_of_goes hgoes).symm.trans hk)
  rw [entryOf_name]
  split
  · rename_i hempty
    rw [hempty]
    cases hgoes with
    | named hne => exact absurd hempty hne
    | addressed hfree hservers he hfirst => exact hname hempty _ (by simp [hservers]) he
    | behind hfree hnone => rfl
  · rfl

/-- The store stays without doubles if no entry that stays has another spelling of the address. -/
theorem distinct_set_iff (hc : c.Distinct) (hk : c.setEntry? name url token = some k) :
    (c.set name url token).Distinct ↔
      ∀ e ∈ c.servers, k.Apart e → normalizeUrl k.server ≠ normalizeUrl e.server := by
  obtain ⟨k', before, after, hk', hset, hothers, -⟩ := set_spec c name url token
  obtain rfl : k = k' := Option.some.inj (hk.symm.trans hk')
  rw [distinct_iff] at hc ⊢
  have hmiddle : (before ++ k :: after).Perm (k :: (before ++ after)) := List.perm_middle
  have hpairs : (before ++ after).Pairwise (fun a b => a.normalized.Apart b.normalized) := by
    rw [hothers]
    exact hc.filter _
  rw [hset, hmiddle.pairwise_iff Entry.Apart.symm, List.pairwise_cons, and_iff_left hpairs, hothers]
  constructor
  · intro h e he hapart
    exact (Entry.normalized_apart.mp (h e (List.mem_filter.mpr ⟨he, staysBeside_iff.mpr hapart⟩))).1
  · intro h e he
    obtain ⟨he, hstays⟩ := List.mem_filter.mp he
    have hapart := staysBeside_iff.mp hstays
    exact Entry.normalized_apart.mpr ⟨h e he hapart, hapart.2⟩

/-- A login leads to its address with its token, unless the token is blank or an alias that is
spelt like the address takes its place. -/
theorem leadsTo_set_iff (h : c.Unambiguous) (hurl : normalizeUrl url ≠ "") :
    (c.set name url token).LeadsTo (normalizeUrl url) token ↔
      Text.isBlankText token = false ∧
        ¬ (name = "" ∧ (∀ e ∈ c.servers, e.server = normalizeUrl url → e.name = "") ∧
          ∃ e ∈ c.servers, e.name = normalizeUrl url) := by
  obtain ⟨k, hk, -, hserver, htoken, hmem, -⟩ := mem_set c name url token
  obtain ⟨k', hk', hcurrent⟩ := @current?_set_iff c name url token h hurl
  obtain rfl : k = k' := Option.some.inj (hk.symm.trans hk')
  rw [leadsTo_iff, ← hcurrent]
  refine and_congr_right (fun _ => ?_)
  constructor
  · rintro ⟨e, he, heserver, -⟩
    have hmem' := (mem_of_current? he).2.1
    have hsame : e = k := (set_unambiguous h name url token).eq_of_server hmem'
      ((hmem k).mpr (Or.inl rfl)) (heserver.trans hserver.symm)
    rw [← hsame]
    exact he
  · intro he
    exact ⟨k, he, hserver, by rw [htoken]⟩

/-! ### Logins that last

A login lasts if the file is accepted when it is loaded again, and the key finds the entry. -/

/-- A store admits a login at a normalised address: any other spelling of the address goes when
the login is stored, and an address that must be found without alias is no alias. -/
structure Admits (c : Config) (name url : String) : Prop where
  spelling : ∀ e ∈ c.servers, normalizeUrl e.server = normalizeUrl url →
    e.server = url ∨ (name ≠ "" ∧ e.name = name)
  address : name = "" → ∀ e ∈ c.servers, e.name ≠ url

theorem loginLasts_iff (hc : c.Distinct) (hurl : normalizeUrl url ≠ "")
    (hname : name = "" → ∀ e ∈ c.servers, e.server = normalizeUrl url → e.name = "") :
    (c.set name url token).Distinct ∧ (c.set name url token).LeadsTo (normalizeUrl url) token ↔
      Text.isBlankText token = false ∧ c.Admits name (normalizeUrl url) := by
  obtain ⟨k, hk, -, hserver, -⟩ := mem_set c name url token
  have hkname := name_of_setEntry? hk hname
  rw [distinct_set_iff hc hk, leadsTo_set_iff hc.unambiguous hurl, hserver]
  constructor
  · rintro ⟨hdistinct, hvisible, hclash⟩
    refine ⟨hvisible, ?_, ?_⟩
    · intro e he hsame
      by_contra hno
      rw [not_or, not_and] at hno
      refine hdistinct e he ⟨?_, ?_⟩ hsame.symm
      · rw [hserver]
        exact Ne.symm hno.1
      · rw [hkname]
        intro hne heq
        exact hno.2 hne heq.symm
    · intro hempty e he heq
      exact hclash ⟨hempty, hname hempty, e, he, heq⟩
  · rintro ⟨hvisible, hspelling, haddress⟩
    refine ⟨?_, hvisible, ?_⟩
    · intro e he hapart hsame
      rcases hspelling e he hsame.symm with heq | ⟨hne, heq⟩
      · exact hapart.1 (hserver.trans heq.symm)
      · exact hapart.2 (hkname ▸ hne) (hkname.trans heq.symm)
    · rintro ⟨hempty, -, e, he, heq⟩
      exact haddress hempty e he heq

end Storing

end Config

end SandboxClient.Server
