/-
  SandboxClient/Proofs/Server/DerivedAlias.lean
  =============================================
  **Aliases that take nothing over.** A login without an alias of its own is
  stored under an alias that no other address has: the one that its address has
  already, or the first free one in the row `base`, `base-2`, `base-3`, … that its
  address gives. `Config.Search` is the walk along this row, one number at a
  time; it always ends, since of one alias more than there are entries one is
  free. What has another address stays as it is and where it is.
-/
import SandboxClient.Proofs.Server.LoggedIn
import Mathlib.Data.Nat.Find

namespace SandboxClient.Server

/-! ### Numbered aliases -/

theorem numbered_injective (base : String) : Function.Injective (numbered base) := by
  intro m n h
  have hsuffix : (toString m).toList = (toString n).toList := by
    simpa [numbered, String.toList_append, List.append_cancel_left_eq] using
      congrArg String.toList h
  have hdigits : Nat.toDigits 10 m = Nat.toDigits 10 n := by
    simpa only [Nat.toString_eq_repr, Nat.toList_repr] using hsuffix
  simpa using congrArg (fun digits => Nat.ofDigitChars 10 digits 0) hdigits

theorem numbered_ne (base : String) (n : Nat) : numbered base n ≠ base := by
  intro h
  have hlength := congrArg (fun s : String => s.toList.length) h
  simp [numbered, String.toList_append] at hlength

namespace Config

section Searching

variable {c : Config} {base name : String} {n m : Nat}

theorem hasAlias_iff : c.hasAlias name = true ↔ name ∈ c.servers.map Entry.name := by
  simp [hasAlias]

theorem hasAlias_eq_false (h : c.hasAlias name = false) : ∀ e ∈ c.servers, e.name ≠ name := by
  simpa [hasAlias] using h

/-! ### The search for a free alias

The program's loop has no bound. Here it is a relation, so that its end is something to prove; that
it is reached follows from counting the aliases that are taken. -/

/-- The search for a free alias from a number on, with the number it ends at: a free alias ends
it, a taken one sends it on to the next number. -/
inductive Search (c : Config) (base : String) : Nat → Nat → Prop
  | found {n : Nat} (h : c.hasAlias (numbered base n) = false) : Search c base n n
  | next {n m : Nat} (h : c.hasAlias (numbered base n) = true) (rest : Search c base (n + 1) m) :
      Search c base n m

/-- The search ends at the least number from where it began whose alias is free, and nowhere
else. -/
theorem search_iff : c.Search base n m ↔ n ≤ m ∧ c.hasAlias (numbered base m) = false ∧
    ∀ i, n ≤ i → i < m → c.hasAlias (numbered base i) = true := by
  constructor
  · intro h
    induction h with
    | found hfree =>
      refine ⟨Nat.le_refl _, hfree, ?_⟩
      intro i hle hlt
      omega
    | next htaken _ ih =>
      rename_i first last
      obtain ⟨hle, hfree, hall⟩ := ih
      refine ⟨Nat.le_of_succ_le hle, hfree, ?_⟩
      intro i hfirst hlt
      rcases Nat.eq_or_lt_of_le hfirst with rfl | hfirst
      · exact htaken
      · exact hall i hfirst hlt
  · rintro ⟨hle, hfree, hall⟩
    -- the induction is on how far the free alias is from where the search stands
    obtain ⟨k, rfl⟩ := Nat.exists_eq_add_of_le hle
    clear hle
    induction k generalizing n with
    | zero => exact .found hfree
    | succ k ih =>
      refine .next (hall n (Nat.le_refl n) (by omega)) ?_
      rw [show n + (k + 1) = n + 1 + k by omega] at hfree hall ⊢
      exact ih hfree (fun i hfirst hlt => hall i (by omega) hlt)

/-- Beside a base that is taken, as many numbered aliases as there are entries cannot all be
taken too. -/
theorem exists_free (h : c.hasAlias base = true) :
    ∃ i, i < c.servers.length ∧ c.hasAlias (numbered base (i + 2)) = false := by
  by_contra hno
  have htaken : ∀ i, i < c.servers.length → c.hasAlias (numbered base (i + 2)) = true := by
    intro i hi
    by_contra hfree
    exact hno ⟨i, hi, by simpa using hfree⟩
  let row := base :: (List.range c.servers.length).map (fun i => numbered base (i + 2))
  have hnodup : row.Nodup := by
    refine List.nodup_cons.mpr ⟨?_, ?_⟩
    · intro hmem
      obtain ⟨i, -, hi⟩ := List.mem_map.mp hmem
      exact numbered_ne base _ hi
    · refine List.nodup_range.map ?_
      intro i j hij
      exact Nat.add_right_cancel (numbered_injective base hij)
  have hsubset : row ⊆ c.servers.map Entry.name := by
    intro a ha
    rw [← hasAlias_iff]
    rcases List.mem_cons.mp ha with rfl | ha
    · exact h
    · obtain ⟨i, hi, rfl⟩ := List.mem_map.mp ha
      exact htaken i (List.mem_range.mp hi)
  have hlength := hnodup.length_le_of_subset hsubset
  simp only [row, List.length_cons, List.length_map, List.length_range] at hlength
  omega

/-- The search from the number 2 ends, and at a number that no store of this size exceeds. -/
theorem search_ends (h : c.hasAlias base = true) :
    ∃ n, c.Search base 2 n ∧ n ≤ c.servers.length + 1 := by
  obtain ⟨i, hi, hfree⟩ := exists_free h
  have hex : ∃ i, c.hasAlias (numbered base (i + 2)) = false := ⟨i, hfree⟩
  refine ⟨Nat.find hex + 2, search_iff.mpr ⟨by omega, Nat.find_spec hex, ?_⟩, ?_⟩
  · intro j hle hlt
    obtain ⟨k, rfl⟩ := Nat.exists_eq_add_of_le' hle
    simpa using Nat.find_min hex (Nat.lt_of_add_lt_add_right hlt)
  · have hleast : Nat.find hex ≤ i := Nat.find_min' hex hfree
    omega

theorem freeAlias_of_free (h : c.hasAlias base = false) : c.freeAlias base = base := by
  simp [freeAlias, h]

theorem freeAlias_of_search (h : c.hasAlias base = true) (hn : c.Search base 2 n)
    (hle : n ≤ c.servers.length + 1) : c.freeAlias base = numbered base n := by
  obtain ⟨hfirst, hfree, hall⟩ := search_iff.mp hn
  obtain ⟨k, rfl⟩ := Nat.exists_eq_add_of_le' hfirst
  have hfound : (List.range (c.servers.length + 1)).find?
      (fun i => !c.hasAlias (numbered base (i + 2))) = some k := by
    rw [List.find?_range_eq_some]
    refine ⟨by simpa using hfree, List.mem_range.mpr (by omega), ?_⟩
    intro j hj
    simpa using hall (j + 2) (by omega) (by omega)
  have hcandidate : ((List.range (c.servers.length + 1)).map
      (fun i => numbered base (i + 2))).find? (fun a => !c.hasAlias a) =
        some (numbered base (k + 2)) := by
    rw [List.find?_map]
    exact congrArg (Option.map (fun i => numbered base (i + 2))) hfound
  simp [freeAlias, h, hcandidate]

theorem hasAlias_freeAlias (c : Config) (base : String) :
    c.hasAlias (c.freeAlias base) = false := by
  by_cases hbase : c.hasAlias base = true
  · obtain ⟨n, hn, hle⟩ := search_ends hbase
    rw [freeAlias_of_search hbase hn hle]
    exact (search_iff.mp hn).2.1
  · rw [Bool.not_eq_true] at hbase
    rw [freeAlias_of_free hbase]
    exact hbase

end Searching

/-! ### The alias of a login

The alias is chosen for the store that was loaded, and it is free in that store. -/

section Choosing

variable {c : Config} {url token : String} {given : Option String}

/-- An alias of nothing but blanks counts as none. -/
theorem chooseAlias_of_blank (h : ∀ a, given = some a → Text.isBlankText a = true) :
    c.chooseAlias url given = c.chooseAlias url none := by
  have hnone : (given.map Text.trimmed).filter (fun a => !a.isEmpty) = none := by
    cases given with
    | none => rfl
    | some a =>
      have hblank := h a rfl
      rw [isBlankText_eq, String.isEmpty_iff] at hblank
      simp [hblank]
  simp only [chooseAlias, hnone]
  rfl

/-- Without a given alias a login gets the one that its address has, and one that is derived from
the address otherwise. -/
theorem chooseAlias_cases (c : Config) (url : String) :
    (∃ e ∈ c.servers, e.server = normalizeUrl url ∧ e.name ≠ "" ∧
        c.chooseAlias url none = e.name) ∨
      ((∀ e ∈ c.servers, e.server = normalizeUrl url → e.name = "") ∧
        c.chooseAlias url none =
          ((deriveAlias (normalizeUrl url)).map c.freeAlias).getD "") := by
  simp only [chooseAlias, Option.map_none, Option.filter_none]
  cases hfind : c.servers.find? (fun e => e.server == normalizeUrl url && !e.name.isEmpty) with
  | some e =>
    have he := List.find?_some hfind
    rw [Bool.and_eq_true, beq_iff_eq, Bool.not_eq_true', ← Bool.not_eq_true,
      String.isEmpty_iff] at he
    exact Or.inl ⟨e, List.mem_of_find?_eq_some hfind, he.1, he.2, rfl⟩
  | none =>
    refine Or.inr ⟨?_, ?_⟩
    · intro e he hserver
      have hno := List.find?_eq_none.mp hfind e he
      simpa [hserver, String.isEmpty_iff] using hno
    · cases deriveAlias (normalizeUrl url) <;> rfl

/-- An alias that an entry has is chosen only if it is one that the address has already. -/
theorem exists_of_chosen {e : Entry} (he : e ∈ c.servers)
    (hname : e.name = c.chooseAlias url none) (hne : e.name ≠ "") :
    ∃ s ∈ c.servers, s.server = normalizeUrl url ∧ s.name = e.name := by
  rcases chooseAlias_cases c url with ⟨s, hs, hserver, -, hchosen⟩ | ⟨-, hchosen⟩
  · exact ⟨s, hs, hserver, (hname.trans hchosen).symm⟩
  · rw [hchosen] at hname
    cases hderive : deriveAlias (normalizeUrl url) with
    | none =>
      rw [hderive] at hname
      exact absurd hname hne
    | some base =>
      rw [hderive] at hname
      exact absurd hname (hasAlias_eq_false (hasAlias_freeAlias c base) e he)

/-- The alias that a login is given without having asked for one is nobody else's. -/
theorem server_of_chosen (hc : c.Unambiguous) {e : Entry} (he : e ∈ c.servers)
    (hname : e.name = c.chooseAlias url none) (hne : c.chooseAlias url none ≠ "") :
    e.server = normalizeUrl url := by
  rw [← hname] at hne
  obtain ⟨s, hs, hserver, hsname⟩ := exists_of_chosen he hname hne
  have hsame : e = s :=
    hc.eq_of_not_apart he hs (fun hapart => hapart.2 hne hsname.symm)
  rw [hsame]
  exact hserver

/-- What may stay beside a login without an alias of its own is what has another address. -/
theorem staysBeside_chosen {k : Entry} (hc : c.Unambiguous)
    (hk : c.setEntry? (c.chooseAlias url none) url token = some k) :
    c.servers.filter (staysBeside k) =
      c.servers.filter (fun e => e.server != normalizeUrl url) := by
  have hname : k.name = c.chooseAlias url none :=
    name_of_setEntry? hk (fun hempty => chooseAlias_eq_empty hempty)
  obtain ⟨k', hk', -, hserver, -⟩ := mem_set c (c.chooseAlias url none) url token
  obtain rfl : k = k' := Option.some.inj (hk.symm.trans hk')
  refine List.filter_congr ?_
  intro e he
  rw [Bool.eq_iff_iff, staysBeside_iff, bne_iff_ne, Entry.Apart, hserver, hname]
  constructor
  · intro hapart
    exact hapart.1.symm
  · intro hne
    refine ⟨hne.symm, ?_⟩
    intro hchosen heq
    exact hne (server_of_chosen hc he heq.symm hchosen)

/-- **A login without an alias of its own takes nothing over.** In a store without doubles all
entries with another address stay as they are and in their order, whatever the token; the one
that the login is stored in is the only one beside them. If the address gives an alias and its
entry has none yet, the login gets that alias if it is free; if it is taken, the search for a
number behind it ends, at the least free one from 2 on, which is at most one more than there are
entries. -/
theorem chosen_alias_takes_nothing_over (c : Config) (url token : String) (given : Option String)
    (hgiven : ∀ a, given = some a → Text.isBlankText a = true) :
    (c.Unambiguous → ∃ k before after,
      c.setEntry? (c.chooseAlias url given) url token = some k ∧
      k.server = normalizeUrl url ∧ k.token = token ∧
      (c.set (c.chooseAlias url given) url token).servers = before ++ k :: after ∧
      before ++ after = c.servers.filter (fun e => e.server != normalizeUrl url)) ∧
    ∀ base, deriveAlias (normalizeUrl url) = some base →
      (∀ e ∈ c.servers, e.server = normalizeUrl url → e.name = "") →
      (c.hasAlias base = false → c.chooseAlias url given = base) ∧
      (c.hasAlias base = true → ∃ n, c.Search base 2 n ∧ 2 ≤ n ∧ n ≤ c.servers.length + 1 ∧
        c.hasAlias (numbered base n) = false ∧
        (∀ i, 2 ≤ i → i < n → c.hasAlias (numbered base i) = true) ∧
        c.chooseAlias url given = numbered base n) := by
  rw [chooseAlias_of_blank hgiven]
  refine ⟨?_, ?_⟩
  · intro hc
    obtain ⟨k, before, after, hk, hset, hothers, -⟩ :=
      set_spec c (c.chooseAlias url none) url token
    obtain ⟨k', hk', -, hserver, htoken, -⟩ := mem_set c (c.chooseAlias url none) url token
    obtain rfl : k = k' := Option.some.inj (hk.symm.trans hk')
    exact ⟨k, before, after, hk, hserver, htoken, by rw [hset],
      hothers.trans (staysBeside_chosen hc hk)⟩
  · intro base hderive hunnamed
    have hchosen : c.chooseAlias url none = c.freeAlias base := by
      rcases chooseAlias_cases c url with ⟨e, he, hserver, hne, -⟩ | ⟨-, hchosen⟩
      · exact absurd (hunnamed e he hserver) hne
      · simpa [hderive] using hchosen
    rw [hchosen]
    refine ⟨freeAlias_of_free, ?_⟩
    intro htaken
    obtain ⟨n, hn, hle⟩ := search_ends htaken
    obtain ⟨hfirst, hfree, hall⟩ := search_iff.mp hn
    exact ⟨n, hn, hfirst, hle, hfree, hall, freeAlias_of_search htaken hn hle⟩

/-- A store with two servers on this machine. -/
def twoLocalServers : Config :=
  ⟨"local-2", [⟨"local", "http://localhost:9000", "a", true⟩,
    ⟨"local-2", "http://localhost:9001", "b", false⟩]⟩

/-- The third server on this machine gets the third alias, and the other two stay. -/
theorem third_local_server :
    twoLocalServers.Unambiguous ∧
    twoLocalServers.chooseAlias "http://[::1]:8080/" (some " ") = "local-3" ∧
    ∃ k before after, k.server = "http://[::1]:8080" ∧ k.token = "t" ∧
      (twoLocalServers.set "local-3" "http://[::1]:8080/" "t").servers = before ++ k :: after ∧
      before ++ after = twoLocalServers.servers := by
  have hgiven : ∀ a, some " " = some a → Text.isBlankText a = true := by
    rintro a ⟨⟩
    decide
  have hunambiguous : twoLocalServers.Unambiguous := unambiguous_iff.mpr (by decide)
  have hderive : deriveAlias (normalizeUrl "http://[::1]:8080/") = some "local" := by
    decide +kernel
  obtain ⟨hstays, hchosen⟩ :=
    chosen_alias_takes_nothing_over twoLocalServers "http://[::1]:8080/" "t" (some " ") hgiven
  obtain ⟨n, -, hfirst, hlast, hfree, -, halias⟩ :=
    (hchosen "local" hderive (by decide)).2 (by decide)
  have hn : n = 3 := by
    have hne : n ≠ 2 := by
      rintro rfl
      exact absurd hfree (by decide)
    have hle : n ≤ 3 := hlast
    omega
  have hthird : twoLocalServers.chooseAlias "http://[::1]:8080/" (some " ") = "local-3" := by
    rw [halias, hn]
    decide
  obtain ⟨k, before, after, -, hserver, htoken, hset, hothers⟩ := hstays hunambiguous
  rw [hthird] at hset
  exact ⟨hunambiguous, hthird, k, before, after, hserver.trans (by decide), htoken, hset,
    hothers.trans (by decide)⟩

end Choosing

end Config

end SandboxClient.Server
