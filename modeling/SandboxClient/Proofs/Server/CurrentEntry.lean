/-
  SandboxClient/Proofs/Server/CurrentEntry.lean
  =============================================
  **Which entry is current after a change.** The current key is looked up as an
  alias first and as an address second. An entry without alias is pointed at by
  its address, so an alias that is spelt like this address takes its place. That
  is the only way in which an addition can make another entry the current one,
  and the only way in which a login is not stored in the current one:
  `run_current?_iff` states both with the exact condition, and
  `clashing_alias_moves_current` shows that both happen.
-/
import SandboxClient.Proofs.Server.Runs

namespace SandboxClient.Server

namespace Config

/-! ### Additions -/

/-- A new entry at the end is found only by a key that found nothing before or is its alias. -/
theorem find?_of_append {c c' : Config} {key : String} {e : Entry}
    (hservers : c'.servers = c.servers ++ [e]) (hfound : (c.find? key).isSome = true)
    (hname : e.isNamed key ≠ true) : c'.find? key = c.find? key := by
  obtain ⟨cur, hcur⟩ := Option.isSome_iff_exists.mp hfound
  rw [hcur]
  rw [find?_eq] at hcur ⊢
  have hnew : [e].find? (fun s => s.isNamed key) = none := by simpa using hname
  rw [hservers, List.find?_append, List.find?_append, hnew, Option.or_none, ← Option.or_assoc,
    hcur]
  rfl

theorem current?_add_iff {c c' : Config} {e : Entry} (h : c.Coherent) (hne : c.servers ≠ [])
    (hadd : c.add e = .ok c') :
    c'.current? = c.current? ↔ ¬ (e.name ≠ "" ∧ e.name = c.currentKey) := by
  obtain ⟨hapart, hc⟩ := add_eq_ok hadd
  have hservers : c'.servers = c.servers ++ [e.normalized] := by rw [hc]
  have hkey : c'.currentKey = c.currentKey := by simp [hc, hne]
  by_cases hk : c.currentKey = ""
  · rw [current?_eq_none hk, current?_eq_none (hkey.trans hk)]
    refine ⟨?_, fun _ => rfl⟩
    rintro - ⟨hname, heq⟩
    exact hname (heq.trans hk)
  · have hfound : (c.find? c.currentKey).isSome = true := by
      rcases h.pointed with hempty | hsome
      · exact absurd hempty hk
      · rwa [current?_eq_find? hk] at hsome
    rw [current?_eq_find? hk, current?_eq_find? (by rwa [hkey]), hkey]
    by_cases hname : e.name = c.currentKey
    · -- the new entry is found by its alias, and it is none of the old ones
      have hnamed : e.normalized.isNamed c.currentKey = true := by
        rw [Entry.normalized_isNamed]
        exact Entry.isNamed_iff.mpr ⟨hname, hk⟩
      have hafter : c'.Unambiguous := by
        rw [Unambiguous, hservers]
        exact Unambiguous.append h.unambiguous hapart
      have hnew := find?_eq_of_named hafter (by rw [hservers]; simp) hnamed
      refine ⟨?_, fun hno => absurd ⟨hname ▸ hk, hname⟩ hno⟩
      intro heq
      rw [hnew] at heq
      exact absurd rfl (hapart e.normalized (mem_of_find? heq.symm).1).1
    · have hnamed : e.normalized.isNamed c.currentKey ≠ true := by
        rw [Entry.normalized_isNamed]
        exact fun hn => hname (Entry.isNamed_iff.mp hn).1
      refine ⟨fun _ hclash => hname hclash.2, fun _ => ?_⟩
      exact find?_of_append hservers hfound hnamed

/-! ### Logins -/

/-- A login is stored without alias exactly if none is given and the address has none. -/
theorem stored_name_eq_empty_iff {c : Config} {name url token : String} {k : Entry}
    (h : c.Unambiguous)
    (hk : (∃ e ∈ c.servers, c.IsTarget name url e ∧ k = updated e name url token) ∨
      ((∀ e ∈ c.servers, ¬ c.IsTarget name url e) ∧ k = ⟨name, url, token, false⟩)) :
    k.name = "" ↔ name = "" ∧ ∀ e ∈ c.servers, e.server = url → e.name = "" := by
  rcases hk with ⟨e, he, htarget, rfl⟩ | ⟨hnone, rfl⟩
  · by_cases hname : name = ""
    · have hserver : e.server = url := by
        rcases htarget with ⟨hne, -⟩ | ⟨hs, -⟩
        · exact absurd hname hne
        · exact hs
      have hupdated : (updated e name url token).name = e.name := by simp [updated, hname]
      rw [hupdated]
      refine ⟨fun hempty => ⟨hname, ?_⟩, fun hall => hall.2 e he hserver⟩
      intro s hs hsurl
      rw [h.eq_of_server hs he (hsurl.trans hserver.symm)]
      exact hempty
    · simp [updated, String.isEmpty_iff, hname]
  · refine ⟨fun hname => ⟨hname, ?_⟩, fun hall => hall.1⟩
    intro e he hserver
    exact absurd (Or.inr ⟨hserver, fun hne => absurd hname hne⟩) (hnone e he)

theorem current?_set_iff {c : Config} {name url token : String} (h : c.Unambiguous)
    (hurl : normalizeUrl url ≠ "") :
    ∃ k, c.setEntry? name url token = some k ∧
      ((c.set name url token).current? = some k ↔
        ¬ (name = "" ∧ (∀ e ∈ c.servers, e.server = normalizeUrl url → e.name = "") ∧
          ∃ e ∈ c.servers, e.name = normalizeUrl url)) := by
  obtain ⟨k, hk, hkey, hserver, -, hmem, horigin⟩ := mem_set c name url token
  have hafter : (c.set name url token).Unambiguous := set_unambiguous h name url token
  have hkmem : k ∈ (c.set name url token).servers := (hmem k).mpr (Or.inl rfl)
  have hname := stored_name_eq_empty_iff h horigin
  refine ⟨k, hk, ?_⟩
  rcases k.key_cases with ⟨hne, hkeyname⟩ | ⟨hempty, hkeyserver⟩
  · -- an alias leads to the entry that has it
    have hpoint : (c.set name url token).currentKey = k.name := hkey.trans hkeyname
    have hcurrent : (c.set name url token).current? = some k := by
      rw [current?_eq_find? (by rw [hpoint]; exact hne), hpoint]
      exact find?_eq_of_named hafter hkmem (Entry.isNamed_iff.mpr ⟨rfl, hne⟩)
    refine ⟨fun _ hclash => hne (hname.mpr ⟨hclash.1, hclash.2.1⟩), fun _ => hcurrent⟩
  · have hpoint : (c.set name url token).currentKey = normalizeUrl url :=
      hkey.trans (hkeyserver.trans hserver)
    obtain ⟨hgiven, hnameless⟩ := hname.mp hempty
    rw [current?_eq_find? (by rw [hpoint]; exact hurl), hpoint]
    constructor
    · rintro hcurrent ⟨-, -, e, he, hclash⟩
      have hapart : k.Apart e := by
        refine ⟨?_, fun hkn => absurd hempty hkn⟩
        intro heq
        exact hurl (hclash.symm.trans (hnameless e he (heq.symm.trans hserver)))
      have hnamed : e.isNamed (normalizeUrl url) = true := Entry.isNamed_iff.mpr ⟨hclash, hurl⟩
      have hfound := find?_eq_of_named hafter ((hmem e).mpr (Or.inr ⟨he, hapart⟩)) hnamed
      rw [hfound, Option.some.injEq] at hcurrent
      exact hurl (hclash.symm.trans (hcurrent ▸ hempty))
    · intro hno
      apply find?_eq_of_server hafter hkmem hserver
      intro s hs hnamed
      rw [Entry.isNamed_iff] at hnamed
      rcases (hmem s).mp hs with rfl | ⟨hold, -⟩
      · exact hurl (hnamed.1.symm.trans hempty)
      · exact hno ⟨hgiven, hnameless, s, hold, hnamed.1⟩

/-! ### Runs

Logging in and adding are compared with what they are meant to do: the one makes its entry current,
the other changes nothing that is current. -/

/-- **When the current entry stays what it is meant to be.** After any run from the empty store,
an addition to a store that has entries leaves the current entry, or that there is none, exactly
if the new alias is not the text that the store points with. The entry that a login is stored in
is the current one exactly if it has an alias or no entry has its address as alias. -/
theorem run_current?_iff (ops : List Operation) :
    (∀ e, (empty.run ops).servers ≠ [] → ((empty.run ops).perform (.add e)).2 = none →
      (((empty.run ops).perform (.add e)).1.current? = (empty.run ops).current? ↔
        ¬ (e.name ≠ "" ∧ e.name = (empty.run ops).currentKey))) ∧
    ∀ name url token, normalizeUrl url ≠ "" →
      ∃ k, Config.setEntry? (empty.run ops) name url token = some k ∧
        (((empty.run ops).set name url token).current? = some k ↔
          ¬ (name = "" ∧
            (∀ e ∈ (empty.run ops).servers, e.server = normalizeUrl url → e.name = "") ∧
            ∃ e ∈ (empty.run ops).servers, e.name = normalizeUrl url)) := by
  have h := run_coherent empty_coherent ops
  constructor
  · intro e hne hdone
    cases hadd : (empty.run ops).add e with
    | error conflict => simp [perform, hadd] at hdone
    | ok c' =>
      have hafter : ((empty.run ops).perform (.add e)).1 = c' := by simp [perform, hadd]
      rw [hafter]
      exact current?_add_iff h hne hadd
  · intro name url token hurl
    exact current?_set_iff h.unambiguous hurl

/-- An alias that is spelt like the address of the current entry makes another entry the current
one when it is added, and keeps a login without alias from being current when it is there. -/
theorem clashing_alias_moves_current :
    ((empty.run [.add ⟨"", "https://a.example", "", false⟩]).current? =
        some ⟨"", "https://a.example", "", false⟩ ∧
      ((empty.run [.add ⟨"", "https://a.example", "", false⟩]).perform
        (.add ⟨"https://a.example", "https://b.example", "", false⟩)).2 = none ∧
      (empty.run [.add ⟨"", "https://a.example", "", false⟩,
        .add ⟨"https://a.example", "https://b.example", "", false⟩]).current? =
        some ⟨"https://a.example", "https://b.example", "", false⟩) ∧
    ( Config.setEntry? (empty.run [.add ⟨"https://a.example", "https://b.example", "", false⟩]) ""
        "https://a.example" "t" = some ⟨"", "https://a.example", "t", false⟩ ∧
      ((empty.run [.add ⟨"https://a.example", "https://b.example", "", false⟩]).set ""
        "https://a.example" "t").current? =
        some ⟨"https://a.example", "https://b.example", "", false⟩) := by
  decide +kernel

end Config

end SandboxClient.Server
