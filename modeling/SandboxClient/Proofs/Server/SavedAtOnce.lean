/-
  SandboxClient/Proofs/Server/SavedAtOnce.lean
  ============================================
  **Stores saved at once.** Commands that run at the same time may save their
  stores to one file. While they use the temporary file by turns, whoever reads
  the file sees the old store or one of the new ones as a whole. Two of them that
  use it together may leave the file empty, which is read as a store without
  servers.
-/
import SandboxClient.Proofs.Files.AtOnce
import SandboxClient.Proofs.Server.Saved

namespace SandboxClient.Server

open SandboxClient.Files (Path Disk Place Writers OpensWay)

/-- Stores that are all being saved as the file that a path leads to. -/
def savers (path : String) (configs : List Config) (d : Disk) : Writers :=
  .planned (Path.read path) (configs.map (fun c => Text.octets c.text)) d

section Savers

variable {path : String} {configs : List Config} {d : Disk}

theorem octets_empty : Text.octets "" = [] := by simp [Text.octets, Text.octetsOfChars]

theorem octets_text_ne_nil (c : Config) : Text.octets c.text ≠ [] := by
  intro h
  have hempty : some c.text = some "" := by
    rw [← Text.strictText_octets c.text, h, ← octets_empty, Text.strictText_octets]
  have hvisible := isBlankText_text c
  rw [Option.some.inj hempty] at hvisible
  cases hvisible

/-- An empty file is read as a store without servers. -/
theorem holds_empty (h : storedAt (Path.read path) d = some []) : Holds path Config.empty d := by
  refine ⟨"", ?_, by decide⟩
  rw [h, octets_empty]

/-- **Readers see whole stores while the temporary file is used by turns.** Any number of stores
is saved at once, in any order of the single calls and whatever trouble they meet. If no save opens
the temporary file between another's opening it and moving it, the file that the path leads to has
at every moment the content that it had at first or that of one of the stores, and so has what is
stored at the path unless the way to it has opened. Without turns this
does not hold for any two stores, wherever each of them could be saved alone: there is an order
after which the file is empty, although no call has failed, and a store without servers is read. -/
theorem saved_at_once (hd : d.Sound) :
    (∀ (configs : List Config) (order : List Nat), (savers path configs d).TakeTurns order →
      ∀ (k : Nat) (d' : Disk), ((savers path configs d).run (order.take k)).disk = d' →
        (∀ q, d'.find (Path.read path) = .ok q → d'.content? q = d.content? q ∨
          ∃ c ∈ configs, d'.content? q = some (Text.octets c.text)) ∧
        ((storedAt (Path.read path) d' = storedAt (Path.read path) d ∨
            ∃ c ∈ configs, storedAt (Path.read path) d' = some (Text.octets c.text)) ∨
          OpensWay (Path.read path) d d')) ∧
    ∀ first second : Config, d.Ready (Path.read path) →
      ∃ (order : List Nat) (d' : Disk), ((savers path [first, second] d).run order).disk = d' ∧
        storedAt (Path.read path) d' = some [] ∧
        (∀ c : Config, storedAt (Path.read path) d' ≠ some (Text.octets c.text)) ∧
        (loadFrom path d').1 = .ok Config.empty := by
  constructor
  · intro configs order hturns k d' hrun
    have hwhole : Writers.Whole (Path.read path) _ d _ :=
      Writers.whole_run (order.take k) (Writers.whole_planned hd) (hturns.take k)
    have hfile : ∀ q, d'.find (Path.read path) = .ok q → d'.content? q = d.content? q ∨
        ∃ c ∈ configs, d'.content? q = some (Text.octets c.text) := by
      intro q hq
      rw [← hrun] at hq ⊢
      rcases Writers.run_whole hd hturns k hq with hsame | ⟨content, hcontent, hnew⟩
      · exact Or.inl hsame
      · obtain ⟨c, hc, rfl⟩ := List.mem_map.mp hcontent
        exact Or.inr ⟨c, hc, hnew⟩
    refine ⟨hfile, ?_⟩
    refine storedAt_related (R := fun before after => after = before ∨
      ∃ c ∈ configs, after = some (Text.octets c.text)) hd ?_ ?_ (Or.inl rfl) ?_
    · rw [← hrun]
      exact hwhole.here
    · intro q hq
      rw [← hrun]
      exact hwhole.find hq
    · exact fun q hq' _ => hfile q hq'
  · intro first second hready
    obtain ⟨d', q, hrun, hq, hempty, htrouble⟩ :=
      Writers.opened_again hready (Text.octets first.text) (Text.octets second.text)
    have hstored := (storedAt_of_find hq).trans hempty
    refine ⟨Writers.openedAgain, d', hrun, hstored, ?_, ?_⟩
    · intro c heq
      exact octets_text_ne_nil c (Option.some.inj (heq.symm.trans hstored))
    · rw [(holds_empty hstored).loadFrom_eq (htrouble _)]

/-- The store of the file that somebody has written by hand, and one with a second server. -/
def twoStores : List Config :=
  [⟨"", [⟨"", "https://a.example", "", false⟩]⟩,
    ⟨"b", [⟨"", "https://a.example", "", false⟩, ⟨"b", "https://b.example", "t", false⟩]⟩]

/-- Two saves begin at once, and the second opens the temporary file when the first is done. -/
theorem two_stores_by_turns :
    (savers "servers.yaml" twoStores Config.handWritten).TakeTurns
      [0, 1, 0, 0, 0, 0, 0, 1, 1, 1, 1, 1] ∧
    ∀ k, storedAt (Path.read "servers.yaml") ((savers "servers.yaml" twoStores
          Config.handWritten).run ([0, 1, 0, 0, 0, 0, 0, 1, 1, 1, 1, 1].take k)).disk =
        storedAt (Path.read "servers.yaml") Config.handWritten ∨
      ∃ c ∈ twoStores, storedAt (Path.read "servers.yaml") ((savers "servers.yaml" twoStores
          Config.handWritten).run ([0, 1, 0, 0, 0, 0, 0, 1, 1, 1, 1, 1].take k)).disk =
        some (Text.octets c.text) := by
  have hd : Config.handWritten.Sound :=
    .of_items (by decide +kernel) (by decide +kernel) (by decide +kernel) (by decide +kernel)
  have hturns : (savers "servers.yaml" twoStores Config.handWritten).TakeTurns
      [0, 1, 0, 0, 0, 0, 0, 1, 1, 1, 1, 1] := by decide +kernel
  have hfind : Config.handWritten.find (Path.read "servers.yaml") = .ok ["servers.yaml"] := by
    decide +kernel
  obtain ⟨hwhole, -⟩ := @saved_at_once "servers.yaml" Config.handWritten hd
  refine ⟨hturns, ?_⟩
  intro k
  have hstored := (hwhole twoStores [0, 1, 0, 0, 0, 0, 0, 1, 1, 1, 1, 1] hturns k _ rfl).2
  exact hstored.resolve_right (fun hopens => hopens.lost _ hfind)

/-- The second one opens the temporary file when the first one is about to move it. What is moved
is empty, neither the old store nor one of the new ones, and all servers are lost. -/
theorem saves_at_once_lose_store :
    storedAt (Path.read "servers.yaml") Config.handWritten ≠ some [] ∧
    (∀ c ∈ twoStores, some (Text.octets c.text) ≠ some []) ∧
    storedAt (Path.read "servers.yaml") ((savers "servers.yaml" twoStores
        Config.handWritten).run [0, 0, 0, 0, 0, 1, 1, 0]).disk = some [] ∧
    (loadFrom "servers.yaml" Config.handWritten).1 =
      .ok ⟨"", [⟨"", "https://a.example/", "", false⟩]⟩ ∧
    (loadFrom "servers.yaml" ((savers "servers.yaml" twoStores
        Config.handWritten).run [0, 0, 0, 0, 0, 1, 1, 0]).disk).1 = .ok Config.empty := by
  refine ⟨by decide +kernel, ?_, by decide +kernel, by decide +kernel, by decide +kernel⟩
  intro c _ heq
  exact octets_text_ne_nil c (Option.some.inj heq)

end Savers

end SandboxClient.Server
