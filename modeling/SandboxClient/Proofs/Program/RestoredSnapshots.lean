/-
  SandboxClient/Proofs/Program/RestoredSnapshots.lean
  ===================================================
  **Snapshots that are named by their images.** The image of a snapshot is a
  repository, a colon and the name of the snapshot, and it may stand for the name.
  What follows the first colon is then taken for the name, so the snapshot is
  restored that was meant exactly if no colon is in the repository: one that
  begins with a host and its port loses the host instead.
-/
import SandboxClient.Proofs.Json.Strings
import SandboxClient.Proofs.Program.NamedSandboxes
import SandboxClient.Proofs.Text.Found

namespace SandboxClient.Session

/-! ### Names of snapshots -/

section Names

variable {before after reference repository name : String}

theorem snapshotName_of_not_mem (h : ':' ∉ reference.toList) :
    snapshotName reference = reference := by
  have hnone : Text.splitFirst (· == ':') reference.toList = none := by
    refine Text.splitFirst_eq_none ?_
    rintro c hc
    rw [beq_eq_false_iff_ne]
    rintro rfl
    exact h hc
  unfold snapshotName
  rw [hnone]

/-- Of a reference with colons that counts which follows the first one. -/
theorem snapshotName_append (h : ':' ∉ before.toList) :
    snapshotName (before ++ ":" ++ after) = after := by
  have hsplit : Text.splitFirst (· == ':') (before ++ ":" ++ after).toList =
      some (before.toList, after.toList) := by
    rw [String.toList_append, String.toList_append, List.append_assoc]
    refine Text.splitFirst_append_cons ?_ rfl
    intro c hc
    rw [beq_eq_false_iff_ne]
    rintro rfl
    exact h hc
  unfold snapshotName
  rw [hsplit]
  exact String.ofList_toList

theorem snapshotName_image_iff :
    snapshotName (repository ++ ":" ++ name) = name ↔ ':' ∉ repository.toList := by
  constructor
  · intro hname hcolon
    obtain ⟨host, rest, hrepository, hhost⟩ := List.eq_append_cons_of_mem hcolon
    -- what is left holds the rest of the repository too, so it is longer than the name
    have hlonger : snapshotName (repository ++ ":" ++ name) =
        String.ofList rest ++ ":" ++ name := by
      have hfirst : repository ++ ":" ++ name =
          String.ofList host ++ ":" ++ (String.ofList rest ++ ":" ++ name) := by
        refine String.toList_injective ?_
        simp [hrepository]
      rw [hfirst]
      exact snapshotName_append (by simpa using hhost)
    have hlength := congrArg String.length (hname.symm.trans hlonger)
    simp at hlength
  · exact snapshotName_append

end Names

end SandboxClient.Session

namespace SandboxClient.Program

open SandboxClient.Remote (Client Network)

/-! ### Restoring -/

def restoring (name : String) : Task :=
  ⟨.post, ["restore"], some (.object [("snapshot", .text name)])⟩

/-- Whatever the world is like, a sandbox is brought back to the snapshot of a name when it is
asked for by a reference. -/
def Restores (reference name : String) : Prop :=
  ∀ sandbox w, AsksForNamed (.snapshot (.restore sandbox reference)) (restoring name) w
    (perform (.snapshot (.restore sandbox reference)) w)

section Restoring

variable {reference repository name : String}

theorem restores_snapshotName (reference : String) :
    Restores reference (Session.snapshotName reference) := by
  intro sandbox w
  exact asksForNamed rfl w

theorem request_restoring_injective (c : Client) (id : Nat) :
    Function.Injective (fun name => (restoring name).request c id) := by
  intro a b h
  have hbody : (Json.Value.object [("snapshot", .text a)]).sent =
      (Json.Value.object [("snapshot", .text b)]).sent :=
    Option.some.inj (congrArg Remote.Request.body h)
  have hchars := String.ofList_injective hbody
  have htext : Json.stringText a = Json.stringText b := by
    simpa [Json.Value.compact, Json.compactMembers, Json.separated, Json.Value.atom] using hchars
  exact Json.stringText_injective htext

/-- Of two sandboxes of a name the first is the one that is meant. -/
theorem meant_first_twin (reference : String) :
    (∃ s, Meant (.snapshot (.restore "box" reference)) twinWorld failingClient s) ∧
      ∀ s, Meant (.snapshot (.restore "box" reference)) twinWorld failingClient s → s.id = 7 := by
  have hfirst : ((failingClient.listSandboxes twinWorld.network).1.toOption.bind
      (fun known => known.find? (fun s => s.name == "box"))).map (fun s => s.id) = some 7 := by
    decide +kernel
  cases hlist : (failingClient.listSandboxes twinWorld.network).1 with
  | error fault =>
    rw [hlist] at hfirst
    cases hfirst
  | ok known =>
    rw [hlist] at hfirst
    obtain ⟨s, hfind, hid⟩ := Option.map_eq_some_iff.mp hfirst
    refine ⟨⟨s, known, "box", hlist, rfl, hfind⟩, ?_⟩
    rintro s' ⟨known', name', hlist', hname', hfind'⟩
    cases hname'
    obtain rfl : known = known' := Except.ok.inj (hlist.symm.trans hlist')
    obtain rfl : s = s' := Option.some.inj (hfind.symm.trans hfind')
    exact hid

/-- What is asked in their world is the list and the task for the first of them. -/
theorem sent_of_asksForNamed {result : Except Failure Unit × World}
    (h : AsksForNamed (.snapshot (.restore "box" reference)) (restoring name) twinWorld result) :
    result.2.network.sent =
      [listing failingClient, (restoring name).request failingClient 7] := by
  have hclient : (client twinWorld).1 = .ok failingClient := by decide +kernel
  have hspeaks : failingClient.speaks = true := by decide +kernel
  obtain ⟨⟨s, hmeant⟩, hids⟩ := meant_first_twin reference
  rcases h with ⟨-, -, hsilent | hnone⟩ | ⟨c, followed, hc, -, hnetwork, hfollowed⟩
  · have hfalse := hsilent failingClient hclient
    rw [hspeaks] at hfalse
    cases hfalse
  · cases hnone []
  · obtain rfl : failingClient = c := Except.ok.inj (hclient.symm.trans hc)
    have hfirst : followed = [(restoring name).request failingClient 7] := by
      rcases hfollowed with ⟨-, -, hnone⟩ | ⟨s', hmeant', hpursued⟩
      · exact absurd hmeant (hnone s)
      · rw [hpursued, ← hids s' hmeant']
        rfl
    have hreached : ∀ sent r, twinWorld.network.answer sent r ≠ .unreachable := by
      rintro sent ⟨method, url, authorization, body⟩ h
      cases method <;> cases h
    rw [hnetwork, hfirst, Remote.sent_after_of_reached hreached]
    rfl

theorem restores_iff : Restores reference name ↔ Session.snapshotName reference = name := by
  constructor
  · intro h
    have hsent := sent_of_asksForNamed (h "box" twinWorld)
    rw [sent_of_asksForNamed (restores_snapshotName reference "box" twinWorld)] at hsent
    exact request_restoring_injective failingClient 7 (List.cons.inj (List.cons.inj hsent).2).1
  · rintro rfl
    exact restores_snapshotName reference

/-- **Snapshots that are restored by their images.** A name without a colon stands for itself. A
repository and a colon may be before it, and then its snapshot is what is restored, exactly if no
colon is in the repository. -/
theorem restored_by_image_iff (h : ':' ∉ name.toList) :
    (Session.snapshotName name = name ∧ Restores name name) ∧
    (Session.snapshotName (repository ++ ":" ++ name) = name ↔ ':' ∉ repository.toList) ∧
    (Restores (repository ++ ":" ++ name) name ↔ ':' ∉ repository.toList) := by
  have hname := Session.snapshotName_of_not_mem h
  refine ⟨⟨hname, restores_iff.mpr hname⟩, Session.snapshotName_image_iff, ?_⟩
  rw [restores_iff]
  exact Session.snapshotName_image_iff

theorem nightly_restored_by_image : ':' ∉ "nightly".toList ∧
    Session.snapshotName ("sc-snap-dev" ++ ":" ++ "nightly") = "nightly" ∧
    Restores ("sc-snap-dev" ++ ":" ++ "nightly") "nightly" := by
  have hcolon : ':' ∉ "nightly".toList := by decide
  obtain ⟨-, hname, hrestores⟩ := @restored_by_image_iff "sc-snap-dev" "nightly" hcolon
  exact ⟨hcolon, hname.mpr (by decide), hrestores.mpr (by decide)⟩

/-- The port of a registry is taken for a part of the name. -/
theorem port_restored_with_name :
    Session.snapshotName ("host:5000/repo" ++ ":" ++ "nightly") = "5000/repo:nightly" ∧
    (perform (.snapshot (.restore "box" ("host:5000/repo" ++ ":" ++ "nightly")))
        twinWorld).2.network.sent.map (fun r => (r.url, r.body)) =
      [("http://[::1]:8080/api/sandboxes", none),
        ("http://[::1]:8080/api/sandboxes/7/restore",
          some "\x7b\"snapshot\":\"5000/repo:nightly\"\x7d")] ∧
    ¬ Restores ("host:5000/repo" ++ ":" ++ "nightly") "nightly" := by
  refine ⟨by decide +kernel, by decide +kernel, ?_⟩
  rw [restores_iff]
  decide +kernel

end Restoring

end SandboxClient.Program
