/-
  SandboxClient/Proofs/Server/Saved.lean
  ======================================
  **Saving a store, or leaving it.** A store that is saved is the whole content of
  the file that its path leads to, and one that cannot be saved leaves that file
  as it was, at whatever call the trouble comes. Reading a store writes only
  where an older layout has been read and understood, and by the same save.
-/
import SandboxClient.Proofs.Files.AllOrNothing
import SandboxClient.Proofs.Server.Settled

namespace SandboxClient.Server

open SandboxClient.Files (Path Disk Place DiskFault DiskCall OpensWay bind_of_ok bind_eq_error pure_ne_error
  throw_eq_error)

section Saving

variable {path : String} {p : Path} {c : Config} {d d' : Disk}

theorem save_eq_error {fault : Fault} (h : c.save path d = (.error fault, d')) :
    ∃ reason, fault = .notWritable path reason ∧
      Files.replace (Path.read path) (Text.octets c.text) d = (.error reason, d') := by
  unfold Config.save at h
  rcases bind_eq_error.mp h with houtcome | ⟨result, e, houtcome, hrest⟩
  · cases houtcome
  · cases result with
    | ok u => exact absurd hrest pure_ne_error
    | error reason =>
      obtain ⟨rfl, rfl⟩ := throw_eq_error.mp hrest
      exact ⟨reason, rfl, outcome_eq_ok.mp houtcome⟩

/-- What a path leads to is spared, unless the way has opened. -/
theorem storedAt_of_spares (hd : d.Sound) (h : d.Spares p.MayLead d') :
    storedAt p d' = storedAt p d ∨ OpensWay p d d' := by
  refine storedAt_related (R := fun before after => after = before) hd h.here
    (fun q hq => h.find hq) rfl ?_
  intro q hq' _
  exact h.content q ⟨d', h.sound, hq'⟩

/-- A disk with a store on it that is full after three octets more. -/
def fullDisk : Disk :=
  { Config.handWritten with trouble := fun call => if call = 2 then some 3 else none }

/-- A disk with a store on it and a directory where the temporary file would stand. -/
def blockedDisk : Disk :=
  { Config.handWritten with
    items := Config.handWritten.items ++ [(["servers.yaml.tmp"], .directory 0o755)] }

end Saving

end SandboxClient.Server
