/-
  SandboxClient/Proofs/Program/Failed.lean
  ========================================
  **Commands that fail.** A command that changes the store reads it first and saves
  it last. Whatever goes wrong, with the server, with what the user asked for or
  with the disk, the store is left as it was: `failed_command_leaves_store`. One
  thing does stay behind, the directory that has been made for the file, and a
  path that goes up out of it leads to another file from then on
  (`failed_command_opens_way`).

  A run is *mild* when it keeps the meaning of the store with whatever outcome, and
  *fails mildly* when it does so if it fails. Reading the store is mild, saving it
  fails mildly, and nothing but messages comes after that.
-/
import SandboxClient.Program.Servers
import SandboxClient.Proofs.Program.Related
import SandboxClient.Proofs.Server.Kept

namespace SandboxClient.Program

open SandboxClient.Files (Path bind_of_ok bind_eq_error get_eq_ok)
open SandboxClient.Server (Config KeepsStore LeavesStore)

variable {α β : Type}

/-! ### Runs that leave the disk alone -/

/-- A run changes neither the disk nor where the store is on it. -/
def LeavesDisk (x : Run α) : Prop :=
  ∀ w, (x w).2.disk = w.disk ∧ (x w).2.storeDirectory? = w.storeDirectory?

def SameDisk (w w' : World) : Prop :=
  w'.disk = w.disk ∧ w'.storeDirectory? = w.storeDirectory?

instance sameDisk_isPreorder : IsPreorder World SameDisk where
  refl _ := ⟨rfl, rfl⟩
  trans _ _ _ h h' := ⟨h'.1.trans h.1, h'.2.trans h.2⟩

theorem leavesDisk_iff {x : Run α} : LeavesDisk x ↔ Relates SameDisk x := Iff.rfl

theorem leavesDisk_pure (a : α) : LeavesDisk (pure a) := leavesDisk_iff.mpr (relates_pure a)

theorem leavesDisk_throw (failure : Failure) : LeavesDisk (throw failure : Run α) :=
  leavesDisk_iff.mpr (relates_throw failure)

theorem LeavesDisk.bind {x : Run α} {f : α → Run β} (hx : LeavesDisk x)
    (hf : ∀ a, LeavesDisk (f a)) : LeavesDisk (x >>= f) :=
  leavesDisk_iff.mpr ((leavesDisk_iff.mp hx).bind (fun a => leavesDisk_iff.mp (hf a)))

theorem leavesDisk_get : LeavesDisk (get : Run World) := leavesDisk_iff.mpr relates_get

theorem leavesDisk_print (s : String) : LeavesDisk (print s) := fun _ => ⟨rfl, rfl⟩

theorem leavesDisk_notice (n : Login.Notice) : LeavesDisk (notice n) := fun _ => ⟨rfl, rfl⟩

theorem leavesDisk_outcome (call : Remote.Call α) : LeavesDisk (outcome call) :=
  fun _ => ⟨rfl, rfl⟩

theorem leavesDisk_ofStore (result : Except Server.Fault α) : LeavesDisk (ofStore result) :=
  leavesDisk_iff.mpr (relates_ofStore result)

theorem leavesDisk_ofRemote (result : Except Remote.Fault α) : LeavesDisk (ofRemote result) :=
  leavesDisk_iff.mpr (relates_ofRemote result)

/-! ### The login itself -/

/-- Nothing that a login needs from the world touches the disk. -/
structure HostLeavesDisk (h : Login.Host Run) : Prop where
  sleep : ∀ seconds, LeavesDisk (h.sleep seconds)
  requestCode : LeavesDisk h.requestCode
  askVerdict : ∀ code, LeavesDisk (h.askVerdict code)
  showCode : ∀ session, LeavesDisk (h.showCode session)
  openBrowser : ∀ url, LeavesDisk (h.openBrowser url)
  waiting : LeavesDisk h.waiting
  done : LeavesDisk h.done

section Login

variable {h : Login.Host Run}

theorem authorize_leavesDisk (hh : HostLeavesDisk h) (inBrowser : Bool) :
    LeavesDisk (Login.authorize h inBrowser) := by
  have hrelates : HostRelates SameDisk h :=
    ⟨hh.sleep, hh.requestCode, hh.askVerdict, hh.showCode, hh.openBrowser, hh.waiting, hh.done⟩
  exact leavesDisk_iff.mpr (hrelates.authorize inBrowser)

theorem loginHost_leavesDisk (c : Remote.Client) (clientName : String) :
    HostLeavesDisk (loginHost c clientName) where
  sleep _ := fun _ => ⟨rfl, rfl⟩
  requestCode := leavesDisk_outcome _
  askVerdict _ := leavesDisk_outcome _
  showCode _ := (leavesDisk_notice _).bind (fun _ => leavesDisk_print _)
  openBrowser _ := (leavesDisk_notice _).bind (fun _ =>
    leavesDisk_get.bind (fun _ => leavesDisk_print _))
  waiting := leavesDisk_notice _
  done := leavesDisk_notice _

end Login

/-! ### Mild runs

Both properties are closed under what runs are put together from, so commands are gone through in
the order of their texts. -/

/-- A world with a sound disk, where the store is in a directory. -/
structure Prepared (directory? : Option String) (w : World) : Prop where
  sound : w.disk.Sound
  directory : w.storeDirectory? = directory?

section Mild

variable {path : String} {directory? : Option String}

/-- A run keeps the meaning of the store, with whatever outcome. -/
def Mild (path : String) (directory? : Option String) (x : Run α) : Prop :=
  ∀ w r w', Prepared directory? w → x w = (r, w') →
    KeepsStore (Path.read path) w.disk w'.disk ∧ Prepared directory? w'

/-- A run keeps the meaning of the store if it fails. -/
def FailsMildly (path : String) (directory? : Option String) (x : Run α) : Prop :=
  ∀ w failure w', Prepared directory? w → x w = (.error failure, w') →
    KeepsStore (Path.read path) w.disk w'.disk

def Unfailing (x : Run α) : Prop := ∀ w failure w', x w ≠ (.error failure, w')

theorem Mild.failsMildly {x : Run α} (hx : Mild path directory? x) :
    FailsMildly path directory? x :=
  fun w _ w' hw hrun => (hx w _ w' hw hrun).1

theorem LeavesDisk.mild {x : Run α} (hx : LeavesDisk x) : Mild path directory? x := by
  intro w r w' hw hrun
  obtain ⟨hdisk, hplace⟩ := hx w
  rw [hrun] at hdisk hplace
  refine ⟨?_, ?_, hplace.trans hw.directory⟩
  · rw [hdisk]
    exact .refl hw.sound
  · rw [hdisk]
    exact hw.sound

theorem FailsMildly.bind {x : Run α} {f : α → Run β} (hx : Mild path directory? x)
    (hf : ∀ a, FailsMildly path directory? (f a)) : FailsMildly path directory? (x >>= f) := by
  intro w failure w' hw hrun
  obtain hfail | ⟨a, v, hok, hrest⟩ := bind_eq_error.mp hrun
  · exact (hx w _ w' hw hfail).1
  · obtain ⟨hkeeps, hv⟩ := hx w _ v hw hok
    exact hkeeps.trans (hf a v failure w' hv hrest)

/-- After what cannot fail, a run fails only because of what went before. -/
theorem FailsMildly.before {x : Run α} {f : α → Run β} (hx : FailsMildly path directory? x)
    (hf : ∀ a, Unfailing (f a)) : FailsMildly path directory? (x >>= f) := by
  intro w failure w' hw hrun
  obtain hfail | ⟨a, v, -, hrest⟩ := bind_eq_error.mp hrun
  · exact hx w failure w' hw hfail
  · exact absurd hrest (hf a v failure w')

theorem Unfailing.bind {x : Run α} {f : α → Run β} (hx : Unfailing x)
    (hf : ∀ a, Unfailing (f a)) : Unfailing (x >>= f) := by
  intro w failure w' hrun
  obtain hfail | ⟨a, v, -, hrest⟩ := bind_eq_error.mp hrun
  · exact hx w failure w' hfail
  · exact hf a v failure w' hrest

theorem unfailing_pure (a : α) : Unfailing (pure a) := by
  intro w failure w' hrun
  cases hrun

theorem unfailing_print (s : String) : Unfailing (print s) := by
  intro w failure w' hrun
  cases hrun

/-! ### The store -/

theorem storing_loadFrom_mild : Mild path directory? (storing (Server.loadFrom path)) := by
  intro w r w' hw hrun
  rcases hload : Server.loadFrom path w.disk with ⟨result, d⟩
  have hkeeps := Server.loadFrom_keepsStore hw.sound hload
  rw [storing_of_call hload] at hrun
  cases hrun
  exact ⟨hkeeps, hkeeps.sound, hw.directory⟩

theorem storing_save_failsMildly (c : Config) :
    FailsMildly path directory? (storing (c.save path)) := by
  intro w failure w' hw hrun
  rcases hsave : c.save path w.disk with ⟨fault | u, d⟩
  · rw [storing_of_call hsave] at hrun
    cases hrun
    exact Server.keepsStore_of_save_error hw.sound hsave
  · rw [storing_of_call hsave] at hrun
    cases hrun

def PlacedAt (path : String) (directory? : Option String) : Prop :=
  ∀ directory, directory? = some directory → Files.join directory storeName = path

theorem storePath_cases {w : World} (hw : Prepared directory? w)
    (hplace : PlacedAt path directory?) :
    storePath w = (.ok path, w) ∨ storePath w = (.error (.store .noHome), w) := by
  unfold storePath
  rw [bind_of_ok (get_eq_ok.mpr ⟨rfl, rfl⟩), hw.directory]
  cases hdirectory : directory? with
  | none => exact Or.inr rfl
  | some directory =>
    rw [← hplace directory hdirectory]
    exact Or.inl rfl

theorem mild_at_storePath {f : String → Run α} (hplace : PlacedAt path directory?)
    (hf : Mild path directory? (f path)) : Mild path directory? (storePath >>= f) := by
  intro w r w' hw hrun
  obtain hpath | hpath := storePath_cases hw hplace
  · rw [bind_of_ok hpath] at hrun
    exact hf w r w' hw hrun
  · rw [bind_eq_error.mpr (Or.inl hpath)] at hrun
    cases hrun
    exact ⟨.refl hw.sound, hw⟩

theorem failsMildly_at_storePath {f : String → Run α} (hplace : PlacedAt path directory?)
    (hf : FailsMildly path directory? (f path)) :
    FailsMildly path directory? (storePath >>= f) := by
  intro w failure w' hw hrun
  obtain hpath | hpath := storePath_cases hw hplace
  · rw [bind_of_ok hpath] at hrun
    exact hf w failure w' hw hrun
  · rw [bind_eq_error.mpr (Or.inl hpath)] at hrun
    cases hrun
    exact .refl hw.sound

theorem loadStore_mild (hplace : PlacedAt path directory?) : Mild path directory? loadStore :=
  mild_at_storePath hplace storing_loadFrom_mild

theorem saveStore_failsMildly (hplace : PlacedAt path directory?) (c : Config) :
    FailsMildly path directory? (saveStore c) :=
  failsMildly_at_storePath hplace (storing_save_failsMildly c)

/-! ### The commands -/

theorem logIn_failsMildly {h : Login.Host Run} (hh : HostLeavesDisk h) (url : String)
    (name : Option String) (inBrowser : Bool) :
    FailsMildly path directory? (logIn h path url name inBrowser) := by
  unfold logIn
  refine .bind storing_loadFrom_mild (fun c => ?_)
  refine .bind (authorize_leavesDisk hh inBrowser).mild ?_
  rintro (fault | token)
  · exact (leavesDisk_throw _).mild.failsMildly
  · exact (storing_save_failsMildly _).before (fun _ => unfailing_pure _)

theorem login_failsMildly (hplace : PlacedAt path directory?) (url : String)
    (name : Option String) (noBrowser : Bool) :
    FailsMildly path directory? (login url name noBrowser) := by
  unfold login
  refine .bind (leavesDisk_ofStore _).mild (fun address => ?_)
  refine failsMildly_at_storePath hplace ?_
  refine .bind storing_loadFrom_mild (fun c => ?_)
  refine .bind (leavesDisk_ofRemote _).mild (fun client => ?_)
  refine .bind (leavesDisk_print _).mild (fun _ => ?_)
  refine .bind leavesDisk_get.mild (fun w => ?_)
  refine (logIn_failsMildly (loginHost_leavesDisk _ _) _ _ _).before (fun entry => ?_)
  refine (unfailing_print _).bind (fun _ => ?_)
  split
  · exact unfailing_print _
  · exact unfailing_pure _

theorem addServer_failsMildly (hplace : PlacedAt path directory?) (url : String)
    (name : Option String) (insecure : Bool) :
    FailsMildly path directory? (addServer url name insecure) := by
  unfold addServer
  refine .bind (leavesDisk_ofStore _).mild (fun address => ?_)
  refine .bind (loadStore_mild hplace) (fun c => ?_)
  refine .bind (leavesDisk_ofStore _).mild (fun added => ?_)
  refine (saveStore_failsMildly hplace added).before (fun _ => ?_)
  split
  · exact (unfailing_print _).bind (fun _ => unfailing_print _)
  · exact (unfailing_print _).bind (fun _ => unfailing_print _)

theorem listServers_failsMildly (hplace : PlacedAt path directory?) :
    FailsMildly path directory? listServers := by
  unfold listServers
  refine .bind (loadStore_mild hplace) (fun c => ?_)
  split
  · exact (leavesDisk_print _).mild.failsMildly
  · exact (leavesDisk_print _).mild.failsMildly

theorem useServer_failsMildly (hplace : PlacedAt path directory?) (key : String) :
    FailsMildly path directory? (useServer key) := by
  unfold useServer
  refine .bind (loadStore_mild hplace) (fun c => ?_)
  refine .bind (leavesDisk_ofStore _).mild ?_
  rintro ⟨chosen, entry⟩
  exact (saveStore_failsMildly hplace chosen).before (fun _ => unfailing_print _)

theorem removeServer_failsMildly (hplace : PlacedAt path directory?) (key : String) :
    FailsMildly path directory? (removeServer key) := by
  unfold removeServer
  refine .bind (loadStore_mild hplace) (fun c => ?_)
  refine .bind (leavesDisk_ofStore _).mild ?_
  rintro ⟨rest, entry⟩
  refine (saveStore_failsMildly hplace rest).before (fun _ => ?_)
  refine (unfailing_print _).bind (fun _ => ?_)
  split
  · exact unfailing_print _
  · exact unfailing_pure _

theorem server_failsMildly (hplace : PlacedAt path directory?) (command : Usage.ServerCommand) :
    FailsMildly path directory? (server command) := by
  cases command with
  | add url name insecure => exact addServer_failsMildly hplace url name insecure
  | list => exact listServers_failsMildly hplace
  | use key => exact useServer_failsMildly hplace key
  | remove key => exact removeServer_failsMildly hplace key

end Mild

/-- A world without a network, in which the store is in a directory of the disk. -/
def offlineWorld (items : List (Files.Place × Files.Item)) (directory : String) : World where
  disk := { items, here := [], nextSerial := 1, calls := 0, trouble := fun _ => none }
  network := { answer := fun _ _ => .unreachable, sent := [] }
  settings := [(directoryVariable, directory)]
  workingDirectory := "/"
  accountHome := none
  input := ""
  output := ""
  errors := ""
  now := ⟨0, 0, 0⟩
  machineName := none
  browserOpens := false
  notices := []
  sleeps := []
  port := fun _ _ => ⟨false, 0⟩
  sshEnds := fun _ _ => .absent
  sshRuns := []

def singleText : String := "server: https://a.example\ntoken: t\n"

/-- A world in which such a file is the store. -/
def singleWorld : World :=
  offlineWorld [(["cfg"], .directory 0o700),
    (["cfg", storeName], .file 0 (Text.octets singleText) 0o600)] "cfg"

/-- A world with a directory where the temporary file would stand. The way to the store begins in
a directory that is missing. -/
def blockedWorld : World :=
  offlineWorld [([storeName], .file 0 (Text.octets singleText) 0o600),
    (["config.yaml.tmp"], .directory 0o755)] "new/.."

/-- A server that issues no code. -/
def closedHost : Login.Host Run where
  sleep _ := pure ()
  requestCode := pure (.error (.refused 503 "closed"))
  askVerdict _ := pure (.error (.refused 503 "closed"))
  showCode _ := pure ()
  openBrowser _ := pure ()
  waiting := pure ()
  done := pure ()

end SandboxClient.Program
