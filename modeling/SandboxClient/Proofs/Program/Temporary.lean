/-
  SandboxClient/Proofs/Program/Temporary.lean
  ===========================================
  **Sandboxes that are made for one session.** When the session has ended, in
  whatever way, the server is asked about the sandbox once, and then once to
  remove it unless it is to be kept. Nothing that comes of this changes how the
  command ends, and without a session nothing is removed:
  `temporary_sandbox_life`.

  Everything before the end of the session only posts; that is put together from
  the steps, in the order of the text of the command. What comes after is opened.
-/
import SandboxClient.Program.Perform
import SandboxClient.Proofs.Program.Asked
import SandboxClient.Proofs.Program.Failed

namespace SandboxClient.Program

open SandboxClient.Files (bind_of_ok bind_eq_ok)
open SandboxClient.Remote (Client Network Reply Request Sandbox sandboxPath)

variable {α β : Type}

/-! ### Runs that only post -/

/-- All requests that have reached a server in addition are posts. -/
def Posted (w w' : World) : Prop :=
  ∃ posts, w'.network.sent = w.network.sent ++ posts ∧ ∀ r ∈ posts, r.method = .post

theorem posted_of_network {w w' : World} (h : w'.network = w.network) : Posted w w' := by
  refine ⟨[], ?_, by simp⟩
  rw [h, List.append_nil]

theorem Posted.trans {w w' w'' : World} (h : Posted w w') (h' : Posted w' w'') : Posted w w'' := by
  obtain ⟨posts, hsent, hposts⟩ := h
  obtain ⟨more, hmore, hposts'⟩ := h'
  refine ⟨posts ++ more, ?_, ?_⟩
  · rw [hmore, hsent, List.append_assoc]
  · intro r hr
    rcases List.mem_append.mp hr with hr | hr
    · exact hposts r hr
    · exact hposts' r hr

instance posted_isPreorder : IsPreorder World Posted where
  refl _ := posted_of_network rfl
  trans _ _ _ := Posted.trans

theorem posted_of_silent {x : Run α} (hx : Silent x) : Relates Posted x :=
  fun w => posted_of_network (hx w)

/-- A question that is posted. -/
theorem posted_asking (c : Client) (ss : List String) (body : Option Json.Value) (what : String)
    (reader : Json.Reader α) : Relates Posted (asking (c.ask .post ss body what reader)) := by
  intro w
  have hnetwork := network_asking (c.ask .post ss body what reader) w
  rw [Remote.network_ask] at hnetwork
  by_cases hspeaks : c.speaks = true
  · rw [if_pos hspeaks] at hnetwork
    refine ⟨w.network.heard (c.request .post ss body), ?_, ?_⟩
    · rw [hnetwork, Remote.sent_exchange]
    · intro r hr
      rw [Remote.mem_heard hr]
      rfl
  · rw [if_neg hspeaks] at hnetwork
    exact posted_of_network hnetwork

theorem posted_attach (c : Client) (s : Sandbox) (command : Option String) :
    Relates Posted (attach c s command) :=
  (posted_asking _ _ _ _ _).bind (fun info =>
    (relates_awaitPort info).bind (fun _ => posted_of_silent (silent_session info command)))

/-! ### Quiet runs -/

/-- A run cannot fail and asks nothing. -/
def Quiet (x : Run α) : Prop := ∀ w, ∃ a w', x w = (.ok a, w') ∧ w'.network = w.network

theorem quiet_pure (a : α) : Quiet (pure a) := fun w => ⟨a, w, rfl, rfl⟩

theorem quiet_print (s : String) : Quiet (print s) := fun _ => ⟨(), _, rfl, rfl⟩

theorem Quiet.bind {x : Run α} {f : α → Run β} (hx : Quiet x) (hf : ∀ a, Quiet (f a)) :
    Quiet (x >>= f) := by
  intro w
  obtain ⟨a, v, hrun, hnetwork⟩ := hx w
  obtain ⟨b, v', hrest, hnetwork'⟩ := hf a v
  rw [bind_of_ok hrun]
  exact ⟨b, v', hrest, hnetwork'.trans hnetwork⟩

theorem Quiet.ite {p : Prop} [Decidable p] {x y : Run α} (hx : Quiet x) (hy : Quiet y) :
    Quiet (if p then x else y) := by
  split
  · exact hx
  · exact hy

theorem Quiet.optional {p : Prop} [Decidable p] {x : Run Unit} {f : Unit → Run β}
    (hx : Quiet x) (hf : ∀ u, Quiet (f u)) : Quiet (if p then x >>= f else f ()) :=
  (hx.bind hf).ite (hf ())

theorem quiet_describe (c : Usage.Creation) (s : Sandbox) : Quiet (describe c s) := by
  have hrest : Quiet (do
      if s.persistentVolume then field "Volume" "persistent (/workspace)"
      if s.tailscale then field "Tailscale" "enabled"
      if c.remove then field "Cleanup" "auto-remove on exit") := by
    refine (quiet_print _).optional (fun _ => ?_)
    refine (quiet_print _).optional (fun _ => ?_)
    exact (quiet_print _).ite (quiet_pure _)
  unfold describe
  refine (quiet_print _).bind (fun _ => ?_)
  refine (quiet_print _).optional (fun _ => ?_)
  cases Session.dataPath c.data with
  | none => exact hrest
  | some path => exact (quiet_print _).bind (fun _ => hrest)

theorem Quiet.posted {x : Run α} (hx : Quiet x) : Relates Posted x := by
  intro w
  obtain ⟨a, w', hrun, hnetwork⟩ := hx w
  rw [hrun]
  exact posted_of_network hnetwork

/-! ### The end of a session

Two requests at most, and no failure of them is a failure of the command. -/

/-- Whether a reply says that a sandbox is to be kept. -/
def keeps : Reply → Bool
  | .response a => a.succeeded &&
      (Json.decode Sandbox.reader a.body).any (fun current => !current.temporary)
  | _ => false

/-- The requests that reach a server when a session has ended: the sandbox is asked about once,
and then asked to be removed once unless it is to be kept. -/
def cleanup (c : Client) (id : Nat) (n : Network) : List Request :=
  let get := c.request .get (sandboxPath id) none
  n.heard get ++ if keeps (n.exchange get).1 then []
    else (n.exchange get).2.heard (c.request .delete (sandboxPath id) none)

section Ending

variable {c : Client}

theorem getSandbox_cases (h : c.speaks = true) (id : Nat) (n : Network) :
    (∃ current, (c.getSandbox id n).1 = .ok current ∧
      keeps (n.exchange (c.request .get (sandboxPath id) none)).1 = !current.temporary) ∨
    ∃ fault, (c.getSandbox id n).1 = .error fault ∧
      keeps (n.exchange (c.request .get (sandboxPath id) none)).1 = false := by
  rcases hget : c.getSandbox id n with ⟨fault | current, n'⟩
  · refine Or.inr ⟨fault, rfl, ?_⟩
    rcases hexchange : n.exchange (c.request .get (sandboxPath id) none) with ⟨reply, m⟩
    rw [← Bool.not_eq_true]
    intro hkeeps
    cases reply with
    | response a =>
      obtain ⟨hsucceeded, hany⟩ := Bool.and_eq_true_iff.mp hkeeps
      obtain ⟨current, hdecode, -⟩ := (Option.any_eq_true _ _).mp hany
      have hok : c.getSandbox id n = (.ok current, m) :=
        Remote.ask_eq_ok.mpr ⟨h, a, hexchange, hsucceeded, hdecode⟩
      rw [hget] at hok
      cases hok
    | unreachable => cases hkeeps
    | dropped => cases hkeeps
  · obtain ⟨-, a, hexchange, hsucceeded, hdecode⟩ := Remote.ask_eq_ok.mp hget
    refine Or.inl ⟨current, rfl, ?_⟩
    rw [hexchange]
    simp [keeps, hsucceeded, hdecode]

/-- A sandbox that is not to be kept is removed, and the user is told what has come of it. -/
def removing (c : Client) (s : Sandbox) : Run Unit := do
  printLine ("Removing sandbox " ++ Text.quoted s.name ++ "...")
  match ← outcome (c.destroySandbox s.id) with
  | .ok _ => success ("Sandbox " ++ Text.quoted s.name ++ " deleted.")
  | .error fault => warn ("Warning: failed to delete sandbox: " ++ fault.message)

theorem removing_eq (h : c.speaks = true) (s : Sandbox) (w : World) :
    ∃ w', removing c s w = (.ok (), w') ∧
      w'.network = (w.network.exchange (c.request .delete (sandboxPath s.id) none)).2 := by
  have hnetwork : (c.destroySandbox s.id w.network).2 =
      (w.network.exchange (c.request .delete (sandboxPath s.id) none)).2 := by
    unfold Remote.Client.destroySandbox
    rw [Remote.network_tell, if_pos h]
  obtain ⟨v, hprinted, hv⟩ : ∃ v, printLine ("Removing sandbox " ++ Text.quoted s.name ++ "...") w =
      (.ok (), v) ∧ v.network = w.network := ⟨_, rfl, rfl⟩
  have hdelete : outcome (c.destroySandbox s.id) v = (.ok (c.destroySandbox s.id w.network).1,
      { v with network := (c.destroySandbox s.id w.network).2 }) := by
    rw [← hv]
    rfl
  unfold removing
  rw [bind_of_ok hprinted, bind_of_ok hdelete, ← hnetwork]
  cases (c.destroySandbox s.id w.network).1 with
  | ok u => exact ⟨_, rfl, rfl⟩
  | error fault => exact ⟨_, rfl, rfl⟩

theorem removeTemporary_eq (h : c.speaks = true) (s : Sandbox) (w : World) :
    ∃ w', removeTemporary c s w = (.ok (), w') ∧
      w'.network.sent = w.network.sent ++ cleanup c s.id w.network := by
  have hnetwork : (c.getSandbox s.id w.network).2 =
      (w.network.exchange (c.request .get (sandboxPath s.id) none)).2 := by
    unfold Remote.Client.getSandbox
    rw [Remote.network_ask, if_pos h]
  have hget : outcome (c.getSandbox s.id) w = (.ok (c.getSandbox s.id w.network).1,
      { w with network := (c.getSandbox s.id w.network).2 }) := rfl
  rw [hnetwork] at hget
  obtain ⟨w', hremoving, hremoved⟩ := removing_eq h s
    { w with network := (w.network.exchange (c.request .get (sandboxPath s.id) none)).2 }
  have hsent : w'.network.sent = w.network.sent ++
      (w.network.heard (c.request .get (sandboxPath s.id) none) ++
        (w.network.exchange (c.request .get (sandboxPath s.id) none)).2.heard
          (c.request .delete (sandboxPath s.id) none)) := by
    rw [hremoved, Remote.sent_exchange, Remote.sent_exchange, List.append_assoc]
  unfold removeTemporary
  rw [bind_of_ok hget]
  rcases getSandbox_cases h s.id w.network with ⟨current, hok, hkeeps⟩ | ⟨fault, herror, hkeeps⟩
  · rw [hok]
    by_cases htemporary : current.temporary = true
    · rw [htemporary] at hkeeps
      refine ⟨w', ?_, ?_⟩
      · simp only [htemporary]
        exact hremoving
      · simp only [cleanup, hkeeps]
        exact hsent
    · rw [Bool.eq_false_iff.mpr htemporary] at hkeeps
      simp only [Bool.eq_false_iff.mpr htemporary]
      refine ⟨_, rfl, ?_⟩
      simp only [cleanup, hkeeps, Bool.not_false, if_true, List.append_nil]
      exact Remote.sent_exchange _ _
  · rw [herror]
    refine ⟨w', hremoving, ?_⟩
    simp only [cleanup, hkeeps]
    exact hsent

end Ending

/-! ### The whole life

The session is the only part whose outcome counts. -/

def making (c : Usage.Creation) : Run (Client × Sandbox) := do
  let remote ← announcedClient
  let s ← asking (remote.createSandbox (requestFor c))
  return (remote, s)

/-- What is done with a sandbox that has been made. -/
def afterMaking (c : Usage.Creation) (remote : Client) (s : Sandbox) : Run Unit := do
  describe c s
  if !c.noConnect then
    let ending ← attempt (attach remote s (some Session.attachCommand))
    if c.remove then removeTemporary remote s
    conclude ending

section Creation

variable {c : Usage.Creation} {remote : Client} {s : Sandbox} {w w₁ : World}

theorem create_eq (c : Usage.Creation) :
    create c = making c >>= fun made => afterMaking c made.1 made.2 := by
  simp only [create, making, afterMaking, bind_assoc, pure_bind]

theorem posted_making : Relates Posted (making c) :=
  (posted_of_silent silent_announcedClient).bind (fun _ => (posted_asking _ _ _ _ _).bind (fun _ => relates_pure _))

/-- A client that has had a sandbox made can ask about it as well. -/
theorem speaks_of_making (hmade : making c w = (.ok (remote, s), w₁)) : remote.speaks = true := by
  obtain ⟨remote, v, -, hrest⟩ := bind_eq_ok.mp hmade
  obtain ⟨s, v', hasking, hpure⟩ := bind_eq_ok.mp hrest
  obtain ⟨⟨⟩, -⟩ := Files.pure_eq_ok.mp hpure
  exact (Remote.ask_eq_ok.mp (asking_eq_ok.mp hasking).1).1

theorem posted_afterMaking (h : c.remove = false ∨ c.noConnect = true) :
    Relates Posted (afterMaking c remote s) := by
  refine (quiet_describe c s).posted.bind (fun _ => ?_)
  rcases h with h | h
  · split
    · refine (posted_attach _ _ _).attempt.bind (fun result => ?_)
      simp only [h]
      exact relates_conclude result
    · exact relates_pure _
  · simp only [h]
    exact relates_pure _

/-- The session is held, the sandbox is then removed or kept, and the result of the session is the
result of it all. -/
theorem afterMaking_eq (hspeaks : remote.speaks = true) (hremove : c.remove = true)
    (hconnect : c.noConnect = false) :
    ∃ w₂ session w₃, describe c s w₁ = (.ok (), w₂) ∧ w₂.network = w₁.network ∧
      attach remote s (some Session.attachCommand) w₂ = (session, w₃) ∧
      (afterMaking c remote s w₁).1 = session ∧
      (afterMaking c remote s w₁).2.network.sent =
        w₃.network.sent ++ cleanup remote s.id w₃.network := by
  obtain ⟨⟨⟩, w₂, hdescribe, hnetwork⟩ := quiet_describe c s w₁
  rcases hattach : attach remote s (some Session.attachCommand) w₂ with ⟨session, w₃⟩
  obtain ⟨w₄, hremoved, hsent⟩ := removeTemporary_eq hspeaks s w₃
  have hattempt : attempt (attach remote s (some Session.attachCommand)) w₂ = (.ok session, w₃) := by
    rw [attempt_eq, hattach]
  have hlast : afterMaking c remote s w₁ = conclude session w₄ := by
    unfold afterMaking
    simp only [hconnect, hremove]
    rw [bind_of_ok hdescribe]
    exact (bind_of_ok hattempt).trans (bind_of_ok hremoved)
  refine ⟨w₂, session, w₃, hdescribe, hnetwork, hattach, ?_, ?_⟩
  · rw [hlast]
    cases session with
    | error failure => rfl
    | ok u => rfl
  · rw [hlast, ← hsent]
    cases session with
    | error failure => rfl
    | ok u => rfl

end Creation

/-- What has been printed does not matter for an exit code. -/
theorem ending_code (result : Except Failure Unit) (w w' : World) :
    (ending result w).1 = (ending result w').1 := by
  cases result with
  | ok u => rfl
  | error failure =>
    simp only [ending]
    split
    · rfl
    · split
      · rfl
      · rfl

/-- **The life of a sandbox that is made for one session.** Once a server has made it, and a session
is to begin, the session may end in whatever way: the sandbox is then asked about and removed, once
each, and is not removed if the answer says that it is to be kept. The result and the exit code are
those of the session, whatever comes of that. Until then, and in any other case throughout, the
command only posts. -/
theorem temporary_sandbox_life (c : Usage.Creation) (w : World) :
    (∀ remote s w₁, making c w = (.ok (remote, s), w₁) → c.remove = true → c.noConnect = false →
      ∃ w₂ session w₃, describe c s w₁ = (.ok (), w₂) ∧
        attach remote s (some Session.attachCommand) w₂ = (session, w₃) ∧
        Posted w w₃ ∧
        (create c w).2.network.sent = w₃.network.sent ++ cleanup remote s.id w₃.network ∧
        (create c w).1 = session ∧ (execute (.create c) w).1 = (ending session w₃).1) ∧
    ((∀ remote s w₁, making c w = (.ok (remote, s), w₁) →
        c.remove = false ∨ c.noConnect = true) →
      Posted w (create c w).2) := by
  rw [create_eq]
  constructor
  · intro remote s w₁ hmade hremove hconnect
    obtain ⟨w₂, session, w₃, hdescribe, hnetwork, hattach, hresult, hsent⟩ :=
      @afterMaking_eq c remote s w₁ (speaks_of_making hmade) hremove hconnect
    have hcode : execute (.create c) w =
        ending (afterMaking c remote s w₁).1 (afterMaking c remote s w₁).2 := by
      show ending (create c w).1 (create c w).2 = _
      rw [create_eq, bind_of_ok hmade]
    refine ⟨w₂, session, w₃, hdescribe, hattach, ?_, ?_, ?_, ?_⟩
    · have hbefore : Posted w w₁ := by
        have hposted := posted_making (c := c) w
        rwa [hmade] at hposted
      have hsession : Posted w₂ w₃ := by
        have hposted := posted_attach remote s (some Session.attachCommand) w₂
        rwa [hattach] at hposted
      exact (hbefore.trans (posted_of_network hnetwork)).trans hsession
    · rw [bind_of_ok hmade]
      exact hsent
    · rw [bind_of_ok hmade]
      exact hresult
    · rw [hcode, hresult]
      exact ending_code _ _ _
  · intro hother
    refine related_bind (posted_making w) (fun made w₁ hmade => ?_)
    exact posted_afterMaking (hother _ _ _ hmade) w₁

/-! ### A session that fails -/

def passingSandbox : Usage.Creation where
  name := "box"
  image := none
  persistent := false
  snapshot := none
  tailscale := false
  home := false
  data := none
  remove := true
  noConnect := false

/-- A world in which a server makes a sandbox, ssh fails there, and the server refuses to remove the
sandbox. -/
def failingWorld : World :=
  { singleWorld with
    disk := { singleWorld.disk with
      items := [(["cfg"], .directory 0o700),
        (["cfg", storeName], .file 0 (Text.octets
          "current_server: http://[::1]:8080\nservers:\n- server: http://[::1]:8080\n  token: t\n")
          0o600)] }
    network := {
      answer := fun sent r => match r.method with
        | .post => .response ⟨200, none, Text.octets
            (if sent.isEmpty then "\x7b\"id\":7,\"name\":\"box\",\"temporary\":true\x7d"
            else "\x7b\"host\":\"h\",\"port\":22,\"user\":\"u\"\x7d")⟩
        | .get => .response ⟨200, none, Text.octets
            "\x7b\"id\":7,\"name\":\"box\",\"temporary\":true\x7d"⟩
        | _ => .response ⟨500, none, []⟩
      sent := [] }
    port := fun _ _ => ⟨true, 0⟩
    sshEnds := fun _ _ => .exited 3 }

/-- The client of the server in this world. -/
def failingClient : Client :=
  { Remote.localClient with
    base := { Remote.localClient.base with path := .segments [[]] }
    baseUrl := "http://[::1]:8080"
    token := some "t" }

def failingBox : Sandbox where
  id := 7
  name := "box"
  status := .unknown
  image := ""
  sshPort := none
  persistentVolume := false
  mountHome := false
  tailscale := false
  tailscaleIp := none
  temporary := true
  routes := []
  createdAt := none

/-- The sandbox is asked about and is to be removed, and the code of ssh is the exit code. -/
theorem removal_keeps_exit_code :
    (create passingSandbox failingWorld).1 = .error (.ssh (.ended 3)) ∧
      (execute (.create passingSandbox) failingWorld).1 = 3 ∧
      (create passingSandbox failingWorld).2.network.sent.map (fun r => r.method) =
        [.post, .post, .get, .delete] := by
  have hmade : (making passingSandbox failingWorld).1 = .ok (failingClient, failingBox) := by
    decide +kernel
  have hfails : (attach failingClient failingBox (some Session.attachCommand)
      (describe passingSandbox failingBox (making passingSandbox failingWorld).2).2).1 =
        .error (.ssh (.ended 3)) := by
    decide +kernel
  have hposted : (attach failingClient failingBox (some Session.attachCommand)
      (describe passingSandbox failingBox (making passingSandbox failingWorld).2).2).2.network.sent.map
        (fun r => r.method) = [.post, .post] := by
    decide +kernel
  have hcleanup : (cleanup failingClient 7 (attach failingClient failingBox
      (some Session.attachCommand)
      (describe passingSandbox failingBox (making passingSandbox failingWorld).2).2).2.network).map
        (fun r => r.method) = [.get, .delete] := by
    decide +kernel
  obtain ⟨w₂, session, w₃, hdescribe, hattach, -, hsent, hresult, hcode⟩ :=
    (temporary_sandbox_life passingSandbox failingWorld).1 failingClient failingBox _
      (Prod.ext hmade rfl) rfl rfl
  rw [hdescribe, hattach] at hfails hposted hcleanup
  obtain rfl : session = .error (.ssh (.ended 3)) := hfails
  refine ⟨hresult, hcode, ?_⟩
  rw [hsent, List.map_append]
  exact congrArg₂ (· ++ ·) hposted hcleanup

end SandboxClient.Program
