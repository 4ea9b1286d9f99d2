/-
  SandboxClient/Proofs/Program/NamedSandboxes.lean
  ================================================
  **Commands about one sandbox.** Such a command asks for the list of the sandboxes
  first. Unless one has the name that is meant, that is all; otherwise it asks for
  its own task, below the path of the first that has it, and for nothing else:
  `asks_for_named_only`. Only a sandbox that is connected to may have to be started
  before. Nothing is asked twice, whatever the answers are.

  What follows the listing is in the path as it is meant exactly if all its steps
  are names. The domain of a route that is removed may be none, and the request
  then reaches something else: `tabs_remove_whole_sandbox`.
-/
import SandboxClient.Proofs.Program.Temporary
import SandboxClient.Proofs.Remote.SandboxPaths
import SandboxClient.Proofs.Url.Hosts

namespace SandboxClient.Program

open SandboxClient.Files (bind_of_ok bind_eq_ok bind_eq_error)
open SandboxClient.Json (Value)
open SandboxClient.Remote (Client Method Network Request Sandbox sandboxPath)
open SandboxClient.Session (WordFault)
open SandboxClient.Url (IsName map_ok_iff)

/-! ### Tasks

A task is one request, known from the command and the number of the sandbox alone. -/

/-- What is asked of a server for a sandbox, in steps below the path of the sandbox. -/
structure Task where
  method : Method
  steps : List String
  body : Option Value

/-- The request for a task. -/
def Task.request (t : Task) (c : Client) (id : Nat) : Request :=
  c.request t.method (sandboxPath id ++ t.steps) t.body

def starting : Task := ⟨.post, ["start"], none⟩

def reaching : Task := ⟨.post, ["connect"], none⟩

/-- The task of a command about one sandbox. -/
def taskOf : Usage.Command → Option Task
  | .delete _ => some ⟨.delete, [], none⟩
  | .start _ => some starting
  | .stop _ => some ⟨.post, ["stop"], none⟩
  | .set _ lifetime =>
    some ⟨.patch, [], some (.object [("temporary", .flag (lifetime == .temporary))])⟩
  | .connect _ | .ssh _ | .exec _ => some reaching
  | .route (.add _ domain port) => some ⟨.post, ["routes"], some (Remote.routeBody domain port)⟩
  | .route (.list _) => some ⟨.get, ["routes"], none⟩
  | .route (.delete _ domain) => some ⟨.delete, ["routes", domain], none⟩
  | .snapshot (.create _ name) =>
    some ⟨.post, ["snapshot"], some (.object (Remote.textMember "name" name))⟩
  | .snapshot (.restore _ reference) =>
    some ⟨.post, ["restore"],
      some (.object [("snapshot", .text (Session.snapshotName reference))])⟩
  | _ => none

/-! ### Names -/

/-- The name of the active sandbox, if the marker can be read and tells one. -/
def World.active? (w : World) : Option String :=
  ((Session.readMarker w.markerPath).run w.disk).1.toOption.join

/-- The world in which a command makes its client. What may mean the active sandbox has read the
marker by then. -/
def World.readyFor (w : World) : Usage.Command → World
  | .connect _ | .ssh _ | .exec _ => (activeName w).2
  | _ => w

/-- The name that a command means, where `known` are the names of the sandboxes. -/
def nameMeant (command : Usage.Command) (active : Option String) (known : List String) :
    Except WordFault String :=
  match command with
  | .delete name | .start name | .stop name | .set name _
  | .route (.add name _ _) | .route (.list name) | .route (.delete name _)
  | .snapshot (.create name _) | .snapshot (.restore name _) => .ok name
  | .connect given | .ssh given =>
    match Session.chosenName given active with
    | some name => .ok name
    | none => .error .noName
  | .exec words => (Session.readErrand words known active).map (fun errand => errand.name)
  | _ => .error .noName

def listing (c : Client) : Request := c.request .get ["api", "sandboxes"] none

/-- A sandbox is the first in the list from a server that has the name a command means. -/
def Meant (command : Usage.Command) (w : World) (c : Client) (s : Sandbox) : Prop :=
  ∃ known name, (c.listSandboxes w.network).1 = .ok known ∧
    nameMeant command w.active? (known.map (fun s => s.name)) = .ok name ∧
    known.find? (fun s => s.name == name) = some s

/-! ### What follows the listing

The requests of a command as a function of what it asks about, whatever the answers are. -/

/-- What is asked about a sandbox that has been found: the task of the command. To be connected to,
a stopped sandbox is started first, and only if that succeeds, more is asked. -/
def pursued (command : Usage.Command) (task : Task) (c : Client) (s : Sandbox) (n : Network) :
    List Request :=
  match command with
  | .connect _ =>
    if s.status = .stopped then
      starting.request c s.id ::
        match (c.startSandbox s.id n).1 with
        | .ok started => [task.request c started.id]
        | .error _ => []
    else [task.request c s.id]
  | _ => [task.request c s.id]

/-- What comes of a command about one sandbox, by what it asks: nothing, and it fails; or the list,
and it fails as no sandbox is meant; or the list, and what is pursued for the one that is meant. -/
def AsksForNamed (command : Usage.Command) (task : Task) (w : World)
    (result : Except Failure Unit × World) : Prop :=
  ((∃ failure, result.1 = .error failure) ∧ result.2.network = w.network ∧
    ((∀ c, (client (w.readyFor command)).1 = .ok c → c.speaks = false) ∨
      ∀ known, nameMeant command w.active? known = .error .noName)) ∨
  ∃ c followed, (client (w.readyFor command)).1 = .ok c ∧ c.speaks = true ∧
    result.2.network = w.network.after (listing c :: followed) ∧
    (((∃ failure, result.1 = .error failure) ∧ followed = [] ∧ ∀ s, ¬ Meant command w c s) ∨
      ∃ s, Meant command w c s ∧
        followed = pursued command task c s (w.network.after [listing c]))

/-! ### Searching

All commands find their sandbox in the same way and differ in what they go on with. -/

/-- The first sandbox that has the name a command means. -/
def lookedUp (command : Usage.Command) (active : Option String) (known : List Sandbox) :
    Except WordFault Sandbox := do
  Session.findNamed known (← nameMeant command active (known.map (fun s => s.name)))

theorem findNamed_eq_ok {known : List Sandbox} {name : String} {s : Sandbox} :
    Session.findNamed known name = .ok s ↔ known.find? (fun s => s.name == name) = some s := by
  unfold Session.findNamed
  cases known.find? (fun s => s.name == name) with
  | none => simp
  | some s' => simp

theorem map_findNamed {command : Usage.Command} {active : Option String} {known : List Sandbox}
    {name : String} (h : nameMeant command active (known.map (fun s => s.name)) = .ok name) :
    (Session.findNamed known name).map id = lookedUp command active known := by
  unfold lookedUp
  rw [h]
  show (Session.findNamed known name).map id = Session.findNamed known name
  cases Session.findNamed known name <;> rfl

theorem meant_iff {command : Usage.Command} {w : World} {c : Client} {s : Sandbox} :
    Meant command w c s ↔ ∃ known, (c.listSandboxes w.network).1 = .ok known ∧
      lookedUp command w.active? known = .ok s := by
  constructor
  · rintro ⟨known, name, hlist, hname, hfind⟩
    refine ⟨known, hlist, ?_⟩
    unfold lookedUp
    rw [hname]
    exact findNamed_eq_ok.mpr hfind
  · rintro ⟨known, hlist, hlook⟩
    unfold lookedUp at hlook
    cases hname : nameMeant command w.active? (known.map (fun s => s.name)) with
    | error fault =>
      rw [hname] at hlook
      cases hlook
    | ok name =>
      rw [hname] at hlook
      exact ⟨known, name, hlist, hname, findNamed_eq_ok.mp hlook⟩

section Searching

variable {α : Type} {c : Client} (look : List Sandbox → Except WordFault α) (next : α → Run Unit)

/-- Looks for something in the list of the sandboxes, and goes on with it. -/
def searching (c : Client) (look : List Sandbox → Except WordFault α) (next : α → Run Unit) :
    Run Unit := do
  let known ← asking c.listSandboxes
  let found ← ofWords (look known)
  next found

theorem searching_silent (h : c.speaks = false) (w : World) :
    (∃ failure, (searching c look next w).1 = .error failure) ∧
      (searching c look next w).2.network = w.network := by
  have hnetwork : (asking c.listSandboxes w).2.network = w.network := by
    rw [network_asking]
    unfold Remote.Client.listSandboxes
    rw [Remote.network_ask, h]
    rfl
  rcases hlist : asking c.listSandboxes w with ⟨failure | known, v⟩
  · rw [hlist] at hnetwork
    unfold searching
    rw [bind_eq_error.mpr (Or.inl hlist)]
    exact ⟨⟨failure, rfl⟩, hnetwork⟩
  · have hspeaks := (Remote.ask_eq_ok.mp (asking_eq_ok.mp hlist).1).1
    rw [h] at hspeaks
    cases hspeaks

theorem searching_cases (h : c.speaks = true) (w : World) :
    ((∃ failure, (searching c look next w).1 = .error failure) ∧
      (searching c look next w).2.network = w.network.after [listing c] ∧
      ∀ known a, (c.listSandboxes w.network).1 = .ok known → look known ≠ .ok a) ∨
    ∃ known a v, (c.listSandboxes w.network).1 = .ok known ∧ look known = .ok a ∧
      v.network = w.network.after [listing c] ∧ searching c look next w = next a v := by
  have hnetwork : (asking c.listSandboxes w).2.network = w.network.after [listing c] :=
    asksOnce_ask h _ _ _ _ _ w
  rcases hlist : asking c.listSandboxes w with ⟨failure | known, v⟩
  · left
    rw [hlist] at hnetwork
    unfold searching
    rw [bind_eq_error.mpr (Or.inl hlist)]
    refine ⟨⟨failure, rfl⟩, hnetwork, ?_⟩
    intro known a hknown
    rw [asking_of_ok hknown] at hlist
    cases hlist
  · rw [hlist] at hnetwork
    have hknown : (c.listSandboxes w.network).1 = .ok known :=
      congrArg Prod.fst (asking_eq_ok.mp hlist).1
    unfold searching
    rw [bind_of_ok hlist]
    cases hlook : look known with
    | error fault =>
      refine Or.inl ⟨⟨.words fault, rfl⟩, hnetwork, ?_⟩
      intro known' a hknown'
      rw [hknown] at hknown'
      cases hknown'
      rw [hlook]
      rintro ⟨⟩
    | ok a => exact Or.inr ⟨known, a, v, hknown, hlook, hnetwork, rfl⟩

end Searching

theorem activeName_eq (w : World) : ∃ d, activeName w = (.ok w.active?, { w with disk := d }) := by
  unfold activeName World.active?
  rcases (Session.readMarker w.markerPath).run w.disk with ⟨fault | name, d⟩
  · exact ⟨d, rfl⟩
  · exact ⟨d, rfl⟩

theorem network_readyFor (w : World) (command : Usage.Command) :
    (w.readyFor command).network = w.network := by
  obtain ⟨d, hactive⟩ := activeName_eq w
  have hmarker : (activeName w).2.network = w.network := by rw [hactive]
  unfold World.readyFor
  split
  · exact hmarker
  · exact hmarker
  · exact hmarker
  · rfl

/-- A client that speaks asks for the list, and for what is pursued for the sandbox that is meant. -/
theorem searching_asks {α : Type} {command : Usage.Command} {task : Task} {w u : World} {c : Client}
    {look : List Sandbox → Except WordFault α} {next : α → Run Unit} (pick : α → Sandbox)
    (hspeaks : c.speaks = true) (hu : u.network = w.network)
    (hlook : ∀ known, (look known).map pick = lookedUp command w.active? known)
    (hnext : ∀ a v, (next a v).2.network =
      v.network.after (pursued command task c (pick a) v.network)) :
    ∃ followed, (searching c look next u).2.network = w.network.after (listing c :: followed) ∧
      (((∃ failure, (searching c look next u).1 = .error failure) ∧ followed = [] ∧
          ∀ s, ¬ Meant command w c s) ∨
        ∃ s, Meant command w c s ∧
          followed = pursued command task c s (w.network.after [listing c])) := by
  have hcases := searching_cases look next hspeaks u
  rw [hu] at hcases
  rcases hcases with ⟨hfails, hsent, hnone⟩ | ⟨known, a, v, hlist, ha, hsent, hrest⟩
  · refine ⟨[], hsent, Or.inl ⟨hfails, rfl, ?_⟩⟩
    intro s hs
    obtain ⟨known, hlist, hs⟩ := meant_iff.mp hs
    rw [← hlook known] at hs
    obtain ⟨a, ha, -⟩ := map_ok_iff.mp hs
    exact hnone known a hlist ha
  · refine ⟨pursued command task c (pick a) (w.network.after [listing c]), ?_, Or.inr ?_⟩
    · rw [hrest, hnext a v, hsent]
      rfl
    · refine ⟨pick a, meant_iff.mpr ⟨known, hlist, ?_⟩, rfl⟩
      rw [← hlook known]
      exact map_ok_iff.mpr ⟨a, ha, rfl⟩

/-- A command that searches with the client of the current server asks for the sandbox that is
meant, if what it looks for is this sandbox and if it then asks for what is pursued. -/
theorem asksForNamed_searching {α : Type} {command : Usage.Command} {task : Task} {w : World}
    {before : Run Client} {look : List Sandbox → Except WordFault α} {next : Client → α → Run Unit}
    (pick : α → Sandbox) (hbefore : Silent before)
    (hclient : (before (w.readyFor command)).1 = (client (w.readyFor command)).1)
    (hlook : ∀ known, (look known).map pick = lookedUp command w.active? known)
    (hnext : ∀ c a v, c.speaks = true → (next c a v).2.network =
      v.network.after (pursued command task c (pick a) v.network)) :
    AsksForNamed command task w
      ((before >>= fun c => searching c look (next c)) (w.readyFor command)) := by
  have hnetwork : (before (w.readyFor command)).2.network = w.network :=
    (hbefore _).trans (network_readyFor w command)
  rcases hrun : before (w.readyFor command) with ⟨failure | c, u⟩
  · rw [hrun] at hnetwork hclient
    rw [bind_eq_error.mpr (Or.inl hrun)]
    refine Or.inl ⟨⟨failure, rfl⟩, hnetwork, Or.inl ?_⟩
    intro c hc
    rw [hc] at hclient
    cases hclient
  · rw [hrun] at hnetwork hclient
    rw [bind_of_ok hrun]
    by_cases hspeaks : c.speaks = true
    · obtain ⟨followed, hsent, hfollowed⟩ := searching_asks pick hspeaks hnetwork hlook
        (fun a v => hnext c a v hspeaks)
      exact Or.inr ⟨c, followed, hclient.symm, hspeaks, hsent, hfollowed⟩
    · obtain ⟨hfails, hsame⟩ :=
        searching_silent look (next c) (Bool.eq_false_iff.mpr hspeaks) u
      refine Or.inl ⟨hfails, hsame.trans hnetwork, Or.inl ?_⟩
      intro c' hc'
      rw [hc'] at hclient
      cases hclient
      exact Bool.eq_false_iff.mpr hspeaks

/-! ### The commands -/

section Commands

variable {c : Client} {w : World}

/-- A command that is given a name and asks for its task alone. -/
theorem asksForNamed_given {command : Usage.Command} {task : Task} {name : String}
    {before : Run Client} {next : Client → Sandbox → Run Unit}
    (hname : ∀ active known, nameMeant command active known = .ok name)
    (hpursued : ∀ c s n, pursued command task c s n = [task.request c s.id])
    (hready : w.readyFor command = w) (hbefore : Silent before)
    (hclient : (before w).1 = (client w).1)
    (hnext : ∀ c s, c.speaks = true → AsksOnce (task.request c s.id) (next c s)) :
    AsksForNamed command task w ((before >>= fun c => findNamed c name >>= next c) w) := by
  have hsearches : AsksForNamed command task w
      ((before >>= fun c => searching c (fun known => Session.findNamed known name) (next c))
        (w.readyFor command)) := by
    refine asksForNamed_searching id hbefore ?_ ?_ ?_
    · rw [hready]
      exact hclient
    · exact fun known => map_findNamed (hname _ _)
    · intro c s u hspeaks
      rw [hpursued]
      exact hnext c s hspeaks u
  rw [hready] at hsearches
  simp only [findNamed_bind]
  exact hsearches

/-! ### Commands that enter a sandbox -/

/-- A command that means the active sandbox if it is given no name. -/
theorem asksForNamed_active {command : Usage.Command} {given : Option String}
    {next : String → Client → Sandbox → Run Unit}
    (hname : ∀ active known, nameMeant command active known =
      match Session.chosenName given active with
      | some name => .ok name
      | none => .error .noName)
    (hready : w.readyFor command = (activeName w).2)
    (hnext : ∀ name c s u, c.speaks = true → (next name c s u).2.network =
      u.network.after (pursued command reaching c s u.network)) :
    AsksForNamed command reaching w ((do
      let name ← meantName given (← activeName)
      let c ← client
      let s ← findNamed c name
      next name c s : Run Unit) w) := by
  obtain ⟨d, hactive⟩ := activeName_eq w
  rw [hactive] at hready
  rw [bind_of_ok hactive]
  unfold meantName
  cases hchosen : Session.chosenName given w.active? with
  | none =>
    refine Or.inl ⟨⟨.words .noName, rfl⟩, rfl, Or.inr ?_⟩
    intro known
    rw [hname, hchosen]
  | some name =>
    have hsearches : AsksForNamed command reaching w
        ((client >>= fun c => searching c (fun known => Session.findNamed known name)
          (next name c)) (w.readyFor command)) := by
      refine asksForNamed_searching id silent_client rfl ?_ ?_
      · intro known
        apply map_findNamed
        rw [hname, hchosen]
      · intro c s u hspeaks
        exact hnext name c s u hspeaks
    rw [hready] at hsearches
    rw [pure_bind]
    simp only [findNamed_bind]
    exact hsearches

def entering (name : String) (c : Client) (s : Sandbox) : Run Unit := do
  let s ←
    if s.status == .stopped then do
      printLine ("Starting sandbox " ++ Text.quoted name ++ "...")
      during "Failed to start sandbox" (asking (c.startSandbox s.id))
    else pure s
  attach c s (some Session.attachCommand)

theorem network_entering {given : Option String} (h : c.speaks = true) (name : String)
    (s : Sandbox) (u : World) : (entering name c s u).2.network =
      u.network.after (pursued (.connect given) reaching c s u.network) := by
  have hattach : ∀ (s : Sandbox) (v : World),
      (attach c s (some Session.attachCommand) v).2.network =
        v.network.after [reaching.request c s.id] := fun s v => asksOnce_attach h s _ v
  unfold entering pursued
  by_cases hstatus : s.status = .stopped
  · simp only [hstatus, beq_self_eq_true, if_true]
    obtain ⟨v, hprinted, hv⟩ : ∃ v,
        printLine ("Starting sandbox " ++ Text.quoted name ++ "...") u = (.ok (), v) ∧
          v.network = u.network := ⟨_, rfl, rfl⟩
    have hnetwork : (asking (c.startSandbox s.id) v).2.network =
        v.network.after [starting.request c s.id] := asksOnce_ask h _ _ _ _ _ v
    rw [bind_of_ok hprinted, ← hv]
    rcases hstart : asking (c.startSandbox s.id) v with ⟨failure | started, v'⟩
    · -- nothing follows a start that fails
      rw [hstart] at hnetwork
      rw [bind_eq_error.mpr (Or.inl (during_of_error hstart))]
      cases hcall : (c.startSandbox s.id v.network).1 with
      | error fault => exact hnetwork
      | ok started =>
        rw [asking_of_ok hcall] at hstart
        cases hstart
    · rw [hstart] at hnetwork
      rw [bind_of_ok (during_of_ok hstart), hattach, hnetwork,
        (asking_eq_ok.mp hstart).1]
      rfl
  · simp only [beq_iff_eq, hstatus, if_false]
    rw [pure_bind]
    exact hattach s u

theorem asksForNamed_exec (words : List String) (w : World) :
    AsksForNamed (.exec words) reaching w (exec words w) := by
  obtain ⟨d, hactive⟩ := activeName_eq w
  -- which word is a name is known only from the list, so what is looked up is an errand as well
  have hexec : exec words w = (client >>= fun c => searching c
      (fun known => do
        let errand ← Session.readErrand words (known.map (fun s => s.name)) w.active?
        let s ← Session.findNamed known errand.name
        return (s, errand.command))
      (fun found => do
        let info ← asking (c.connectInfo found.1.id)
        session info (some found.2))) (w.readyFor (.exec words)) := by
    have hready : w.readyFor (.exec words) = { w with disk := d } := congrArg Prod.snd hactive
    unfold exec searching
    rw [hready, bind_of_ok hactive]
    simp only [ofWords_bind, ofWords_pure, bind_assoc, pure_bind]
  rw [hexec]
  refine asksForNamed_searching Prod.fst silent_client rfl ?_ ?_
  · intro known
    have hmeant : nameMeant (.exec words) w.active? (known.map (fun s => s.name)) =
        (Session.readErrand words (known.map (fun s => s.name)) w.active?).map
          (fun errand => errand.name) := rfl
    unfold lookedUp
    rw [hmeant]
    cases Session.readErrand words (known.map (fun s => s.name)) w.active? with
    | error fault => rfl
    | ok errand =>
      show (Session.findNamed known errand.name >>= fun s => pure (s, errand.command)).map Prod.fst =
        Session.findNamed known errand.name
      cases Session.findNamed known errand.name <;> rfl
  · intro c found u hspeaks
    exact ((asksOnce_ask hspeaks _ _ _ _ _).bind (fun info => silent_session info _)) u

/-- **What a command about one sandbox asks.** -/
theorem asksForNamed {command : Usage.Command} {task : Task} (h : taskOf command = some task)
    (w : World) : AsksForNamed command task w (perform command w) := by
  cases command with
  | delete name =>
    cases h
    exact asksForNamed_given (fun _ _ => rfl) (fun _ _ _ => rfl) rfl silent_announcedClient
      (announcedClient_fst w)
      (fun _ _ h => (asksOnce_tell h _ _ _).bind (fun _ => silent_print _))
  | start name =>
    cases h
    exact asksForNamed_given (fun _ _ => rfl) (fun _ _ _ => rfl) rfl silent_announcedClient
      (announcedClient_fst w)
      (fun _ _ h => (asksOnce_ask h _ _ _ _ _).bind (fun _ => silent_print _))
  | stop name =>
    cases h
    exact asksForNamed_given (fun _ _ => rfl) (fun _ _ _ => rfl) rfl silent_announcedClient
      (announcedClient_fst w)
      (fun _ _ h => (asksOnce_ask h _ _ _ _ _).bind (fun _ => silent_print _))
  | set name lifetime =>
    cases h
    exact asksForNamed_given (fun _ _ => rfl) (fun _ _ _ => rfl) rfl silent_announcedClient
      (announcedClient_fst w)
      (fun _ _ h => (asksOnce_ask h _ _ _ _ _).bind (fun _ => (silent_print _).ite (silent_print _)))
  | connect given =>
    cases h
    exact asksForNamed_active (fun _ _ => rfl) rfl (fun name c s u h => network_entering h name s u)
  | ssh given =>
    cases h
    exact asksForNamed_active (fun _ _ => rfl) rfl (fun _ _ s u h => asksOnce_attach h s none u)
  | exec words =>
    cases h
    exact asksForNamed_exec words w
  | route command =>
    cases command with
    | add name domain port =>
      cases h
      exact asksForNamed_given (fun _ _ => rfl) (fun _ _ _ => rfl) rfl silent_client rfl
        (fun _ _ h => (asksOnce_ask h _ _ _ _ _).bind (fun _ =>
          (silent_print _).bind (fun _ => (silent_print _).bind (fun _ =>
            (silent_print _).bind (fun _ => (silent_print _).bind (fun _ =>
              (silent_print _).bind (fun _ => silent_print _)))))))
    | list name =>
      cases h
      exact asksForNamed_given (fun _ _ => rfl) (fun _ _ _ => rfl) rfl silent_client rfl
        (fun _ _ h => (asksOnce_ask h _ _ _ _ _).bind (fun _ =>
          (silent_print _).ite (silent_print _)))
    | delete name domain =>
      cases h
      exact asksForNamed_given (fun _ _ => rfl) (fun _ _ _ => rfl) rfl silent_client rfl
        (fun _ _ h => (asksOnce_tell h _ _ _).bind (fun _ => silent_print _))
  | snapshot command =>
    cases command with
    | create name kept =>
      cases h
      exact asksForNamed_given (fun _ _ => rfl) (fun _ _ _ => rfl) rfl silent_client rfl
        (fun _ _ h => (asksOnce_ask h _ _ _ _ _).bind (fun _ =>
          (silent_print _).bind (fun _ => silent_print _)))
    | restore name reference =>
      cases h
      exact asksForNamed_given (fun _ _ => rfl) (fun _ _ _ => rfl) rfl silent_client rfl
        (fun _ _ h => (asksOnce_ask h _ _ _ _ _).bind (fun _ => silent_print _))
    | list => cases h
    | destroy name => cases h
  | _ => cases h

end Commands

/-! ### Where the requests go

That requests below the path of one sandbox do not reach another is a fact about paths, and holds of
names only. -/

section Paths

variable {command : Usage.Command} {task : Task} {c : Client} {done : List (List Char)}

/-- The address of a client for the current server is one that paths can be put behind. -/
theorem hasSegments_of_client {w : World} (h : (client w).1 = .ok c) :
    ∃ done, c.base.path = .segments done := by
  have hclient : client w = (.ok c, (client w).2) := Prod.ext h rfl
  obtain ⟨store, v, -, hstore⟩ := bind_eq_ok.mp hclient
  obtain ⟨world, v, -, hworld⟩ := bind_eq_ok.mp hstore
  obtain ⟨connection, v, -, hduring⟩ := bind_eq_ok.mp hworld
  have hremote := during_eq_ok hduring
  cases hofConnection : Client.ofConnection connection with
  | error fault =>
    rw [hofConnection] at hremote
    cases hremote
  | ok c' =>
    rw [hofConnection] at hremote
    cases hremote
    exact Remote.hasSegments_of_build hofConnection

theorem names_taskOf (h : taskOf command = some task) : (∀ step ∈ task.steps, IsName step) ↔
    ∀ name domain, command = .route (.delete name domain) → IsName domain := by
  by_cases hdelete : ∃ name domain, command = .route (.delete name domain)
  · obtain ⟨name, domain, rfl⟩ := hdelete
    cases h
    have hroutes : IsName "routes" := by decide
    simp [hroutes]
  · have hnames : ∀ step ∈ task.steps, IsName step := by
      unfold taskOf at h
      split at h
      all_goals first
        | exact absurd ⟨_, _, rfl⟩ hdelete
        | (cases h; dsimp only [starting, reaching]; decide)
        | cases h
    refine iff_of_true hnames ?_
    intro name domain hcommand
    exact absurd ⟨name, domain, hcommand⟩ hdelete

theorem names_behind_sandbox (id : Nat) {step : String} (hstep : IsName step) :
    ∀ s ∈ ["sandboxes", toString id] ++ [step], IsName s := by
  have hsandboxes : IsName "sandboxes" := by decide
  simpa only [List.cons_append, List.nil_append, List.forall_mem_cons, hsandboxes, hstep, true_and]
    using ⟨Remote.isName_toString id, List.forall_mem_nil IsName⟩

theorem listing_ne_request (hbase : c.base.path = .segments done) (hspeaks : c.speaks = true)
    (h : taskOf command = some task) (id : Nat) : listing c ≠ task.request c id := by
  intro hsame
  by_cases hget : task.method = .get
  · obtain ⟨name, rfl⟩ : ∃ name, command = .route (.list name) := by
      unfold taskOf at h
      split at h
      all_goals first
        | exact ⟨_, rfl⟩
        | (cases h; cases hget)
        | cases h
    cases h
    have hlist : ∀ n ∈ [] ++ ["sandboxes"], IsName n := by decide
    have hlast : "sandboxes" = "routes" :=
      Remote.eq_of_endpoint hbase (Bool.and_eq_true_iff.mp hspeaks).1 hlist
        (names_behind_sandbox id (by decide)) (congrArg Request.url hsame)
    exact absurd hlast (by decide)
  · exact hget (congrArg Request.method hsame).symm

theorem starting_ne_reaching (hbase : c.base.path = .segments done) (hspeaks : c.speaks = true)
    (id id' : Nat) : starting.request c id ≠ reaching.request c id' := by
  intro hsame
  have hlast : "start" = "connect" :=
    Remote.eq_of_endpoint hbase (Bool.and_eq_true_iff.mp hspeaks).1
      (names_behind_sandbox id (by decide)) (names_behind_sandbox id' (by decide))
      (congrArg Request.url hsame)
  exact absurd hlast (by decide)

/-- Nothing is asked twice: the list is got and no task but one about routes gets anything, and a
sandbox is started and reached by different names. -/
theorem nodup_pursued (hbase : c.base.path = .segments done) (hspeaks : c.speaks = true)
    (h : taskOf command = some task) (s : Sandbox) (n : Network) :
    (listing c :: pursued command task c s n).Nodup := by
  have hone : ∀ id, (listing c :: [task.request c id]).Nodup := by
    intro id
    simpa using listing_ne_request hbase hspeaks h id
  unfold pursued
  split
  · obtain rfl : reaching = task := Option.some.inj h
    have hstarting : taskOf (.start "") = some starting := rfl
    have hstart : listing c ≠ starting.request c s.id :=
      listing_ne_request hbase hspeaks hstarting s.id
    split
    · cases (c.startSandbox s.id n).1 with
      | error fault => simpa using hstart
      | ok started =>
        have hreach : listing c ≠ reaching.request c started.id :=
          listing_ne_request hbase hspeaks h started.id
        have hdifferent := starting_ne_reaching hbase hspeaks s.id started.id
        simp [hstart, hreach, hdifferent]
    · exact hone s.id
  · exact hone s.id

end Paths

/-- **A command about one sandbox acts on the sandbox that is named.** Without a client, or a name,
it fails and asks nothing. Otherwise it asks for the list of the sandboxes, and if none in the list
is meant, this is all and it fails. If one is, what is pursued for it follows, and that is all:
every request is handed over once. All is below the path of the sandbox, and is what was meant
unless it is a route that is removed and its domain is no name. -/
theorem asks_for_named_only {command : Usage.Command} {task : Task}
    (h : taskOf command = some task) (w : World) :
    ((∃ failure, (perform command w).1 = .error failure) ∧
      (perform command w).2.network = w.network ∧
      ((∀ c, (client (w.readyFor command)).1 = .ok c → c.speaks = false) ∨
        ∀ known, nameMeant command w.active? known = .error .noName)) ∨
    ∃ c followed, (client (w.readyFor command)).1 = .ok c ∧ c.speaks = true ∧
      (perform command w).2.network = w.network.after (listing c :: followed) ∧
      (∃ reached : List Request, reached.Sublist (listing c :: followed) ∧
        (perform command w).2.network.sent = w.network.sent ++ reached) ∧
      (((∃ failure, (perform command w).1 = .error failure) ∧ followed = [] ∧
          ∀ s, ¬ Meant command w c s) ∨
        ∃ s, Meant command w c s ∧
          followed = pursued command task c s (w.network.after [listing c])) ∧
      (listing c :: followed).Nodup ∧
      ∀ id, c.Under (sandboxPath id) task.steps ∧
        (c.Reaches (sandboxPath id) task.steps ↔
          ∀ name domain, command = .route (.delete name domain) → IsName domain) ∧
        c.Reaches (sandboxPath id) starting.steps := by
  rcases asksForNamed h w with hsilent | ⟨c, followed, hclient, hspeaks, hnetwork, hfollowed⟩
  · exact Or.inl hsilent
  · obtain ⟨done, hbase⟩ := hasSegments_of_client hclient
    have hasked : Remote.isAsked c.base = true := (Bool.and_eq_true_iff.mp hspeaks).1
    refine Or.inr ⟨c, followed, hclient, hspeaks, hnetwork, ?_, hfollowed, ?_, ?_⟩
    · rw [hnetwork]
      exact Remote.sent_after _ _
    · rcases hfollowed with ⟨-, rfl, -⟩ | ⟨s, -, rfl⟩
      · simp
      · exact nodup_pursued hbase hspeaks h s _
    · intro id
      have hreaches : c.Reaches (sandboxPath id) task.steps ↔
          ∀ name domain, command = .route (.delete name domain) → IsName domain :=
        (Remote.reaches_iff hbase hasked).trans (names_taskOf h)
      refine ⟨?_, hreaches, (Remote.reaches_iff hbase hasked).mpr (by decide)⟩
      by_cases hdelete : ∃ name domain, command = .route (.delete name domain)
      · obtain ⟨name, domain, rfl⟩ := hdelete
        cases h
        exact Remote.under_sandbox hbase hasked (by decide) domain
      · refine (hreaches.mpr ?_).under
        intro name domain hcommand
        exact absurd ⟨name, domain, hcommand⟩ hdelete

/-! ### Two sandboxes of one name -/

/-- A world in which a server has two sandboxes of one name, of which the first is stopped. -/
def twinWorld : World :=
  { failingWorld with
    network := {
      answer := fun sent r => match r.method with
        | .get => .response ⟨200, none, Text.octets
            ("[\x7b\"id\":7,\"name\":\"box\",\"status\":\"stopped\"\x7d," ++
              "\x7b\"id\":8,\"name\":\"box\"\x7d]")⟩
        | .post => .response ⟨200, none, Text.octets
            (if sent.length = 1 then "\x7b\"id\":7,\"name\":\"box\"\x7d"
            else "\x7b\"host\":\"h\",\"port\":22,\"user\":\"u\"\x7d")⟩
        | _ => .response ⟨204, none, []⟩
      sent := [] } }

theorem first_twin_is_started :
    taskOf (.connect (some "box")) = some reaching ∧
      (perform (.connect (some "box")) twinWorld).2.network.sent.map
        (fun r => (r.method, r.url)) =
        [(.get, "http://[::1]:8080/api/sandboxes"),
          (.post, "http://[::1]:8080/api/sandboxes/7/start"),
          (.post, "http://[::1]:8080/api/sandboxes/7/connect")] ∧
      ∃ c s, Meant (.connect (some "box")) twinWorld c s ∧
        (perform (.connect (some "box")) twinWorld).2.network =
          twinWorld.network.after (listing c ::
            pursued (.connect (some "box")) reaching c s (twinWorld.network.after [listing c])) := by
  have hsent : (perform (.connect (some "box")) twinWorld).2.network.sent.map
      (fun r => (r.method, r.url)) =
        [(.get, "http://[::1]:8080/api/sandboxes"),
          (.post, "http://[::1]:8080/api/sandboxes/7/start"),
          (.post, "http://[::1]:8080/api/sandboxes/7/connect")] := by
    decide +kernel
  have hlength := congrArg List.length hsent
  rw [List.length_map] at hlength
  have htask : taskOf (.connect (some "box")) = some reaching := rfl
  refine ⟨htask, hsent, ?_⟩
  rcases asks_for_named_only htask twinWorld with
    ⟨-, hsame, -⟩ | ⟨c, followed, -, -, hnetwork, ⟨reached, hreached, hall⟩, hfollowed, -⟩
  · rw [hsame] at hlength
    cases hlength
  · rcases hfollowed with ⟨-, rfl, -⟩ | ⟨s, hs, rfl⟩
    · have hone : reached.length ≤ 1 := hreached.length_le
      rw [hall] at hlength
      have hthree : reached.length = 3 := hlength
      omega
    · exact ⟨c, s, hs, hnetwork⟩

/-- Who asks for the route with two dots around a tab to be removed asks for the sandbox itself to
be removed. -/
theorem tabs_remove_whole_sandbox :
    taskOf (.route (.delete "box" ".\t.")) = some ⟨.delete, ["routes", ".\t."], none⟩ ∧
      (perform (.route (.delete "box" ".\t.")) twinWorld).2.network.sent.map
        (fun r => (r.method, r.url)) =
        [(.get, "http://[::1]:8080/api/sandboxes"),
          (.delete, "http://[::1]:8080/api/sandboxes/7/")] := by
  refine ⟨rfl, ?_⟩
  decide +kernel

end SandboxClient.Program
