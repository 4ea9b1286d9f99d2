/-
  SandboxClient/Proofs/Program/Sessions.lean
  ==========================================
  **What ssh is run with.** Only commands that lead into a sandbox run ssh, and its
  arguments are those for what a server has told and for what the command orders.
-/
import SandboxClient.Program.Perform
import SandboxClient.Proofs.Program.Temporary
import SandboxClient.Proofs.Session.Arguments

namespace SandboxClient.Program

open SandboxClient.Files (bind_of_ok get_eq_ok)
open SandboxClient.Remote (Client ConnectInfo Sandbox)
open SandboxClient.Session (Dashed Errand GivenPlain commandArguments commandWords destination
  errandSandbox ownOptions readErrand separator sshArguments)

variable {α β : Type} {P : List String → Prop}

/-! ### Runs of ssh -/

/-- From one world to the other ssh has been run only with arguments of which `P` holds. -/
def RanSsh (P : List String → Prop) (w w' : World) : Prop :=
  ∃ runs, w'.sshRuns = w.sshRuns ++ runs ∧ ∀ arguments ∈ runs, P arguments

instance ranSsh_isPreorder : IsPreorder World (RanSsh P) where
  refl w := ⟨[], by simp⟩
  trans _ _ _ := by
    rintro ⟨runs, hruns, hP⟩ ⟨runs', hruns', hP'⟩
    refine ⟨runs ++ runs', by rw [hruns', hruns, List.append_assoc], ?_⟩
    intro arguments harguments
    exact (List.mem_append.mp harguments).elim (hP arguments) (hP' arguments)

/-- A run makes ssh run only with arguments of which `P` holds. -/
def Sessions (P : List String → Prop) (x : Run α) : Prop := Relates (RanSsh P) x

theorem sessions_of_same {x : Run α} (h : ∀ w, (x w).2.sshRuns = w.sshRuns) : Sessions P x :=
  fun w => ⟨[], by simp [h w]⟩

/-! The steps that all commands are made of, as rules by which their texts are gone through. -/

@[grind ←]
theorem Sessions.bind {x : Run α} {f : α → Run β} (hx : Sessions P x)
    (hf : ∀ a, Sessions P (f a)) : Sessions P (x >>= f) :=
  Relates.bind hx hf

@[grind ←]
theorem sessions_pure (a : α) : Sessions P (pure a : Run α) := relates_pure a

@[grind ←]
theorem sessions_throw (failure : Failure) : Sessions P (throw failure : Run α) :=
  relates_throw failure

@[grind ←]
theorem sessions_get : Sessions P (get : Run World) := relates_get

@[grind ←]
theorem sessions_print (s : String) : Sessions P (print s) := sessions_of_same fun _ => rfl

@[grind ←]
theorem sessions_printLine (s : String) : Sessions P (printLine s) := sessions_print _

@[grind ←]
theorem sessions_printTable (headers : List String) (rows : List (List Terminal.Cell)) :
    Sessions P (printTable headers rows) := sessions_print _

@[grind ←]
theorem sessions_success (message : String) : Sessions P (success message) := sessions_print _

@[grind ←]
theorem sessions_field (label value : String) : Sessions P (field label value) := sessions_print _

@[grind ←]
theorem sessions_hint (message : String) : Sessions P (hint message) := sessions_print _

@[grind ←]
theorem sessions_warn (s : String) : Sessions P (warn s) := sessions_of_same fun _ => rfl

@[grind ←]
theorem sessions_storing (call : Server.StoreCall α) : Sessions P (storing call) :=
  sessions_of_same fun _ => rfl

@[grind ←]
theorem sessions_outcome (call : Remote.Call α) : Sessions P (outcome call) :=
  sessions_of_same fun _ => rfl

@[grind ←]
theorem sessions_asking (call : Remote.Call α) : Sessions P (asking call) :=
  Relates.asking (sessions_outcome call)

@[grind ←]
theorem sessions_ofStore (result : Except Server.Fault α) : Sessions P (ofStore result) :=
  relates_ofStore result

@[grind ←]
theorem sessions_ofWords (result : Except Session.WordFault α) : Sessions P (ofWords result) :=
  relates_ofWords result

@[grind ←]
theorem sessions_activeName : Sessions P activeName := by
  refine sessions_of_same (fun w => ?_)
  unfold activeName
  split <;> rfl

@[grind ←]
theorem sessions_storePath : Sessions P storePath := relates_storePath

@[grind ←]
theorem sessions_loadStore : Sessions P loadStore := by
  unfold loadStore
  grind

@[grind ←]
theorem sessions_saveStore (c : Server.Config) : Sessions P (saveStore c) := by
  unfold saveStore
  grind

@[grind ←]
theorem sessions_client : Sessions P client := relates_client (fun _ => sessions_storing _)

@[grind ←]
theorem sessions_announcedClient : Sessions P announcedClient := by
  unfold announcedClient printServer
  grind

@[grind ←]
theorem sessions_findNamed (c : Client) (name : String) : Sessions P (findNamed c name) := by
  unfold findNamed
  grind

/-! ### Commands that begin no session

They never run ssh, whatever the arguments. -/

theorem sessions_notice (n : Login.Notice) : Sessions P (notice n) := sessions_of_same fun _ => rfl

theorem loginHost_sessions (c : Client) (clientName : String) :
    HostRelates (RanSsh P) (loginHost c clientName) where
  sleep _ := sessions_of_same fun _ => rfl
  requestCode := sessions_outcome _
  askVerdict _ := sessions_outcome _
  showCode _ := (sessions_notice _).bind (fun _ => sessions_print _)
  openBrowser _ := (sessions_notice _).bind (fun _ =>
    sessions_get.bind (fun _ => sessions_print _))
  waiting := sessions_notice _
  done := sessions_notice _

theorem sessions_logIn (c : Client) (clientName path url : String) (name : Option String)
    (inBrowser : Bool) : Sessions P (logIn (loginHost c clientName) path url name inBrowser) := by
  have hauthorize : Sessions P (Login.authorize (loginHost c clientName) inBrowser) :=
    (loginHost_sessions c clientName).authorize inBrowser
  unfold logIn
  grind

theorem sessions_login (url : String) (name : Option String) (noBrowser : Bool) :
    Sessions P (login url name noBrowser) := by
  refine (sessions_ofStore _).bind (fun address => sessions_storePath.bind (fun path => ?_))
  refine (sessions_storing _).bind (fun c => (relates_ofRemote _).bind (fun client => ?_))
  refine (sessions_printLine _).bind (fun _ => sessions_get.bind (fun w => ?_))
  refine (sessions_logIn _ _ _ _ _ _).bind (fun entry => ?_)
  grind

theorem sessions_server (command : Usage.ServerCommand) : Sessions P (server command) := by
  cases command <;> grind [server, addServer, listServers, useServer, removeServer]

theorem sessions_showConfig : Sessions P showConfig := by
  unfold showConfig
  grind

theorem sessions_makeActive (name : String) : Sessions P (makeActive name) := by
  refine sessions_of_same (fun w => ?_)
  unfold makeActive
  rw [bind_of_ok (get_eq_ok.mpr ⟨rfl, rfl⟩)]
  rcases (Session.writeMarker w.markerPath name).run w.disk with ⟨_ | _, d⟩ <;> rfl

theorem sessions_use (name : Option String) : Sessions P (use name) := by
  have hactive : ∀ name, Sessions P (makeActive name) := sessions_makeActive
  unfold use showActive
  grind

theorem sessions_addRoute (c : Client) (sandbox domain : String) (port : Nat) :
    Sessions P (addRoute c sandbox domain port) := by
  refine (sessions_findNamed _ _).bind (fun s => (sessions_asking _).bind (fun r => ?_))
  grind

theorem sessions_route (command : Usage.RouteCommand) : Sessions P (route command) := by
  cases command with
  | add sandbox domain port =>
    exact sessions_client.bind (fun c => sessions_addRoute c sandbox domain port)
  | list sandbox => grind [route, listRoutes]
  | delete sandbox domain => grind [route, deleteRoute]

theorem sessions_snapshot (command : Usage.SnapshotCommand) : Sessions P (snapshot command) := by
  cases command <;>
    grind [snapshot, createSnapshot, listSnapshots, destroySnapshot, restoreSnapshot]

theorem sessions_token (command : Usage.TokenCommand) : Sessions P (token command) := by
  cases command <;> grind [token, listTokens, revokeToken]

theorem sessions_askForKey : Sessions P askForKey := by
  have hread : Sessions P readLine := sessions_of_same fun _ => rfl
  refine (sessions_printLine _).bind (fun _ => (sessions_printLine _).bind (fun _ => ?_))
  grind

theorem sessions_enableTailscale (c : Client) (given : Option String) :
    Sessions P (enableTailscale c given) := by
  have hask : Sessions P askForKey := sessions_askForKey
  unfold enableTailscale
  grind

theorem sessions_tailscale (command : Usage.TailscaleCommand) :
    Sessions P (tailscale command) := by
  cases command with
  | enable given => exact sessions_client.bind (fun c => sessions_enableTailscale c given)
  | disable => grind [tailscale]
  | status => grind [tailscale, showTailscale]

theorem sessions_listSandboxes : Sessions P listSandboxes := by
  unfold listSandboxes
  grind

/-! ### Commands that begin a session -/

/-- A server has told how a sandbox is reached. -/
def Told (info : ConnectInfo) : Prop :=
  ∃ (c : Client) (id : Nat) (n : Remote.Network), (c.connectInfo id n).1 = .ok info

/-- What a command orders to be run in a sandbox; nothing stands for a shell. -/
inductive Orders : Usage.Command → Option String → Prop
  | create (creation : Usage.Creation) : Orders (.create creation) (some Session.attachCommand)
  | connect (name : Option String) : Orders (.connect name) (some Session.attachCommand)
  | ssh (name : Option String) : Orders (.ssh name) none
  | exec {words known : List String} {active : Option String} {errand : Errand}
      (h : readErrand words known active = .ok errand) :
      Orders (.exec words) (some errand.command)

/-- The arguments of a session that a command orders where a server has told. -/
def Ordered (command : Usage.Command) (arguments : List String) : Prop :=
  ∃ info remote, Told info ∧ Orders command remote ∧ arguments = sshArguments info remote

theorem ofWords_eq_ok {x : Except Session.WordFault α} {a : α} {w v : World}
    (h : ofWords x w = (.ok a, v)) : x = .ok a := by
  cases x with
  | error fault => cases h
  | ok b =>
    cases h
    rfl

/-- Of what follows a step only what the step can give has to be considered. -/
theorem Sessions.bind_of_ok {x : Run α} {f : α → Run β} (hx : Sessions P x)
    (hf : ∀ a w v, x w = (.ok a, v) → Sessions P (f a)) : Sessions P (x >>= f) :=
  fun w => related_bind (hx w) (fun a v hrun => hf a w v hrun v)

theorem sessions_session {info : ConnectInfo} {remote : Option String}
    (h : P (sshArguments info remote)) : Sessions P (session info remote) := by
  have hssh : Sessions P (runSsh (sshArguments info remote)) := by
    intro w
    show RanSsh P w (runSsh (sshArguments info remote) w).2
    unfold runSsh
    split
    · exact ⟨[], by simp⟩
    · exact ⟨[], by simp⟩
    · exact ⟨[sshArguments info remote], rfl, by simpa using h⟩
  unfold session
  grind

section Sessions

variable {command : Usage.Command} {remote : Option String}

theorem sessions_reach {c : Client} {id : Nat} {next : ConnectInfo → Run Unit}
    (hnext : ∀ info, Told info → Sessions (Ordered command) (next info)) :
    Sessions (Ordered command) (asking (c.connectInfo id) >>= next) := by
  refine (sessions_asking _).bind_of_ok (fun info w v hrun => hnext info ?_)
  exact ⟨c, id, w.network, by rw [(asking_eq_ok.mp hrun).1]⟩

theorem sessions_attach (h : Orders command remote) (c : Client) (s : Sandbox) :
    Sessions (Ordered command) (attach c s remote) := by
  refine sessions_reach (fun info htold => ?_)
  have hwait : Sessions (Ordered command) (awaitPort info) := relates_awaitPort info
  exact hwait.bind (fun _ => sessions_session ⟨info, remote, htold, h, rfl⟩)

theorem sessions_create (creation : Usage.Creation) :
    Sessions (Ordered (.create creation)) (create creation) := by
  have hdescribe : ∀ s, Sessions (Ordered (.create creation)) (describe creation s) := by
    intro s
    refine (sessions_success _).bind (fun _ => ?_)
    grind
  have hremove : ∀ c s, Sessions (Ordered (.create creation)) (removeTemporary c s) := by
    intro c s
    unfold removeTemporary
    grind
  refine sessions_announcedClient.bind (fun c => (sessions_asking _).bind (fun s => ?_))
  refine (hdescribe s).bind (fun _ => ?_)
  split
  · have hattach : Sessions (Ordered (.create creation))
        (attempt (attach c s (some Session.attachCommand))) :=
      Relates.attempt (sessions_attach (.create creation) c s)
    have hconclude : ∀ result : Except Failure Unit,
        Sessions (Ordered (.create creation)) (conclude result) :=
      fun result => relates_conclude result
    grind
  · exact sessions_pure _

theorem sessions_meantName (given active : Option String) :
    Sessions P (meantName given active) := by
  unfold meantName
  grind

theorem sessions_connect (name : Option String) :
    Sessions (Ordered (.connect name)) (connect name) := by
  refine sessions_activeName.bind (fun active => (sessions_meantName _ _).bind (fun meant => ?_))
  refine sessions_client.bind (fun c => (sessions_findNamed _ _).bind (fun s => ?_))
  have hattach : ∀ s, Sessions (Ordered (.connect name))
      (attach c s (some Session.attachCommand)) :=
    sessions_attach (.connect name) c
  have hstart : Sessions (Ordered (.connect name))
      (during "Failed to start sandbox" (asking (c.startSandbox s.id))) :=
    Relates.during (sessions_asking _) _
  grind

theorem sessions_ssh (name : Option String) : Sessions (Ordered (.ssh name)) (ssh name) := by
  refine sessions_activeName.bind (fun active => (sessions_meantName _ _).bind (fun meant => ?_))
  refine sessions_client.bind (fun c => (sessions_findNamed _ _).bind (fun s => ?_))
  exact sessions_attach (.ssh name) c s

theorem sessions_exec (words : List String) : Sessions (Ordered (.exec words)) (exec words) := by
  refine sessions_activeName.bind (fun active => sessions_client.bind (fun c => ?_))
  refine (sessions_asking _).bind (fun sandboxes => ?_)
  refine (sessions_ofWords _).bind_of_ok (fun errand w v hrun => ?_)
  refine (sessions_ofWords _).bind (fun s => sessions_reach (fun info htold => ?_))
  exact sessions_session ⟨info, _, htold, .exec (ofWords_eq_ok hrun), rfl⟩

/-- Whatever command is carried out, ssh is run with what that command orders only. -/
theorem perform_sessions (command : Usage.Command) :
    Sessions (Ordered command) (perform command) := by
  cases command with
  | login url name noBrowser => exact sessions_login url name noBrowser
  | server command => exact sessions_server command
  | showConfig => exact sessions_showConfig
  | list => exact sessions_listSandboxes
  | create creation => exact sessions_create creation
  | delete name => grind [perform, delete]
  | start name => grind [perform, start]
  | stop name => grind [perform, stop]
  | set name lifetime => grind [perform, setLifetime]
  | connect name => exact sessions_connect name
  | ssh name => exact sessions_ssh name
  | exec words => exact sessions_exec words
  | use name => exact sessions_use name
  | route command => exact sessions_route command
  | snapshot command => exact sessions_snapshot command
  | token command => exact sessions_token command
  | tailscale command => exact sessions_tailscale command
  | status => grind [perform, status]
  | info => grind [perform, info]

/-- A command that is ordered begins with a dash only if it is put together from words of the
user, of which the first does. -/
theorem Orders.dashed_iff {text : String} (h : Orders command (some text)) :
    Dashed text ↔ ∃ words known active first, command = .exec words ∧
      text = " ".intercalate (commandWords words known active) ∧
      (commandWords words known active).head? = some first ∧ Dashed first := by
  have hattach : ¬ Dashed Session.attachCommand := by decide
  cases h with
  | create creation => simp [hattach]
  | connect name => simp [hattach]
  | @exec words known active errand herrand =>
    constructor
    · intro hdashed
      obtain ⟨first, hfirst, hdash⟩ := (Session.dashed_command_iff herrand).mp hdashed
      exact ⟨words, known, active, first, rfl, (Session.command_of_readErrand herrand).2, hfirst,
        hdash⟩
    · rintro ⟨words', known', active', first, -, htext, hfirst, hdash⟩
      rw [htext, Session.dashed_intercalate_iff]
      exact ⟨first, hfirst, hdash⟩

end Sessions

/-! ### What ssh is given

The arguments are a list, so what a shell would make of them does not matter; what ssh itself takes
for an option does. -/

/-- A world in which a server lists a sandbox and tells that it is reached as a user. -/
def boxWorld (user : String) : World :=
  { failingWorld with
    network := {
      answer := fun _ r => match r.method with
        | .get => .response ⟨200, none, Text.octets "[\x7b\"id\":7,\"name\":\"box\"\x7d]"⟩
        | _ => .response ⟨200, none, Text.octets
            ("\x7b\"host\":\"h\",\"port\":22,\"user\":\"" ++ user ++ "\"\x7d")⟩
      sent := [] }
    sshEnds := fun _ _ => .exited 0 }

/-- **What ssh is given, and by whom.** A run of ssh is given the options of the program, the
destination and the command, in this order. Neither of the latter begins with a dash exactly if
neither the name of the user that a server has told does nor the command. No command that the
program itself orders does; one that is put together from words does if the first of them does. -/
theorem ssh_given_plain_iff (command : Usage.Command) (w : World) :
    (∀ info remote,
      sshArguments info remote =
        ownOptions info.port ++ destination info :: commandArguments remote ∧
      (GivenPlain info remote ↔ ¬ Dashed info.user ∧ ∀ text, remote = some text → ¬ Dashed text)) ∧
    (∀ text, Orders command (some text) →
      (Dashed text ↔ ∃ words known active first, command = .exec words ∧
        text = " ".intercalate (commandWords words known active) ∧
        (commandWords words known active).head? = some first ∧ Dashed first)) ∧
    ∃ runs, (perform command w).2.sshRuns = w.sshRuns ++ runs ∧
      ∀ arguments ∈ runs, ∃ info remote,
        Told info ∧ Orders command remote ∧ arguments = sshArguments info remote := by
  refine ⟨fun info remote => ⟨Session.sshArguments_eq info remote, ?_⟩,
    fun text horders => horders.dashed_iff, perform_sessions command w⟩
  unfold GivenPlain
  rw [Session.dashed_destination_iff]

/-- A command of two words is run where the server tells an ordinary name. -/
theorem listing_run_plainly :
    (perform (.exec ["box", "--", "ls", "-la"]) (boxWorld "u")).2.sshRuns =
        [sshArguments ⟨"h", 22, "u"⟩ (some "ls -la")] ∧
      GivenPlain ⟨"h", 22, "u"⟩ (some "ls -la") := by
  refine ⟨by decide +kernel, ?_⟩
  have hplain := ((ssh_given_plain_iff (.exec ["box", "--", "ls", "-la"]) (boxWorld "u")).1
    ⟨"h", 22, "u"⟩ (some "ls -la")).2
  refine hplain.mpr ⟨by decide, ?_⟩
  rintro text ⟨⟩
  decide

/-- Both what a server has told and what the user has said can begin with a dash. -/
theorem dashes_given_to_ssh :
    (perform (.exec ["box", "--", "-V"]) (boxWorld "-oProxyCommand=id")).2.sshRuns =
        [["-p", "22", "-o", "StrictHostKeyChecking=no", "-o", "UserKnownHostsFile=/dev/null", "-o",
          "LogLevel=ERROR", "-oProxyCommand=id@h", "-t", "-V"]] ∧
      Dashed "-oProxyCommand=id@h" ∧ Dashed "-V" := by
  decide +kernel

/-- **When a command is run.** The arguments of ssh for words that are understood end with the
command they tell, unless all that is left for it behind the marks is a single empty word; then ssh
begins a shell. Words are carried out with such arguments only. -/
theorem exec_ends_with_command_iff (words : List String) :
    (∀ known active errand, readErrand words known active = .ok errand → ∀ info,
      (["-t", errand.command] <:+ sshArguments info (some errand.command) ↔
        commandWords words known active ≠ [""]) ∧
      (commandWords words known active = [""] →
        sshArguments info (some errand.command) = sshArguments info none)) ∧
    (∀ known active, commandWords words known active = [""] ↔ ∃ name n,
      errandSandbox words known active = .ok (name, List.replicate n separator ++ [""])) ∧
    ∀ w, ∃ runs, (exec words w).2.sshRuns = w.sshRuns ++ runs ∧
      ∀ arguments ∈ runs, ∃ known active errand info,
        readErrand words known active = .ok errand ∧
          arguments = sshArguments info (some errand.command) := by
  refine ⟨?_, fun known active => Session.commandWords_eq_iff, ?_⟩
  · intro known active errand herrand info
    have hempty := Session.command_eq_empty_iff herrand
    refine ⟨(Session.command_suffix_iff info errand.command).trans (not_congr hempty), ?_⟩
    intro hwords
    rw [hempty.mpr hwords, Session.sshArguments_empty]
  · intro w
    obtain ⟨runs, hruns, hordered⟩ := sessions_exec words w
    refine ⟨runs, hruns, ?_⟩
    intro arguments harguments
    obtain ⟨info, remote, -, horders, rfl⟩ := hordered arguments harguments
    cases horders with
    | @exec _ known active errand herrand => exact ⟨known, active, errand, info, herrand, rfl⟩

theorem exec_ends_with_listing :
    readErrand ["box", "--", "ls", "-la"] ["box"] none = .ok ⟨"box", "ls -la"⟩ ∧
      ["-t", "ls -la"] <:+ sshArguments ⟨"h", 22, "u"⟩ (some "ls -la") := by
  have herrand : readErrand ["box", "--", "ls", "-la"] ["box"] none = .ok ⟨"box", "ls -la"⟩ := by
    decide
  exact ⟨herrand, (((exec_ends_with_command_iff _).1 _ _ _ herrand _).1).mpr (by decide)⟩

/-- An empty word is a command that is understood, and a shell is begun for it. -/
theorem empty_word_begins_shell :
    readErrand ["box", ""] ["box"] none = .ok ⟨"box", ""⟩ ∧
      (perform (.exec ["box", ""]) (boxWorld "u")).2.sshRuns =
        [sshArguments ⟨"h", 22, "u"⟩ none] ∧
      ¬ ["-t", ""] <:+ sshArguments ⟨"h", 22, "u"⟩ (some "") := by
  decide +kernel

end SandboxClient.Program
