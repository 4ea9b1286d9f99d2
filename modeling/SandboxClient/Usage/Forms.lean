/-
  SandboxClient/Usage/Forms.lean
  ==============================
  **The commands of the program.** Their names, their options and the words that
  they take.
-/
import SandboxClient.Remote.Sandbox
import SandboxClient.Usage.Reader

namespace SandboxClient.Usage

/-! ### Parts of forms

The shapes that most commands have. -/

def needed (name : String) : WordForm := ⟨name, .text, true, false⟩

def optional (name : String) : WordForm := ⟨name, .text, false, false⟩

def flagOption (long : String) : OptionForm := ⟨long, none, .flag, none⟩

def valueOption (long : String) : OptionForm := ⟨long, none, .value, none⟩

def bare (c : Command) : Form := .single [] [] (fun _ => c)

def ofWord (name : String) (build : String → Command) : Form :=
  .single [] [needed name] (fun f => build (f.value name))

def ofOptional (name : String) (build : Option String → Command) : Form :=
  .single [] [optional name] (fun f => build (f.value? name))

/-! ### Servers

Logging in, and the actions of `server` and `config`. -/

def loginForm : Form :=
  .single [flagOption "no-browser"] [needed "url", optional "alias"]
    (fun f => .login (f.value "url") (f.value? "alias") (f.flag "no-browser"))

def serverAddForm : Form :=
  .single [⟨"alias", some 'a', .value, none⟩, flagOption "insecure"] [needed "url"]
    (fun f => .server (.add (f.value "url") (f.value? "alias") (f.flag "insecure")))

def serverForm : Form :=
  .group [(["add"], serverAddForm),
    (["list", "ls"], bare (.server .list)),
    (["use"], ofWord "server" (fun key => .server (.use key))),
    (["remove", "rm"], ofWord "server" (fun key => .server (.remove key)))]

def configForm : Form := .group [(["show"], bare .showConfig)]

/-! ### Sandboxes

The command behind `exec` is one list with the name in front of it; where the name ends is decided
when the sandboxes are known. -/

def createOptions : List OptionForm :=
  [valueOption "image", flagOption "persistent", valueOption "snapshot", flagOption "tailscale",
   ⟨"home", none, .flag, some "SANDCASTLE_HOME"⟩,
   ⟨"data", none, .optionalValue ".", some "SANDCASTLE_DATA"⟩,
   ⟨"rm", none, .flag, some "SANDCASTLE_RM"⟩,
   ⟨"no-connect", some 'n', .flag, none⟩]

def creationOf (f : Found) : Creation :=
  { name := f.value "name"
    image := f.value? "image"
    persistent := f.flag "persistent"
    snapshot := f.value? "snapshot"
    tailscale := f.flag "tailscale"
    home := f.flag "home"
    data := f.value? "data"
    remove := f.flag "rm"
    noConnect := f.flag "no-connect" }

def createForm : Form := .single createOptions [needed "name"] (fun f => .create (creationOf f))

def lifetimeOf (word : String) : Lifetime :=
  if word == Lifetime.temporary.word then .temporary else .kept

def setForm : Form :=
  .single [] [needed "name", ⟨"mode", .choice (Lifetime.all.map Lifetime.word), true, false⟩]
    (fun f => .set (f.value "name") (lifetimeOf (f.value "mode")))

def execForm : Form :=
  .single [] [⟨"args", .text, true, true⟩] (fun f => .exec (f.values "args"))

/-! ### Resources

The actions on what else a server has. -/

def usualPort : Nat := 8080

def routeAddForm : Form :=
  .single [] [needed "sandbox", needed "domain", ⟨"port", .number Remote.portLimit, false, false⟩]
    (fun f => .route (.add (f.value "sandbox") (f.value "domain") (f.number "port" usualPort)))

def routeDeleteForm : Form :=
  .single [] [needed "sandbox", needed "domain"]
    (fun f => .route (.delete (f.value "sandbox") (f.value "domain")))

def routeForm : Form :=
  .group [(["add"], routeAddForm),
    (["list"], ofWord "sandbox" (fun s => .route (.list s))),
    (["delete"], routeDeleteForm)]

def snapshotForm : Form :=
  .group [(["create"], .single [] [needed "sandbox", optional "name"]
      (fun f => .snapshot (.create (f.value "sandbox") (f.value? "name")))),
    (["list", "ls"], bare (.snapshot .list)),
    (["destroy"], ofWord "name" (fun n => .snapshot (.destroy n))),
    (["restore"], .single [] [needed "sandbox", needed "snapshot"]
      (fun f => .snapshot (.restore (f.value "sandbox") (f.value "snapshot"))))]

def tokenForm : Form :=
  .group [(["list"], bare (.token .list)),
    (["revoke"], .single [] [⟨"id", .number Remote.idLimit, true, false⟩]
      (fun f => .token (.revoke (f.number "id" 0))))]

def tailscaleForm : Form :=
  .group [(["enable"], .single [valueOption "auth-key"] []
      (fun f => .tailscale (.enable (f.value? "auth-key")))),
    (["disable"], bare (.tailscale .disable)),
    (["status"], bare (.tailscale .status))]

/-! ### The program

All commands with their other names. -/

def commands : List (List String × Form) :=
  [(["login"], loginForm),
   (["server"], serverForm),
   (["config"], configForm),
   (["list", "ls"], bare .list),
   (["create"], createForm),
   (["delete"], ofWord "name" .delete),
   (["start"], ofWord "name" .start),
   (["stop"], ofWord "name" .stop),
   (["set"], setForm),
   (["connect"], ofOptional "name" .connect),
   (["ssh"], ofOptional "name" .ssh),
   (["exec"], execForm),
   (["use"], ofOptional "name" .use),
   (["route"], routeForm),
   (["snapshot", "snap"], snapshotForm),
   (["token"], tokenForm),
   (["tailscale", "ts"], tailscaleForm),
   (["status"], bare .status),
   (["info"], bare .info)]

def parse (settings : Settings) (line : List String) : Except Refusal Invocation :=
  readLine settings commands line

end SandboxClient.Usage
