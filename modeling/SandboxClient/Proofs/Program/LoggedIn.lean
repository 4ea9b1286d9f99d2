/-
  SandboxClient/Proofs/Program/LoggedIn.lean
  ==========================================
  **Logins that succeed.** When a login reports success, a server has granted a
  token and a store with it has been saved. Whether the user is logged in then is
  another question, for the store is only checked when it is read again, and a
  token only when it is used: `logged_in_iff` answers it.
-/
import SandboxClient.Proofs.Program.Failed
import SandboxClient.Proofs.Remote.Sent
import SandboxClient.Proofs.Server.LoggedIn

namespace SandboxClient.Program

open SandboxClient.Files (Path bind_of_ok bind_eq_ok pure_eq_ok throw_ne_ok)
open SandboxClient.Server (Config Entry)

/-! ### Tokens

The last answer in the network is the one that granted the token. -/

section Host

variable {h : Login.Host Run} {token : String} {w w' : World}

/-- A token that has been waited for is one that the last question was answered with. -/
theorem awaitFrom_eq_ok {p : Login.Pace} {code : String} {elapsed : Nat}
    (hrun : Login.awaitFrom h p code elapsed w = (.ok (.ok token), w')) :
    ∃ v, h.askVerdict code v = (.ok (.ok (.approved token)), w') := by
  -- on the time that is left
  induction hn : p.limit - elapsed using Nat.strongRecOn generalizing elapsed w with
  | ind n ih =>
    rw [Login.awaitFrom] at hrun
    obtain ⟨-, v, -, hrun⟩ := bind_eq_ok.mp hrun
    split at hrun
    · cases hrun
    · rename_i htime
      obtain ⟨verdict, v', hverdict, hrun⟩ := bind_eq_ok.mp hrun
      rcases verdict with reason | granted | - | message
      · cases hrun
      · cases hrun
        exact ⟨v, hverdict⟩
      · have hpos := p.interval_pos
        exact ih _ (by omega) hrun rfl
      · cases hrun

theorem authorize_eq_ok {inBrowser : Bool}
    (hrun : Login.authorize h inBrowser w = (.ok (.ok token), w')) :
    ∃ code v v', h.askVerdict code v = (.ok (.ok (.approved token)), v') ∧
      h.done v' = (.ok (), w') := by
  unfold Login.authorize at hrun
  obtain ⟨issued, v, -, hrun⟩ := bind_eq_ok.mp hrun
  rcases issued with reason | session
  · cases hrun
  · obtain ⟨-, v, -, hrun⟩ := bind_eq_ok.mp hrun
    have hwaits : ∃ u, (do
        h.waiting
        let result ← Login.awaitFrom h (.of session) session.deviceCode 0
        h.done
        return result : Run _) u = (.ok (.ok token), w') := by
      cases inBrowser with
      | false => exact ⟨v, hrun⟩
      | true =>
        rw [if_pos rfl] at hrun
        obtain ⟨⟨⟩, u, -, hrun⟩ := bind_eq_ok.mp hrun
        exact ⟨u, hrun⟩
    obtain ⟨u, hrun⟩ := hwaits
    obtain ⟨-, v, -, hrun⟩ := bind_eq_ok.mp hrun
    obtain ⟨result, v', hawait, hrun⟩ := bind_eq_ok.mp hrun
    obtain ⟨⟨⟩, v'', hdone, hrun⟩ := bind_eq_ok.mp hrun
    obtain ⟨rfl, rfl⟩ := pure_eq_ok.mp hrun
    obtain ⟨t, hverdict⟩ := awaitFrom_eq_ok hawait
    exact ⟨session.deviceCode, t, v', hverdict, hdone⟩

end Host

/-- The token of a login has been granted by the server, with the last answer. -/
theorem granted_of_authorize {client : Remote.Client} {clientName token : String}
    {inBrowser : Bool} {w w' : World}
    (hrun : Login.authorize (loginHost client clientName) inBrowser w = (.ok (.ok token), w')) :
    client.Granted token w'.network := by
  obtain ⟨code, v, v', hverdict, hdone⟩ := authorize_eq_ok hrun
  have hnetwork : w'.network = v'.network := by
    cases hdone
    rfl
  rw [hnetwork]
  exact Remote.granted_of_pollDeviceToken (outcome_eq_ok hverdict)

/-! ### The store

What is saved is what `set_server` makes of the store that was loaded, under the alias that is
chosen. -/

section LogIn

variable {h : Login.Host Run} {path url : String} {name : Option String} {inBrowser : Bool}
  {w w' : World} {entry : Entry}

/-- A login that succeeds has loaded a store, has been granted a token, and has saved the store
with it. -/
theorem logIn_eq_ok (hrun : logIn h path url name inBrowser w = (.ok entry, w')) :
    ∃ c token v v', Server.loadFrom path w.disk = (.ok c, v.disk) ∧
      Login.authorize h inBrowser v = (.ok (.ok token), v') ∧
      (c.set (c.chooseAlias url name) url token).save path v'.disk = (.ok (), w'.disk) ∧
      c.setEntry? (c.chooseAlias url name) url token = some entry ∧
      w'.network = v'.network := by
  unfold logIn at hrun
  obtain ⟨c, v, hload, hrun⟩ := bind_eq_ok.mp hrun
  obtain ⟨result, v', hauthorize, hrun⟩ := bind_eq_ok.mp hrun
  rcases result with fault | token
  · exact absurd hrun throw_ne_ok
  · obtain ⟨⟨⟩, u, hsave, hrun⟩ := bind_eq_ok.mp hrun
    obtain ⟨hentry, rfl⟩ := pure_eq_ok.mp hrun
    obtain ⟨hsaved, hsame⟩ := storing_eq_ok hsave
    obtain ⟨k, hk, -⟩ := Config.mem_set c (c.chooseAlias url name) url token
    rw [hk, Option.getD_some] at hentry
    exact ⟨c, token, v, v', (storing_eq_ok hload).1, hauthorize, hsaved, hentry ▸ hk, by rw [hsame]⟩

end LogIn

/-- **When a login that succeeds has logged the user in.** The server has granted the token of the
entry that is reported. What has been saved is loaded again, and leads to the address with that
token, exactly if the token is not blank and the store that the login began with admits a login at
the address under the alias that was chosen for it. -/
theorem logged_in_iff {client : Remote.Client} {clientName path input address url : String}
    {name : Option String} {inBrowser : Bool} {w w' : World} {entry : Entry}
    (haddress : Server.readAddress input = .ok address) (hurl : url = input ∨ url = address)
    (hrun : logIn (loginHost client clientName) path url name inBrowser w = (.ok entry, w'))
    (hreadable : w'.disk.trouble w'.disk.calls = none) :
    ∃ c, (Server.loadFrom path w.disk).1 = .ok c ∧
      entry.server = Server.normalizeUrl url ∧ client.Granted entry.token w'.network ∧
      ((∃ c', (Server.loadFrom path w'.disk).1 = .ok c' ∧
          c'.LeadsTo (Server.normalizeUrl url) entry.token) ↔
        Text.isBlankText entry.token = false ∧
          c.Admits (c.chooseAlias url name) (Server.normalizeUrl url)) := by
  obtain ⟨c, token, v, v', hload, hauthorize, hsave, hentry, hnetwork⟩ := logIn_eq_ok hrun
  obtain ⟨k, hk, -, hserver, rfl, -⟩ := Config.mem_set c (c.chooseAlias url name) url token
  obtain rfl : entry = k := Option.some.inj (hentry.symm.trans hk)
  have hloaded : (Server.loadFrom path w.disk).1 = .ok c := by rw [hload]
  refine ⟨c, hloaded, hserver, hnetwork ▸ granted_of_authorize hauthorize, ?_⟩
  have hdistinct := Config.checkUnique_iff.mp (Server.loadFrom_checked hloaded)
  have hne := Server.normalizeUrl_ne_empty haddress hurl
  rw [← Config.loginLasts_iff hdistinct hne Config.chooseAlias_eq_empty]
  constructor
  · rintro ⟨c', hagain, hleads⟩
    obtain ⟨rfl, hunique⟩ := (Server.loadFrom_of_save hsave hreadable).mp hagain
    exact ⟨hunique, hleads⟩
  · rintro ⟨hunique, hleads⟩
    exact ⟨_, (Server.loadFrom_of_save hsave hreadable).mpr ⟨rfl, hunique⟩, hleads⟩

/-! ### A login without a browser -/

/-- A world in which a file has a text, and a server issues a code and then grants a token. -/
def grantingWorld (text token : String) : World :=
  { singleWorld with
    disk := { singleWorld.disk with
      items := [(["cfg"], .directory 0o700),
        (["cfg", storeName], .file 0 (Text.octets text) 0o600)] }
    network := {
      answer := fun sent _ => .response ⟨200, none, Text.octets
        (if sent.isEmpty then
          "\x7b\"device_code\":\"d\",\"user_code\":\"u\",\"verification_url\":\"v\"\x7d"
        else "\x7b\"token\":\"" ++ token ++ "\"\x7d")⟩
      sent := [] } }

/-- A login at a new address lasts, although the file had an older layout. -/
theorem login_beside_single_server :
    ∃ w', logIn (loginHost Remote.localClient "cli") "cfg/config.yaml" "http://[::1]:8080/" none
        false (grantingWorld singleText "n") = (.ok ⟨"local", "http://[::1]:8080", "n", false⟩, w') ∧
      ∃ c, (Server.loadFrom "cfg/config.yaml" w'.disk).1 = .ok c ∧
        c.LeadsTo "http://[::1]:8080" "n" := by
  have haddress : Server.readAddress "http://[::1]:8080/" = .ok "http://[::1]:8080" := by
    decide +kernel
  have hok : (logIn (loginHost Remote.localClient "cli") "cfg/config.yaml" "http://[::1]:8080/" none
      false (grantingWorld singleText "n")).1 = .ok ⟨"local", "http://[::1]:8080", "n", false⟩ := by
    decide +kernel
  have hload : (Server.loadFrom "cfg/config.yaml" (grantingWorld singleText "n").disk).1 =
      .ok ⟨"https://a.example", [⟨"", "https://a.example", "t", false⟩]⟩ := by
    decide +kernel
  have hurl : Server.normalizeUrl "http://[::1]:8080/" = "http://[::1]:8080" := by decide
  have halias : Config.chooseAlias
      ⟨"https://a.example", [⟨"", "https://a.example", "t", false⟩]⟩ "http://[::1]:8080/" none =
        "local" := by
    decide +kernel
  have hadmits : Config.Admits ⟨"https://a.example", [⟨"", "https://a.example", "t", false⟩]⟩
      "local" "http://[::1]:8080" :=
    ⟨by decide, fun hempty => absurd hempty (by decide)⟩
  obtain ⟨c, hc, -, -, hlasts⟩ :=
    logged_in_iff haddress (Or.inl rfl) (Prod.ext hok rfl) (by decide +kernel)
  obtain rfl := Except.ok.inj (hload.symm.trans hc)
  rw [halias, hurl] at hlasts
  exact ⟨_, Prod.ext hok rfl, hlasts.mpr ⟨by decide, hadmits⟩⟩

/-- A login can succeed without logging anybody in. If the token is empty there is no connection;
if the file spells the address with a slash the file that is saved is refused. -/
theorem login_without_connection :
    Server.readAddress "http://[::1]:8080" = .ok "http://[::1]:8080" ∧
    (∃ w', logIn (loginHost Remote.localClient "cli") "cfg/config.yaml" "http://[::1]:8080" none
        false (grantingWorld "" "") = (.ok ⟨"local", "http://[::1]:8080", "", false⟩, w') ∧
      ∃ c, (Server.loadFrom "cfg/config.yaml" w'.disk).1 = .ok c ∧
        c.connection none = .error (.notLoggedIn "http://[::1]:8080")) ∧
    ∃ w', logIn (loginHost Remote.localClient "cli") "cfg/config.yaml" "http://[::1]:8080" none
        false (grantingWorld "servers:\n- server: http://[::1]:8080/\n" "n") =
          (.ok ⟨"local", "http://[::1]:8080", "n", false⟩, w') ∧
      (Server.loadFrom "cfg/config.yaml" w'.disk).1 =
        .error (.corrupt "cfg/config.yaml" (.duplicateServer "http://[::1]:8080")) := by
  refine ⟨by decide +kernel, ⟨_, Prod.ext ?_ rfl, ?_⟩, ⟨_, Prod.ext ?_ rfl, ?_⟩⟩
  · show _ = Except.ok (⟨"local", "http://[::1]:8080", "", false⟩ : Entry)
    decide +kernel
  · refine ⟨⟨"local", [⟨"local", "http://[::1]:8080", "", false⟩]⟩, ?_, ?_⟩
    · decide +kernel
    · decide +kernel
  · show _ = Except.ok (⟨"local", "http://[::1]:8080", "n", false⟩ : Entry)
    decide +kernel
  · decide +kernel

end SandboxClient.Program
