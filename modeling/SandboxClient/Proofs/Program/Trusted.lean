/-
  SandboxClient/Proofs/Program/Trusted.lean
  =========================================
  **Whose certificates a login accepts.** A login asks a server through a client
  that may accept certificates unchecked. The store decides that: the address is
  looked up in it as any key is, so that an entry with the address for its alias
  answers before the entry of the server.
-/
import SandboxClient.Proofs.Program.LoggedIn

namespace SandboxClient.Program

open SandboxClient.Files (bind_of_ok)
open SandboxClient.Server (Config)
open SandboxClient.Remote (Client)

/-! ### Trust that is looked up

An address that is the alias of another entry is looked up as that alias. -/

section Lookup

variable {c : Config} {address : String}

/-- An address is trusted if the entry that has it for an alias is, and only if there is none if
the entry of the server is. -/
theorem trusts_iff (h : c.Unambiguous) (hne : address ≠ "") :
    trusts c address = true ↔ ∃ e ∈ c.servers, e.insecure = true ∧
      (e.name = address ∨ e.server = address ∧ ∀ f ∈ c.servers, f.name ≠ address) := by
  unfold trusts
  constructor
  · intro htrusts
    rcases hfind : c.find? address with _ | e
    · rw [hfind] at htrusts
      cases htrusts
    · rw [hfind] at htrusts
      obtain ⟨hmem, hkey⟩ := Config.mem_of_find? hfind
      refine ⟨e, hmem, htrusts, ?_⟩
      by_cases hnamed : ∃ f ∈ c.servers, f.name = address
      · obtain ⟨f, hf, hname⟩ := hnamed
        rw [Config.find?_eq_of_named h hf (Server.Entry.isNamed_iff.mpr ⟨hname, hne⟩)] at hfind
        exact Or.inl (Option.some.inj hfind ▸ hname)
      · push Not at hnamed
        refine hkey.imp (fun hname => (Server.Entry.isNamed_iff.mp hname).1) ?_
        intro hserver
        exact ⟨hserver, hnamed⟩
  · rintro ⟨e, hmem, hinsecure, hname | ⟨hserver, hnamed⟩⟩
    · rw [Config.find?_eq_of_named h hmem (Server.Entry.isNamed_iff.mpr ⟨hname, hne⟩)]
      exact hinsecure
    · have hno : ∀ f ∈ c.servers, f.isNamed address ≠ true := by
        intro f hf hf'
        exact hnamed f hf (Server.Entry.isNamed_iff.mp hf').1
      rw [Config.find?_eq_of_server h hmem hserver hno]
      exact hinsecure

end Lookup

/-! ### The client of a login -/

/-- A login once it has a client. -/
def loginThrough (path address : String) (name : Option String) (noBrowser : Bool)
    (client : Client) : Run Unit := do
  printLine ("Logging in to " ++ address)
  let entry ← logIn (loginHost client (← get).clientName) path address name (!noBrowser)
  success ("Logged in to " ++ entry.server)
  if !entry.name.isEmpty then field "Alias" entry.name

section Logins

variable {input address path : String} {c : Config} {d : Files.Disk} {w : World}

/-- A login whose address is read and whose store is loaded takes the client for the address, and
goes on with that alone. -/
theorem login_eq (haddress : Server.readAddress input = .ok address)
    (hpath : storePath w = (.ok path, w)) (hload : Server.loadFrom path w.disk = (.ok c, d))
    (name : Option String) (noBrowser : Bool) :
    login input name noBrowser w =
      (ofRemote (Client.anonymous address (trusts c address)) >>=
        loginThrough path address name noBrowser) { w with disk := d } := by
  have hread : ofStore ((Server.readAddress input).mapError (.badAddress input)) w =
      (.ok address, w) := by
    rw [haddress]
    rfl
  unfold login
  rw [bind_of_ok hread, bind_of_ok hpath, bind_of_ok (storing_of_call hload)]
  rfl

theorem insecure_of_anonymous {client : Client} {insecure : Bool}
    (h : Client.anonymous address insecure = .ok client) : client.insecure = insecure := by
  unfold Client.anonymous Client.build at h
  dsimp only at h
  split at h
  · cases h
  · split at h
    · cases h
      rfl
    · cases h

/-- **The client of a login accepts certificates unchecked** exactly if the store trusts the entry
that has the address for its alias, or if there is none the entry of the server. So it does so for
servers that the user trusts and no others exactly if every trusted entry with the address for its
alias stands beside a trusted entry of the server, be it the same one. -/
theorem client_of_login_insecure_iff (haddress : Server.readAddress input = .ok address)
    (hpath : storePath w = (.ok path, w)) (hload : Server.loadFrom path w.disk = (.ok c, d)) :
    (∀ name noBrowser, login input name noBrowser w =
      (ofRemote (Client.anonymous address (trusts c address)) >>=
        loginThrough path address name noBrowser) { w with disk := d }) ∧
    ∀ client, Client.anonymous address (trusts c address) = .ok client →
      (client.insecure = true ↔ ∃ e ∈ c.servers, e.insecure = true ∧
        (e.name = address ∨ e.server = address ∧ ∀ f ∈ c.servers, f.name ≠ address)) ∧
      ((client.insecure = true → ∃ e ∈ c.servers, e.server = address ∧ e.insecure = true) ↔
        ∀ f ∈ c.servers, f.name = address → f.insecure = true →
          ∃ e ∈ c.servers, e.server = address ∧ e.insecure = true) := by
  refine ⟨login_eq haddress hpath hload, ?_⟩
  intro client hclient
  have hloaded : (Server.loadFrom path w.disk).1 = .ok c := by rw [hload]
  have hne : address ≠ "" := by
    rintro rfl
    exact Server.normalizeUrl_ne_empty haddress (Or.inr rfl) (by decide)
  have htrusts : client.insecure = true ↔ ∃ e ∈ c.servers, e.insecure = true ∧
      (e.name = address ∨ e.server = address ∧ ∀ f ∈ c.servers, f.name ≠ address) := by
    rw [insecure_of_anonymous hclient]
    exact trusts_iff (Server.loadFrom_unambiguous hloaded) hne
  refine ⟨htrusts, ?_, ?_⟩
  · intro h f hf hname hinsecure
    exact h (htrusts.mpr ⟨f, hf, hinsecure, Or.inl hname⟩)
  · intro h hclient
    obtain ⟨e, he, hinsecure, hname | ⟨hserver, -⟩⟩ := htrusts.mp hclient
    · exact h e he hname hinsecure
    · exact ⟨e, he, hserver, hinsecure⟩

end Logins

/-- The client of a server at the address of this machine. -/
def loopbackClient (insecure : Bool) : Client :=
  ⟨⟨"https".toList, true, [], [], some (.v6 [0, 0, 0, 0, 0, 0, 0, 1]), none, .segments [[]], none,
    none⟩, "https://[::1]", none, insecure⟩

/-- A file with a server that is trusted and one that is not. -/
def trustedText : String :=
  "servers:\n- alias: box\n  server: https://[::1]\n  insecure: true\n" ++
    "- server: https://[::2]\n"

theorem login_at_trusted_server :
    ∃ c, (Server.loadFrom "cfg/config.yaml" (grantingWorld trustedText "n").disk).1 = .ok c ∧
      Client.anonymous "https://[::1]" (trusts c "https://[::1]") = .ok (loopbackClient true) ∧
      ∃ e ∈ c.servers, e.server = "https://[::1]" ∧ e.insecure = true := by
  have hload : (Server.loadFrom "cfg/config.yaml" (grantingWorld trustedText "n").disk).1 =
      .ok ⟨"", [⟨"box", "https://[::1]", "", true⟩, ⟨"", "https://[::2]", "", false⟩]⟩ := by
    decide +kernel
  have hclient : Client.anonymous "https://[::1]"
      (trusts ⟨"", [⟨"box", "https://[::1]", "", true⟩, ⟨"", "https://[::2]", "", false⟩]⟩
        "https://[::1]") = .ok (loopbackClient true) := by
    decide +kernel
  have haddress : Server.readAddress "https://[::1]/" = .ok "https://[::1]" := by decide +kernel
  obtain ⟨-, hinsecure⟩ := client_of_login_insecure_iff haddress rfl (Prod.ext hload rfl)
  have hnamed := (hinsecure _ hclient).2.mpr
  refine ⟨_, hload, hclient, hnamed ?_ rfl⟩
  simp

/-- A user who gives a trusted server the address of another one for its alias has not trusted
that other server. A login there accepts its certificates unchecked all the same. -/
theorem alias_lends_trust :
    ∃ w c, addServer "https://[::2]" (some "https://[::1]") true (grantingWorld "" "n") =
        (.ok (), w) ∧
      Server.readAddress "https://[::1]" = .ok "https://[::1]" ∧
      (Server.loadFrom "cfg/config.yaml" w.disk).1 = .ok c ∧
      Client.anonymous "https://[::1]" (trusts c "https://[::1]") = .ok (loopbackClient true) ∧
      ¬ ∃ e ∈ c.servers, e.server = "https://[::1]" := by
  refine ⟨_, ⟨"https://[::1]", [⟨"https://[::1]", "https://[::2]", "", true⟩]⟩, Prod.ext ?_ rfl,
    ?_, ?_, ?_, ?_⟩
  · show _ = Except.ok ()
    decide +kernel
  · decide +kernel
  · decide +kernel
  · decide +kernel
  · decide

end SandboxClient.Program
