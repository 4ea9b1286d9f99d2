/-
  SandboxClient/Proofs/Program/Displays.lean
  ==========================================
  **What the displays give away.** The list of the servers and the configuration are
  texts that depend on the store and, of the environment, on its token and on where
  the store is. Two runs on stores that differ in tokens that look alike print the
  same text: the rows of the table are equal one by one, so its columns are equally
  wide, and the lines of the configuration are equal too.
-/
import SandboxClient.Program.Perform
import SandboxClient.Proofs.Program.Failed
import SandboxClient.Proofs.Server.HiddenTokens

namespace SandboxClient.Program

open SandboxClient.Files (bind_of_ok bind_eq_ok pure_eq_ok get_eq_ok throw_ne_ok)
open SandboxClient.Server (Config Entry EnvironmentsLookAlike)

/-! ### What the commands print

The texts are functions of the store and the environment; that nothing else is printed is part of
the statement. -/

def listText (c : Config) : String :=
  if c.servers.isEmpty then
    Terminal.line "No servers configured. Run: sandcastle login <url>"
  else (Terminal.Table.of ["", "ALIAS", "SERVER", "TOKEN"] (c.servers.map (serverRow c))).printed

def configText (path : String) (c : Config) (environment : Option String) : String :=
  String.join ((configLines path c environment).map Terminal.line)

/-- A command succeeds, and prints a text and nothing else. -/
structure Prints (command : Usage.Command) (shown : String) (w : World) : Prop where
  code : (execute command w).1 = 0
  output : (execute command w).2.output = w.output ++ shown
  errors : (execute command w).2.errors = w.errors

section Single

variable {w : World} {c : Config}

theorem Prints.of_run {command : Usage.Command} {shown : String} {d : Files.Disk}
    (h : perform command w = (.ok (), { w with disk := d, output := w.output ++ shown })) :
    Prints command shown w := by
  have hexecute : execute command w = (0, { w with disk := d, output := w.output ++ shown }) := by
    have hrun : (perform command).run w = _ := h
    unfold execute
    rw [hrun]
    rfl
  exact ⟨by rw [hexecute], by rw [hexecute], by rw [hexecute]⟩

theorem storePath_eq_ok {path : String} {v : World} (h : storePath w = (.ok path, v)) :
    v = w ∧ ∃ directory, w.storeDirectory? = some directory ∧
      path = Files.join directory storeName := by
  unfold storePath at h
  rw [bind_of_ok (get_eq_ok.mpr ⟨rfl, rfl⟩)] at h
  cases hdirectory : w.storeDirectory? with
  | none =>
    rw [hdirectory] at h
    exact absurd h throw_ne_ok
  | some directory =>
    rw [hdirectory] at h
    obtain ⟨rfl, rfl⟩ := pure_eq_ok.mp h
    exact ⟨rfl, directory, rfl, rfl⟩

/-- A store that is loaded is loaded from its path, and nothing but the disk may change. -/
theorem loadStore_eq_ok {v : World} (h : loadStore w = (.ok c, v)) :
    ∃ directory, w.storeDirectory? = some directory ∧
      storePath w = (.ok (Files.join directory storeName), w) ∧
      storing (Server.loadFrom (Files.join directory storeName)) w = (.ok c, v) ∧
      v = { w with disk := v.disk } := by
  unfold loadStore at h
  obtain ⟨path, u, hpath, hload⟩ := bind_eq_ok.mp h
  obtain ⟨rfl, directory, hdirectory, rfl⟩ := storePath_eq_ok hpath
  exact ⟨directory, hdirectory, hpath, hload, (storing_eq_ok hload).2⟩

theorem listServers_prints (hload : (loadStore w).1 = .ok c) :
    Prints (.server .list) (listText c) w := by
  have hrun : loadStore w = (.ok c, (loadStore w).2) := Prod.ext hload rfl
  obtain ⟨directory, -, -, -, hworld⟩ := loadStore_eq_ok hrun
  refine .of_run (d := (loadStore w).2.disk) ?_
  show listServers w = _
  unfold listServers
  rw [bind_of_ok hrun, hworld]
  unfold listText
  split
  · rfl
  · rfl

theorem showConfig_prints (hload : (loadStore w).1 = .ok c) :
    ∃ directory, w.storeDirectory? = some directory ∧
      Prints .showConfig (configText (Files.join directory storeName) c w.token?) w := by
  have hrun : loadStore w = (.ok c, (loadStore w).2) := Prod.ext hload rfl
  obtain ⟨directory, hdirectory, hpath, hstoring, hworld⟩ := loadStore_eq_ok hrun
  refine ⟨directory, hdirectory, .of_run (d := (loadStore w).2.disk) ?_⟩
  show showConfig w = _
  unfold showConfig
  rw [bind_of_ok hpath, bind_of_ok hstoring, bind_of_ok (get_eq_ok.mpr ⟨rfl, rfl⟩), hworld]
  rfl

end Single

/-! ### Two stores -/

section Alike

variable {c c' : Config} {environment environment' : Option String}

theorem serverRow_eq (h : c.LookAlike c') {e e' : Entry} (he : e.LookAlike e') :
    serverRow c e = serverRow c' e' := by
  simp only [serverRow, h.isCurrent_eq he, he.name, he.server, he.insecure, he.token.maskToken_eq]

theorem listText_eq (h : c.LookAlike c') : listText c = listText c' := by
  have hrows : ∀ {l l' : List Entry}, List.Forall₂ Entry.LookAlike l l' →
      l.map (serverRow c) = l'.map (serverRow c') := by
    intro l l' hl
    induction hl with
    | nil => rfl
    | cons hhead htail ih => rw [List.map_cons, List.map_cons, serverRow_eq h hhead, ih]
  have hempty : c.servers.isEmpty = c'.servers.isEmpty := by
    rw [Bool.eq_iff_iff, List.isEmpty_iff_length_eq_zero, List.isEmpty_iff_length_eq_zero,
      h.servers.length_eq]
  rw [listText, listText, hempty, hrows h.servers]

theorem shownToken_eq (h : c.LookAlike c') {e e' : Entry} (he : e.LookAlike e')
    (henv : EnvironmentsLookAlike environment environment') :
    shownToken c e environment = shownToken c' e' environment' := by
  unfold shownToken
  rw [← h.tokenSource_eq henv, he.token.maskToken_eq]
  cases henv with
  | none => rfl
  | some htokens =>
    simp only [Option.getD_some]
    rw [htokens.maskToken_eq]

theorem currentLines_eq (h : c.LookAlike c') {e e' : Entry} (he : e.LookAlike e')
    (henv : EnvironmentsLookAlike environment environment') :
    currentLines c e environment = currentLines c' e' environment' := by
  simp only [currentLines, he.name, he.server, he.insecure, shownToken_eq h he henv,
    h.tokenSource_eq henv, h.servers.length_eq]

theorem configText_eq (path : String) (h : c.LookAlike c')
    (henv : EnvironmentsLookAlike environment environment') :
    configText path c environment = configText path c' environment' := by
  have hlines : configLines path c environment = configLines path c' environment' := by
    have hrel := h.current?_rel
    unfold configLines
    generalize c.current? = found, c'.current? = found' at hrel ⊢
    cases hrel with
    | none => simp only [noCurrentLines, h.currentKey]
    | some hcur => simp only [currentLines_eq h hcur henv]
  rw [configText, configText, hlines]

end Alike

/-! ### Two worlds

The worlds are related by what a display may tell of them, and the displays are shown not to tell
them apart. -/

/-- Two environments that differ in nothing but tokens that look alike. The files, the network and
all else may differ as well. -/
structure World.TokensLookAlike (w w' : World) : Prop where
  setting : ∀ name, name ≠ Server.tokenVariable → w.setting? name = w'.setting? name
  token : EnvironmentsLookAlike w.token? w'.token?
  accountHome : w.accountHome = w'.accountHome

theorem World.TokensLookAlike.storeDirectory?_eq {w w' : World} (h : w.TokensLookAlike w') :
    w.storeDirectory? = w'.storeDirectory? := by
  unfold storeDirectory? spokenSetting? home?
  rw [h.setting directoryVariable (by decide), h.setting "HOME" (by decide), h.accountHome]

/-- **The displays do not tell apart tokens that look alike.** Whether a token is stored or stands
in the environment, the list of servers and the configuration are printed in the same way for all
tokens that are empty, for all that are short, and for all that are long and have the same first
twelve characters; and a token that is shown in part is not cut inside a character. -/
theorem displays_hide_tokens {w w' : World} {c c' : Config} (hworlds : w.TokensLookAlike w')
    (hload : (loadStore w).1 = .ok c) (hload' : (loadStore w').1 = .ok c')
    (hstores : c.LookAlike c') :
    (∃ shown, Prints (.server .list) shown w ∧ Prints (.server .list) shown w') ∧
    (∃ shown, Prints .showConfig shown w ∧ Prints .showConfig shown w') ∧
    ∀ token : String, 12 < token.length →
      ∃ cut, Text.octets (Server.maskToken token) =
          (Text.octets token).take cut ++ Text.octets "..." ∧
        Text.strictText ((Text.octets token).take cut) =
          some (String.ofList (token.toList.take 12)) ∧
        Text.strictText ((Text.octets token).drop cut) =
          some (String.ofList (token.toList.drop 12)) := by
  refine ⟨⟨listText c, listServers_prints hload, ?_⟩, ?_, fun _ => Server.octets_maskToken⟩
  · rw [listText_eq hstores]
    exact listServers_prints hload'
  · obtain ⟨directory, hdirectory, hprints⟩ := showConfig_prints hload
    obtain ⟨directory', hdirectory', hprints'⟩ := showConfig_prints hload'
    obtain rfl : directory = directory' :=
      Option.some.inj (hdirectory.symm.trans (hworlds.storeDirectory?_eq.trans hdirectory'))
    refine ⟨_, hprints, ?_⟩
    rw [configText_eq _ hstores hworlds.token]
    exact hprints'

/-- A world with a token for its server in the store and another one in the environment. -/
def tokenWorld (stored environment : String) : World :=
  { singleWorld with
    disk := { singleWorld.disk with
      items := [(["cfg"], .directory 0o700),
        (["cfg", storeName], .file 0 (Text.octets
          ("current_server: https://a.example\nservers:\n- server: https://a.example\n  token: " ++
            stored ++ "\n")) 0o600)] }
    settings := [(directoryVariable, "cfg"), (Server.tokenVariable, environment)] }

/-- Two long tokens with the same beginning, the twelfth character of which has two octets, and two
short ones in the environment. -/
theorem displays_hide_ends_of_tokens :
    (∃ shown, Prints (.server .list) shown (tokenWorld "abcdefghijkéone" " s ") ∧
      Prints (.server .list) shown (tokenWorld "abcdefghijkétwo!" "secret")) ∧
    ∃ shown, Prints .showConfig shown (tokenWorld "abcdefghijkéone" " s ") ∧
      Prints .showConfig shown (tokenWorld "abcdefghijkétwo!" "secret") := by
  have hworlds : World.TokensLookAlike (tokenWorld "abcdefghijkéone" " s ")
      (tokenWorld "abcdefghijkétwo!" "secret") := by
    refine ⟨?_, .some (.short (by decide) (by decide) (by decide) (by decide)), rfl⟩
    intro name hname
    simp [World.setting?, tokenWorld, List.lookup_cons, beq_eq_false_iff_ne.mpr hname]
  have hstores : Config.LookAlike
      ⟨"https://a.example", [⟨"", "https://a.example", "abcdefghijkéone", false⟩]⟩
      ⟨"https://a.example", [⟨"", "https://a.example", "abcdefghijkétwo!", false⟩]⟩ :=
    ⟨rfl, .cons ⟨rfl, rfl, rfl, .long (by decide) (by decide) (by decide) (by decide) (by decide)⟩
      .nil⟩
  obtain ⟨hlist, hshow, -⟩ :=
    displays_hide_tokens hworlds (by decide +kernel) (by decide +kernel) hstores
  exact ⟨hlist, hshow⟩

end SandboxClient.Program
