/-
  SandboxClient/Proofs/Session/Arguments.lean
  ===========================================
  **The arguments of ssh.** They are the options of the program, then the
  destination, then the command if there is one to run. Only the destination and
  the command come from elsewhere: the one from a server, the other from the words
  of the user. What can begin with a dash among them, and when nothing is left of
  a command, is read off those.
-/
import SandboxClient.Session.Named
import SandboxClient.Session.Ssh
import Mathlib.Data.List.Basic
import Mathlib.Data.List.TakeWhile

namespace SandboxClient.Session

open SandboxClient.Remote (ConnectInfo)

/-! ### Dashes

Only the first character counts: a dash there makes ssh look for an option. -/

/-- A text begins with a dash, so that ssh takes it for an option wherever it looks for one. -/
def Dashed (s : String) : Prop := s.toList.head? = some '-'

instance : DecidablePred Dashed := fun s => inferInstanceAs (Decidable (s.toList.head? = some '-'))

theorem dashed_append_iff {s t : String} (ht : ¬ Dashed t) : Dashed (s ++ t) ↔ Dashed s := by
  unfold Dashed at *
  rw [String.toList_append, List.head?_append]
  cases s.toList with
  | nil => simpa using ht
  | cons c r => simp

/-- Words between blanks begin with a dash if the first of them does. -/
theorem dashed_intercalate_iff (words : List String) :
    Dashed (" ".intercalate words) ↔ ∃ first, words.head? = some first ∧ Dashed first := by
  cases words with
  | nil => simp [Dashed]
  | cons first rest =>
    cases rest with
    | nil => simp
    | cons second rest =>
      have hrest : ¬ Dashed (" " ++ " ".intercalate (second :: rest)) := by
        simp [Dashed]
      rw [String.intercalate_cons_cons, String.append_assoc, dashed_append_iff hrest]
      simp

/-- Words between blanks are no text only if there is none but an empty one. -/
theorem intercalate_eq_empty_iff {words : List String} (h : words ≠ []) :
    " ".intercalate words = "" ↔ words = [""] := by
  obtain ⟨first, rest, rfl⟩ := List.exists_cons_of_ne_nil h
  cases rest with
  | nil => simp
  | cons second rest => simp [String.append_eq_empty_iff]

/-! ### The arguments -/

/-- The arguments that do not depend on who is reached and on what is run there. -/
def ownOptions (port : Nat) : List String :=
  ["-p", toString port, "-o", "StrictHostKeyChecking=no", "-o", "UserKnownHostsFile=/dev/null",
    "-o", "LogLevel=ERROR"]

/-- The arguments for what is run; an empty command is none. -/
def commandArguments : Option String → List String
  | none => []
  | some command => if command = "" then [] else ["-t", command]

theorem sshArguments_eq (info : ConnectInfo) (command : Option String) :
    sshArguments info command =
      ownOptions info.port ++ destination info :: commandArguments command := by
  have hcommand : (command.filter (fun c => !c.isEmpty)).toList.flatMap (fun c => ["-t", c]) =
      commandArguments command := by
    cases command with
    | none => rfl
    | some c =>
      by_cases hc : c = ""
      · rw [hc]
        rfl
      · rw [commandArguments, if_neg hc, Option.filter_some_pos (by simpa using hc)]
        rfl
  unfold sshArguments
  rw [hcommand]
  rfl

theorem sshArguments_empty (info : ConnectInfo) :
    sshArguments info (some "") = sshArguments info none := by
  rw [sshArguments_eq, sshArguments_eq]
  rfl

/-- A destination begins as the name of the user does. -/
theorem dashed_destination_iff (info : ConnectInfo) :
    Dashed (destination info) ↔ Dashed info.user := by
  have hrest : ¬ Dashed ("@" ++ info.host) := by simp [Dashed]
  unfold destination
  rw [String.append_assoc, dashed_append_iff hrest]

/-- What is not the program's own among the arguments begins with no dash. -/
def GivenPlain (info : ConnectInfo) (command : Option String) : Prop :=
  ¬ Dashed (destination info) ∧ ∀ c, command = some c → ¬ Dashed c

theorem destination_ne_empty (info : ConnectInfo) : destination info ≠ "" := by
  simp [destination, String.append_eq_empty_iff]

/-- A command stands at the end of the arguments unless it is empty. -/
theorem command_suffix_iff (info : ConnectInfo) (command : String) :
    ["-t", command] <:+ sshArguments info (some command) ↔ command ≠ "" := by
  constructor
  · rintro hsuffix rfl
    have hlast := hsuffix.getLast (by simp)
    simp only [sshArguments_eq, commandArguments, if_pos, List.getLast_append_singleton] at hlast
    exact destination_ne_empty info hlast.symm
  · intro hne
    rw [sshArguments_eq, commandArguments, if_neg hne]
    exact ⟨ownOptions info.port ++ [destination info], by simp⟩

/-! ### Errands

What is left for the command once the sandbox is known. -/

section Errands

variable {words known : List String} {active : Option String} {errand : Errand}

/-- The words of a command that are left when the sandbox and the marks before it are taken
away. -/
def commandWords (words known : List String) (active : Option String) : List String :=
  match errandSandbox words known active with
  | .ok (_, said) => said.dropWhile (· == separator)
  | .error _ => []

/-- The words said about a sandbox are a command unless there are only marks among them. -/
theorem readErrand_of_sandbox {name : String} {said : List String}
    (h : errandSandbox words known active = .ok (name, said)) :
    readErrand words known active =
      if said.dropWhile (· == separator) = [] then .error (.noCommand name)
      else .ok ⟨name, " ".intercalate (said.dropWhile (· == separator))⟩ := by
  unfold readErrand
  rw [h]
  show (if (said.dropWhile (· == separator)).isEmpty then _ else _) = _
  simp only [List.isEmpty_iff]
  rfl

theorem readErrand_of_fault {fault : WordFault}
    (h : errandSandbox words known active = .error fault) :
    readErrand words known active = .error fault := by
  unfold readErrand
  rw [h]
  rfl

theorem command_of_readErrand (h : readErrand words known active = .ok errand) :
    commandWords words known active ≠ [] ∧
      errand.command = " ".intercalate (commandWords words known active) := by
  unfold commandWords
  rcases hsandbox : errandSandbox words known active with fault | ⟨name, said⟩
  · rw [readErrand_of_fault hsandbox] at h
    cases h
  · rw [readErrand_of_sandbox hsandbox] at h
    split at h
    · cases h
    · rename_i hsaid
      cases h
      exact ⟨hsaid, rfl⟩

/-- The command of an errand begins with a dash if its first word does. -/
theorem dashed_command_iff (h : readErrand words known active = .ok errand) :
    Dashed errand.command ↔
      ∃ first, (commandWords words known active).head? = some first ∧ Dashed first := by
  rw [(command_of_readErrand h).2, dashed_intercalate_iff]

/-- The command of an errand is empty only if it is a single empty word. -/
theorem command_eq_empty_iff (h : readErrand words known active = .ok errand) :
    errand.command = "" ↔ commandWords words known active = [""] := by
  obtain ⟨hne, hcommand⟩ := command_of_readErrand h
  rw [hcommand, intercalate_eq_empty_iff hne]

/-- What is left behind the marks in front does not begin with a mark. -/
theorem dropWhile_separator_eq_iff {said left : List String} :
    said.dropWhile (· == separator) = left ↔
      left.head? ≠ some separator ∧ ∃ n, said = List.replicate n separator ++ left := by
  constructor
  · rintro rfl
    have hmarks : ∀ word ∈ said.takeWhile (· == separator), word = separator := by
      intro word hword
      simpa using List.mem_takeWhile_imp hword
    refine ⟨?_, (said.takeWhile (· == separator)).length, ?_⟩
    · intro hhead
      have hnot := List.head?_dropWhile_not (· == separator) said
      rw [hhead] at hnot
      simp at hnot
    · rw [← List.eq_replicate_of_mem hmarks, List.takeWhile_append_dropWhile]
  · rintro ⟨hhead, n, rfl⟩
    rw [List.dropWhile_append_of_pos (by simp [List.mem_replicate])]
    cases left with
    | nil => rfl
    | cons first rest => exact List.dropWhile_cons_of_neg (by simpa using hhead)

/-- The empty word that is left stands behind marks only. -/
theorem commandWords_eq_iff : commandWords words known active = [""] ↔
    ∃ name n, errandSandbox words known active = .ok (name, List.replicate n separator ++ [""]) := by
  have hempty : separator ≠ "" := by decide
  unfold commandWords
  cases errandSandbox words known active with
  | error fault => simp
  | ok meant =>
    obtain ⟨name, said⟩ := meant
    simp [dropWhile_separator_eq_iff, hempty]

end Errands

end SandboxClient.Session
