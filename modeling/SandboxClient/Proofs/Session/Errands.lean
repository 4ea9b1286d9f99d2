/-
  SandboxClient/Proofs/Session/Errands.lean
  =========================================
  **What the words of an errand tell.** The first word is the name of a sandbox if
  one has it, and otherwise the first word about the active sandbox. `Means` says
  which sandbox is meant and which words are said about it. Marks in front of these
  words are not part of the command, marks behind its first word are, and words
  are refused only where no sandbox is meant or marks are all that is said about it
  (`errand_told_iff`).
-/
import SandboxClient.Proofs.Session.Arguments

namespace SandboxClient.Session

/-- Words mean a sandbox, and of them some are said about it: those behind its name, or all of
them if the first is no name and a sandbox is active. -/
inductive Means (known : List String) (active : Option String) :
    List String → String → List String → Prop
  | named {name : String} {said : List String} :
      name ∈ known → Means known active (name :: said) name said
  | active {first name : String} {rest : List String} :
      first ∉ known → active = some name → Means known active (first :: rest) name (first :: rest)

section Errands

variable {words known said command : List String} {active : Option String} {name : String}
  {errand : Errand} {fault : WordFault}

/-! ### The sandbox -/

theorem errandSandbox_eq_ok :
    errandSandbox words known active = .ok (name, said) ↔ Means known active words name said := by
  constructor
  · intro h
    unfold errandSandbox at h
    split at h
    · cases h
    · split at h
      · rename_i hknown
        cases h
        exact .named (by simpa using hknown)
      · rename_i hunknown
        split at h
        · cases h
          exact .active (by simpa using hunknown) rfl
        · cases h
  · intro h
    cases h with
    | named hknown => simp [errandSandbox, hknown]
    | active hunknown hactive => simp [errandSandbox, hunknown, hactive]

theorem errandSandbox_eq_error :
    errandSandbox words known active = .error fault ↔
      words = [] ∧ fault = .noWords ∨
      ∃ first rest, words = first :: rest ∧ first ∉ known ∧ active = none ∧
        fault = .noneMeant first := by
  cases words with
  | nil => simp [errandSandbox, eq_comm]
  | cons first rest =>
    by_cases hknown : first ∈ known
    · simp [errandSandbox, hknown]
    · cases active with
      | none => simp [errandSandbox, hknown, eq_comm]
      | some name => simp [errandSandbox, hknown]

/-! ### The command -/

/-- A command is told by the words behind the marks, the first of which is no mark itself. -/
theorem readErrand_of_command {n : Nat}
    (hmeans : Means known active words name (List.replicate n separator ++ command))
    (hne : command ≠ []) (hhead : command.head? ≠ some separator) :
    readErrand words known active = .ok ⟨name, " ".intercalate command⟩ := by
  have hleft : (List.replicate n separator ++ command).dropWhile (· == separator) = command :=
    dropWhile_separator_eq_iff.mpr ⟨hhead, n, rfl⟩
  rw [readErrand_of_sandbox (errandSandbox_eq_ok.mpr hmeans), hleft, if_neg hne]

theorem readErrand_of_marks {n : Nat}
    (hmeans : Means known active words name (List.replicate n separator)) :
    readErrand words known active = .error (.noCommand name) := by
  have hleft : (List.replicate n separator).dropWhile (· == separator) = [] :=
    dropWhile_separator_eq_iff.mpr ⟨by simp, n, by simp⟩
  rw [readErrand_of_sandbox (errandSandbox_eq_ok.mpr hmeans), hleft, if_pos rfl]

theorem exists_marks (said : List String) :
    ∃ n command, said = List.replicate n separator ++ command ∧
      command.head? ≠ some separator := by
  obtain ⟨hhead, n, hsaid⟩ :=
    dropWhile_separator_eq_iff.mp (Eq.refl (said.dropWhile (· == separator)))
  exact ⟨n, _, hsaid, hhead⟩

/-- Words tell no errand if they mean no sandbox, or if they mean one and say nothing about it but
marks; all others tell one. -/
theorem readErrand_cases (words known : List String) (active : Option String) :
    (∃ fault, errandSandbox words known active = .error fault) ∨
    (∃ name n, Means known active words name (List.replicate n separator)) ∨
    ∃ name n command, Means known active words name (List.replicate n separator ++ command) ∧
      command ≠ [] ∧ command.head? ≠ some separator := by
  rcases hsandbox : errandSandbox words known active with fault | ⟨name, said⟩
  · exact .inl ⟨fault, rfl⟩
  · obtain ⟨n, command, rfl, hhead⟩ := exists_marks said
    have hmeans := errandSandbox_eq_ok.mp hsandbox
    -- marks are all that is said, or a command stands behind them
    by_cases hne : command = []
    · rw [hne, List.append_nil] at hmeans
      exact .inr (.inl ⟨name, n, hmeans⟩)
    · exact .inr (.inr ⟨name, n, command, hmeans, hne, hhead⟩)

theorem readErrand_eq_error :
    readErrand words known active = .error fault ↔
      errandSandbox words known active = .error fault ∨
      ∃ name n, Means known active words name (List.replicate n separator) ∧
        fault = .noCommand name := by
  constructor
  · intro h
    rcases readErrand_cases words known active with
      ⟨found, hfound⟩ | ⟨name, n, hmeans⟩ | ⟨name, n, command, hmeans, hne, hhead⟩
    · rw [readErrand_of_fault hfound] at h
      exact .inl (hfound.trans (by rw [Except.error.inj h]))
    · rw [readErrand_of_marks hmeans] at h
      exact .inr ⟨name, n, hmeans, (Except.error.inj h).symm⟩
    · rw [readErrand_of_command hmeans hne hhead] at h
      cases h
  · rintro (hfault | ⟨name, n, hmeans, rfl⟩)
    · exact readErrand_of_fault hfault
    · exact readErrand_of_marks hmeans

theorem readErrand_eq_ok :
    readErrand words known active = .ok errand ↔
      ∃ n command, Means known active words errand.name (List.replicate n separator ++ command) ∧
        command ≠ [] ∧ command.head? ≠ some separator ∧
        errand.command = " ".intercalate command := by
  constructor
  · intro h
    rcases readErrand_cases words known active with
      ⟨found, hfound⟩ | ⟨name, n, hmeans⟩ | ⟨name, n, command, hmeans, hne, hhead⟩
    · rw [readErrand_of_fault hfound] at h
      cases h
    · rw [readErrand_of_marks hmeans] at h
      cases h
    · rw [readErrand_of_command hmeans hne hhead] at h
      cases h
      exact ⟨n, command, hmeans, hne, hhead, rfl⟩
  · rintro ⟨n, command, hmeans, hne, hhead, hcommand⟩
    rw [readErrand_of_command hmeans hne hhead, ← hcommand]

end Errands

/-! ### What is told -/

/-- **What words tell.** Words are refused exactly if there are none, if the first is no name and
no sandbox is active, or if only marks are said about the sandbox that is meant. Otherwise they
tell the sandbox that is meant, and the command is what is said about it behind the marks in front,
word for word with single spaces. So it makes no difference whether a mark stands between a name
and a command, and a mark behind the first word of a command is kept. -/
theorem errand_told_iff (words known : List String) (active : Option String) :
    (∀ fault, readErrand words known active = .error fault ↔
      words = [] ∧ fault = .noWords ∨
      (∃ first rest, words = first :: rest ∧ first ∉ known ∧ active = none ∧
        fault = .noneMeant first) ∨
      ∃ name n, Means known active words name (List.replicate n separator) ∧
        fault = .noCommand name) ∧
    (∀ errand, readErrand words known active = .ok errand ↔
      ∃ n command, Means known active words errand.name (List.replicate n separator ++ command) ∧
        command ≠ [] ∧ command.head? ≠ some separator ∧
        errand.command = " ".intercalate command) ∧
    (∀ name ∈ known, ∀ command, command ≠ [] → command.head? ≠ some separator →
      readErrand (name :: separator :: command) known active =
        readErrand (name :: command) known active ∧
      readErrand (name :: command) known active = .ok ⟨name, " ".intercalate command⟩) ∧
    (∀ name n first before after, first ≠ separator →
      Means known active words name
        (List.replicate n separator ++ first :: (before ++ separator :: after)) →
      readErrand words known active =
        .ok ⟨name, " ".intercalate (first :: (before ++ separator :: after))⟩) := by
  refine ⟨?_, fun errand => readErrand_eq_ok, ?_, ?_⟩
  · intro fault
    rw [readErrand_eq_error, errandSandbox_eq_error, or_assoc]
  · intro name hknown command hne hhead
    have hplain : Means known active (name :: command) name (List.replicate 0 separator ++ command) :=
      .named hknown
    have hmarked : Means known active (name :: separator :: command) name
        (List.replicate 1 separator ++ command) := .named hknown
    rw [readErrand_of_command hplain hne hhead, readErrand_of_command hmarked hne hhead]
    exact ⟨rfl, rfl⟩
  · intro name n first before after hfirst hmeans
    exact readErrand_of_command hmeans (by simp) (by simpa using hfirst)

/-- Two marks in front of a command fall away and the one inside it stays. -/
theorem mark_inside_command :
    Means ["box"] (some "other") ["box", "--", "--", "git", "log", "--", "src"] "box"
        (List.replicate 2 separator ++ "git" :: (["log"] ++ separator :: ["src"])) ∧
      readErrand ["box", "--", "--", "git", "log", "--", "src"] ["box"] (some "other") =
        .ok ⟨"box", "git log -- src"⟩ := by
  have hmeans : Means ["box"] (some "other") ["box", "--", "--", "git", "log", "--", "src"] "box"
      (List.replicate 2 separator ++ "git" :: (["log"] ++ separator :: ["src"])) :=
    .named (by decide)
  exact ⟨hmeans, (errand_told_iff _ _ _).2.2.2 _ _ _ _ _ (by decide) hmeans⟩

end SandboxClient.Session
