/-
  SandboxClient/Proofs/Server/Provenance.lean
  ===========================================
  **Where tokens and trust come from.** The history of a run is the list of its
  operations, each with the store it met. A token stays with the address it was
  stored under: what an entry holds is what the latest step that stored its
  address gave, however aliases have been moved since. Trust in a certificate
  is given by additions only and goes no further than their address.

  The step lemma is `mem_perform`: an entry after an operation is an old one
  whose address the operation does not store, or it is the one that has just been
  stored. `run_provenance` follows by induction on the run, from its end.
-/
import SandboxClient.Proofs.Server.Runs
import SandboxClient.Server.Token
import Mathlib.Data.List.Induction

namespace SandboxClient.Server

/-! ### Histories

A run is read backwards: what an entry has comes from the latest step that stored its address. -/

/-- The token that an operation gives. -/
def Operation.token : Operation → String
  | .add e => e.token
  | .set _ _ token => token
  | _ => ""

/-- Whether an operation asks that certificates are accepted unchecked; a login never does. -/
def Operation.insecure : Operation → Bool
  | .add e => e.insecure
  | _ => false

/-- An operation and the store it met. -/
structure Step where
  before : Config
  op : Operation
  deriving DecidableEq, Repr

/-- Whether a step adds an entry with an address. -/
def Step.adds (s : Step) (url : String) : Bool :=
  match s.op with
  | .add e => (s.before.perform (.add e)).2.isNone && normalizeUrl e.server == url
  | _ => false

/-- Whether a step stores a login at an address. -/
def Step.logsIn (s : Step) (url : String) : Bool :=
  match s.op with
  | .set _ u _ => normalizeUrl u == url
  | _ => false

/-- Whether a step stores something under an address. -/
def Step.stores (s : Step) (url : String) : Bool := s.adds url || s.logsIn url

/-- The steps of a run. -/
def Config.history (c : Config) : List Operation → List Step
  | [] => []
  | op :: ops => ⟨c, op⟩ :: (c.perform op).1.history ops

/-- The latest step of some kind. -/
def latest (kind : Step → Bool) (steps : List Step) : Option Step := (steps.filter kind).getLast?

theorem latest_append (kind : Step → Bool) (steps : List Step) (s : Step) :
    latest kind (steps ++ [s]) = if kind s then some s else latest kind steps := by
  by_cases h : kind s = true
  · simp [latest, h]
  · simp [latest, h]

namespace Config

theorem history_append (c : Config) (ops : List Operation) (op : Operation) :
    c.history (ops ++ [op]) = c.history ops ++ [⟨c.run ops, op⟩] := by
  induction ops generalizing c with
  | nil => rfl
  | cons o ops ih => simp [history, ih]

/-! ### One step

Tokens and trust are moved by no operation from one address to another. -/

/-- What an addition leaves: the old entries, none of which has the address that is added, and
the new one. -/
theorem mem_add {c c' : Config} {a e : Entry} (h : c.add a = .ok c') (he : e ∈ c'.servers) :
    (e ∈ c.servers ∧ normalizeUrl a.server ≠ e.server) ∨ e = a.normalized := by
  obtain ⟨hapart, rfl⟩ := add_eq_ok h
  rcases List.mem_append.mp he with he | he
  · exact Or.inl ⟨he, (hapart e he).1⟩
  · exact Or.inr (List.mem_singleton.mp he)

/-- The entry that a login is stored in is trusted only if an entry with the same address was. -/
theorem trusted_before_set {c : Config} {name url token : String} {k : Entry}
    (h : (∃ e ∈ c.servers, c.IsTarget name url e ∧ k = updated e name url token) ∨
      ((∀ e ∈ c.servers, ¬ c.IsTarget name url e) ∧ k = ⟨name, url, token, false⟩))
    (hk : k.insecure = true) : ∃ e ∈ c.servers, e.server = k.server ∧ e.insecure = true := by
  rcases h with ⟨e, he, -, rfl⟩ | ⟨-, rfl⟩
  · simp only [updated, Bool.and_eq_true, beq_iff_eq] at hk
    exact ⟨e, he, hk.2, hk.1⟩
  · cases hk

/-- An entry after an operation is an old one whose address the operation does not store, or the
one that has been added, or the one that a login has been stored in. -/
theorem mem_perform {c : Config} {op : Operation} {e : Entry}
    (he : e ∈ (c.perform op).1.servers) :
    (e ∈ c.servers ∧ (Step.mk c op).stores e.server = false) ∨
    ((Step.mk c op).adds e.server = true ∧ e.token = op.token ∧ e.insecure = op.insecure) ∨
    ((Step.mk c op).logsIn e.server = true ∧ e.token = op.token ∧ op.insecure = false ∧
      (e.insecure = true → ∃ s ∈ c.servers, s.server = e.server ∧ s.insecure = true)) := by
  cases op with
  | add a =>
    cases h : c.add a with
    | error conflict =>
      simp only [perform, h] at he
      exact Or.inl ⟨he, by simp [Step.stores, Step.adds, Step.logsIn, perform, h]⟩
    | ok c' =>
      simp only [perform, h] at he
      rcases mem_add h he with ⟨hold, hne⟩ | rfl
      · exact Or.inl ⟨hold, by simp [Step.stores, Step.adds, Step.logsIn, hne]⟩
      · refine Or.inr (Or.inl ⟨by simp [Step.adds, perform, h], ?_, ?_⟩)
        · exact Entry.normalized_token a
        · exact Entry.normalized_insecure a
  | remove key =>
    refine Or.inl ⟨?_, rfl⟩
    cases h : c.remove key with
    | error conflict => simpa [perform, h] using he
    | ok r =>
      obtain ⟨before, after, hl, hc⟩ := remove_eq_ok h
      simp only [perform, h, hc] at he
      rw [hl]
      rcases List.mem_append.mp he with he | he
      · exact List.mem_append_left _ he
      · exact List.mem_append_right _ (List.mem_cons_of_mem _ he)
  | use key =>
    refine Or.inl ⟨?_, rfl⟩
    cases h : c.use key with
    | error conflict => simpa [perform, h] using he
    | ok r =>
      rw [perform, h] at he
      rw [(use_eq_ok h).2] at he
      exact he
  | set name url token =>
    obtain ⟨k, -, -, hserver, htoken, hmem, horigin⟩ := mem_set c name url token
    rcases (hmem e).mp he with rfl | ⟨hold, hapart⟩
    · refine Or.inr (Or.inr ⟨by simp [Step.logsIn, hserver], htoken, rfl, ?_⟩)
      exact trusted_before_set horigin
    · refine Or.inl ⟨hold, ?_⟩
      have hne : normalizeUrl url ≠ e.server := hserver ▸ hapart.1
      simp [Step.stores, Step.adds, Step.logsIn, hne]

/-! ### Whole runs -/

/-- What the history of a run says about an entry of the store that it leads to. -/
structure Traced (steps : List Step) (e : Entry) : Prop where
  /-- The token is the one that was stored last under the address. -/
  token : ∃ s, latest (fun s => s.stores e.server) steps = some s ∧ e.token = s.op.token
  /-- Trust is what the latest addition of the address asked for. -/
  trust : e.insecure = true →
    ∃ s, latest (fun s => s.adds e.server) steps = some s ∧ s.op.insecure = true
  /-- Trusted or not, some step that stored the address left it so. -/
  flag : ∃ s ∈ steps, s.stores e.server = true ∧ s.op.insecure = e.insecure

/-- Steps that store other addresses leave an entry traced. -/
theorem Traced.append {steps : List Step} {e : Entry} {s : Step} (h : Traced steps e)
    (hs : s.stores e.server = false) : Traced (steps ++ [s]) e := by
  have hadds : s.adds e.server = false := (Bool.or_eq_false_iff.mp hs).1
  obtain ⟨t, ht, hstores, hflag⟩ := h.flag
  refine ⟨?_, ?_, t, List.mem_append_left _ ht, hstores, hflag⟩
  · simpa [latest_append, hs] using h.token
  · simpa [latest_append, hadds] using h.trust

theorem traced_run (ops : List Operation) :
    ∀ e ∈ (empty.run ops).servers, Traced (empty.history ops) e := by
  induction ops using List.reverseRecOn with
  | nil =>
    intro e he
    cases he
  | append_singleton ops op ih =>
    intro e he
    rw [run_append_singleton] at he
    rw [history_append]
    rcases mem_perform he with ⟨hold, hstores⟩ | ⟨hadds, htoken, hinsecure⟩ |
      ⟨hlogsIn, htoken, hasks, htrust⟩
    · exact (ih e hold).append hstores
    · have hstores : (Step.mk (empty.run ops) op).stores e.server = true := by
        simp [Step.stores, hadds]
      refine ⟨⟨⟨empty.run ops, op⟩, by simp [latest_append, hstores], htoken⟩, ?_,
        ⟨⟨empty.run ops, op⟩, by simp, hstores, hinsecure.symm⟩⟩
      intro hi
      exact ⟨⟨empty.run ops, op⟩, by simp [latest_append, hadds], hinsecure ▸ hi⟩
    · have hstores : (Step.mk (empty.run ops) op).stores e.server = true := by
        simp [Step.stores, hlogsIn]
      have hadds : (Step.mk (empty.run ops) op).adds e.server = false := by
        cases op <;> simp_all [Step.logsIn, Step.adds]
      refine ⟨⟨⟨empty.run ops, op⟩, by simp [latest_append, hstores], htoken⟩, ?_, ?_⟩
      · -- the login kept what an earlier addition of the same address had asked for
        intro hi
        obtain ⟨s, hs, hserver, hsi⟩ := htrust hi
        rw [← hserver] at hadds ⊢
        simpa [latest_append, hadds] using (ih s hs).trust hsi
      · by_cases hi : e.insecure = true
        · obtain ⟨s, hs, hserver, hsi⟩ := htrust hi
          obtain ⟨t, ht, htstores, htflag⟩ := (ih s hs).flag
          exact ⟨t, List.mem_append_left _ ht, hserver ▸ htstores, by rw [htflag, hsi, hi]⟩
        · exact ⟨⟨empty.run ops, op⟩, by simp, hstores, by simpa [hi] using hasks⟩

/-- A connection without a token from the environment is made of the current entry. -/
theorem connection_eq_ok {c : Config} {conn : Connection} (h : c.connection none = .ok conn) :
    ∃ e, c.current? = some e ∧ conn = ⟨e.server, Text.trimmed e.token, e.insecure⟩ := by
  unfold connection at h
  cases hc : c.current? with
  | none => simp [hc] at h
  | some e =>
    simp only [hc, resolveToken] at h
    refine ⟨e, rfl, ?_⟩
    by_cases hempty : e.token.isEmpty = true
    · simp [hempty] at h
    · by_cases hblank : Text.isBlankText e.token = true
      · simp [hempty, hblank] at h
      · simp only [hempty, hblank, if_false, Bool.false_eq_true, Except.ok.injEq] at h
        exact h.symm

theorem isBlankText_eq (s : String) : Text.isBlankText s = (Text.trimmed s).isEmpty := by
  rw [Bool.eq_iff_iff, String.isEmpty_iff, Text.isBlankText, Text.trimmed, List.isEmpty_iff,
    String.ofList_eq_empty_iff]

/-- Whoever asks the store for a connection is led to an address with a token, as far as the token
goes beyond the blanks around it. -/
def LeadsTo (c : Config) (url token : String) : Prop :=
  ∃ conn, c.connection none = .ok conn ∧ conn.url = url ∧ conn.token = Text.trimmed token

theorem leadsTo_iff {c : Config} {url token : String} : c.LeadsTo url token ↔
    Text.isBlankText token = false ∧
      ∃ e, c.current? = some e ∧ e.server = url ∧ Text.trimmed e.token = Text.trimmed token := by
  constructor
  · rintro ⟨conn, hconn, rfl, htoken⟩
    obtain ⟨e, hcurrent, rfl⟩ := connection_eq_ok hconn
    refine ⟨?_, e, hcurrent, rfl, htoken⟩
    rw [isBlankText_eq, ← htoken, ← isBlankText_eq, ← Bool.not_eq_true]
    intro hblank
    by_cases hempty : e.token = "" <;>
      simp [connection, hcurrent, resolveToken, hempty, hblank] at hconn
  · rintro ⟨hvisible, e, hcurrent, rfl, htoken⟩
    have hblank : Text.isBlankText e.token = false := by
      rw [isBlankText_eq, htoken, ← isBlankText_eq]
      exact hvisible
    have hempty : e.token ≠ "" := by
      intro hempty
      rw [hempty] at hblank
      exact absurd hblank (by decide)
    refine ⟨⟨e.server, Text.trimmed e.token, e.insecure⟩, ?_, rfl, htoken⟩
    simp [connection, hcurrent, resolveToken, hempty, hblank]

/-- **Tokens and trust stay with their address.** After any run from the empty store the token of
an entry is the one that was stored last under its address, and an entry is trusted only if the
latest addition of its address asked for that; so a connection carries only what was given for
the address that it goes to. -/
theorem run_provenance (ops : List Operation) :
    (∀ e ∈ (empty.run ops).servers,
      (∃ s, latest (fun s => s.stores e.server) (empty.history ops) = some s ∧
        e.token = s.op.token) ∧
      (e.insecure = true → ∃ s, latest (fun s => s.adds e.server) (empty.history ops) = some s ∧
        s.op.insecure = true)) ∧
    ∀ conn, (empty.run ops).connection none = .ok conn →
      (∃ s, latest (fun s => s.stores conn.url) (empty.history ops) = some s ∧
        conn.token = Text.trimmed s.op.token) ∧
      (conn.insecure = true → ∃ s,
        latest (fun s => s.adds conn.url) (empty.history ops) = some s ∧ s.op.insecure = true) ∧
      ∃ s ∈ empty.history ops, s.stores conn.url = true ∧ s.op.insecure = conn.insecure := by
  constructor
  · intro e he
    exact ⟨(traced_run ops e he).token, (traced_run ops e he).trust⟩
  · intro conn hconn
    obtain ⟨e, hcurrent, rfl⟩ := connection_eq_ok hconn
    have htraced := traced_run ops e (mem_of_current? hcurrent).2.1
    obtain ⟨s, hs, htoken⟩ := htraced.token
    exact ⟨⟨s, hs, by rw [htoken]⟩, htraced.trust, htraced.flag⟩

end Config

end SandboxClient.Server
