/-
  SandboxClient/Proofs/Remote/SandboxPaths.lean
  =============================================
  **What is below the path of a sandbox.** A client that is asked knows a path for
  each sandbox. Steps that are put behind it are in the path as they are meant
  exactly if they are names: `reaches_iff`. If only the last of two is none, the
  path is still one below the sandbox, but it may be that of the sandbox itself.
-/
import SandboxClient.Proofs.Remote.Addressed

namespace SandboxClient.Remote

open SandboxClient.Url

/-- The endpoint of steps behind others is below the endpoint of these. -/
def Client.Under (c : Client) (ss steps : List String) : Prop :=
  ∃ path added, c.endpoint ss = { c.base with path := .segments path } ∧
    c.endpoint (ss ++ steps) = { c.base with path := .segments (path ++ added) }

/-- The endpoint of steps behind others is below the endpoint of these, and what is added stands for
the steps. -/
def Client.Reaches (c : Client) (ss steps : List String) : Prop :=
  ∃ path added, c.endpoint ss = { c.base with path := .segments path } ∧
    c.endpoint (ss ++ steps) = { c.base with path := .segments (path ++ added) } ∧
    List.Forall₂ (StandsFor c.base.scheme) added steps

theorem Client.Reaches.under {c : Client} {ss steps : List String} (h : c.Reaches ss steps) :
    c.Under ss steps := by
  obtain ⟨path, added, hpath, hadded, -⟩ := h
  exact ⟨path, added, hpath, hadded⟩

section Asked

variable {c : Client} {done : List (List Char)}

theorem scheme_of_isAsked {u : Url} (h : isAsked u = true) : u.scheme ≠ fileScheme := by
  intro hscheme
  have hhttp := (Bool.and_eq_true_iff.mp h).2
  rw [hscheme] at hhttp
  exact absurd hhttp (by decide)

/-- Names are put behind the path of an address that is asked, whatever that is, and then whatever
follows them. -/
theorem endpoint_api (h : c.base.path = .segments done) (hasked : isAsked c.base = true) :
    ∃ front, ∀ ss steps, (∀ s ∈ ss, IsName s) → c.endpoint (("api" :: ss) ++ steps) =
      { c.base with path := .segments (steps.foldl (appendSegment c.base.scheme)
        (front ++ ("api" :: ss).map (sent c.base.scheme))) } := by
  have hpath : ∀ done ss, done ≠ [[]] → (∀ s ∈ ss, IsName s) →
      ("api" :: ss).foldl (appendSegment c.base.scheme) done =
        done ++ ("api" :: ss).map (sent c.base.scheme) := by
    intro done ss hroot hnames
    apply CanFollow.foldl
    rw [canFollow_cons_iff (by decide) (by decide) (by decide)]
    exact ⟨hroot, fun hscheme => absurd hscheme (scheme_of_isAsked hasked), hnames⟩
  by_cases hroot : dropEmptyEnd done = [[]]
  · refine ⟨[], fun ss steps hnames => ?_⟩
    unfold Client.endpoint
    rw [path_below h, hroot, List.foldl_append, foldl_root (by decide), hpath [] ss (by simp) hnames]
  · refine ⟨dropEmptyEnd done, fun ss steps hnames => ?_⟩
    unfold Client.endpoint
    rw [path_below h, List.foldl_append, hpath _ ss hroot hnames]

/-- Requests that end in different names are different. -/
theorem eq_of_endpoint (h : c.base.path = .segments done) (hasked : isAsked c.base = true)
    {ss ss' : List String} {s t : String} (hs : ∀ n ∈ ss ++ [s], IsName n)
    (ht : ∀ n ∈ ss' ++ [t], IsName n)
    (htext : (c.endpoint ("api" :: (ss ++ [s]))).requestText =
      (c.endpoint ("api" :: (ss' ++ [t]))).requestText) : s = t := by
  obtain ⟨front, hfront⟩ := endpoint_api h hasked
  have hs' := hfront _ [] hs
  have ht' := hfront _ [] ht
  rw [List.append_nil, List.foldl_nil] at hs' ht'
  rw [hs', ht', ← List.cons_append, ← List.cons_append, List.map_append, List.map_append,
    ← List.append_assoc, ← List.append_assoc] at htext
  exact eq_of_requestText (hs s (by simp)) (ht t (by simp)) htext

/-- The path of a sandbox, and how steps are put behind it. -/
theorem endpoint_sandbox (h : c.base.path = .segments done) (hasked : isAsked c.base = true)
    (id : Nat) : ∃ path, 1 < path.length ∧
      c.endpoint (sandboxPath id) = { c.base with path := .segments path } ∧
      ∀ steps, c.endpoint (sandboxPath id ++ steps) =
        { c.base with path := .segments (steps.foldl (appendSegment c.base.scheme) path) } := by
  obtain ⟨front, hfront⟩ := endpoint_api h hasked
  have hnames : ∀ s ∈ ["sandboxes", toString id], IsName s := by
    have hsandboxes : IsName "sandboxes" := by decide
    simpa only [List.forall_mem_cons, hsandboxes, true_and] using
      ⟨isName_toString id, List.forall_mem_nil IsName⟩
  have hsteps := fun steps => hfront _ steps hnames
  refine ⟨_, ?_, ?_, hsteps⟩
  · simp
  · have hnone := hsteps []
    rwa [List.append_nil] at hnone

theorem canFollow_iff {scheme : List Char} {path : List (List Char)} (hfile : scheme ≠ fileScheme)
    (hpath : 1 < path.length) {steps : List String} :
    CanFollow scheme path steps ↔ ∀ step ∈ steps, IsName step := by
  constructor
  · intro hfollow
    exact hfollow.names
  · intro hnames
    refine ⟨hnames, ?_, ?_, fun hscheme => absurd hscheme hfile, fun hscheme => absurd hscheme hfile⟩
    · rintro - rfl
      exact absurd hpath (by decide)
    · rintro rfl
      exact absurd hpath (by decide)

/-- What stands behind the path of a sandbox is what was put there exactly if this is names. -/
theorem reaches_iff (h : c.base.path = .segments done) (hasked : isAsked c.base = true) {id : Nat}
    {steps : List String} :
    c.Reaches (sandboxPath id) steps ↔ ∀ step ∈ steps, IsName step := by
  obtain ⟨path, hlength, hpath, hsteps⟩ := endpoint_sandbox h hasked id
  rw [← canFollow_iff (scheme_of_isAsked hasked) hlength]
  constructor
  · rintro ⟨path', added, hpath', hadded, hstands⟩
    rw [hpath] at hpath'
    obtain rfl := Path.segments.inj (congrArg Url.path hpath')
    rw [hsteps] at hadded
    exact CanFollow.of_foldl (Path.segments.inj (congrArg Url.path hadded)) hstands
  · intro hfollow
    refine ⟨path, _, hpath, ?_, hfollow.standsFor⟩
    rw [hsteps, hfollow.foldl]

/-- Whatever is put behind a path leaves all but its last segment. -/
theorem prefix_appendSegment {scheme : List Char} {path : List (List Char)}
    (hfile : scheme ≠ fileScheme) (hpath : path ≠ []) (x : List Char) (s : String) :
    path <+: appendSegment scheme (path ++ [x]) s := by
  by_cases hdots : s = "." ∨ s = ".."
  · rw [appendSegment_of_dots hdots]
    exact List.prefix_append _ _
  · have hroot : path ++ [x] ≠ [[]] := by
      intro hroot
      have hlength := congrArg List.length hroot
      rw [List.length_append] at hlength
      exact hpath (List.length_eq_zero_iff.mp (by simpa using hlength))
    rw [appendSegment_of_not_dots hdots, if_neg hroot, kept, if_neg hfile]
    unfold putSegment
    split
    · unfold parent
      simp only [beq_eq_false_iff_ne.mpr hfile, Bool.false_and]
      simp
    · split
      · simp
      · split
        · rename_i hdrive
          simp [hfile] at hdrive
        · simp

/-- The path of a name and of anything else behind the path of a sandbox is below that. -/
theorem under_sandbox (h : c.base.path = .segments done) (hasked : isAsked c.base = true)
    {id : Nat} {name : String} (hname : IsName name) (s : String) :
    c.Under (sandboxPath id) [name, s] := by
  obtain ⟨path, hlength, hpath, hsteps⟩ := endpoint_sandbox h hasked id
  have hfollow : CanFollow c.base.scheme path [name] :=
    (canFollow_iff (scheme_of_isAsked hasked) hlength).mpr (by simpa using hname)
  have hne : path ≠ [] := by
    rintro rfl
    exact absurd hlength (by decide)
  obtain ⟨added, hadded⟩ :=
    prefix_appendSegment (scheme_of_isAsked hasked) hne (sent c.base.scheme name) s
  refine ⟨path, added, hpath, ?_⟩
  rw [hsteps, ← List.singleton_append, List.foldl_append, hfollow.foldl, hadded]
  rfl

end Asked

end SandboxClient.Remote
