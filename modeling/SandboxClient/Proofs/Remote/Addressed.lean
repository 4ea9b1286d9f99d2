/-
  SandboxClient/Proofs/Remote/Addressed.lean
  ==========================================
  **What the requests of a client are about.** A client puts names given to it
  into the path of a request. A name becomes one segment, and what the server
  reads in it is the name, exactly if the name is not a step and has no tabs or
  line ends: `endpoint_names_iff`. A request about any other name is about
  something else, for two dots about all that the names are under.
-/
import SandboxClient.Proofs.Url.Below
import SandboxClient.Remote.Calls

namespace SandboxClient.Remote

open SandboxClient.Url

/-! ### Clients

The base of a client is fixed, so all of its endpoints lie below one path. -/

theorem hasSegments_of_build {address : String} {token : Option String} {insecure : Bool}
    {c : Client} (h : Client.build address token insecure = .ok c) :
    ∃ done, c.base.path = .segments done := by
  unfold Client.build at h
  dsimp only at h
  split at h
  · cases h
  · rename_i u _
    split at h
    · rename_i hsegments
      cases h
      unfold Url.hasSegments at hsegments
      split at hsegments
      · rename_i done hdone
        exact ⟨done, hdone⟩
      · cases hsegments
    · cases h

/-- The endpoint is below the base with one segment for each text, which stands for the text. -/
def Client.Names (c : Client) (done : List (List Char)) (ss : List String) : Prop :=
  ∃ added, c.endpoint ss = { c.base with path := .segments (ownSegments done ++ added) } ∧
    List.Forall₂ (StandsFor c.base.scheme) added ss

/-! ### Requests -/

/-- A call asks for something to be removed at an endpoint and for nothing else, or asks for
nothing. -/
def Client.OnlyDeletes (c : Client) (call : Call Unit) (ss : List String) : Prop :=
  ∀ n : Network, (call n).2.sent = n.sent ∨
    ∃ r, (call n).2.sent = n.sent ++ [r] ∧ r.method = .delete ∧
      r.url = (c.endpoint ss).requestText

/-- What follows a call without asking anything leaves the network as the call does. -/
theorem network_bind {α β : Type} {call : Call α} {next : α → Call β}
    (h : ∀ a n, (next a n).2 = n) (n : Network) : ((call >>= next) n).2 = (call n).2 := by
  show (ExceptT.bindCont next (call n).1 (call n).2).2 = (call n).2
  cases (call n).1 with
  | error _ => rfl
  | ok a => exact h a _

theorem network_exchange (r : Request) (n : Network) :
    (exchange r n).2.sent = n.sent ∨ (exchange r n).2.sent = n.sent ++ [r] := by
  show (n.exchange r).2.sent = n.sent ∨ (n.exchange r).2.sent = n.sent ++ [r]
  unfold Network.exchange
  split
  · exact Or.inl rfl
  · exact Or.inr rfl

theorem network_send (c : Client) (method : Method) (ss : List String) (body : Option Json.Value)
    (n : Network) :
    (c.send method ss body n).2.sent = n.sent ∨
      (c.send method ss body n).2.sent = n.sent ++ [c.request method ss body] := by
  unfold Client.send
  dsimp only
  split
  · exact Or.inl rfl
  · split
    · exact Or.inl rfl
    · rw [network_bind]
      · exact network_exchange _ n
      · intro reply m
        cases reply <;> rfl

theorem onlyDeletes_tell (c : Client) (ss : List String) :
    c.OnlyDeletes (c.tell .delete ss none) ss := by
  intro n
  unfold Client.tell
  rw [network_bind]
  · rcases network_send c .delete ss none n with hnone | hone
    · exact Or.inl hnone
    · exact Or.inr ⟨_, hone, rfl, rfl⟩
  · intro reply m
    split <;> rfl

/-! ### Names in paths

A name can be read off the request that was made for it. -/

theorem isName_toString (id : Nat) : IsName (toString id) := by
  have hdigits : ∀ c ∈ (toString id).toList, c.isDigit = true := by
    intro c hc
    rw [Nat.toString_eq_repr, Nat.toList_repr] at hc
    exact Nat.isDigit_of_mem_toDigits (by decide) (by decide) hc
  refine ⟨?_, ?_, ?_⟩
  · intro h
    rw [h] at hdigits
    exact absurd (hdigits '.' (by decide)) (by decide)
  · intro h
    rw [h] at hdigits
    exact absurd (hdigits '.' (by decide)) (by decide)
  · intro c hc
    apply Bool.eq_false_iff.mpr
    intro hdropped
    have hdigit := hdigits c hc
    simp only [isDropped, Bool.or_eq_true, beq_iff_eq] at hdropped
    rcases hdropped with (rfl | rfl) | rfl <;> cases hdigit

/-- What may stand before the path of a server: its own path does not end in two slashes, and in
a local file it does not begin with one. -/
def Client.HasPlainBase (c : Client) (done : List (List Char)) : Prop :=
  ownSegments done ≠ [[]] ∧ (c.base.scheme = fileScheme → (ownSegments done).head? ≠ some [])

theorem canFollow_api (c : Client) (done : List (List Char)) (ss : List String) :
    CanFollow c.base.scheme (ownSegments done) ("api" :: ss) ↔
      c.HasPlainBase done ∧ ∀ s ∈ ss, IsName s := by
  rw [canFollow_cons_iff (by decide) (by decide) (by decide), Client.HasPlainBase, and_assoc]

theorem eq_of_after_slash {front front' a b : List Char} (ha : '/' ∉ a) (hb : '/' ∉ b)
    (h : front ++ '/' :: a = front' ++ '/' :: b) : a = b := by
  rcases List.append_eq_append_iff.mp h with ⟨more, -, hmore⟩ | ⟨more, -, hmore⟩
  · cases more with
    | nil => exact (List.cons.inj hmore).2
    | cons c more =>
      rw [(List.cons.inj hmore).2] at ha
      exact absurd (by simp) ha
  · cases more with
    | nil => exact (List.cons.inj hmore).2.symm
    | cons c more =>
      rw [(List.cons.inj hmore).2] at hb
      exact absurd (by simp) hb

/-- The last segment of a path can be told from the address that is asked for. -/
theorem requestText_last {u : Url} {front front' : List (List Char)} {a b : List Char}
    (ha : '/' ∉ a) (hb : '/' ∉ b)
    (h : { u with path := .segments (front ++ [a]) }.requestText =
      { u with path := .segments (front' ++ [b]) }.requestText) : a = b := by
  have hchars := congrArg String.toList h
  unfold Url.requestText Url.assemble at hchars
  rw [String.toList_ofList, String.toList_ofList] at hchars
  have hpaths := List.append_cancel_right (List.append_cancel_right hchars)
  simp only [Path.text, List.flatMap_append, List.flatMap_singleton, ← List.append_assoc] at hpaths
  exact eq_of_after_slash ha hb hpaths

theorem not_mem_of_standsFor {scheme a : List Char} {s : String} (h : StandsFor scheme a s) :
    '/' ∉ a := by
  intro hmem
  have hends := h.2 '/' hmem
  cases hspecial : isSpecial scheme <;> rw [hspecial] at hends <;> exact absurd hends (by decide)

/-- Names can be told from the addresses that end in them. -/
theorem eq_of_requestText {u : Url} {front front' : List (List Char)} {s t : String}
    (hs : IsName s) (ht : IsName t)
    (h : { u with path := .segments (front ++ [sent u.scheme s]) }.requestText =
      { u with path := .segments (front' ++ [sent u.scheme t]) }.requestText) : s = t := by
  have hs' : StandsFor u.scheme (sent u.scheme s) s := standsFor_sent_iff.mpr hs.2.2
  have ht' : StandsFor u.scheme (sent u.scheme t) t := standsFor_sent_iff.mpr ht.2.2
  have hsent : sent u.scheme s = sent u.scheme t :=
    requestText_last (not_mem_of_standsFor hs') (not_mem_of_standsFor ht') h
  rw [hsent] at hs'
  exact octets_injective (hs'.1.symm.trans ht'.1)

theorem names_iff {c : Client} {done : List (List Char)} (h : c.base.path = .segments done)
    {ss : List String} (hne : ss ≠ []) :
    c.Names done ss ↔ CanFollow c.base.scheme (ownSegments done) ss :=
  below_iff h hne

/-- Two names below the same path do not share the address that is asked for. -/
theorem endpoint_injective {c : Client} {done : List (List Char)} (h : c.base.path = .segments done)
    {ss : List String} {s t : String} (hs : c.Names done (ss ++ [s])) (ht : c.Names done (ss ++ [t]))
    (htext : (c.endpoint (ss ++ [s])).requestText = (c.endpoint (ss ++ [t])).requestText) :
    s = t := by
  rw [names_iff h (by simp)] at hs ht
  have hs' : c.endpoint (ss ++ [s]) = _ := hs.below h (by simp)
  have ht' : c.endpoint (ss ++ [t]) = _ := ht.below h (by simp)
  rw [hs', ht', List.map_append, List.map_append, ← List.append_assoc, ← List.append_assoc] at htext
  exact eq_of_requestText (hs.names s (by simp)) (ht.names t (by simp)) htext

/-- **What the endpoints of a client address.** There is one segment for each text exactly if the
texts can follow the path of the base. So a snapshot or a route is removed by its name if the name
is no step and has no tabs or line ends, and then no other name has the same address; for other
names something else is removed. -/
theorem endpoint_names_iff {address : String} {token : Option String} {insecure : Bool} {c : Client}
    (h : Client.build address token insecure = .ok c) :
    ∃ done, c.base.path = .segments done ∧
      c.endpoint [] = { c.base with path := .segments (dropEmptyEnd done) } ∧
      (∀ ss, ss ≠ [] → (c.Names done ss ↔ CanFollow c.base.scheme (ownSegments done) ss)) ∧
      (∀ name, c.OnlyDeletes (c.destroySnapshot name) ["api", "snapshots", name] ∧
        (c.Names done ["api", "snapshots", name] ↔ c.HasPlainBase done ∧ IsName name)) ∧
      (∀ id domain,
        c.OnlyDeletes (c.removeRoute id domain) (sandboxPath id ++ ["routes", domain]) ∧
        (c.Names done (sandboxPath id ++ ["routes", domain]) ↔
          c.HasPlainBase done ∧ IsName domain)) ∧
      ∀ ss s t, ss ≠ [] → c.Names done (ss ++ [s]) → c.Names done (ss ++ [t]) →
        (c.endpoint (ss ++ [s])).requestText = (c.endpoint (ss ++ [t])).requestText → s = t := by
  obtain ⟨done, hdone⟩ := hasSegments_of_build h
  refine ⟨done, hdone, path_below hdone [], fun ss hne => names_iff hdone hne, ?_, ?_, ?_⟩
  · intro name
    refine ⟨onlyDeletes_tell c _, ?_⟩
    rw [names_iff hdone (by simp), canFollow_api]
    have hsnapshots : IsName "snapshots" := by decide
    simp [hsnapshots]
  · intro id domain
    refine ⟨onlyDeletes_tell c _, ?_⟩
    have hpath : sandboxPath id ++ ["routes", domain] =
        "api" :: ["sandboxes", toString id, "routes", domain] := rfl
    rw [hpath, names_iff hdone (by simp), canFollow_api]
    have hsandboxes : IsName "sandboxes" := by decide
    have hroutes : IsName "routes" := by decide
    simp only [List.forall_mem_cons, hsandboxes, hroutes, isName_toString, true_and]
    simp
  · intro ss s t _ hs ht htext
    exact endpoint_injective hdone hs ht htext

/-- A client of the server on this machine, behind a path. -/
def localClient : Client :=
  ⟨⟨['h', 't', 't', 'p'], true, [], [], some (.v6 [0, 0, 0, 0, 0, 0, 0, 1]), some 8080,
    .segments [['d', 'e', 'v']], none, none⟩, "http://[::1]:8080/dev", none, false⟩

theorem slashes_name_one_snapshot :
    Client.build "http://[::1]:8080/dev/" none false = .ok localClient ∧
      localClient.Names [['d', 'e', 'v']] ["api", "snapshots", "../a%2Fb?"] := by
  have hbuild : Client.build "http://[::1]:8080/dev/" none false = .ok localClient := by
    decide +kernel
  obtain ⟨done, hdone, -, -, hsnapshot, -⟩ := endpoint_names_iff hbuild
  obtain rfl : [['d', 'e', 'v']] = done := Path.segments.inj hdone
  have hbase : localClient.HasPlainBase [['d', 'e', 'v']] := ⟨by decide, by decide⟩
  exact ⟨hbuild, (hsnapshot "../a%2Fb?").2.mpr ⟨hbase, by decide⟩⟩

/-- Who asks for the snapshot with the name of two dots to be removed asks for all of them. -/
theorem dots_name_all_snapshots :
    Client.build "http://[::1]:8080/dev/" none false = .ok localClient ∧
      (localClient.destroySnapshot ".."
          { answer := fun _ _ => .response ⟨204, none, []⟩, sent := [] }).2.sent =
        [⟨.delete, "http://[::1]:8080/dev/api/snapshots", [], userAgent, none, none⟩] := by
  decide +kernel

end SandboxClient.Remote
