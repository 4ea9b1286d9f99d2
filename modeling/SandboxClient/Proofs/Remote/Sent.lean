/-
  SandboxClient/Proofs/Remote/Sent.lean
  =====================================
  **What a call sends.** Whether a client hands anything to the network depends on
  the client alone: its address must be of a kind that is asked, and what it tells
  about itself must fit in a header. Then each call hands over one request, and
  what comes of the call is what the reply to this request says.
-/
import SandboxClient.Proofs.Files.Calls
import SandboxClient.Proofs.Remote.Addressed

namespace SandboxClient.Remote

open SandboxClient.Files (bind_of_ok bind_eq_ok pure_eq_ok throw_ne_ok)
open SandboxClient.Json (Reader Value)

/-! ### The network -/

theorem exchange_eq_response {n n' : Network} {r : Request} {a : Response} :
    n.exchange r = (.response a, n') ↔
      n.answer n.sent r = .response a ∧ n' = { n with sent := n.sent ++ [r] } := by
  unfold Network.exchange
  cases hreply : n.answer n.sent r with
  | unreachable => simp
  | dropped => simp
  | response a' => simp [eq_comm]

/-- What a request adds to those that have reached a server: nothing if none is reached. -/
def Network.heard (n : Network) (r : Request) : List Request :=
  if n.answer n.sent r = .unreachable then [] else [r]

theorem sent_exchange (n : Network) (r : Request) : (n.exchange r).2.sent = n.sent ++ n.heard r := by
  unfold Network.exchange Network.heard
  cases hreply : n.answer n.sent r <;> simp

theorem mem_heard {n : Network} {r r' : Request} (h : r' ∈ n.heard r) : r' = r := by
  unfold Network.heard at h
  split at h
  · cases h
  · exact List.mem_singleton.mp h

/-- The network after requests that are handed to it in a row, each of them once. -/
def Network.after (n : Network) (rs : List Request) : Network :=
  rs.foldl (fun n r => (n.exchange r).2) n

theorem after_cons (n : Network) (r : Request) (rs : List Request) :
    n.after (r :: rs) = (n.exchange r).2.after rs := rfl

/-- Of requests in a row those reach a server for which one is reached, each of them once. -/
theorem sent_after (n : Network) (rs : List Request) :
    ∃ reached : List Request, reached.Sublist rs ∧ (n.after rs).sent = n.sent ++ reached := by
  induction rs generalizing n with
  | nil => exact ⟨[], List.Sublist.refl _, (List.append_nil _).symm⟩
  | cons r rs ih =>
    obtain ⟨reached, hreached, hsent⟩ := ih (n.exchange r).2
    refine ⟨n.heard r ++ reached, ?_, ?_⟩
    · have hheard : (n.heard r).Sublist [r] := by
        unfold Network.heard
        split
        · exact List.nil_sublist _
        · exact List.Sublist.refl _
      exact hheard.append hreached
    · rw [after_cons, hsent, sent_exchange, List.append_assoc]

theorem answer_exchange (n : Network) (r : Request) : (n.exchange r).2.answer = n.answer := by
  unfold Network.exchange
  cases n.answer n.sent r <;> rfl

/-- Where a server is always reached, all requests reach one, in order. -/
theorem sent_after_of_reached {n : Network} (h : ∀ sent r, n.answer sent r ≠ .unreachable)
    (rs : List Request) : (n.after rs).sent = n.sent ++ rs := by
  induction rs generalizing n with
  | nil => exact (List.append_nil _).symm
  | cons r rs ih =>
    have hheard : n.heard r = [r] := if_neg (h n.sent r)
    have hnext : ((n.exchange r).2.after rs).sent = (n.exchange r).2.sent ++ rs := by
      apply ih
      rw [answer_exchange]
      exact h
    rw [after_cons, hnext, sent_exchange, hheard, List.append_assoc]
    rfl

/-! ### Clients that speak

Such a client hands every request over, whether or not a server is reached. -/

/-- Whether a client hands its requests to the network. -/
def Client.speaks (c : Client) : Bool :=
  isAsked c.base &&
    ((userHeader? c.base).toList ++ c.token.toList.map tokenHeader).all isHeaderValue

section Calls

variable {c : Client} {method : Method} {ss : List String} {body : Option Value} {n n' : Network}

/-- Nothing but the path tells an endpoint from the address of the server. -/
theorem endpoint_eq (c : Client) (ss : List String) :
    ∃ path, c.endpoint ss = { c.base with path := path } := by
  unfold Client.endpoint Url.below
  split
  · exact ⟨c.base.path, rfl⟩
  · exact ⟨_, rfl⟩

theorem isAsked_endpoint (c : Client) (ss : List String) :
    isAsked { c.endpoint ss with username := [], password := [] } = isAsked c.base := by
  obtain ⟨path, h⟩ := endpoint_eq c ss
  rw [h]
  rfl

theorem request_authorization (c : Client) (method : Method) (ss : List String)
    (body : Option Value) : (c.request method ss body).authorization =
      (userHeader? c.base).toList ++ c.token.toList.map tokenHeader := by
  obtain ⟨path, h⟩ := endpoint_eq c ss
  unfold Client.request
  rw [h]
  rfl

theorem send_of_not_speaks (h : c.speaks = false) :
    ∃ fault, c.send method ss body n = (.error fault, n) := by
  unfold Client.send
  simp only [isAsked_endpoint, request_authorization]
  by_cases hasked : isAsked c.base = true
  · rw [Client.speaks, hasked, Bool.true_and] at h
    rw [hasked, h]
    exact ⟨_, rfl⟩
  · rw [Bool.eq_false_iff.mpr hasked]
    exact ⟨_, rfl⟩

/-- The request of a client that speaks is handed over, and its reply is the result. -/
theorem send_of_speaks (h : c.speaks = true) :
    ∃ url : String, c.send method ss body n =
      ((match (n.exchange (c.request method ss body)).1 with
        | .unreachable => .error (.noAnswer (.unreachable url))
        | .dropped => .error (.noAnswer (.dropped url))
        | .response a => .ok a), (n.exchange (c.request method ss body)).2) := by
  obtain ⟨hasked, hheaders⟩ := Bool.and_eq_true_iff.mp h
  refine ⟨{ c.endpoint ss with username := [], password := [] }.text, ?_⟩
  unfold Client.send
  simp only [isAsked_endpoint, request_authorization, hasked, hheaders]
  have hexchange : exchange (c.request method ss body) n =
      (.ok (n.exchange (c.request method ss body)).1,
        (n.exchange (c.request method ss body)).2) := rfl
  rw [if_neg (by decide), if_neg (by decide), bind_of_ok hexchange]
  cases (n.exchange (c.request method ss body)).1 <;> rfl

theorem send_eq_ok {a : Response} : c.send method ss body n = (.ok a, n') ↔
    c.speaks = true ∧ n.exchange (c.request method ss body) = (.response a, n') := by
  by_cases h : c.speaks = true
  · obtain ⟨url, hsend⟩ := @send_of_speaks c method ss body n h
    rw [hsend, and_iff_right h]
    rcases n.exchange (c.request method ss body) with ⟨reply, m⟩
    cases reply with
    | response a' =>
      constructor
      · rintro ⟨⟩
        rfl
      · rintro ⟨⟩
        rfl
    | _ =>
      constructor
      · rintro ⟨⟩
      · rintro ⟨⟩
  · obtain ⟨fault, hsend⟩ := @send_of_not_speaks c method ss body n (Bool.eq_false_iff.mpr h)
    rw [hsend]
    constructor
    · rintro ⟨⟩
    · rintro ⟨hspeaks, -⟩
      exact absurd hspeaks h

theorem network_send_eq : (c.send method ss body n).2 =
    if c.speaks then (n.exchange (c.request method ss body)).2 else n := by
  by_cases h : c.speaks = true
  · obtain ⟨url, hsend⟩ := @send_of_speaks c method ss body n h
    rw [hsend, if_pos h]
  · obtain ⟨fault, hsend⟩ := @send_of_not_speaks c method ss body n (Bool.eq_false_iff.mpr h)
    rw [hsend, if_neg h]

/-! ### Questions -/

theorem refuse_ne_ok {α : Type} {a : Response} {x : α} :
    ¬ (refuse a : Call α) n = (.ok x, n') := by
  intro h
  cases h

theorem ask_eq_ok {α : Type} {what : String} {reader : Reader α} {x : α} :
    c.ask method ss body what reader n = (.ok x, n') ↔
      c.speaks = true ∧ ∃ a, n.exchange (c.request method ss body) = (.response a, n') ∧
        a.succeeded = true ∧ Json.decode reader a.body = some x := by
  unfold Client.ask
  rw [bind_eq_ok]
  constructor
  · rintro ⟨a, m, hsend, hrest⟩
    obtain ⟨hspeaks, hexchange⟩ := send_eq_ok.mp hsend
    by_cases hsucceeded : a.succeeded = true
    · rw [if_neg (by simp [hsucceeded])] at hrest
      cases hdecode : Json.decode reader a.body with
      | none =>
        simp only [hdecode] at hrest
        exact absurd hrest throw_ne_ok
      | some y =>
        simp only [hdecode] at hrest
        obtain ⟨rfl, rfl⟩ := pure_eq_ok.mp hrest
        exact ⟨hspeaks, a, hexchange, hsucceeded, hdecode⟩
    · rw [if_pos (by simpa using hsucceeded)] at hrest
      exact absurd hrest refuse_ne_ok
  · rintro ⟨hspeaks, a, hexchange, hsucceeded, hdecode⟩
    refine ⟨a, n', send_eq_ok.mpr ⟨hspeaks, hexchange⟩, ?_⟩
    rw [if_neg (by simp [hsucceeded])]
    simp only [hdecode]
    exact pure_eq_ok.mpr ⟨rfl, rfl⟩

theorem network_ask {α : Type} {what : String} {reader : Reader α} :
    (c.ask method ss body what reader n).2 =
      if c.speaks then (n.exchange (c.request method ss body)).2 else n := by
  unfold Client.ask
  rw [network_bind, network_send_eq]
  intro a m
  split
  · rfl
  · cases Json.decode reader a.body <;> rfl

theorem network_tell : (c.tell method ss body n).2 =
    if c.speaks then (n.exchange (c.request method ss body)).2 else n := by
  unfold Client.tell
  rw [network_bind, network_send_eq]
  intro a m
  split <;> rfl

/-! ### Logins -/

/-- The last request in the network asked about a login, and the answer to it, with the status
200, holds a token. -/
def Client.Granted (c : Client) (token : String) (n : Network) : Prop :=
  ∃ sent code a, n.sent = sent ++ [c.request .post ["api", "auth", "device_token"]
      (some (.object [("device_code", .text code)]))] ∧
    n.answer sent (c.request .post ["api", "auth", "device_token"]
      (some (.object [("device_code", .text code)]))) = .response a ∧
    a.status = 200 ∧ Json.decode grantedTokenReader a.body = some token

theorem granted_of_pollDeviceToken {code token : String}
    (h : c.pollDeviceToken code n = (.ok (.approved token), n')) : c.Granted token n' := by
  unfold Client.pollDeviceToken at h
  obtain ⟨a, m, hsend, hrest⟩ := bind_eq_ok.mp h
  obtain ⟨hanswer, hm⟩ := exchange_eq_response.mp (send_eq_ok.mp hsend).2
  by_cases hstatus : a.status = 200
  · rw [if_pos (by simpa using hstatus)] at hrest
    cases hdecode : Json.decode grantedTokenReader a.body with
    | none =>
      simp only [hdecode] at hrest
      exact absurd hrest throw_ne_ok
    | some granted =>
      simp only [hdecode] at hrest
      cases hrest
      rw [hm]
      exact ⟨n.sent, code, a, rfl, hanswer, hstatus, hdecode⟩
  · rw [if_neg (by simpa using hstatus)] at hrest
    split at hrest
    · cases hrest
    · cases hrest

end Calls

end SandboxClient.Remote
