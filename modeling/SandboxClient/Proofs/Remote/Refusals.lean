/-
  SandboxClient/Proofs/Remote/Refusals.lean
  =========================================
  **What a refusal says.** The message of a refusal is the error that the body
  tells, or else the body, or else the phrase of the status, and there is always
  one: `Says`. It is never empty, and the body and the phrases are never blank;
  but an error that the body tells is taken as it is, so a message is blank
  exactly if the body tells a blank error (`refusal_speaks_iff`).
-/
import SandboxClient.Proofs.Remote.Sent
import SandboxClient.Proofs.Text.Trimmed

namespace SandboxClient.Remote

open SandboxClient.Files (bind_of_ok)
open SandboxClient.Json (Reader Value)
open SandboxClient.Text (isBlankText trimmed isBlankText_trimmed)

/-! ### Messages

What an answer says is defined by its parts, without the order in which they are looked at. -/

def Response.text (r : Response) (read : BodyReader) : String := read r.contentType r.body

/-- The error that the body of an answer tells, if it is a document that tells one. -/
def Response.errorText? (r : Response) (read : BodyReader) : Option String :=
  Json.decode errorReader (Text.octets (r.text read))

/-- What an answer says as a refusal. -/
inductive Response.Says (r : Response) (read : BodyReader) : String → Prop
  | error {m : String} (herror : r.errorText? read = some m) (hne : m ≠ "") : r.Says read m
  | body (herror : ∀ m ∈ r.errorText? read, m = "") (hbody : isBlankText (r.text read) = false) :
    r.Says read (trimmed (r.text read))
  | phrase {p : String} (herror : ∀ m ∈ r.errorText? read, m = "")
    (hbody : isBlankText (r.text read) = true) (hphrase : reasonPhrase? r.status = some p) :
    r.Says read p
  | status (herror : ∀ m ∈ r.errorText? read, m = "")
    (hbody : isBlankText (r.text read) = true) (hphrase : reasonPhrase? r.status = none) :
    r.Says read "unexpected status"

section Messages

variable {r : Response} {read : BodyReader} {m : String}

theorem filter_errorText?_eq_none (h : ∀ m ∈ r.errorText? read, m = "") :
    (r.errorText? read).filter (fun m => !m.isEmpty) = none := by
  rw [Option.filter_eq_none_iff]
  intro m hm
  rw [h m hm]
  decide

theorem refusalMessage_eq (read : BodyReader) (r : Response) : refusalMessage read r =
    ((r.errorText? read).filter (fun m => !m.isEmpty)).getD
      (if isBlankText (r.text read) then (reasonPhrase? r.status).getD "unexpected status"
        else trimmed (r.text read)) := by
  unfold refusalMessage
  dsimp only
  split
  · rename_i m hsome
    rw [show (r.errorText? read).filter (fun m => !m.isEmpty) = some m from hsome]
    rfl
  · rename_i hnone
    rw [show (r.errorText? read).filter (fun m => !m.isEmpty) = none from hnone]
    rfl

/-- An answer says one thing. -/
theorem says_iff : r.Says read m ↔ m = refusalMessage read r := by
  rw [refusalMessage_eq]
  constructor
  · rintro (⟨herror, hne⟩ | ⟨herror, hbody⟩ | ⟨herror, hbody, hphrase⟩ | ⟨herror, hbody, hphrase⟩)
    · simp [herror, Option.filter, hne]
    · simp [filter_errorText?_eq_none herror, hbody]
    · simp [filter_errorText?_eq_none herror, hbody, hphrase]
    · simp [filter_errorText?_eq_none herror, hbody, hphrase]
  · rintro rfl
    rcases Option.eq_none_or_eq_some ((r.errorText? read).filter (fun m => !m.isEmpty)) with
      hnone | ⟨m, hsome⟩
    · have herror : ∀ m ∈ r.errorText? read, m = "" := by
        intro m hm
        simpa using Option.filter_eq_none_iff.mp hnone m hm
      rw [hnone, Option.getD_none]
      split
      · rename_i hbody
        rcases Option.eq_none_or_eq_some (reasonPhrase? r.status) with hphrase | ⟨p, hphrase⟩
        · rw [hphrase]
          exact .status herror hbody hphrase
        · rw [hphrase]
          exact .phrase herror hbody hphrase
      · rename_i hbody
        exact .body herror (Bool.eq_false_iff.mpr hbody)
    · obtain ⟨herror, hne⟩ := Option.filter_eq_some_iff.mp hsome
      rw [hsome, Option.getD_some]
      exact .error herror (by simpa using hne)

theorem not_blank_of_reasonPhrase? {status : Nat} {p : String}
    (h : reasonPhrase? status = some p) : isBlankText p = false := by
  have hphrases : ∀ p ∈ reasonPhrases, isBlankText p.2 = false := by
    decide +kernel
  obtain ⟨before, after, heq, -⟩ := List.lookup_eq_some_iff.mp h
  exact hphrases (status, p) (heq ▸ List.mem_append_right before List.mem_cons_self)

/-- Only an error that the body tells can be blank. -/
theorem Response.Says.exists_blank_error (h : r.Says read m) (hblank : isBlankText m = true) :
    ∃ m, r.errorText? read = some m ∧ m ≠ "" ∧ isBlankText m = true := by
  cases h with
  | error herror hne => exact ⟨m, herror, hne, hblank⟩
  | body herror hbody =>
    rw [isBlankText_trimmed, hbody] at hblank
    cases hblank
  | phrase herror hbody hphrase =>
    rw [not_blank_of_reasonPhrase? hphrase] at hblank
    cases hblank
  | status herror hbody hphrase => exact absurd hblank (by decide +kernel)

theorem not_blank_refusalMessage_iff : isBlankText (refusalMessage read r) = false ↔
    ∀ m ∈ r.errorText? read, m ≠ "" → isBlankText m = false := by
  constructor
  · intro hvisible m herror hne
    have hm : m = refusalMessage read r := says_iff.mp (.error herror hne)
    rw [hm]
    exact hvisible
  · intro hvisible
    apply Bool.eq_false_iff.mpr
    intro hblank
    obtain ⟨m, herror, hne, hm⟩ := (says_iff.mpr rfl : r.Says read _).exists_blank_error hblank
    rw [hvisible m herror hne] at hm
    cases hm

end Messages

/-! ### Refusals -/

section Refused

variable {c : Client} {method : Method} {ss : List String} {body : Option Value} {n n' : Network}
  {r : Response}

theorem bodyText_exchange (n : Network) (r : Request) :
    (n.exchange r).2.bodyText = n.bodyText := by
  unfold Network.exchange
  cases n.answer n.sent r <;> rfl

/-- Bodies are read as the network reads them. -/
theorem refused_eq (hanswer : n.exchange (c.request method ss body) = (.response r, n')) :
    refused r n' = (.ok (refusalMessage n.bodyText r), n') := by
  have hsame := bodyText_exchange n (c.request method ss body)
  rw [hanswer] at hsame
  rw [← hsame]
  rfl

theorem refuse_eq {α : Type}
    (hanswer : n.exchange (c.request method ss body) = (.response r, n')) :
    (refuse r : Call α) n' = (.error (.refused r.status (refusalMessage n.bodyText r)), n') := by
  rw [refuse, bind_of_ok (refused_eq hanswer)]
  rfl

theorem ask_of_refused {α : Type} {what : String} {reader : Reader α} (hspeaks : c.speaks = true)
    (hanswer : n.exchange (c.request method ss body) = (.response r, n'))
    (hrefused : r.succeeded = false) :
    c.ask method ss body what reader n =
      (.error (.refused r.status (refusalMessage n.bodyText r)), n') := by
  rw [Client.ask, bind_of_ok (send_eq_ok.mpr ⟨hspeaks, hanswer⟩), hrefused]
  exact refuse_eq hanswer

theorem tell_of_refused (hspeaks : c.speaks = true)
    (hanswer : n.exchange (c.request method ss body) = (.response r, n'))
    (hrefused : r.succeeded = false) :
    c.tell method ss body n = (.error (.refused r.status (refusalMessage n.bodyText r)), n') := by
  rw [Client.tell, bind_of_ok (send_eq_ok.mpr ⟨hspeaks, hanswer⟩), hrefused]
  exact refuse_eq hanswer

theorem pollDeviceToken_of_denied {code : String} (hspeaks : c.speaks = true)
    (hanswer : n.exchange (c.request .post ["api", "auth", "device_token"]
      (some (.object [("device_code", .text code)]))) = (.response r, n'))
    (hok : r.status ≠ 200) (hpending : r.status ≠ pendingStatus) :
    c.pollDeviceToken code n = (.ok (.denied (refusalMessage n.bodyText r)), n') := by
  rw [Client.pollDeviceToken, bind_of_ok (send_eq_ok.mpr ⟨hspeaks, hanswer⟩),
    if_neg (by simpa using hok), if_neg (by simpa using hpending),
    bind_of_ok (refused_eq hanswer)]
  rfl

/-- **A refusal has the status of the answer and says what the answer says.** The message is the
error that the body tells, or else the body, or else the phrase of the status, and the same where a
login is denied. It is not blank exactly if the body tells no blank error. All this holds however
bodies are read. -/
theorem refusal_speaks_iff (r : Response) :
    (∀ (c : Client) (method : Method) (ss : List String) (body : Option Value) (n n' : Network),
      c.speaks = true → n.exchange (c.request method ss body) = (.response r, n') →
      r.succeeded = false →
        c.tell method ss body n =
          (.error (.refused r.status (refusalMessage n.bodyText r)), n') ∧
        ∀ (α : Type) (what : String) (reader : Reader α), c.ask method ss body what reader n =
          (.error (.refused r.status (refusalMessage n.bodyText r)), n')) ∧
      (∀ (c : Client) (code : String) (n n' : Network), c.speaks = true →
        n.exchange (c.request .post ["api", "auth", "device_token"]
          (some (.object [("device_code", .text code)]))) = (.response r, n') →
        r.status ≠ 200 → r.status ≠ pendingStatus →
          c.pollDeviceToken code n = (.ok (.denied (refusalMessage n.bodyText r)), n')) ∧
      ∀ read : BodyReader,
        (∀ m, r.Says read m ↔ m = refusalMessage read r) ∧
        (isBlankText (refusalMessage read r) = false ↔
          ∀ m ∈ r.errorText? read, m ≠ "" → isBlankText m = false) := by
  refine ⟨?_, ?_, fun read => ⟨fun m => says_iff, not_blank_refusalMessage_iff⟩⟩
  · intro c method ss body n n' hspeaks hanswer hrefused
    exact ⟨tell_of_refused hspeaks hanswer hrefused,
      fun _ _ _ => ask_of_refused hspeaks hanswer hrefused⟩
  · intro c code n n' hspeaks hanswer hok hpending
    exact pollDeviceToken_of_denied hspeaks hanswer hok hpending

end Refused

/-! ### A server that always refuses -/

/-- A network in which everything is answered with one status and one document. -/
def Network.always (status : Nat) (document : String) : Network :=
  { answer := fun _ _ => .response ⟨status, none, Text.octets document⟩, sent := [] }

theorem taken_name_is_refused :
    (localClient.tell .post ["api", "sandboxes"] none
        (.always 422 "\x7b\"error\":\"Name has already been taken\"\x7d")).1 =
      .error (.refused 422 "Name has already been taken") ∧
    (localClient.pollDeviceToken "d"
        (.always 422 "\x7b\"error\":\"Name has already been taken\"\x7d")).1 =
      .ok (.denied "Name has already been taken") ∧
    isBlankText "Name has already been taken" = false := by
  obtain ⟨hrefused, hdenied, -⟩ := refusal_speaks_iff
    ⟨422, none, Text.octets "\x7b\"error\":\"Name has already been taken\"\x7d"⟩
  have hmessage : refusalMessage Text.contentText
      ⟨422, none, Text.octets "\x7b\"error\":\"Name has already been taken\"\x7d"⟩ =
        "Name has already been taken" := by
    decide +kernel
  have hspeaks : localClient.speaks = true := by
    decide +kernel
  have htold := (hrefused localClient .post ["api", "sandboxes"] none
    (.always 422 "\x7b\"error\":\"Name has already been taken\"\x7d") _ hspeaks rfl (by decide)).1
  have hverdict := hdenied localClient "d"
    (.always 422 "\x7b\"error\":\"Name has already been taken\"\x7d") _ hspeaks rfl (by decide)
    (by decide)
  refine ⟨?_, ?_, by decide +kernel⟩
  · rw [htold, ← hmessage]
    rfl
  · rw [hverdict, ← hmessage]
    rfl

/-- A blank error is taken for the message, although the body and the status say more. -/
theorem blank_error_says_nothing :
    (localClient.tell .delete ["api", "tokens", "9"] none
        (.always 500 "\x7b\"error\":\" \"\x7d")).1 = .error (.refused 500 " ") ∧
      isBlankText " " = true := by
  constructor
  · decide +kernel
  · decide +kernel

end SandboxClient.Remote
