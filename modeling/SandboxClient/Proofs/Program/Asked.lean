/-
  SandboxClient/Proofs/Program/Asked.lean
  =======================================
  **What runs ask of a server.** Most steps of a command do not concern the network:
  they leave it as it was, whatever comes of them. The others hand it one request
  each, so that what a command has asked can be read off its text.
-/
import SandboxClient.Program.Sandboxes
import SandboxClient.Proofs.Program.Related
import SandboxClient.Proofs.Remote.Sent

namespace SandboxClient.Program

open SandboxClient.Files (bind_of_ok bind_eq_ok bind_eq_error)
open SandboxClient.Json (Reader Value)
open SandboxClient.Remote (Client Method Request Sandbox)

variable {α β : Type}

/-! ### Runs that ask nothing -/

def SameNetwork (w w' : World) : Prop := w'.network = w.network

instance sameNetwork_isPreorder : IsPreorder World SameNetwork where
  refl _ := rfl
  trans _ _ _ h h' := h'.trans h

abbrev Silent (x : Run α) : Prop := Relates SameNetwork x

theorem silent_print (s : String) : Silent (print s) := fun _ => rfl

theorem silent_storing (call : Server.StoreCall α) : Silent (storing call) := fun _ => rfl

theorem silent_client : Silent client := relates_client (fun _ => silent_storing _)

theorem silent_announcedClient : Silent announcedClient :=
  silent_client.bind (fun c => (silent_print _).bind (fun _ => relates_pure c))

theorem announcedClient_fst (w : World) : (announcedClient w).1 = (client w).1 := by
  unfold announcedClient
  rcases hclient : client w with ⟨failure | c, v⟩
  · rw [bind_eq_error.mpr (Or.inl hclient)]
  · rw [bind_of_ok hclient]
    rfl

theorem silent_session (info : Remote.ConnectInfo) (command : Option String) :
    Silent (session info command) := by
  have hssh : ∀ arguments, Silent (runSsh arguments) := by
    intro arguments w
    show (runSsh arguments w).2.network = w.network
    unfold runSsh
    split <;> rfl
  refine (hssh _).bind (fun outcome => ?_)
  split
  · exact relates_throw _
  · exact relates_pure _

theorem relates_awaitPort {R : World → World → Prop} [IsPreorder World R]
    (info : Remote.ConnectInfo) : Relates R (awaitPort info) := by
  refine relates_get.bind (fun w => ?_)
  split
  · exact relates_throw _
  · exact relates_pure _

/-! ### Runs that ask once -/

/-- A run hands one request to the network, whatever comes of it, and asks nothing else. -/
def AsksOnce (r : Request) (x : Run α) : Prop := ∀ w, (x w).2.network = w.network.after [r]

theorem network_asking (call : Remote.Call α) (w : World) :
    (asking call w).2.network = (call w.network).2 := by
  have houtcome : outcome call w =
      (.ok (call w.network).1, { w with network := (call w.network).2 }) := rfl
  unfold asking
  rw [bind_of_ok houtcome]
  cases (call w.network).1 with
  | ok a => rfl
  | error fault => rfl

theorem AsksOnce.bind {r : Request} {x : Run α} {f : α → Run β} (hx : AsksOnce r x)
    (hf : ∀ a, Silent (f a)) : AsksOnce r (x >>= f) := by
  intro w
  rcases hrun : x w with ⟨failure | a, v⟩
  · rw [bind_eq_error.mpr (Or.inl hrun), ← hx w, hrun]
  · rw [bind_of_ok hrun, hf a v, ← hx w, hrun]

section Speaking

variable {c : Client}

theorem asksOnce_ask (h : c.speaks = true) (method : Method) (ss : List String)
    (body : Option Value) (what : String) (reader : Reader α) :
    AsksOnce (c.request method ss body) (asking (c.ask method ss body what reader)) := by
  intro w
  rw [network_asking, Remote.network_ask, if_pos h]
  rfl

theorem asksOnce_tell (h : c.speaks = true) (method : Method) (ss : List String)
    (body : Option Value) :
    AsksOnce (c.request method ss body) (asking (c.tell method ss body)) := by
  intro w
  rw [network_asking, Remote.network_tell, if_pos h]
  rfl

theorem asksOnce_attach (h : c.speaks = true) (s : Sandbox) (command : Option String) :
    AsksOnce (c.request .post (Remote.sandboxPath s.id ++ ["connect"]) none)
      (attach c s command) :=
  (asksOnce_ask h _ _ _ _ _).bind (fun info =>
    (relates_awaitPort info).bind (fun _ => silent_session info command))

end Speaking

/-! ### Looking for names -/

theorem ofWords_bind (x : Except Session.WordFault α) (f : α → Except Session.WordFault β) :
    ofWords (x >>= f) = (ofWords x >>= fun a => ofWords (f a)) := by
  cases x with
  | error fault => rfl
  | ok a => rfl

theorem ofWords_pure (a : α) : ofWords (pure a) = pure a := rfl

theorem findNamed_bind (c : Client) (name : String) (next : Sandbox → Run α) :
    (findNamed c name >>= next) = (asking c.listSandboxes >>= fun known =>
      ofWords (Session.findNamed known name) >>= next) := by
  simp only [findNamed, bind_assoc]

end SandboxClient.Program
