/-
  SandboxClient/Proofs/Remote/Reached.lean
  ========================================
  **The server that a stored address leads to.** An address that a user types is
  checked in one spelling and stored in another: blanks and slashes are cut off
  its end when it is read, when an entry is made of it, when the entry is stored,
  and when a client is built. None of this changes the server. From what is
  stored a client is built, and it asks the server of the address that was
  checked (`reaches_of_readAddress`).
-/
import SandboxClient.Proofs.Remote.SandboxPaths
import SandboxClient.Proofs.Server.LoggedIn
import SandboxClient.Proofs.Url.Endings

namespace SandboxClient.Remote

open SandboxClient.Url
open SandboxClient.Server (normalizeChars normalizeUrl withScheme readAddress Entry Config)

/-! ### Texts that are cut shorter -/

/-- A text that does not begin with a blank, and what is left of it when blanks and slashes are
cut off its end. -/
structure Shortened (long short : List Char) : Prop where
  cut : ∃ w, long = short ++ w ∧ Trailing w
  unblank : ∀ c ∈ short.head?, Text.isBlank c = false

section Shortening

variable {long mid short : List Char}

theorem Shortened.refl (h : ∀ c ∈ long.head?, Text.isBlank c = false) : Shortened long long :=
  ⟨⟨[], (List.append_nil long).symm, by rintro c ⟨⟩⟩, h⟩

theorem Shortened.dropTail (h : Shortened long short) {p : Char → Bool}
    (hp : ∀ c, p c = true → isLoose c = true ∨ c = '/') :
    Shortened long (Text.dropTail p short) := by
  obtain ⟨y, hy, hdropped⟩ := Text.exists_dropTail p short
  obtain ⟨w, rfl, hw⟩ := h.cut
  refine ⟨⟨y ++ w, ?_, ?_⟩, ?_⟩
  · rw [← List.append_assoc, ← hy]
  · intro c hc
    rcases List.mem_append.mp hc with hc | hc
    · exact hp c (hdropped c hc)
    · exact hw c hc
  · intro c hc
    exact h.unblank c (Text.head?_dropTail hc)

theorem Shortened.dropSlashes (h : Shortened long short) :
    Shortened long (Text.dropTail (· == '/') short) :=
  h.dropTail (fun _ hc => Or.inr (beq_iff_eq.mp hc))

theorem Shortened.normalize (h : Shortened long short) : Shortened long (normalizeChars short) := by
  have hstart : Text.trimStart short = short := Text.dropWhile_of_head? h.unblank
  unfold normalizeChars Text.trim Text.trimEnd
  rw [hstart]
  exact (h.dropTail (fun c hc => Or.inl (by rw [isLoose, hc, Bool.true_or]))).dropSlashes

theorem head?_withScheme (input : String) :
    ∀ c ∈ (withScheme input).toList.head?, Text.isBlank c = false := by
  intro c hc
  unfold withScheme at hc
  dsimp only at hc
  split at hc
  · rw [String.toList_ofList] at hc
    exact Text.head?_trim hc
  · rw [String.toList_append] at hc
    obtain rfl : 'h' = c := Option.some.inj hc
    decide

end Shortening

/-! ### Servers that are reached

Every stored form of an address is one that was cut shorter, whichever command stored it. -/

/-- From a text a client can be built, with any token, and its address is one of the server of an
address. -/
def Reaches (url : String) (u : Url) : Prop :=
  ∀ token insecure, ∃ c, Client.build url token insecure = .ok c ∧ isAsked c.base = true ∧
    SameServer c.base u

theorem isSpecial_of_isAsked {u : Url} (h : isAsked u = true) : isSpecial u.scheme = true := by
  have hscheme := (Bool.and_eq_true_iff.mp h).2
  simp only [List.contains_cons, List.contains_nil, Bool.or_false, Bool.or_eq_true,
    beq_iff_eq] at hscheme
  rcases hscheme with hscheme | hscheme
  · rw [hscheme]
    decide +kernel
  · rw [hscheme]
    decide +kernel

theorem Reaches.of_shortened {long : String} {u : Url} (hparse : Url.parse long = .ok u)
    (hasked : isAsked u = true) {short : String} (h : Shortened long.toList short.toList) :
    Reaches short u := by
  intro token insecure
  obtain ⟨w, hlong, hw⟩ := h.dropSlashes.cut
  rw [← String.ofList_toList (s := long), hlong] at hparse
  obtain ⟨v, hv, hsame, hsegments⟩ :=
    parse_cut hw hparse (isSpecial_of_isAsked hasked) (scheme_of_isAsked hasked)
  have hbuild : Client.build short token insecure =
      .ok ⟨v, String.ofList (Text.dropTail (· == '/') short.toList), token, insecure⟩ := by
    simp only [Client.build, hv, hsegments, if_true]
  refine ⟨_, hbuild, ?_, hsame⟩
  simpa only [isAsked, hsame.scheme, hsame.host] using hasked

/-- Also when it is normalised any number of times more. -/
theorem shortened_normalizeUrl (input : String) (n : Nat) :
    Shortened (withScheme input).toList ((normalizeUrl^[n]) (withScheme input)).toList := by
  induction n with
  | zero => exact Shortened.refl (head?_withScheme input)
  | succ n ih =>
    rw [Function.iterate_succ_apply']
    simp only [normalizeUrl, String.toList_ofList]
    exact ih.normalize

/-- **An address that is accepted is one of the server that it was checked for, in every form in
which it is stored.** Something is left of it; from it, from the entry that is made of it, from the
entry that is added to a store and from the entry that a login is stored in a client is built, and
that asks the server of the address that was checked. -/
theorem reaches_of_readAddress {input address : String} (h : readAddress input = .ok address) :
    address ≠ "" ∧ ∃ u, Url.parse (withScheme input) = .ok u ∧ isAsked u = true ∧
      Reaches address u ∧
      (∀ name, Reaches (Entry.fresh name address).server u) ∧
      (∀ (c c' : Config) (name : String), c.add (Entry.fresh name address) = .ok c' →
        ∃ e, c'.servers = c.servers ++ [e] ∧ Reaches e.server u) ∧
      ∀ (c : Config) (name token : String),
        ∃ e, c.setEntry? name address token = some e ∧ e ∈ (c.set name address token).servers ∧
          Reaches e.server u := by
  obtain ⟨-, rfl, u, hparse, hhost, hscheme⟩ := Server.readAddress_eq_ok h
  have hasked : isAsked u = true := by
    rw [isAsked, hhost, hscheme]
    rfl
  have hreaches : ∀ n, Reaches ((normalizeUrl^[n]) (withScheme input)) u := fun n =>
    Reaches.of_shortened hparse hasked (shortened_normalizeUrl input n)
  refine ⟨?_, u, hparse, hasked, hreaches 1, fun name => hreaches 2, ?_, ?_⟩
  · intro hempty
    refine Server.normalizeUrl_ne_empty h (Or.inr rfl) ?_
    rw [hempty]
    decide
  · intro c c' name hadd
    obtain ⟨-, rfl⟩ := Config.add_eq_ok hadd
    exact ⟨_, rfl, hreaches 3⟩
  · intro c name token
    obtain ⟨e, before, after, hentry, hset, -, horigin⟩ :=
      c.set_spec name (normalizeUrl (withScheme input)) token
    refine ⟨e, hentry, by simp [hset], ?_⟩
    rcases horigin with ⟨old, -, -, rfl⟩ | ⟨-, rfl⟩
    · exact hreaches 2
    · exact hreaches 2

theorem reaches_loopback :
    readAddress "  http://u:p@[::1]:8080/a/ //" = .ok "http://u:p@[::1]:8080/a/ " ∧
      ∃ u, Url.parse "http://u:p@[::1]:8080/a/ //" = .ok u ∧
        u.host = some (.v6 [0, 0, 0, 0, 0, 0, 0, 1]) ∧ u.port = some 8080 ∧
        Reaches "http://u:p@[::1]:8080/a/ " u ∧ Reaches "http://u:p@[::1]:8080/a" u ∧
        ∃ c e, Config.empty.add (Entry.fresh "lab" "http://u:p@[::1]:8080/a/ ") = .ok c ∧
          c.servers = [e] ∧ Reaches e.server u := by
  have haddress : readAddress "  http://u:p@[::1]:8080/a/ //" = .ok "http://u:p@[::1]:8080/a/ " := by
    decide +kernel
  obtain ⟨-, u, hparse, -, hreaches, hfresh, hadd, -⟩ := reaches_of_readAddress haddress
  have hraw : withScheme "  http://u:p@[::1]:8080/a/ //" = "http://u:p@[::1]:8080/a/ //" := by
    decide +kernel
  have hserver : (Entry.fresh "lab" "http://u:p@[::1]:8080/a/ ").server =
      "http://u:p@[::1]:8080/a" := by
    decide +kernel
  have hread : (Url.parse "http://u:p@[::1]:8080/a/ //").map (fun u => (u.host, u.port)) =
      .ok (some (.v6 [0, 0, 0, 0, 0, 0, 0, 1]), some 8080) := by
    decide +kernel
  rw [hraw] at hparse
  rw [hparse] at hread
  obtain ⟨hhost, hport⟩ := Prod.mk.inj (Except.ok.inj hread)
  obtain ⟨e, heq, hstored⟩ := hadd Config.empty _ "lab" rfl
  exact ⟨haddress, u, hparse, hhost, hport, hreaches, hserver ▸ hfresh "lab", _, e, rfl, heq,
    hstored⟩

end SandboxClient.Remote
