/-
  SandboxClient/Proofs/Url/Hosts.lean
  ===================================
  **Hosts that are read.** An address of 128 bits is only taken from a text that
  writes all eight of its numbers, one way or another, so the host of every
  address that is accepted is a name, a number of 32 bits or eight numbers; and
  written out none of them is an empty text.
-/
import SandboxClient.Url.Reader

namespace SandboxClient.Url

/-! ### Eight numbers -/

theorem V6.length_of_read {s : List Char} {ps : List Nat} (h : V6.read s = some ps) :
    ps.length = 8 := by
  unfold V6.read at h
  split at h
  · obtain ⟨ns, -, h⟩ := Option.bind_eq_some_iff.mp h
    split at h
    · rename_i hlength
      cases h
      simpa using hlength
    · cases h
  · obtain ⟨front, -, h⟩ := Option.bind_eq_some_iff.mp h
    obtain ⟨back, -, h⟩ := Option.bind_eq_some_iff.mp h
    split at h
    · cases h
    · cases h
      simp only [List.length_append, List.length_replicate]
      omega

/-! ### Outcomes -/

section Outcomes

variable {ε α β : Type} {x : Except ε α} {b : β}

theorem bind_ok_iff {f : α → Except ε β} :
    (x >>= f) = .ok b ↔ ∃ a, x = .ok a ∧ f a = .ok b := by
  cases x with
  | error fault =>
    constructor
    · rintro ⟨⟩
    · rintro ⟨a, ⟨⟩, -⟩
  | ok a =>
    constructor
    · intro h
      exact ⟨a, rfl, h⟩
    · rintro ⟨a, ⟨⟩, h⟩
      exact h

theorem map_ok_iff {f : α → β} : x.map f = .ok b ↔ ∃ a, x = .ok a ∧ f a = b := by
  cases x with
  | error fault => simp [Except.map]
  | ok a => simp [Except.map]

end Outcomes

/-! ### Hosts -/

/-- Whether a host that consists of numbers has all of them. -/
def Host.Full : Host → Prop
  | .name _ => True
  | .v4 _ => True
  | .v6 pieces => pieces.length = 8

section Reading

variable {s rest scheme : List Char} {special : Bool} {h : Host} {host : Option Host} {u : Url}

theorem full_of_readBracketed (hread : readBracketed s = .ok h) : h.Full := by
  unfold readBracketed at hread
  split at hread
  · cases hread
  · split at hread
    · rename_i ps hps
      cases hread
      exact V6.length_of_read hps
    · cases hread

theorem full_of_readHost (hread : readHost s = .ok h) : h.Full := by
  unfold readHost at hread
  split at hread
  · exact full_of_readBracketed hread
  · split at hread
    · cases hread
    · split at hread
      · cases hread
      · split at hread
        · split at hread
          · cases hread
            trivial
          · cases hread
        · cases hread
          trivial

theorem full_of_readPlainHost (hread : readPlainHost s = .ok host) : ∀ h ∈ host, h.Full := by
  unfold readPlainHost at hread
  split at hread
  · obtain ⟨h, hbracketed, rfl⟩ := map_ok_iff.mp hread
    rintro _ ⟨⟩
    exact full_of_readBracketed hbracketed
  · split at hread
    · cases hread
    · split at hread
      · cases hread
        rintro _ ⟨⟩
      · cases hread
        rintro _ ⟨⟩
        trivial

theorem full_of_takeHost (htake : takeHost special s = .ok (host, rest)) : ∀ h ∈ host, h.Full := by
  unfold takeHost at htake
  dsimp only at htake
  split at htake
  · split at htake
    · cases htake
    · obtain ⟨h, hread, heq⟩ := map_ok_iff.mp htake
      cases heq
      rintro _ ⟨⟩
      exact full_of_readHost hread
  · obtain ⟨x, hread, htake⟩ := bind_ok_iff.mp htake
    split at htake
    · cases htake
    · cases htake
      exact full_of_readPlainHost hread

theorem readAuthority_eq_ok :
    readAuthority scheme s = .ok u ↔ ∃ name password q host r port rest,
      takeUser (isSpecial scheme) s = .ok (name, password, q) ∧
      takeHost (isSpecial scheme) q = .ok (host, r) ∧ takePort scheme r = .ok (port, rest) ∧
      (host.isNone && !(name.isEmpty && password.isEmpty)) = false ∧
      u = ⟨scheme, true, name, password, host, port, (readTail scheme rest).path,
        (readTail scheme rest).query, (readTail scheme rest).fragment⟩ := by
  unfold readAuthority
  constructor
  · intro h
    obtain ⟨⟨name, password, q⟩, huser, h⟩ := bind_ok_iff.mp h
    obtain ⟨⟨host, r⟩, hhost, h⟩ := bind_ok_iff.mp h
    obtain ⟨⟨port, rest⟩, hport, h⟩ := bind_ok_iff.mp h
    dsimp only at h
    split at h
    · cases h
    · rename_i hanonymous
      cases h
      exact ⟨name, password, q, host, r, port, rest, huser, hhost, hport, by simpa using hanonymous,
        rfl⟩
  · rintro ⟨name, password, q, host, r, port, rest, huser, hhost, hport, hanonymous, rfl⟩
    refine bind_ok_iff.mpr ⟨_, huser, bind_ok_iff.mpr ⟨_, hhost, bind_ok_iff.mpr ⟨_, hport, ?_⟩⟩⟩
    dsimp only
    rw [hanonymous]
    rfl

theorem full_of_readAuthority (hread : readAuthority scheme s = .ok u) : ∀ h ∈ u.host, h.Full := by
  obtain ⟨_, _, _, _, _, _, _, -, htake, -, -, rfl⟩ := readAuthority_eq_ok.mp hread
  exact full_of_takeHost htake

theorem full_unless {p : Prop} [Decidable p] (hhost : ∀ h ∈ host, h.Full) :
    ∀ h ∈ (if p then none else host), h.Full := by
  split
  · rintro _ ⟨⟩
  · exact hhost

theorem full_of_takeFileHost (htake : takeFileHost s = .ok (host, rest)) :
    ∀ h ∈ host, h.Full := by
  unfold takeFileHost at htake
  dsimp only at htake
  split at htake
  · cases htake
    rintro _ ⟨⟩
  · split at htake
    · cases htake
      rintro _ ⟨⟩
    · obtain ⟨h, hread, htake⟩ := bind_ok_iff.mp htake
      cases htake
      refine full_unless ?_
      rintro _ ⟨⟩
      exact full_of_readHost hread

theorem full_of_readFile (hread : readFile s = .ok u) : ∀ h ∈ u.host, h.Full := by
  unfold readFile at hread
  dsimp only at hread
  split at hread
  · split at hread
    · obtain ⟨⟨host, rest⟩, htake, hread⟩ := bind_ok_iff.mp hread
      cases hread
      exact full_unless (full_of_takeFileHost htake)
    · cases hread
      exact full_unless (fun _ hnone => by cases hnone)
  · cases hread
    exact full_unless (fun _ hnone => by cases hnone)

theorem full_of_readOther (hread : readOther scheme s = .ok u) : ∀ h ∈ u.host, h.Full := by
  unfold readOther at hread
  split at hread
  · exact full_of_readAuthority hread
  · cases hread
    rintro _ ⟨⟩
  · cases hread
    rintro _ ⟨⟩

/-- **The host of an address that is accepted is a full one.** -/
theorem full_of_parse {text : String} (hparse : parse text = .ok u) : ∀ h ∈ u.host, h.Full := by
  unfold parse at hparse
  split at hparse
  · cases hparse
  · split at hparse
    · exact full_of_readFile hparse
    · split at hparse
      · exact full_of_readAuthority hparse
      · exact full_of_readOther hparse

end Reading

/-! ### Numbers as texts -/

theorem digitsOf_ne_nil (base n : Nat) : digitsOf base n ≠ [] := Nat.toDigits_ne_nil

theorem V4.write_ne_nil (n : Nat) : V4.write n ≠ [] := by
  simp [V4.write, List.intercalate_cons_cons, digitsOf_ne_nil]

theorem V6.writePieces_ne_nil {ps : List Nat} (h : ps ≠ []) : V6.writePieces ps ≠ [] := by
  cases ps with
  | nil => exact absurd rfl h
  | cons p ps =>
    cases ps with
    | nil => simp [V6.writePieces, List.intercalate_singleton, digitsOf_ne_nil]
    | cons q ps => simp [V6.writePieces, List.intercalate_cons_cons, digitsOf_ne_nil]

theorem V6.display_ne_nil {ps : List Nat} (h : ps ≠ []) : V6.display ps ≠ [] := by
  unfold V6.display
  split
  · simp
  · unfold V6.write
    dsimp only
    split
    · exact V6.writePieces_ne_nil h
    · simp

end SandboxClient.Url
