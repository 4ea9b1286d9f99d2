/-
  SandboxClient/Text/Utf8.lean
  ============================
  **Texts as octets.** Files and answers arrive as octets. A text is read from
  them strictly, when nothing may be lost, or leniently, when a replacement
  character stands for each longest piece that begins a character and does not
  end one.
-/

namespace SandboxClient.Text

def octetsOfChars (s : List Char) : List UInt8 := s.flatMap String.utf8EncodeChar

def octets (s : String) : List UInt8 := octetsOfChars s.toList

namespace Utf8

/-! ### One character

A character is read from its leading octet and the octets that this one announces. -/

/-- What a leading octet announces. -/
structure Lead where
  /-- The number of octets that follow. -/
  following : Nat
  /-- The bits of the character in the leading octet. -/
  bits : Nat
  /-- The least second octet. -/
  low : Nat
  /-- The greatest second octet. -/
  high : Nat
  deriving DecidableEq, Repr

/-- The leading octets of characters of more than one octet. The bounds on the second octet
exclude overlong forms, surrogates and numbers beyond the last character. -/
def lead? (b : Nat) : Option Lead :=
  if 0xC2 ≤ b && b ≤ 0xDF then some ⟨1, b - 0xC0, 0x80, 0xBF⟩
  else if b == 0xE0 then some ⟨2, 0, 0xA0, 0xBF⟩
  else if b == 0xED then some ⟨2, 0xD, 0x80, 0x9F⟩
  else if 0xE1 ≤ b && b ≤ 0xEF then some ⟨2, b - 0xE0, 0x80, 0xBF⟩
  else if b == 0xF0 then some ⟨3, 0, 0x90, 0xBF⟩
  else if b == 0xF4 then some ⟨3, 4, 0x80, 0x8F⟩
  else if 0xF1 ≤ b && b ≤ 0xF3 then some ⟨3, b - 0xF0, 0x80, 0xBF⟩
  else none

/-- Reads the octets after a leading one: the number of the character, or nothing when one is
missing, and the octets from there on. -/
def follow (value low high : Nat) : Nat → List UInt8 → Option Nat × List UInt8
  | 0, r => (some value, r)
  | _ + 1, [] => (none, [])
  | n + 1, b :: r =>
    if low ≤ b.toNat && b.toNat ≤ high then
      follow (value * 64 + (b.toNat - 0x80)) 0x80 0xBF n r
    else (none, b :: r)

/-- Reading on never adds octets. -/
theorem follow_length (n value low high : Nat) (r : List UInt8) :
    (follow value low high n r).2.length ≤ r.length := by
  induction n generalizing value low high r with
  | zero => simp [follow]
  | succ n ih =>
    cases r with
    | nil => simp [follow]
    | cons b r =>
      rw [follow]
      split
      · exact Nat.le_succ_of_le (ih ..)
      · exact Nat.le_refl _

/-- Reads one character, or drops the longest piece that could begin one. -/
def step (b : UInt8) (r : List UInt8) : Option Char × List UInt8 :=
  if b.toNat < 0x80 then (some (Char.ofNat b.toNat), r)
  else match lead? b.toNat with
    | none => (none, r)
    | some l =>
      let (n, rest) := follow l.bits l.low l.high l.following r
      (n.map Char.ofNat, rest)

theorem step_length (b : UInt8) (r : List UInt8) : (step b r).2.length ≤ r.length := by
  unfold step
  split
  · exact Nat.le_refl _
  · split
    · exact Nat.le_refl _
    · exact follow_length ..

/-! ### Texts

A strict reading gives up at the first piece that is no character, a lenient one puts a replacement
in its place. -/

/-- The characters that octets stand for, nothing standing for a piece that is no character. -/
def pieces : List UInt8 → List (Option Char)
  | [] => []
  | b :: r => (step b r).1 :: pieces (step b r).2
termination_by s => s.length
decreasing_by exact Nat.lt_succ_of_le (step_length b r)

end Utf8

def strictChars (bytes : List UInt8) : Option (List Char) := (Utf8.pieces bytes).mapM id

def strictText (bytes : List UInt8) : Option String := (strictChars bytes).map String.ofList

/-- The characters of octets, a replacement character for each piece that is none. -/
def lenientChars (bytes : List UInt8) : List Char :=
  (Utf8.pieces bytes).map (fun c => c.getD '\uFFFD')

end SandboxClient.Text
