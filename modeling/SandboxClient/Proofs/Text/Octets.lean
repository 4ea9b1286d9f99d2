/-
  SandboxClient/Proofs/Text/Octets.lean
  =====================================
  **A text comes back from its octets.** The strict reader takes the octets of a
  character as that character, whatever follows them, so it reads the octets of
  a text as the text.
-/
import SandboxClient.Text.Utf8

namespace SandboxClient.Text

namespace Utf8

/-! ### Octets that follow -/

/-- An octet within the bounds adds its six bits. -/
theorem follow_cons {value low high n x : Nat} (r : List UInt8) (hlow : low ≤ x) (hhigh : x ≤ high)
    (hx : x < 256) :
    follow value low high (n + 1) (UInt8.ofNat x :: r) =
      follow (value * 64 + (x - 0x80)) 0x80 0xBF n r := by
  have hoctet : (UInt8.ofNat x).toNat = x := by
    rw [UInt8.toNat_ofNat']
    omega
  simp [follow, hoctet, hlow, hhigh]

/-- The leading octet of a character of two octets. -/
theorem lead?_two {a : Nat} (hlow : 2 ≤ a) (hhigh : a < 32) :
    lead? (a + 0xC0) = some ⟨1, a, 0x80, 0xBF⟩ := by
  simp only [lead?, Bool.and_eq_true, decide_eq_true_eq]
  rw [if_pos (by omega)]
  simp

/-- The leading octet of a character of three octets; the bounds on the second keep out what two
octets could say, and surrogates. -/
theorem lead?_three {a : Nat} (ha : a < 16) :
    lead? (a + 0xE0) =
      some ⟨2, a, if a = 0 then 0xA0 else 0x80, if a = 13 then 0x9F else 0xBF⟩ := by
  have hall : ∀ b < 16, lead? (b + 0xE0) =
      some ⟨2, b, if b = 0 then 0xA0 else 0x80, if b = 13 then 0x9F else 0xBF⟩ := by decide
  exact hall a ha

/-- The leading octet of a character of four octets; the bounds on the second keep out what three
octets could say, and numbers beyond the last character. -/
theorem lead?_four {a : Nat} (ha : a < 5) :
    lead? (a + 0xF0) =
      some ⟨3, a, if a = 0 then 0x90 else 0x80, if a = 4 then 0x8F else 0xBF⟩ := by
  have hall : ∀ b < 5, lead? (b + 0xF0) =
      some ⟨3, b, if b = 0 then 0x90 else 0x80, if b = 4 then 0x8F else 0xBF⟩ := by decide
  exact hall a ha

/-- A leading octet hands over to the octets that follow it. -/
theorem step_lead {x n bits low high : Nat} (r : List UInt8) (hx : 0x80 ≤ x) (hx' : x < 256)
    (hl : lead? x = some ⟨n, bits, low, high⟩) :
    step (UInt8.ofNat x) r =
      ((follow bits low high n r).1.map Char.ofNat, (follow bits low high n r).2) := by
  have hoctet : (UInt8.ofNat x).toNat = x := by
    rw [UInt8.toNat_ofNat']
    omega
  simp only [step, hoctet, hl]
  rw [if_neg (by omega)]

/-! ### Characters

One case for each length of a character in octets. -/

theorem toNat_valid (c : Char) : c.toNat < 0xD800 ∨ (0xDFFF < c.toNat ∧ c.toNat < 0x110000) :=
  c.valid

/-- The octets of a character are read as that character. -/
theorem pieces_utf8EncodeChar (c : Char) (r : List UInt8) :
    pieces (String.utf8EncodeChar c ++ r) = some c :: pieces r := by
  have hvalid := toNat_valid c
  have hchar : Char.ofNat c.toNat = c := Char.ofNat_toNat c
  have hnat : c.val.toNat = c.toNat := rfl
  unfold String.utf8EncodeChar
  simp only [hnat]
  generalize c.toNat = v at hvalid hchar
  split
  · rename_i h1
    have hoctet : (UInt8.ofNat v).toNat = v := by
      rw [UInt8.toNat_ofNat']
      omega
    rw [List.singleton_append, pieces, step, if_pos (by omega), hoctet, hchar]
  · split
    · rename_i h1 h2
      rw [List.cons_append, List.cons_append, List.nil_append, pieces,
        step_lead _ (by omega) (by omega) (lead?_two (by omega) (by omega)),
        follow_cons _ (by omega) (by omega) (by omega)]
      have hv : v / 64 % 32 * 64 + (v % 64 + 0x80 - 0x80) = v := by omega
      simp only [follow, hv, Option.map_some, hchar]
    · split
      · rename_i h1 h2 h3
        rw [List.cons_append, List.cons_append, List.cons_append, List.nil_append, pieces,
          step_lead _ (by omega) (by omega) (lead?_three (by omega)),
          follow_cons _ (by split <;> omega) (by split <;> omega) (by omega),
          follow_cons _ (by omega) (by omega) (by omega)]
        have hv : (v / 4096 % 16 * 64 + (v / 64 % 64 + 0x80 - 0x80)) * 64 +
            (v % 64 + 0x80 - 0x80) = v := by omega
        simp only [follow, hv, Option.map_some, hchar]
      · rename_i h1 h2 h3
        rw [List.cons_append, List.cons_append, List.cons_append, List.cons_append,
          List.nil_append, pieces,
          step_lead _ (by omega) (by omega) (lead?_four (by omega)),
          follow_cons _ (by split <;> omega) (by split <;> omega) (by omega),
          follow_cons _ (by omega) (by omega) (by omega),
          follow_cons _ (by omega) (by omega) (by omega)]
        have hv : ((v / 262144 % 8 * 64 + (v / 4096 % 64 + 0x80 - 0x80)) * 64 +
            (v / 64 % 64 + 0x80 - 0x80)) * 64 + (v % 64 + 0x80 - 0x80) = v := by omega
        simp only [follow, hv, Option.map_some, hchar]

theorem pieces_octetsOfChars (s : List Char) : pieces (octetsOfChars s) = s.map some := by
  induction s with
  | nil => simp [octetsOfChars, pieces]
  | cons c r ih =>
    have hcons : octetsOfChars (c :: r) = String.utf8EncodeChar c ++ octetsOfChars r := by
      simp [octetsOfChars]
    rw [hcons, pieces_utf8EncodeChar, ih, List.map_cons]

/-! ### Octets before a new character -/

/-- Octets that do not begin in the middle of a character. -/
def BeginAnew (bytes : List UInt8) : Prop := ∀ b ∈ bytes.head?, b.toNat < 0x80 ∨ 0xC0 ≤ b.toNat

/-- An octet that follows is none that begins a character. -/
theorem lead?_bounds {b : Nat} {l : Lead} (h : lead? b = some l) :
    0x80 ≤ l.low ∧ l.high ≤ 0xBF := by
  unfold lead? at h
  grind

section Append

variable {e : List UInt8} (he : BeginAnew e)

include he

/-- What is read of a character stops before a new one. -/
theorem follow_append {value low high : Nat} (hlow : 0x80 ≤ low) (hhigh : high ≤ 0xBF) (n : Nat)
    (r : List UInt8) :
    follow value low high n (r ++ e) =
      ((follow value low high n r).1, (follow value low high n r).2 ++ e) := by
  induction n generalizing value low high r with
  | zero => rfl
  | succ n ih =>
    cases r with
    | nil =>
      cases e with
      | nil => rfl
      | cons b e =>
        have hb := he b rfl
        have hout : (low ≤ b.toNat && b.toNat ≤ high) = false := by
          simp only [Bool.and_eq_false_iff, decide_eq_false_iff_not]
          omega
        simp [follow, hout]
    | cons b r =>
      rw [List.cons_append, follow, follow]
      split
      · exact ih (Nat.le_refl _) (Nat.le_refl _) r
      · rfl

theorem step_append (b : UInt8) (r : List UInt8) :
    step b (r ++ e) = ((step b r).1, (step b r).2 ++ e) := by
  unfold step
  split
  · rfl
  · split
    · rfl
    · rename_i l hl
      have hbounds := lead?_bounds hl
      rw [follow_append he hbounds.1 hbounds.2]

theorem pieces_append (bs : List UInt8) : pieces (bs ++ e) = pieces bs ++ pieces e := by
  fun_induction pieces bs with
  | case1 => rfl
  | case2 b r ih =>
    rw [List.cons_append, pieces, step_append he, ih, List.cons_append]

end Append

theorem beginAnew_utf8EncodeChar (c : Char) (r : List UInt8) :
    BeginAnew (String.utf8EncodeChar c ++ r) := by
  have hvalid := toNat_valid c
  unfold String.utf8EncodeChar
  have hnat : c.val.toNat = c.toNat := rfl
  simp only [hnat]
  repeat' split
  all_goals
    rintro _ ⟨⟩
    rw [UInt8.toNat_ofNat']
    omega

end Utf8

/-! ### Texts -/

theorem strictChars_eq_some {bytes : List UInt8} {cs : List Char} :
    strictChars bytes = some cs ↔ Utf8.pieces bytes = cs.map some := by
  rw [strictChars]
  induction Utf8.pieces bytes generalizing cs with
  | nil => cases cs <;> simp
  | cons p ps ih =>
    cases p with
    | none => cases cs <;> simp
    | some c =>
      cases cs with
      | nil => simp [Option.bind_eq_some_iff]
      | cons d ds =>
        simp only [List.mapM_cons, id, Option.bind_eq_bind, Option.bind_some,
          Option.bind_eq_some_iff, Option.pure_def, Option.some.injEq, List.cons.injEq,
          List.map_cons, ih]
        constructor
        · rintro ⟨_, rfl, rfl, rfl⟩
          exact ⟨rfl, rfl⟩
        · rintro ⟨rfl, h⟩
          exact ⟨ds, h, rfl, rfl⟩

/-- A character whose octets stand among others is one of the characters of a text that all of
them are. -/
theorem mem_of_strictChars {before after : List UInt8} {c : Char} {cs : List Char}
    (h : strictChars (before ++ (String.utf8EncodeChar c ++ after)) = some cs) : c ∈ cs := by
  rw [strictChars_eq_some, Utf8.pieces_append (Utf8.beginAnew_utf8EncodeChar c after),
    Utf8.pieces_utf8EncodeChar] at h
  have hmem : some c ∈ cs.map some := by
    rw [← h]
    simp
  simpa using hmem

/-- **The octets of a text are read as that text.** -/
theorem strictText_octets (s : String) : strictText (octets s) = some s := by
  rw [strictText, octets, strictChars_eq_some.mpr (Utf8.pieces_octetsOfChars s.toList)]
  simp

end SandboxClient.Text
