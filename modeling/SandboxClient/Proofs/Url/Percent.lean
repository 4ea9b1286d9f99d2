/-
  SandboxClient/Proofs/Url/Percent.lean
  =====================================
  **Percent notation loses nothing.** What is written in percent notation reads
  back as the octets of the text, if percent signs themselves are written so. A
  character that is written so does not occur, unless it is a percent sign or a
  digit.
-/
import SandboxClient.Proofs.Text.Octets
import SandboxClient.Url.Reader

namespace SandboxClient.Url

open SandboxClient.Text

/-! ### Octets -/

theorem octets_injective {s t : String} (h : octets s = octets t) : s = t := by
  have hs := strictText_octets s
  rw [h, strictText_octets] at hs
  exact (Option.some.inj hs).symm

theorem hexValue_hexDigit {n : Nat} (h : n < 16) : hexValue? (hexDigit n) = some n := by
  revert n
  decide

theorem unescape_escapedOctet (b : UInt8) (r : List Char) :
    unescape (escapedOctet b ++ r) = b :: unescape r := by
  have hb := b.toNat_lt
  have hhigh : hexValue? (hexDigit (b.toNat / 16)) = some (b.toNat / 16) :=
    hexValue_hexDigit (by omega)
  have hlow : hexValue? (hexDigit (b.toNat % 16)) = some (b.toNat % 16) :=
    hexValue_hexDigit (by omega)
  have hback : b.toNat / 16 * 16 + b.toNat % 16 = b.toNat := by omega
  show unescape ('%' :: hexDigit (b.toNat / 16) :: hexDigit (b.toNat % 16) :: r) = _
  rw [unescape, hhigh, hlow]
  simp only [hback, UInt8.ofNat_toNat]

theorem unescape_escapedOctets (bs : List UInt8) (r : List Char) :
    unescape (bs.flatMap escapedOctet ++ r) = bs ++ unescape r := by
  induction bs with
  | nil => rfl
  | cons b bs ih =>
    rw [List.flatMap_cons, List.append_assoc, unescape_escapedOctet, ih, List.cons_append]

/-! ### Texts

What is written is read back as the octets of the text. -/

section Escape

variable {escaped : Char → Bool}

theorem unescape_cons {c : Char} (h : c ≠ '%') (r : List Char) :
    unescape (c :: r) = String.utf8EncodeChar c ++ unescape r := by
  rw [unescape.eq_def]
  split
  · rename_i heq
    cases heq
  · rename_i heq
    cases heq
    exact absurd rfl h
  · rename_i heq
    cases heq
    rfl

theorem unescape_escape (hpercent : escaped '%' = true) (s : List Char) :
    unescape (escape escaped s) = octetsOfChars s := by
  induction s with
  | nil => rfl
  | cons c s ih =>
    show unescape (escapeChar escaped c ++ escape escaped s) =
      String.utf8EncodeChar c ++ octetsOfChars s
    rw [← ih]
    unfold escapeChar
    split
    · exact unescape_escapedOctets _ _
    · rename_i hplain
      apply unescape_cons
      rintro rfl
      exact hplain (Bool.or_eq_true_iff.mpr (Or.inr hpercent))

/-- A text of characters that need no percent notation is written as it is. -/
theorem escape_eq_self {s : List Char} (h : ∀ c ∈ s, c.toNat < 0x80 ∧ escaped c = false) :
    escape escaped s = s := by
  induction s with
  | nil => rfl
  | cons c s ih =>
    obtain ⟨hsmall, hplain⟩ := h c List.mem_cons_self
    have hchar : escapeChar escaped c = [c] := by
      unfold escapeChar
      rw [if_neg]
      simp only [hplain, Bool.or_false, decide_eq_true_eq]
      omega
    show escapeChar escaped c ++ escape escaped s = c :: s
    rw [hchar, ih (fun d hd => h d (List.mem_cons_of_mem c hd))]
    rfl

/-- A mark that is written in percent notation does not occur in what is written. -/
theorem not_mem_escape {mark : Char} (hescaped : escaped mark = true)
    (hmark : ∀ b, mark ∉ escapedOctet b) (s : List Char) : mark ∉ escape escaped s := by
  intro hmem
  obtain ⟨c, -, hc⟩ := List.mem_flatMap.mp hmem
  unfold escapeChar at hc
  split at hc
  · obtain ⟨b, -, hb⟩ := List.mem_flatMap.mp hc
    exact hmark b hb
  · rename_i hplain
    rw [List.mem_singleton] at hc
    subst hc
    exact hplain (Bool.or_eq_true_iff.mpr (Or.inr hescaped))

end Escape

/-! ### Characters that are no part of the notation -/

/-- A character, be it a percent sign, is read as itself unless two digits follow it. -/
theorem unescape_cons_of_not_digits {s : List Char}
    (h : ∀ a b r, s = a :: b :: r → hexValue? a = none ∨ hexValue? b = none) (c : Char) :
    unescape (c :: s) = String.utf8EncodeChar c ++ unescape s := by
  rw [unescape.eq_def]
  split
  · rename_i heq
    cases heq
  · rename_i a b r heq
    cases heq
    split
    · rename_i x y hx hy
      rcases h a b r rfl with hnone | hnone
      · rw [hnone] at hx
        cases hx
      · rw [hnone] at hy
        cases hy
    · rfl
  · rename_i heq
    cases heq
    rfl

/-- A character that is no part of the notation is read as itself among others. -/
theorem unescape_append_cons {c : Char} (hpercent : c ≠ '%') (hdigit : hexValue? c = none)
    (s r : List Char) :
    unescape (s ++ c :: r) = unescape s ++ (String.utf8EncodeChar c ++ unescape r) := by
  fun_induction unescape s with
  | case1 => exact unescape_cons hpercent r
  | case2 a b s x y hb ha ih =>
    rw [List.cons_append, List.cons_append, List.cons_append, unescape, ha, hb]
    simp only [ih, List.cons_append]
  | case3 a b s hno ih =>
    have hnot : ∀ a' b' r', a :: b :: (s ++ c :: r) = a' :: b' :: r' →
        hexValue? a' = none ∨ hexValue? b' = none := by
      rintro _ _ _ ⟨⟩
      cases ha : hexValue? a with
      | none => exact Or.inl rfl
      | some x =>
        cases hb : hexValue? b with
        | none => exact Or.inr rfl
        | some y => exact (hno x y ha hb).elim
    show unescape ('%' :: a :: b :: (s ++ c :: r)) = _
    rw [unescape_cons_of_not_digits hnot]
    simp only [List.cons_append] at ih
    rw [ih]
    rfl
  | case4 d s hno ih =>
    have hnot : d = '%' → ∀ a b r', s ++ c :: r = a :: b :: r' →
        hexValue? a = none ∨ hexValue? b = none := by
      rintro rfl a b r' heq
      rcases s with _ | ⟨a', _ | ⟨b', s⟩⟩
      · cases heq
        exact Or.inl hdigit
      · cases heq
        exact Or.inr hdigit
      · exact (hno a' b' s rfl rfl).elim
    have hcons : unescape (d :: (s ++ c :: r)) =
        String.utf8EncodeChar d ++ unescape (s ++ c :: r) := by
      by_cases hd : d = '%'
      · exact unescape_cons_of_not_digits (hnot hd) d
      · exact unescape_cons hd _
    rw [List.cons_append, hcons, ih, List.append_assoc]

/-! ### Segments that are steps -/

theorem toLower_eq {c d : Char} (h : c.toLower = d) :
    c = d ∨ c.toNat + 0x20 = d.toNat ∧ 0x41 ≤ c.toNat ∧ c.toNat ≤ 0x5A := by
  unfold Char.toLower at h
  split at h
  · rename_i hupper
    have hlow : 0x41 ≤ c.toNat := hupper.1
    have hhigh : c.toNat ≤ 0x5A := hupper.2
    refine Or.inr ⟨?_, hlow, hhigh⟩
    subst h
    show c.toNat + 0x20 = (c.val + 0x20).toNat
    rw [UInt32.toNat_add]
    show c.toNat + 0x20 = (c.toNat + 0x20) % 2 ^ 32
    omega
  · exact Or.inl h

theorem eq_of_toLower {c d : Char} (h : c.toLower = d) (hd : d.toNat < 0x61) : c = d := by
  rcases toLower_eq h with heq | hupper
  · exact heq
  · omega

theorem hexValue_of_toLower {c : Char} (h : c.toLower = 'e') : hexValue? c = some 14 := by
  rcases toLower_eq h with rfl | ⟨hnum, -⟩
  · rfl
  · have he : 'e'.toNat = 0x65 := rfl
    have hc : c = 'E' := Char.toNat_inj.mp (by show c.toNat = 0x45; omega)
    rw [hc]
    rfl

theorem unescape_dot {c : Char} (h : c.toLower = '.') (r : List Char) :
    unescape (c :: r) = 0x2E :: unescape r := by
  rw [eq_of_toLower h (by decide)]
  exact unescape_cons (by decide) r

theorem unescape_escapedDot {a b c : Char} (ha : a.toLower = '%') (hb : b.toLower = '2')
    (hc : c.toLower = 'e') (r : List Char) : unescape (a :: b :: c :: r) = 0x2E :: unescape r := by
  have htwo : hexValue? '2' = some 2 := rfl
  rw [eq_of_toLower ha (by decide), eq_of_toLower hb (by decide), unescape, htwo,
    hexValue_of_toLower hc]
  rfl

/-- However the dots are written, a step up reads as two dots. -/
theorem unescape_of_isParent {s : List Char} (h : isParent s = true) :
    unescape s = octets ".." := by
  unfold isParent at h
  simp only [List.contains_eq_mem, List.mem_cons, List.not_mem_nil, or_false, decide_eq_true_eq,
    ← String.toList_inj, String.toList_ofList] at h
  rcases h with h | h | h | h <;>
    simp only [String.reduceToList, List.map_eq_cons_iff, List.map_eq_nil_iff] at h
  · obtain ⟨a, _, rfl, ha, b, _, rfl, hb, rfl⟩ := h
    rw [unescape_dot ha, unescape_dot hb]
    rfl
  · obtain ⟨a, _, rfl, ha, b, _, rfl, hb, c, _, rfl, hc, d, _, rfl, hd, e, _, rfl, he, f, _, rfl,
      hf, rfl⟩ := h
    rw [unescape_escapedDot ha hb hc, unescape_escapedDot hd he hf]
    rfl
  · obtain ⟨a, _, rfl, ha, b, _, rfl, hb, c, _, rfl, hc, d, _, rfl, hd, rfl⟩ := h
    rw [unescape_escapedDot ha hb hc, unescape_dot hd]
    rfl
  · obtain ⟨a, _, rfl, ha, b, _, rfl, hb, c, _, rfl, hc, d, _, rfl, hd, rfl⟩ := h
    rw [unescape_dot ha, unescape_escapedDot hb hc hd]
    rfl

/-- However the dot is written, a step in place reads as one dot. -/
theorem unescape_of_isHere {s : List Char} (h : isHere s = true) : unescape s = octets "." := by
  unfold isHere at h
  simp only [List.contains_eq_mem, List.mem_cons, List.not_mem_nil, or_false, decide_eq_true_eq,
    ← String.toList_inj, String.toList_ofList] at h
  rcases h with h | h <;>
    simp only [String.reduceToList, List.map_eq_cons_iff, List.map_eq_nil_iff] at h
  · obtain ⟨a, _, rfl, ha, rfl⟩ := h
    rw [unescape_dot ha]
    rfl
  · obtain ⟨a, _, rfl, ha, b, _, rfl, hb, c, _, rfl, hc, rfl⟩ := h
    rw [unescape_escapedDot ha hb hc]
    rfl

end SandboxClient.Url
