/-
  SandboxClient/Proofs/Url/Below.lean
  ===================================
  **Which segments can be put behind a path.** Putting a text behind a path is to
  add one segment that stands for the text. It adds none for a step, it loses
  tabs and line ends, and an empty segment at the root gives way to the next
  one. A segment adds at most one, so that nothing that is lost on the way comes
  back: `below_iff` says exactly for which lists of texts there is one
  segment for each in the end.
-/
import Mathlib.Data.List.Forall2
import SandboxClient.Proofs.Url.Percent
import SandboxClient.Url.Segments

namespace SandboxClient.Url

open SandboxClient.Text

/-! ### Single segments

A text is a name if it is neither a step nor loses anything on its way into a segment. -/

/-- A text that a segment can stand for. -/
def IsName (s : String) : Prop := s ≠ "." ∧ s ≠ ".." ∧ ∀ c ∈ s.toList, isDropped c = false

theorem isName_iff {s : String} :
    IsName s ↔ s ≠ "." ∧ s ≠ ".." ∧ s.toList.all (fun c => !isDropped c) = true := by
  simp [IsName]

instance (s : String) : Decidable (IsName s) := decidable_of_iff _ isName_iff.symm

/-- A segment stands for a text: it reads back as its octets, and no character in it ends the
segment. -/
def StandsFor (scheme a : List Char) (s : String) : Prop :=
  unescape a = octets s ∧ ∀ c ∈ a, endsAuthority (isSpecial scheme) c = false

/-- A text as it is sent. -/
def sent (scheme : List Char) (s : String) : List Char :=
  escape (escapedInSegment (isSpecial scheme)) (s.toList.filter (fun c => !isDropped c))

section Single

variable {scheme : List Char} {s : String}

theorem escapedInSegment_of_ends {special : Bool} {c : Char} (h : endsAuthority special c = true) :
    escapedInSegment special c = true := by
  unfold endsAuthority isSlash at h
  simp only [Bool.or_eq_true, Bool.and_eq_true, beq_iff_eq] at h
  rcases h with ((rfl | ⟨rfl, rfl⟩) | rfl) | rfl
  · cases special <;> rfl
  · rfl
  · rfl
  · rfl

theorem not_mem_escapedOctet {special : Bool} {c : Char} (h : endsAuthority special c = true)
    (b : UInt8) : c ∉ escapedOctet b := by
  have hdigit : ∀ n < 16, ∀ special, endsAuthority special (hexDigit n) = false := by decide
  have hb := b.toNat_lt
  intro hmem
  simp only [escapedOctet, List.mem_cons, List.not_mem_nil, or_false] at hmem
  rcases hmem with rfl | rfl | rfl
  · cases special <;> cases h
  · rw [hdigit _ (by omega)] at h
    cases h
  · rw [hdigit _ (by omega)] at h
    cases h

theorem unescape_sent :
    unescape (sent scheme s) = octets (String.ofList (s.toList.filter (fun c => !isDropped c))) := by
  have hpercent : escapedInSegment (isSpecial scheme) '%' = true := by
    cases isSpecial scheme <;> rfl
  unfold octets
  rw [String.toList_ofList]
  exact unescape_escape hpercent _

theorem standsFor_sent_iff :
    StandsFor scheme (sent scheme s) s ↔ ∀ c ∈ s.toList, isDropped c = false := by
  have hfilter : s.toList.filter (fun c => !isDropped c) = s.toList ↔
      ∀ c ∈ s.toList, isDropped c = false := by
    simp only [List.filter_eq_self, Bool.not_eq_true']
  unfold StandsFor
  rw [unescape_sent]
  constructor
  · rintro ⟨hoctets, -⟩
    have hsame := congrArg String.toList (octets_injective hoctets)
    rw [String.toList_ofList] at hsame
    exact hfilter.mp hsame
  · intro hkept
    refine ⟨?_, ?_⟩
    · rw [hfilter.mpr hkept, String.ofList_toList]
    · intro c hc
      apply Bool.eq_false_iff.mpr
      intro hends
      exact not_mem_escape (escapedInSegment_of_ends hends) (not_mem_escapedOctet hends) _ hc

/-- What is sent for a name is no step. -/
theorem IsName.not_step (h : IsName s) :
    isParent (sent scheme s) = false ∧ isHere (sent scheme s) = false := by
  have hoctets : unescape (sent scheme s) = octets s := (standsFor_sent_iff.mpr h.2.2).1
  constructor
  · apply Bool.eq_false_iff.mpr
    intro hparent
    exact h.2.1 (octets_injective (hoctets.symm.trans (unescape_of_isParent hparent)))
  · apply Bool.eq_false_iff.mpr
    intro hhere
    exact h.1 (octets_injective (hoctets.symm.trans (unescape_of_isHere hhere)))

end Single

/-! ### Drives

In local files the letter of a drive stays where it is, which is the only difference between
schemes. -/

/-- The letter of a drive with a bar, in the place of which a colon is sent. -/
def IsBarDrive (s : String) : Prop := isDriveLetter s.toList = true ∧ s.toList.getLast? = some '|'

instance (s : String) : Decidable (IsBarDrive s) :=
  inferInstanceAs (Decidable (_ ∧ _))

theorem isDriveLetter_iff {a : List Char} :
    isDriveLetter a = true ↔ ∃ c d, a = [c, d] ∧ c.isAlpha = true ∧ (d = ':' ∨ d = '|') := by
  unfold isDriveLetter
  split
  · rename_i c d
    simp only [Bool.and_eq_true, Bool.or_eq_true, beq_iff_eq, List.cons.injEq, and_true]
    constructor
    · rintro ⟨hc, hd⟩
      exact ⟨c, d, ⟨rfl, rfl⟩, hc, hd⟩
    · rintro ⟨c', d', ⟨rfl, rfl⟩, hc, hd⟩
      exact ⟨hc, hd⟩
  · rename_i hshape
    constructor
    · intro h
      cases h
    · rintro ⟨c, d, rfl, -, -⟩
      exact absurd rfl (hshape c d)

theorem isAlpha_small {c : Char} (h : c.isAlpha = true) : c.toNat < 0x80 := by
  unfold Char.isAlpha Char.isUpper Char.isLower at h
  simp only [Bool.or_eq_true, Bool.and_eq_true, decide_eq_true_eq] at h
  rcases h with ⟨-, hhigh⟩ | ⟨-, hhigh⟩
  · have hhigh : c.toNat ≤ 0x5A := hhigh
    omega
  · have hhigh : c.toNat ≤ 0x7A := hhigh
    omega

theorem plain_of_isDriveLetter {a : List Char} (h : isDriveLetter a = true) (special : Bool) :
    ∀ e ∈ a, e.toNat < 0x80 ∧ escapedInSegment special e = false ∧ isDropped e = false := by
  have hletter : ∀ n < 0x80, (Char.ofNat n).isAlpha = true → ∀ special,
      escapedInSegment special (Char.ofNat n) = false ∧ isDropped (Char.ofNat n) = false := by
    decide
  obtain ⟨c, d, rfl, hc, hd⟩ := isDriveLetter_iff.mp h
  intro e he
  simp only [List.mem_cons, List.not_mem_nil, or_false] at he
  rcases he with rfl | rfl
  · have hsmall := isAlpha_small hc
    have hofNat := hletter e.toNat hsmall
    rw [Char.ofNat_toNat] at hofNat
    exact ⟨hsmall, hofNat hc special⟩
  · obtain rfl | rfl : e = ':' ∨ e = '|' := by simpa using hd
    · cases special <;> decide
    · cases special <;> decide

/-- The letter of a drive is sent as it is. -/
theorem sent_of_isDriveLetter {scheme : List Char} {s : String} (h : isDriveLetter s.toList = true) :
    sent scheme s = s.toList := by
  have hplain := plain_of_isDriveLetter h (isSpecial scheme)
  unfold sent
  rw [List.filter_eq_self.mpr (fun e he => by rw [(hplain e he).2.2]; rfl)]
  exact escape_eq_self (fun e he => ⟨(hplain e he).1, (hplain e he).2.1⟩)

theorem unescape_of_isDriveLetter {a : List Char} (h : isDriveLetter a = true) :
    unescape a = octets (String.ofList a) := by
  have hplain := plain_of_isDriveLetter h true
  have hself : escape (escapedInSegment true) a = a :=
    escape_eq_self (fun e he => ⟨(hplain e he).1, (hplain e he).2.1⟩)
  unfold octets
  have hback : unescape (escape (escapedInSegment true) a) = octetsOfChars a := unescape_escape rfl a
  rw [String.toList_ofList, ← hback, hself]

/-! ### One more segment

A text adds one segment, or none, or takes one away. -/

/-- Whether a path takes on a text as one more segment. -/
structure TakesOn (scheme : List Char) (done : List (List Char)) (s : String) : Prop where
  name : IsName s
  root : done ≠ [[]]
  front : scheme = fileScheme → done.head? ≠ some []
  drive : scheme = fileScheme → done = [] → ¬ IsBarDrive s

section Step

variable {scheme : List Char} {done : List (List Char)} {s : String}

theorem length_dropEmptyFront_le (ss : List (List Char)) :
    (dropEmptyFront ss).length ≤ ss.length := by
  fun_induction dropEmptyFront ss with
  | case1 s ss ih => exact Nat.le_succ_of_le ih
  | case2 ss _ => exact Nat.le_refl _

theorem dropEmptyFront_append (h : done.head? ≠ some []) (x : List Char) :
    dropEmptyFront (done ++ [x]) = done ++ [x] := by
  cases done with
  | nil => cases x <;> rfl
  | cons d ds =>
    cases d with
    | nil => exact absurd rfl h
    | cons c cs => rfl

theorem head_of_dropEmptyFront_append {x : List Char}
    (h : done.length < (dropEmptyFront (done ++ [x])).length) : done.head? ≠ some [] := by
  intro hhead
  cases done with
  | nil => cases hhead
  | cons d ds =>
    cases hhead
    have hle := length_dropEmptyFront_le (ds ++ [x])
    have hstep : dropEmptyFront (([] :: ds) ++ [x]) = dropEmptyFront (ds ++ [x]) := by
      cases ds <;> rfl
    rw [hstep] at h
    simp only [List.length_append, List.length_cons, List.length_nil] at h hle
    omega

/-- What putting a segment behind a path does, unless it makes the path no longer. -/
theorem putSegment_cases (scheme : List Char) (done : List (List Char)) (a : List Char) :
    (putSegment scheme done a true).length ≤ done.length ∨
      ∃ x, putSegment scheme done a true = done ++ [x] ∧
        (x = [] ∧ (isParent a = true ∨ isHere a = true) ∨
          scheme = fileScheme ∧ done = [] ∧ isDriveLetter a = true ∧ x = a.take 1 ++ [':'] ∨
          (scheme = fileScheme → done = [] → isDriveLetter a = false) ∧ x = a) := by
  unfold putSegment
  by_cases hparent : isParent a = true
  · rw [if_pos hparent]
    unfold parent
    split
    · exact Or.inr ⟨[], rfl, Or.inl ⟨rfl, Or.inl hparent⟩⟩
    · cases done with
      | nil => exact Or.inr ⟨[], rfl, Or.inl ⟨rfl, Or.inl hparent⟩⟩
      | cons d ds =>
        apply Or.inl
        simp
  · rw [if_neg hparent]
    by_cases hhere : isHere a = true
    · rw [if_pos hhere]
      exact Or.inr ⟨[], rfl, Or.inl ⟨rfl, Or.inr hhere⟩⟩
    · rw [if_neg hhere]
      split
      · rename_i hdrive
        simp only [Bool.and_eq_true, beq_iff_eq, List.isEmpty_iff] at hdrive
        obtain ⟨⟨hscheme, rfl⟩, hletter⟩ := hdrive
        exact Or.inr ⟨_, rfl, Or.inr (Or.inl ⟨hscheme, rfl, hletter, rfl⟩)⟩
      · rename_i hdrive
        refine Or.inr ⟨a, rfl, Or.inr (Or.inr ⟨?_, rfl⟩)⟩
        rintro rfl rfl
        apply Bool.eq_false_iff.mpr
        intro hletter
        exact hdrive (by simp [hletter])

/-- The segment that is put stands for the text only if nothing of the text is lost. -/
theorem TakesOn.of_put {x : List Char} (hroot : done ≠ [[]])
    (hfront : scheme = fileScheme → done.head? ≠ some []) (hhere : s ≠ ".") (hparent : s ≠ "..")
    (hput : putSegment scheme done (sent scheme s) true = done ++ [x])
    (hx : StandsFor scheme x s) : TakesOn scheme done s := by
  obtain hshort | ⟨y, hy, hkind⟩ := putSegment_cases scheme done (sent scheme s)
  · rw [hput, List.length_append, List.length_singleton] at hshort
    omega
  · obtain rfl : x = y := List.singleton_inj.mp (List.append_cancel_left (hput.symm.trans hy))
    rcases hkind with ⟨rfl, hstep⟩ | ⟨hscheme, rfl, hletter, rfl⟩ | ⟨hletter, rfl⟩
    · -- nothing is put for a step, and a step is sent for no text that reads as nothing
      obtain rfl : s = "" := octets_injective hx.1.symm
      rcases hstep with hstep | hstep <;> cases hstep
    · obtain ⟨c, d, hcd, hc, -⟩ := isDriveLetter_iff.mp hletter
      rw [hcd] at hx
      have hcolon : isDriveLetter [c, ':'] = true := isDriveLetter_iff.mpr ⟨c, ':', rfl, hc, Or.inl rfl⟩
      obtain rfl : String.ofList [c, ':'] = s :=
        octets_injective ((unescape_of_isDriveLetter hcolon).symm.trans hx.1)
      refine ⟨⟨hhere, hparent, ?_⟩, hroot, hfront, ?_⟩
      · rw [String.toList_ofList]
        exact fun e he => (plain_of_isDriveLetter hcolon true e he).2.2
      · intro _ _ hbar
        rw [IsBarDrive, String.toList_ofList] at hbar
        cases hbar.2
    · have hkept := standsFor_sent_iff.mp hx
      refine ⟨⟨hhere, hparent, hkept⟩, hroot, hfront, ?_⟩
      intro hscheme hnil hbar
      have hno := hletter hscheme hnil
      rw [sent_of_isDriveLetter hbar.1, hbar.1] at hno
      cases hno

/-- A path as it is kept in a scheme. -/
def kept (scheme : List Char) (ss : List (List Char)) : List (List Char) :=
  if scheme = fileScheme then dropEmptyFront ss else ss

theorem length_kept_le (scheme : List Char) (ss : List (List Char)) :
    (kept scheme ss).length ≤ ss.length := by
  unfold kept
  split
  · exact length_dropEmptyFront_le ss
  · exact Nat.le_refl _

theorem kept_append (h : scheme = fileScheme → done.head? ≠ some []) (x : List Char) :
    kept scheme (done ++ [x]) = done ++ [x] := by
  unfold kept
  split
  · rename_i hscheme
    exact dropEmptyFront_append (h hscheme) x
  · rfl

theorem head_of_kept_append {x : List Char} (h : done.length < (kept scheme (done ++ [x])).length)
    (hscheme : scheme = fileScheme) : done.head? ≠ some [] := by
  rw [kept, if_pos hscheme] at h
  exact head_of_dropEmptyFront_append h

theorem appendSegment_of_dots (h : s = "." ∨ s = "..") : appendSegment scheme done s = done := by
  unfold appendSegment
  rw [if_pos (by simpa using h)]

theorem appendSegment_of_not_dots (h : ¬ (s = "." ∨ s = "..")) :
    appendSegment scheme done s =
      kept scheme (putSegment scheme (if done = [[]] then [] else done) (sent scheme s) true) := by
  unfold appendSegment kept
  rw [if_neg (by simpa using h)]
  simp only [beq_iff_eq]
  rfl

theorem length_putSegment_le (scheme : List Char) (done : List (List Char)) (a : List Char) :
    (putSegment scheme done a true).length ≤ done.length + 1 := by
  obtain hshort | ⟨x, hx, -⟩ := putSegment_cases scheme done a
  · omega
  · have hlength := congrArg List.length hx
    rw [List.length_append, List.length_singleton] at hlength
    exact Nat.le_of_eq hlength

/-- A text adds at most one segment, and none to a root. -/
theorem length_appendSegment_le_ite :
    (appendSegment scheme done s).length ≤ done.length + (if done = [[]] then 0 else 1) := by
  by_cases hdots : s = "." ∨ s = ".."
  · rw [appendSegment_of_dots hdots]
    exact Nat.le_add_right _ _
  · rw [appendSegment_of_not_dots hdots]
    refine Nat.le_trans (length_kept_le scheme _) ?_
    refine Nat.le_trans (length_putSegment_le scheme _ _) ?_
    split
    · rename_i hroot
      rw [hroot]
      exact Nat.le_refl _
    · exact Nat.le_refl _

/-- A path that takes on a text has one more segment then, which stands for the text. -/
theorem TakesOn.append (h : TakesOn scheme done s) :
    appendSegment scheme done s = done ++ [sent scheme s] ∧ StandsFor scheme (sent scheme s) s := by
  have hstands : StandsFor scheme (sent scheme s) s := standsFor_sent_iff.mpr h.name.2.2
  have hput : putSegment scheme done (sent scheme s) true = done ++ [sent scheme s] := by
    obtain ⟨hparent, hhere⟩ := h.name.not_step
    unfold putSegment
    rw [hparent, hhere, if_neg Bool.false_ne_true, if_neg Bool.false_ne_true]
    split
    · rename_i hdrive
      simp only [Bool.and_eq_true, beq_iff_eq, List.isEmpty_iff] at hdrive
      obtain ⟨⟨hscheme, rfl⟩, hletter⟩ := hdrive
      -- what is sent is a drive only if the text is one
      have hs : String.ofList (sent scheme s) = s :=
        octets_injective ((unescape_of_isDriveLetter hletter).symm.trans hstands.1)
      obtain ⟨c, d, hcd, hc, rfl | rfl⟩ := isDriveLetter_iff.mp hletter
      · rw [hcd]
        rfl
      · refine absurd ?_ (h.drive hscheme rfl)
        rw [IsBarDrive, ← hs, String.toList_ofList]
        exact ⟨hletter, by rw [hcd]; rfl⟩
    · rfl
  refine ⟨?_, hstands⟩
  rw [appendSegment_of_not_dots (not_or.mpr ⟨h.name.1, h.name.2.1⟩), if_neg h.root, hput]
  exact kept_append h.front _

theorem length_appendSegment_le (scheme : List Char) (done : List (List Char)) (s : String) :
    (appendSegment scheme done s).length ≤ done.length + 1 := by
  refine Nat.le_trans length_appendSegment_le_ite (Nat.add_le_add_left ?_ _)
  split <;> decide

/-- A path that gets longer by a text has one more segment, and the segment stands for the text
only if the path takes it on. -/
theorem appendSegment_grows (h : done.length < (appendSegment scheme done s).length) :
    ∃ x, appendSegment scheme done s = done ++ [x] ∧
      (StandsFor scheme x s → TakesOn scheme done s) := by
  have hroot : done ≠ [[]] := by
    intro hroot
    have hle : (appendSegment scheme done s).length ≤ done.length + if done = [[]] then 0 else 1 :=
      length_appendSegment_le_ite
    rw [if_pos hroot] at hle
    omega
  by_cases hdots : s = "." ∨ s = ".."
  · rw [appendSegment_of_dots hdots] at h
    exact absurd h (Nat.lt_irrefl _)
  · rw [appendSegment_of_not_dots hdots, if_neg hroot] at h ⊢
    obtain ⟨hhere, hparent⟩ := not_or.mp hdots
    obtain hshort | ⟨x, hput, -⟩ := putSegment_cases scheme done (sent scheme s)
    · have hle := length_kept_le scheme (putSegment scheme done (sent scheme s) true)
      omega
    · rw [hput] at h ⊢
      have hfront := head_of_kept_append h
      exact ⟨x, kept_append hfront x, TakesOn.of_put hroot hfront hhere hparent hput⟩

end Step

/-! ### Many segments

No text adds more than one, so if the count is right in the end it was right all along. -/

/-- Whether texts can be put behind a path so that there is one segment for each. -/
structure CanFollow (scheme : List Char) (done : List (List Char)) (ss : List String) : Prop where
  names : ∀ s ∈ ss, IsName s
  root : ss ≠ [] → done ≠ [[]]
  /-- An empty segment at the root gives way to what follows it. -/
  first : done = [] → ss.head? = some "" → ss.length = 1
  /-- The path of a local file does not begin with an empty segment. -/
  front : scheme = fileScheme → ss ≠ [] → done.head? ≠ some []
  drive : scheme = fileScheme → done = [] → ∀ s, ss.head? = some s → ¬ IsBarDrive s

section Run

variable {scheme : List Char} {done : List (List Char)} {ss : List String}

theorem sent_eq_nil_iff {s : String} (h : StandsFor scheme (sent scheme s) s) :
    sent scheme s = [] ↔ s = "" := by
  constructor
  · intro hnil
    rw [hnil] at h
    exact octets_injective h.1.symm
  · rintro rfl
    rfl

theorem canFollow_cons {s : String} (h : StandsFor scheme (sent scheme s) s) :
    CanFollow scheme done (s :: ss) ↔
      TakesOn scheme done s ∧ CanFollow scheme (done ++ [sent scheme s]) ss := by
  constructor
  · intro hall
    refine ⟨⟨hall.names s List.mem_cons_self, hall.root (by simp), fun hf => hall.front hf (by simp),
      fun hf hd => hall.drive hf hd s rfl⟩, fun t ht => hall.names t (List.mem_cons_of_mem s ht),
      ?_, fun hd => absurd hd (by simp), ?_, fun _ hd => absurd hd (by simp)⟩
    · intro hne hroot
      obtain ⟨rfl, hnil⟩ : done = [] ∧ sent scheme s = [] := by
        simpa [List.append_eq_singleton_iff] using hroot
      have hone := hall.first rfl (by rw [(sent_eq_nil_iff h).mp hnil]; rfl)
      simp only [List.length_cons] at hone
      exact hne (List.length_eq_zero_iff.mp (by omega))
    · intro hf hne hhead
      cases done with
      | nil =>
        have hnil : sent scheme s = [] := by simpa using hhead
        have hone := hall.first rfl (by rw [(sent_eq_nil_iff h).mp hnil]; rfl)
        simp only [List.length_cons] at hone
        exact hne (List.length_eq_zero_iff.mp (by omega))
      | cons d ds => exact hall.front hf (by simp) hhead
  · rintro ⟨hstep, hrest⟩
    refine ⟨?_, fun _ => hstep.root, ?_, fun hf _ => hstep.front hf, ?_⟩
    · intro t ht
      rcases List.mem_cons.mp ht with rfl | ht
      · exact hstep.name
      · exact hrest.names t ht
    · intro hd hs
      have hnil : sent scheme s = [] := (sent_eq_nil_iff h).mpr (by simpa using hs)
      have hlast : ss = [] := by
        by_contra hne
        exact hrest.root hne (by rw [hd, hnil]; rfl)
      rw [hlast]
      rfl
    · intro hf hd t ht
      obtain rfl : s = t := by simpa using ht
      exact hstep.drive hf hd

/-- Behind a first text that is not special, the others only have to be names. -/
theorem canFollow_cons_iff {s : String} (hname : IsName s) (hs : s ≠ "") (hbar : ¬ IsBarDrive s) :
    CanFollow scheme done (s :: ss) ↔
      done ≠ [[]] ∧ (scheme = fileScheme → done.head? ≠ some []) ∧ ∀ t ∈ ss, IsName t := by
  constructor
  · intro h
    exact ⟨h.root (by simp), fun hf => h.front hf (by simp),
      fun t ht => h.names t (List.mem_cons_of_mem s ht)⟩
  · rintro ⟨hroot, hfront, hnames⟩
    refine ⟨?_, fun _ => hroot, ?_, fun hf _ => hfront hf, ?_⟩
    · intro t ht
      rcases List.mem_cons.mp ht with rfl | ht
      · exact hname
      · exact hnames t ht
    · intro _ hhead
      exact absurd (Option.some.inj hhead) hs
    · intro _ _ t ht
      obtain rfl : s = t := Option.some.inj ht
      exact hbar

/-- Texts add at most one segment each, and nothing of the path is lost if each adds one. -/
theorem foldl_appendSegment_length (scheme : List Char) (ss : List String)
    (done : List (List Char)) :
    (ss.foldl (appendSegment scheme) done).length ≤ done.length + ss.length ∧
      ((ss.foldl (appendSegment scheme) done).length = done.length + ss.length →
        done <+: ss.foldl (appendSegment scheme) done) := by
  induction ss generalizing done with
  | nil => exact ⟨Nat.le_refl _, fun _ => List.prefix_rfl⟩
  | cons s ss ih =>
    have hstep := length_appendSegment_le scheme done s
    obtain ⟨hle, hprefix⟩ := ih (appendSegment scheme done s)
    rw [List.foldl_cons, List.length_cons]
    refine ⟨by omega, ?_⟩
    intro hall
    have hgrows : done.length < (appendSegment scheme done s).length := by omega
    obtain ⟨x, hx, -⟩ := appendSegment_grows hgrows
    have hrest := hprefix (by omega)
    rw [hx] at hrest ⊢
    exact (List.prefix_append done [x]).trans hrest

/-- Texts that can follow a path are put behind it as they are sent. -/
theorem CanFollow.foldl (h : CanFollow scheme done ss) :
    ss.foldl (appendSegment scheme) done = done ++ ss.map (sent scheme) := by
  induction ss generalizing done with
  | nil => exact (List.append_nil done).symm
  | cons s ss ih =>
    have hname := h.names s List.mem_cons_self
    obtain ⟨hstep, hrest⟩ := (canFollow_cons (standsFor_sent_iff.mpr hname.2.2)).mp h
    rw [List.foldl_cons, hstep.append.1, ih hrest, List.append_assoc]
    rfl

theorem CanFollow.standsFor (h : CanFollow scheme done ss) :
    List.Forall₂ (StandsFor scheme) (ss.map (sent scheme)) ss := by
  rw [List.forall₂_map_left_iff, List.forall₂_same]
  exact fun s hs => standsFor_sent_iff.mpr (h.names s hs).2.2

/-- If a path ends in one segment for each text, none was lost on the way. -/
theorem CanFollow.of_foldl {added : List (List Char)}
    (hpath : ss.foldl (appendSegment scheme) done = done ++ added)
    (hadded : List.Forall₂ (StandsFor scheme) added ss) : CanFollow scheme done ss := by
  induction ss generalizing done added with
  | nil => exact ⟨by simp, by simp, by simp, by simp, by simp⟩
  | cons s ss ih =>
    obtain ⟨x, rest, hx, hrest, rfl⟩ := List.forall₂_cons_right_iff.mp hadded
    rw [List.foldl_cons] at hpath
    -- the path has grown by all segments, so by one for the first
    have hlength := congrArg List.length hpath
    rw [List.length_append, List.length_cons, hrest.length_eq] at hlength
    obtain ⟨hle, hprefix⟩ := foldl_appendSegment_length scheme ss (appendSegment scheme done s)
    have hone := length_appendSegment_le scheme done s
    have hgrows : done.length < (appendSegment scheme done s).length := by omega
    obtain ⟨y, hy, htakes⟩ := appendSegment_grows hgrows
    have hprefix := hprefix (by omega)
    rw [hpath, hy] at hprefix
    obtain rfl : y = x := by
      have hhead := (List.prefix_append_right_inj done).mp hprefix
      exact (List.cons_prefix_cons.mp hhead).1
    have hstep := htakes hx
    obtain ⟨hsent, hstands⟩ := hstep.append
    obtain rfl : y = sent scheme s :=
      List.singleton_inj.mp (List.append_cancel_left (hy.symm.trans hsent))
    rw [canFollow_cons hstands]
    refine ⟨hstep, ih ?_ hrest⟩
    rw [← hsent, hpath, hsent, List.append_assoc]
    rfl

end Run

/-! ### Below an address -/

/-- The segments of a path without an empty one at its end. -/
def ownSegments (done : List (List Char)) : List (List Char) :=
  if done.getLast? = some [] then done.dropLast else done

theorem ownSegments_eq {done : List (List Char)} (h : done ≠ [[]]) :
    ownSegments done = dropEmptyEnd done := by
  unfold ownSegments dropEmptyEnd
  rcases done with - | ⟨d, - | ⟨e, ds⟩⟩
  · rfl
  · have hd : d ≠ [] := by
      rintro rfl
      exact h rfl
    simp [hd]
  · simp

theorem path_below {u : Url} {done : List (List Char)} (h : u.path = .segments done)
    (ss : List String) :
    below u ss =
      { u with path := .segments (ss.foldl (appendSegment u.scheme) (dropEmptyEnd done)) } := by
  unfold below
  rw [h]

/-- At a root, texts are put in the place of the empty segment. -/
theorem foldl_root {scheme : List Char} {s : String} (h : ¬ (s = "." ∨ s = "..")) (ss : List String) :
    (s :: ss).foldl (appendSegment scheme) [[]] = (s :: ss).foldl (appendSegment scheme) [] := by
  have hsame : appendSegment scheme [[]] s = appendSegment scheme [] s := by
    rw [appendSegment_of_not_dots h, appendSegment_of_not_dots h]
    rfl
  rw [List.foldl_cons, List.foldl_cons, hsame]

theorem CanFollow.of_root {scheme : List Char} {ss : List String} {added : List (List Char)}
    (hne : ss ≠ []) (hpath : ss.foldl (appendSegment scheme) [[]] = added)
    (hadded : List.Forall₂ (StandsFor scheme) added ss) : CanFollow scheme [] ss := by
  cases ss with
  | nil => exact absurd rfl hne
  | cons s ss =>
    by_cases hdots : s = "." ∨ s = ".."
    · obtain ⟨x, rest, hx, hrest, rfl⟩ := List.forall₂_cons_right_iff.mp hadded
      rw [List.foldl_cons, appendSegment_of_dots hdots] at hpath
      -- the other texts add all the segments, so that the first is still the root's
      obtain ⟨-, hprefix⟩ := foldl_appendSegment_length scheme ss [[]]
      rw [hpath, List.length_cons, hrest.length_eq, List.length_singleton] at hprefix
      have hfirst := hprefix (Nat.add_comm _ _)
      obtain rfl := (List.cons_prefix_cons.mp hfirst).1
      obtain rfl : "" = s := octets_injective hx.1
      exact absurd hdots (by decide)
    · rw [foldl_root hdots] at hpath
      exact CanFollow.of_foldl hpath hadded

section Below

variable {u : Url} {done : List (List Char)} {ss : List String}

/-- Texts that can follow the path of an address are below it as they are sent. -/
theorem CanFollow.below (h : u.path = .segments done) (hne : ss ≠ [])
    (hfollow : CanFollow u.scheme (ownSegments done) ss) :
    below u ss = { u with path := .segments (ownSegments done ++ ss.map (sent u.scheme)) } := by
  rw [path_below h]
  by_cases hroot : done = [[]]
  · subst hroot
    cases ss with
    | nil => exact absurd rfl hne
    | cons s ss =>
      have hname := hfollow.names s List.mem_cons_self
      have hpath : (s :: ss).foldl (appendSegment u.scheme) [] = [] ++ (s :: ss).map (sent u.scheme) :=
        hfollow.foldl
      rw [← foldl_root (not_or.mpr ⟨hname.1, hname.2.1⟩)] at hpath
      exact congrArg (fun items => { u with path := .segments items }) hpath
  · rw [ownSegments_eq hroot] at hfollow ⊢
    rw [hfollow.foldl]

/-- **Which addresses are below an address.** The path below ends in one segment for each text if
and only if the texts can follow the path. -/
theorem below_iff (h : u.path = .segments done) (hne : ss ≠ []) :
    (∃ added, below u ss = { u with path := .segments (ownSegments done ++ added) } ∧
      List.Forall₂ (StandsFor u.scheme) added ss) ↔ CanFollow u.scheme (ownSegments done) ss := by
  constructor
  · rintro ⟨added, hbelow, hadded⟩
    rw [path_below h] at hbelow
    have hpath : ss.foldl (appendSegment u.scheme) (dropEmptyEnd done) = ownSegments done ++ added :=
      Path.segments.inj (congrArg Url.path hbelow)
    by_cases hroot : done = [[]]
    · subst hroot
      exact CanFollow.of_root hne hpath hadded
    · rw [ownSegments_eq hroot] at hpath ⊢
      exact CanFollow.of_foldl hpath hadded
  · intro hfollow
    exact ⟨_, hfollow.below h hne, hfollow.standsFor⟩

end Below

end SandboxClient.Url
