/-
  SandboxClient/Proofs/Server/HiddenTokens.lean
  =============================================
  **What a display tells of a token.** Two tokens look alike if both are empty, if
  neither is blank and both are short, or if neither is blank and both are long and
  begin in the same way. What a display shows of tokens that look alike is the same,
  and so is where a token is said to come from. A token that is cut is cut between
  two characters.
-/
import SandboxClient.Proofs.Server.Provenance
import SandboxClient.Proofs.Text.Octets
import Mathlib.Data.List.Forall2

namespace SandboxClient.Server

/-! ### Tokens that look alike

The cases are those of the display: the same text, or nothing but the fact that there is a token. -/

/-- Two tokens that a display does not tell apart. -/
inductive LookAlike : String → String → Prop
  | empty : LookAlike "" ""
  | short {s t : String} (hs : Text.isBlankText s = false) (ht : Text.isBlankText t = false)
      (hslength : s.length ≤ 12) (htlength : t.length ≤ 12) : LookAlike s t
  | long {s t : String} (hs : Text.isBlankText s = false) (ht : Text.isBlankText t = false)
      (hslength : 12 < s.length) (htlength : 12 < t.length)
      (hbegin : s.toList.take 12 = t.toList.take 12) : LookAlike s t

theorem isEmpty_of_not_blank {s : String} (h : Text.isBlankText s = false) : s.isEmpty = false := by
  rw [Bool.eq_false_iff] at h ⊢
  intro hempty
  rw [String.isEmpty_iff] at hempty
  subst hempty
  exact h rfl

theorem maskToken_of_short {token : String} (hvisible : token.isEmpty = false)
    (hlength : token.length ≤ 12) : maskToken token = "(set)" := by
  have hne : token.toList.isEmpty = false := by
    simpa [← Bool.not_eq_true, String.isEmpty_iff] using hvisible
  unfold maskToken
  simp only
  rw [if_neg (by simp [hne]), if_neg]
  rw [String.length_toList]
  exact Nat.not_lt.mpr hlength

theorem maskToken_of_long {token : String} (hlength : 12 < token.length) :
    maskToken token = String.ofList (token.toList.take 12) ++ "..." := by
  have hlong : shownTokenLength < token.toList.length := by rwa [String.length_toList]
  have hne : ¬ token.toList.isEmpty = true := by
    rw [List.isEmpty_iff]
    intro hnil
    rw [hnil] at hlong
    exact Nat.not_lt_zero _ hlong
  unfold maskToken
  simp only
  rw [if_neg hne, if_pos hlong, String.ofList_append]
  rfl

namespace LookAlike

variable {s t : String}

theorem maskToken_eq (h : LookAlike s t) : maskToken s = maskToken t := by
  cases h with
  | empty => rfl
  | short hs ht hslength htlength =>
    rw [maskToken_of_short (isEmpty_of_not_blank hs) hslength,
      maskToken_of_short (isEmpty_of_not_blank ht) htlength]
  | long hs ht hslength htlength hbegin =>
    rw [maskToken_of_long hslength, maskToken_of_long htlength, hbegin]

theorem isEmpty_eq (h : LookAlike s t) : s.isEmpty = t.isEmpty := by
  cases h with
  | empty => rfl
  | short hs ht => rw [isEmpty_of_not_blank hs, isEmpty_of_not_blank ht]
  | long hs ht => rw [isEmpty_of_not_blank hs, isEmpty_of_not_blank ht]

theorem isBlankText_eq (h : LookAlike s t) : Text.isBlankText s = Text.isBlankText t := by
  cases h with
  | empty => rfl
  | short hs ht => rw [hs, ht]
  | long hs ht => rw [hs, ht]

end LookAlike

/-! ### Where a token is cut -/

/-- **A token that is cut is cut between two characters.** What is shown of it are its first octets,
and both the octets that are shown and those that are not are texts. -/
theorem octets_maskToken {token : String} (hlength : 12 < token.length) :
    ∃ cut, Text.octets (maskToken token) =
        (Text.octets token).take cut ++ Text.octets "..." ∧
      Text.strictText ((Text.octets token).take cut) =
        some (String.ofList (token.toList.take 12)) ∧
      Text.strictText ((Text.octets token).drop cut) =
        some (String.ofList (token.toList.drop 12)) := by
  have happend : ∀ front back : List Char, Text.octetsOfChars (front ++ back) =
      Text.octetsOfChars front ++ Text.octetsOfChars back := by
    intro front back
    exact List.flatMap_append
  have hparts : Text.octets token = Text.octets (String.ofList (token.toList.take 12)) ++
      Text.octets (String.ofList (token.toList.drop 12)) := by
    simp only [Text.octets, String.toList_ofList]
    rw [← happend, List.take_append_drop]
  refine ⟨(Text.octets (String.ofList (token.toList.take 12))).length, ?_, ?_, ?_⟩
  · rw [hparts, List.take_left, maskToken_of_long hlength]
    simp only [Text.octets, String.toList_append]
    exact happend _ _
  · rw [hparts, List.take_left, Text.strictText_octets]
  · rw [hparts, List.drop_left, Text.strictText_octets]

/-! ### Stores that look alike

Nothing but the displayed text of a token depends on the token. -/

/-- Two entries that differ in nothing but tokens that look alike. -/
structure Entry.LookAlike (e e' : Entry) : Prop where
  name : e.name = e'.name
  server : e.server = e'.server
  insecure : e.insecure = e'.insecure
  token : Server.LookAlike e.token e'.token

/-- Two stores that differ in nothing but tokens that look alike. -/
structure Config.LookAlike (c c' : Config) : Prop where
  currentKey : c.currentKey = c'.currentKey
  servers : List.Forall₂ Entry.LookAlike c.servers c'.servers

/-- Two environments whose tokens look alike without the blanks around them. -/
def EnvironmentsLookAlike (environment environment' : Option String) : Prop :=
  Option.Rel (fun s t => LookAlike (Text.trimmed s) (Text.trimmed t)) environment environment'

namespace Config.LookAlike

variable {c c' : Config} {e e' : Entry}

/-- A search by alias or by address does not see the tokens. -/
theorem findIdx?_eq {p : Entry → Bool} (hp : ∀ a b : Entry, a.LookAlike b → p a = p b)
    {l l' : List Entry} (h : List.Forall₂ Entry.LookAlike l l') :
    l.findIdx? p = l'.findIdx? p := by
  induction h with
  | nil => rfl
  | cons hhead htail ih => rw [List.findIdx?_cons, List.findIdx?_cons, hp _ _ hhead, ih]

theorem position?_eq (h : c.LookAlike c') (key : String) : c.position? key = c'.position? key := by
  have hnamed : c.servers.findIdx? (fun e => e.isNamed key) =
      c'.servers.findIdx? (fun e => e.isNamed key) := by
    refine findIdx?_eq ?_ h.servers
    intro a b hab
    simp only [Entry.isNamed, hab.name]
  have haddressed : c.servers.findIdx? (fun e => e.server == key) =
      c'.servers.findIdx? (fun e => e.server == key) := by
    refine findIdx?_eq ?_ h.servers
    intro a b hab
    rw [hab.server]
  rw [position?, position?, hnamed, haddressed]

theorem getElem?_rel {l l' : List Entry} (h : List.Forall₂ Entry.LookAlike l l') (i : Nat) :
    Option.Rel Entry.LookAlike l[i]? l'[i]? := by
  induction h generalizing i with
  | nil => exact Option.Rel.none
  | cons hhead htail ih =>
    cases i with
    | zero => exact Option.Rel.some hhead
    | succ i => exact ih i

theorem current?_rel (h : c.LookAlike c') :
    Option.Rel Entry.LookAlike c.current? c'.current? := by
  unfold current? find?
  rw [← h.currentKey, ← h.position?_eq]
  split
  · exact Option.Rel.none
  · cases c.position? c.currentKey with
    | none => exact Option.Rel.none
    | some i => exact getElem?_rel h.servers i

theorem isCurrent_eq (h : c.LookAlike c') (he : e.LookAlike e') :
    c.isCurrent e = c'.isCurrent e' := by
  have hrel := h.current?_rel
  unfold isCurrent
  rw [← he.server]
  generalize c.current? = found, c'.current? = found' at hrel ⊢
  cases hrel with
  | none => rfl
  | some hcur => simp only [hcur.server]

end Config.LookAlike

/-! ### Sources -/

section Sources

variable {c c' : Config} {e e' : Entry} {environment environment' : Option String}

/-- Where a token comes from is told alike. -/
theorem source_eq (he : e.LookAlike e') (henv : EnvironmentsLookAlike environment environment') :
    (resolveToken e environment).1 = (resolveToken e' environment').1 := by
  cases henv with
  | none =>
    simp only [resolveToken, he.token.isEmpty_eq, he.token.isBlankText_eq]
    split
    · rfl
    · split <;> rfl
  | some htokens =>
    simp only [resolveToken, Config.isBlankText_eq, htokens.isEmpty_eq]
    split <;> rfl

theorem Config.LookAlike.tokenSource_eq (h : c.LookAlike c')
    (henv : EnvironmentsLookAlike environment environment') :
    c.tokenSource environment = c'.tokenSource environment' := by
  have hrel := h.current?_rel
  unfold Config.tokenSource
  generalize c.current? = found, c'.current? = found' at hrel ⊢
  cases hrel with
  | none => rfl
  | some hcur => exact source_eq hcur henv

end Sources

end SandboxClient.Server
