/-
  SandboxClient/Proofs/Url/Endings.lean
  =====================================
  **Cutting off the end of an address.** The server that an address leads to is
  read off the part before the first mark that ends it, and that part ends in
  neither blanks nor controls. So blanks, controls and slashes can be cut off the
  end of an address that is asked: what is left is read, and leads to the same
  server (`parse_cut`).
-/
import SandboxClient.Proofs.Text.Found
import SandboxClient.Proofs.Text.Trimmed
import SandboxClient.Proofs.Url.Domains
import SandboxClient.Proofs.Url.Hosts

namespace SandboxClient.Url

/-! ### The part with user, host and port -/

/-- A text without marks that end the part with user, host and port. -/
def Inner (part : List Char) : Prop := ∀ c ∈ part, endsAuthority true c = false

/-- A text that is empty or begins with such a mark. -/
def Outer (tail : List Char) : Prop := ∀ c ∈ tail.head?, endsAuthority true c = true

section Parts

variable {part tail scheme : List Char} {c : Char}

theorem exists_inner_outer (s : List Char) :
    ∃ part tail, s = part ++ tail ∧ Inner part ∧ Outer tail := by
  refine ⟨s.takeWhile (fun c => !endsAuthority true c),
    s.dropWhile (fun c => !endsAuthority true c), List.takeWhile_append_dropWhile.symm, ?_, ?_⟩
  · intro c hc
    simpa using List.mem_takeWhile_imp hc
  · intro c hc
    simpa using Text.head?_dropWhile hc

/-! ### User -/

theorem span_inner (hpart : Inner part) :
    part.span (fun c => !endsAuthority true c) = (part, []) := by
  apply Text.span_of_forall
  intro c hc
  rw [hpart c hc]
  rfl

theorem span_inner_append (hpart : Inner part) (htail : Outer tail) :
    (part ++ tail).span (fun c => !endsAuthority true c) = (part, tail) := by
  rw [Text.span_append, span_inner hpart, List.nil_append]
  intro c hc
  rw [htail c hc]
  rfl

theorem cutUser_append (hpart : Inner part) (htail : Outer tail) :
    cutUser true (part ++ tail) = (cutUser true part).map (fun x => (x.1, x.2 ++ tail)) := by
  simp only [cutUser, span_inner_append hpart htail, span_inner hpart, List.append_nil]
  split
  · rfl
  · rfl

theorem suffix_of_cutUser {user q : List Char} (hpart : Inner part)
    (h : cutUser true part = some (user, q)) : q <:+ part := by
  simp only [cutUser, span_inner hpart, List.append_nil] at h
  split at h
  · cases h
  · cases h
    rw [← List.reverse_prefix, List.reverse_reverse]
    exact List.takeWhile_prefix _

theorem Inner.of_suffix {q : List Char} (hpart : Inner part) (h : q <:+ part) : Inner q :=
  fun c hc => hpart c (h.subset hc)

theorem head?_ends (hpart : Inner part) : part.head?.any (endsAuthority true) = false := by
  cases part with
  | nil => rfl
  | cons c r => exact hpart c List.mem_cons_self

/-- The user is read off the part, and what is left of it is its end. -/
theorem exists_takeUser (hpart : Inner part) :
    ∃ name password q, takeUser true part = .ok (name, password, q) ∧ q <:+ part := by
  rcases hcut : cutUser true part with _ | ⟨user, q⟩
  · exact ⟨[], [], part, by rw [takeUser, hcut], List.suffix_rfl⟩
  · have hq := suffix_of_cutUser hpart hcut
    cases user with
    | nil =>
      refine ⟨[], [], q, ?_, hq⟩
      simp [takeUser, hcut, head?_ends (hpart.of_suffix hq)]
    | cons d user => exact ⟨_, _, q, by rw [takeUser, hcut], hq⟩

/-- What follows the part changes nothing, except that an at sign alone is refused earlier. -/
theorem takeUser_append (hpart : Inner part) (htail : Outer tail) {name password q : List Char}
    (h : takeUser true part = .ok (name, password, q)) :
    takeUser true (part ++ tail) = .ok (name, password, q ++ tail) ∨
      q = [] ∧ takeUser true (part ++ tail) = .error .emptyHost := by
  have happend := cutUser_append hpart htail
  rcases hcut : cutUser true part with _ | ⟨user, r⟩
  · rw [takeUser, hcut] at h
    cases h
    left
    rw [takeUser, happend, hcut]
    rfl
  · have hr := hpart.of_suffix (suffix_of_cutUser hpart hcut)
    rw [hcut] at happend
    cases user with
    | nil =>
      simp only [takeUser, hcut, head?_ends hr] at h
      cases h
      rw [takeUser, happend]
      cases q with
      | nil =>
        simp only [Option.map_some, List.nil_append]
        split
        · exact Or.inr ⟨trivial, rfl⟩
        · exact Or.inl rfl
      | cons d q =>
        have hhead : ((d :: q) ++ tail).head?.any (endsAuthority true) = false :=
          hr d List.mem_cons_self
        left
        simp only [Option.map_some, hhead]
        rfl
    | cons d user =>
      rw [takeUser, hcut] at h
      cases h
      left
      rw [takeUser, happend]
      rfl

/-! ### Host -/

theorem cutHost_append (hpart : Inner part) (htail : Outer tail) (b : Bool) :
    cutHost true b (part ++ tail) =
      ((cutHost true b part).1, (cutHost true b part).2 ++ tail) := by
  induction part generalizing b with
  | nil =>
    cases tail with
    | nil => rfl
    | cons c tail =>
      have hends : endsAuthority true c = true := htail c rfl
      simp [cutHost, hends]
  | cons c part ih =>
    have hrest := hpart.of_suffix (List.suffix_cons c part)
    rw [List.cons_append, cutHost, cutHost]
    split
    · rfl
    · rw [ih hrest]

theorem cutHost_eq (b : Bool) (s : List Char) :
    (cutHost true b s).1 ++ (cutHost true b s).2 = s := by
  induction s generalizing b with
  | nil => rfl
  | cons c s ih =>
    rw [cutHost]
    split
    · rfl
    · simp [ih]

theorem head?_cutHost (hpart : Inner part) (b : Bool) :
    ∀ c ∈ (cutHost true b part).2.head?, c = ':' := by
  induction part generalizing b with
  | nil => rintro c ⟨⟩
  | cons d part ih =>
    rw [cutHost]
    split
    · rename_i hstop
      rintro c ⟨⟩
      simp [hpart d List.mem_cons_self] at hstop
      exact hstop.1
    · exact ih (hpart.of_suffix (List.suffix_cons d part)) _

theorem takeHost_append (hpart : Inner part) (htail : Outer tail) :
    takeHost true (part ++ tail) = (takeHost true part).map (fun x => (x.1, x.2 ++ tail)) := by
  simp only [takeHost, cutHost_append hpart htail, if_true]
  split
  · rfl
  · cases readHost (cutHost true false part).1 with
    | error _ => rfl
    | ok _ => rfl

theorem takeHost_ok {host : Option Host} {r : List Char} (hpart : Inner part)
    (h : takeHost true part = .ok (host, r)) :
    ∃ text, part = text ++ r ∧ text ≠ [] ∧ (∀ c ∈ text.getLast?, isLoose c = false) ∧
      ∀ c ∈ r.head?, c = ':' := by
  simp only [takeHost, if_true] at h
  split at h
  · cases h
  · rename_i hempty
    obtain ⟨x, hread, heq⟩ := map_ok_iff.mp h
    cases heq
    refine ⟨(cutHost true false part).1, (cutHost_eq false part).symm, ?_, ?_,
      head?_cutHost hpart false⟩
    · simpa using hempty
    · intro c hc
      exact isLoose_getLast_of_readHost hread hc

/-! ### Port -/

theorem takePort_of_ne {s : List Char} (h : s.head? ≠ some ':') :
    takePort scheme s = .ok (none, s) := by
  unfold takePort
  split
  · exact absurd rfl h
  · rfl

theorem takePort_append (hpart : Inner part) (htail : Outer tail) :
    takePort scheme (part ++ tail) = (takePort scheme part).map (fun x => (x.1, x.2 ++ tail)) := by
  have hcolon : tail.head? ≠ some ':' := by
    intro hc
    exact absurd (htail ':' hc) (by decide)
  have hdigit : ∀ c ∈ tail.head?, c.isDigit = false := by
    intro c hc
    have hends := htail c hc
    simp only [endsAuthority, isSlash, Bool.true_and, Bool.or_eq_true, beq_iff_eq] at hends
    rcases hends with ((rfl | rfl) | rfl) | rfl <;> decide
  cases part with
  | nil =>
    rw [List.nil_append, takePort_of_ne hcolon]
    rfl
  | cons c part =>
    have hrest := hpart.of_suffix (List.suffix_cons c part)
    by_cases hc : c = ':'
    · subst hc
      have hhead : ((part.span Char.isDigit).2 ++ tail).head?.all (endsAuthority true) =
          (part.span Char.isDigit).2.head?.all (endsAuthority true) := by
        cases (part.span Char.isDigit).2 with
        | nil =>
          cases tail with
          | nil => rfl
          | cons c tail => exact htail c rfl
        | cons d r => rfl
      simp only [List.cons_append, takePort, Text.span_append hdigit, hhead]
      split
      · rfl
      · split
        · rfl
        · rfl
    · rw [takePort_of_ne (by simpa using hc), takePort_of_ne (by simpa using hc)]
      rfl

theorem isLoose_of_isDigit (h : c.isDigit = true) : isLoose c = false := by
  apply Bool.eq_false_iff.mpr
  intro hloose
  have houtside := not_graphic_of_isLoose hloose
  simp only [Char.isDigit, Bool.and_eq_true, decide_eq_true_eq, ge_iff_le,
    UInt32.le_iff_toNat_le] at h
  have hlow : 48 ≤ c.toNat := h.1
  have hhigh : c.toNat ≤ 57 := h.2
  omega

/-- A port is written in digits up to the end of the part. -/
theorem takePort_ok {port : Option Nat} {r : List Char} (hpart : Inner part)
    (hhead : ∀ c ∈ part.head?, c = ':') (h : takePort scheme part = .ok (port, r)) :
    r = [] ∧ ∀ c ∈ part.getLast?, isLoose c = false := by
  cases part with
  | nil =>
    cases h
    exact ⟨rfl, by rintro c ⟨⟩⟩
  | cons d part =>
    obtain rfl : d = ':' := hhead d rfl
    simp only [takePort, List.span_eq_takeWhile_dropWhile] at h
    split at h
    · cases h
    · split at h
      · cases h
      · rename_i hall
        have hrest : part.dropWhile Char.isDigit = [] := by
          cases hrest : part.dropWhile Char.isDigit with
          | nil => rfl
          | cons e r =>
            have hmem : e ∈ part := List.dropWhile_subset _ (hrest ▸ List.mem_cons_self)
            simp [hrest, hpart e (List.mem_cons_of_mem _ hmem)] at hall
        cases h
        refine ⟨hrest, ?_⟩
        intro c hc
        rcases List.mem_cons.mp (List.mem_of_getLast? hc) with rfl | hmem
        · decide
        · exact isLoose_of_isDigit (List.dropWhile_eq_nil_iff.mp hrest c hmem)

/-! ### The whole part -/

/-- The same address with something else behind the server. -/
def withTail (u : Url) (t : Tail) : Url :=
  { u with path := t.path, query := t.query, fragment := t.fragment }

/-- The server is read off the part alone, which ends in neither blanks nor controls. -/
theorem readAuthority_ok {u : Url} (hspecial : isSpecial scheme = true) (hpart : Inner part)
    (htail : Outer tail) (h : readAuthority scheme (part ++ tail) = .ok u) :
    part ≠ [] ∧ (∀ c ∈ part.getLast?, isLoose c = false) ∧
      ∀ tail', Outer tail' →
        readAuthority scheme (part ++ tail') = .ok (withTail u (readTail scheme tail')) := by
  simp only [readAuthority_eq_ok, hspecial] at h ⊢
  obtain ⟨name, password, _, host, _, port, _, htake, hhost, hport, hanonymous, rfl⟩ := h
  obtain ⟨name', password', q, huser, front, rfl⟩ := exists_takeUser hpart
  have hinner := hpart.of_suffix (List.suffix_append front q)
  rcases takeUser_append hpart htail huser with heq | ⟨-, heq⟩
  · rw [heq] at htake
    cases htake
    rw [takeHost_append hinner htail] at hhost
    obtain ⟨⟨host, r⟩, hhostPart, hafter⟩ := map_ok_iff.mp hhost
    obtain ⟨rfl, rfl⟩ := Prod.mk.inj hafter
    obtain ⟨text, rfl, hne, hlast, hhead⟩ := takeHost_ok hinner hhostPart
    have hr := hinner.of_suffix (List.suffix_append text r)
    rw [takePort_append hr htail] at hport
    obtain ⟨⟨port, rest⟩, hportPart, hafter⟩ := map_ok_iff.mp hport
    obtain ⟨rfl, rfl⟩ := Prod.mk.inj hafter
    obtain ⟨rfl, hlast'⟩ := takePort_ok hr hhead hportPart
    refine ⟨by simp [hne], ?_, ?_⟩
    · intro c hc
      rw [List.getLast?_append, List.getLast?_append, Option.or_assoc] at hc
      rcases Option.or_eq_some_iff.mp hc with hc | ⟨-, hc⟩
      · exact hlast' c hc
      · rcases Option.or_eq_some_iff.mp hc with hc | ⟨hnone, -⟩
        · exact hlast c hc
        · exact absurd (List.getLast?_eq_none_iff.mp hnone) hne
    · intro tail' htail'
      rcases takeUser_append hpart htail' huser with heq | ⟨hnil, -⟩
      · refine ⟨name, password, _, host, r ++ tail', port, tail', heq, ?_, ?_, hanonymous, rfl⟩
        · rw [takeHost_append hinner htail', hhostPart]
          rfl
        · rw [takePort_append hr htail', hportPart]
          rfl
      · exact absurd (List.append_eq_nil_iff.mp hnil).1 hne
  · rw [heq] at htake
    cases htake

end Parts

/-! ### Cutting the end off

The part with the server ends before anything that is cut off. -/

/-- Blanks, controls and slashes only. -/
def Trailing (w : List Char) : Prop := ∀ c ∈ w, isLoose c = true ∨ c = '/'

/-- The address of the same server, asked in the same way as the same user. -/
structure SameServer (u v : Url) : Prop where
  scheme : u.scheme = v.scheme
  username : u.username = v.username
  password : u.password = v.password
  host : u.host = v.host
  port : u.port = v.port

section Cutting

variable {s w scheme : List Char} {u : Url}

theorem Trailing.of_suffix {x : List Char} (hw : Trailing w) (h : x <:+ w) : Trailing x :=
  fun c hc => hw c (h.subset hc)

theorem readAuthority_cut (hspecial : isSpecial scheme = true) (hw : Trailing w)
    (h : readAuthority scheme (s ++ w) = .ok u) :
    ∃ t, readAuthority scheme s = .ok (withTail u (readTail scheme t)) := by
  obtain ⟨part, tail, heq, hpart, htail⟩ := exists_inner_outer (s ++ w)
  rw [heq] at h
  obtain ⟨hne, hlast, hafter⟩ := readAuthority_ok hspecial hpart htail h
  rcases List.append_eq_append_iff.mp heq with ⟨y, rfl, rfl⟩ | ⟨x, rfl, rfl⟩
  · -- The part would reach into what is cut off, but it ends in none of these characters.
    rcases List.eq_nil_or_concat y with rfl | ⟨y, c, rfl⟩
    · exact ⟨[], by simpa using hafter [] (by rintro c ⟨⟩)⟩
    · have hc : c ∈ s ++ y.concat c := by simp
      rcases hw c (by simp) with hloose | rfl
      · rw [hlast c (by simp)] at hloose
        cases hloose
      · exact absurd (hpart '/' hc) (by decide)
  · refine ⟨x, hafter x ?_⟩
    intro c hc
    cases x with
    | nil => cases hc
    | cons d x => exact htail c hc

theorem dropWhile_append_cut {p : Char → Bool} (s w : List Char) :
    ∃ x, x <:+ w ∧ (s ++ w).dropWhile p = s.dropWhile p ++ x := by
  rw [List.dropWhile_append]
  split
  · rename_i hempty
    rw [List.isEmpty_iff] at hempty
    exact ⟨w.dropWhile p, List.dropWhile_suffix p, by rw [hempty, List.nil_append]⟩
  · exact ⟨w, List.suffix_rfl, rfl⟩

theorem isSchemeChar_of_trailing {c : Char} (h : isLoose c = true ∨ c = '/') :
    isSchemeChar c = false := by
  rcases h with h | rfl
  · have houtside := not_graphic_of_isLoose h
    apply Bool.eq_false_iff.mpr
    intro hchar
    unfold isSchemeChar Char.isAlphanum Char.isAlpha Char.isUpper Char.isLower at hchar
    simp only [Char.isDigit, Bool.or_eq_true, Bool.and_eq_true, decide_eq_true_eq, beq_iff_eq,
      ge_iff_le, UInt32.le_iff_toNat_le, show c.val.toNat = c.toNat from rfl] at hchar
    rcases hchar with ((((hupper | hlower) | hdigit) | rfl) | rfl) | rfl
    · have hrange : 65 ≤ c.toNat ∧ c.toNat ≤ 90 := hupper
      omega
    · have hrange : 97 ≤ c.toNat ∧ c.toNat ≤ 122 := hlower
      omega
    · have hrange : 48 ≤ c.toNat ∧ c.toNat ≤ 57 := hdigit
      omega
    · exact absurd houtside (by decide)
    · exact absurd houtside (by decide)
    · exact absurd houtside (by decide)
  · decide

theorem readScheme_eq_some {rest : List Char} :
    readScheme s = some (scheme, rest) ↔ ∃ first name, s.head? = some first ∧
      first.isAlpha = true ∧ s.span isSchemeChar = (name, ':' :: rest) ∧
      scheme = name.map Char.toLower := by
  unfold readScheme
  constructor
  · intro h
    split at h
    · rename_i first name r hfirst hspan
      split at h
      · rename_i halpha
        cases h
        exact ⟨first, name, hfirst, halpha, hspan, rfl⟩
      · cases h
    · cases h
  · rintro ⟨first, name, hfirst, halpha, hspan, rfl⟩
    rw [hfirst, hspan]
    simp only [halpha, if_true]

theorem readScheme_cut {rest : List Char} (hw : Trailing w)
    (h : readScheme (s ++ w) = some (scheme, rest)) :
    ∃ r, rest = r ++ w ∧ readScheme s = some (scheme, r) := by
  obtain ⟨first, name, hfirst, halpha, hspan, rfl⟩ := readScheme_eq_some.mp h
  rw [Text.span_append (fun c hc => isSchemeChar_of_trailing (hw c (List.mem_of_head? hc)))] at hspan
  obtain ⟨hname, hrest⟩ := Prod.mk.inj hspan
  cases hcut : (s.span isSchemeChar).2 with
  | nil =>
    rw [hcut, List.nil_append] at hrest
    have hcolon := hw ':' (hrest ▸ List.mem_cons_self)
    exact absurd hcolon (by decide)
  | cons c r =>
    rw [hcut, List.cons_append, List.cons.injEq] at hrest
    obtain ⟨rfl, rfl⟩ := hrest
    refine ⟨r, rfl, readScheme_eq_some.mpr ⟨first, name, ?_, halpha, ?_, rfl⟩⟩
    · cases s with
      | nil => cases hcut
      | cons d s => exact hfirst
    · rw [← hname, ← hcut]

theorem counted_append (hw : Trailing w) (s : List Char) :
    ∃ x, Trailing x ∧ counted (s ++ w) = counted s ++ x := by
  obtain ⟨x, hx, hdrop⟩ := dropWhile_append_cut (p := fun c => decide (c.toNat ≤ 0x20)) s w
  obtain ⟨y, hy, hlow⟩ := Text.exists_dropTail (fun c => decide (c.toNat ≤ 0x20))
    (s.dropWhile (fun c => decide (c.toNat ≤ 0x20)))
  obtain ⟨z, hz, -⟩ := Text.exists_dropTail (fun c => decide (c.toNat ≤ 0x20)) x
  simp only [counted, hdrop, Text.dropTail_append]
  split
  · exact ⟨[], by rintro c ⟨⟩, (List.append_nil _).symm⟩
  · refine ⟨(y ++ Text.dropTail (fun c => decide (c.toNat ≤ 0x20)) x).filter
      (fun c => !isDropped c), ?_, ?_⟩
    · intro c hc
      rcases List.mem_append.mp (List.mem_filter.mp hc).1 with hc | hc
      · exact Or.inl (by rw [isLoose, hlow c hc, Bool.or_true])
      · exact hw.of_suffix hx c (hz ▸ List.mem_append_left _ hc)
    · rw [← List.filter_append, ← List.append_assoc, ← hy]

theorem scheme_of_readAuthority (h : readAuthority scheme s = .ok u) : u.scheme = scheme := by
  obtain ⟨_, _, _, _, _, _, _, -, -, -, -, rfl⟩ := readAuthority_eq_ok.mp h
  rfl

theorem scheme_of_readFile (h : readFile s = .ok u) : u.scheme = fileScheme := by
  unfold readFile at h
  dsimp only at h
  split at h
  · split at h
    · obtain ⟨_, -, h⟩ := bind_ok_iff.mp h
      cases h
      rfl
    · cases h
      rfl
  · cases h
    rfl

theorem scheme_of_readOther (h : readOther scheme s = .ok u) : u.scheme = scheme := by
  unfold readOther at h
  split at h
  · exact scheme_of_readAuthority h
  · cases h
    rfl
  · cases h
    rfl

/-- What is cut off the end of an address that is asked has no part in the server that it
leads to. -/
theorem parse_cut (hw : Trailing w) (h : parse (String.ofList (s ++ w)) = .ok u)
    (hspecial : isSpecial u.scheme = true) (hfile : u.scheme ≠ fileScheme) :
    ∃ v, parse (String.ofList s) = .ok v ∧ SameServer v u ∧ v.hasSegments = true := by
  obtain ⟨x, hx, hcounted⟩ := counted_append hw s
  simp only [parse, String.toList_ofList, hcounted] at h ⊢
  split at h
  · cases h
  · rename_i scheme rest hscheme
    obtain ⟨r, rfl, hr⟩ := readScheme_cut hx hscheme
    rw [hr]
    dsimp only
    split at h
    · exact absurd (scheme_of_readFile h) hfile
    · rename_i hnot
      split at h
      · rename_i hscheme
        obtain ⟨y, hy, hdrop⟩ := dropWhile_append_cut (p := isSlash true) r x
        rw [hdrop] at h
        obtain ⟨t, ht⟩ := readAuthority_cut hscheme (hx.of_suffix hy) h
        rw [if_neg hnot, if_pos hscheme]
        exact ⟨_, ht, ⟨rfl, rfl, rfl, rfl, rfl⟩, rfl⟩
      · rename_i hplain
        rw [scheme_of_readOther h] at hspecial
        exact absurd hspecial hplain

end Cutting

end SandboxClient.Url
