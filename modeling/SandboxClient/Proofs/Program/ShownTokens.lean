/-
  SandboxClient/Proofs/Program/ShownTokens.lean
  =============================================
  **What is said of the token that is sent.** The configuration names the source of
  the token that requests carry, and shows its beginning. Requests carry a token
  without the blanks around it, while a stored token is shown with them. The two
  begin in the same way exactly if the stored token is short, or has no blanks in
  front and is long without those at its end (`maskToken_trimmed_iff`).
-/
import SandboxClient.Proofs.Program.Displays
import SandboxClient.Proofs.Text.Trimmed

namespace SandboxClient.Server

/-! ### The beginning of a token without its blanks -/

section Masked

variable {t : String}

theorem not_isEmpty_trimmed (h : Text.isBlankText t = false) :
    (Text.trimmed t).isEmpty = false := by
  rwa [← Config.isBlankText_eq]

theorem maskToken_ne_set (hlength : 12 < t.length) : maskToken t ≠ "(set)" := by
  rw [maskToken_of_long hlength]
  intro heq
  have hlengths := congrArg String.length heq
  rw [String.length_append, String.length_ofList, List.length_take, String.length_toList] at hlengths
  have hset : "(set)".length = 5 := rfl
  omega

theorem length_trimmed_le (t : String) : (Text.trimmed t).length ≤ t.length := by
  rw [Text.trimmed, String.length_ofList, ← String.length_toList]
  exact (Text.trim_sublist t.toList).length_le

theorem take_trim_iff {s : List Char} {n : Nat} (hn : 0 < n) (hlength : n < (Text.trim s).length) :
    s.take n = (Text.trim s).take n ↔ ∀ c ∈ s.head?, Text.isBlank c = false := by
  constructor
  · intro heq c hc
    have hhead : (s.take n).head? = some c := by
      rw [List.head?_take, if_neg (by omega)]
      exact hc
    rw [heq, List.head?_take, if_neg (by omega)] at hhead
    exact Text.head?_trim hhead
  · intro hstart
    have hs : Text.trimStart s = s := Text.dropWhile_of_head? hstart
    obtain ⟨y, hy, -⟩ := Text.exists_dropTail Text.isBlank s
    have htrim : Text.trim s = Text.dropTail Text.isBlank s := by
      rw [Text.trim, hs, Text.trimEnd]
    rw [htrim] at hlength ⊢
    conv_lhs => rw [hy]
    exact List.take_append_of_le_length (Nat.le_of_lt hlength)

/-- Of a token that is not blank the same is shown as of what is left without the blanks around it
exactly if it is short, or begins with what is left and that is long. -/
theorem maskToken_trimmed_iff (h : Text.isBlankText t = false) :
    maskToken t = maskToken (Text.trimmed t) ↔
      t.length ≤ 12 ∨ (∀ c ∈ t.toList.head?, Text.isBlank c = false) ∧ 12 < (Text.trimmed t).length := by
  have hvisible := not_isEmpty_trimmed h
  rcases Nat.lt_or_ge 12 t.length with hlong | hshort
  · rcases Nat.lt_or_ge 12 (Text.trimmed t).length with htrimmed | htrimmed
    · have hbegin := take_trim_iff (s := t.toList) (n := 12) (by decide)
        (by rwa [Text.trimmed, String.length_ofList] at htrimmed)
      rw [maskToken_of_long hlong, maskToken_of_long htrimmed, String.append_left_inj,
        String.ofList_inj, Text.trimmed, String.toList_ofList, hbegin]
      constructor
      · intro hstart
        exact Or.inr ⟨hstart, by rwa [Text.trimmed] at htrimmed⟩
      · rintro (hshort | ⟨hstart, -⟩)
        · omega
        · exact hstart
    · rw [maskToken_of_short hvisible htrimmed]
      constructor
      · intro heq
        exact absurd heq (maskToken_ne_set hlong)
      · rintro (hshort | ⟨-, hlonger⟩)
        · omega
        · omega
  · have htrimmed := Nat.le_trans (length_trimmed_le t) hshort
    rw [maskToken_of_short (isEmpty_of_not_blank h) hshort, maskToken_of_short hvisible htrimmed]
    exact iff_of_true rfl (Or.inl hshort)

end Masked

end SandboxClient.Server

namespace SandboxClient.Program

open SandboxClient.Server (Config Entry Connection TokenSource maskToken resolveToken)

/-! ### The token of a connection -/

section Connected

variable {c : Config} {environment : Option String} {conn : Connection} {e : Entry} {t : String}

theorem resolveToken_eq_environment (h : resolveToken e environment = (.environment, t)) :
    ∃ s, environment = some s ∧ t = Text.trimmed s := by
  fun_cases resolveToken e environment with
  | case2 s hblank =>
    rw [resolveToken, if_neg hblank] at h
    exact ⟨s, rfl, (Prod.mk.inj h).2.symm⟩
  | _ => simp_all [resolveToken]

theorem resolveToken_eq_stored (h : resolveToken e environment = (.stored, t)) :
    environment = none ∧ Text.isBlankText e.token = false ∧ t = Text.trimmed e.token := by
  fun_cases resolveToken e environment with
  | case5 hempty hblank =>
    rw [resolveToken, if_neg hempty, if_neg hblank] at h
    exact ⟨rfl, Bool.eq_false_iff.mpr hblank, (Prod.mk.inj h).2.symm⟩
  | _ => simp_all [resolveToken]

theorem tokenSource_of_current (hcurrent : c.current? = some e) :
    c.tokenSource environment = (resolveToken e environment).1 := by
  rw [Config.tokenSource, hcurrent]

theorem connection_eq_ok_iff (hcurrent : c.current? = some e) :
    c.connection environment = .ok conn ↔
      (c.tokenSource environment = .environment ∨ c.tokenSource environment = .stored) ∧
        conn = ⟨e.server, (resolveToken e environment).2, e.insecure⟩ := by
  rw [tokenSource_of_current hcurrent]
  simp only [Config.connection, hcurrent]
  rcases resolveToken e environment with ⟨source, t⟩
  cases source <;> simp [eq_comm]

/-- A connection carries the token of the environment if there is one, and else the stored one,
without the blanks around it. -/
theorem token_of_connection (hcurrent : c.current? = some e)
    (h : c.connection environment = .ok conn) :
    (∃ s, environment = some s ∧ c.tokenSource environment = .environment ∧
        conn.token = Text.trimmed s) ∨
      environment = none ∧ c.tokenSource environment = .stored ∧
        Text.isBlankText e.token = false ∧ conn.token = Text.trimmed e.token := by
  obtain ⟨hsource, rfl⟩ := (connection_eq_ok_iff hcurrent).mp h
  rcases hsource with hsource | hsource
  · left
    have hresolve : resolveToken e environment = (.environment, _) :=
      Prod.ext ((tokenSource_of_current hcurrent).symm.trans hsource) rfl
    obtain ⟨s, hs, ht⟩ := resolveToken_eq_environment hresolve
    exact ⟨s, hs, hsource, ht⟩
  · right
    have hresolve : resolveToken e environment = (.stored, _) :=
      Prod.ext ((tokenSource_of_current hcurrent).symm.trans hsource) rfl
    obtain ⟨hnone, hvisible, ht⟩ := resolveToken_eq_stored hresolve
    exact ⟨hnone, hsource, hvisible, ht⟩

theorem exists_current_of_connection (h : c.connection environment = .ok conn) :
    ∃ e, c.current? = some e := by
  unfold Config.connection at h
  cases hcurrent : c.current? with
  | none =>
    rw [hcurrent] at h
    cases h
  | some e => exact ⟨e, rfl⟩

end Connected

/-! ### What is shown of it

The display shows the stored token, the connection carries it without its blanks. -/

/-- The beginning of a token is that of what is left of it without the blanks around it. -/
def BeginsAlike (t : String) : Prop :=
  t.length ≤ 12 ∨
    (∀ c ∈ t.toList.head?, Text.isBlank c = false) ∧ 12 < (Text.trimmed t).length

/-- **The configuration names the source of the token that requests carry, and shows the token
itself unless it is a stored one that blanks make look different.** -/
theorem shown_token_iff (c : Config) (environment : Option String) :
    (∀ conn, c.connection environment = .ok conn → ∃ e, c.current? = some e ∧
      (∀ w, (loadStore w).1 = .ok c → w.token? = environment → ∃ path, Prints .showConfig
        (String.join ((["# " ++ path, ""] ++ currentLines c e environment).map Terminal.line)) w) ∧
      c.tokenSource environment = (if environment.isSome then .environment else .stored) ∧
      (shownToken c e environment = maskToken conn.token ↔
        environment.isSome = true ∨ BeginsAlike e.token)) ∧
    ∀ e, c.current? = some e →
      ((∃ conn, c.connection environment = .ok conn) ↔
        c.tokenSource environment = .environment ∨ c.tokenSource environment = .stored) := by
  constructor
  · intro conn hconn
    obtain ⟨e, hcurrent⟩ := exists_current_of_connection hconn
    refine ⟨e, hcurrent, ?_, ?_⟩
    · rintro w hload rfl
      obtain ⟨directory, -, hprints⟩ := showConfig_prints hload
      rw [configText, configLines, hcurrent] at hprints
      exact ⟨_, hprints⟩
    · rcases token_of_connection hcurrent hconn with
        ⟨s, rfl, hsource, htoken⟩ | ⟨rfl, hsource, hvisible, htoken⟩
      · refine ⟨hsource, ?_⟩
        rw [shownToken, hsource, htoken]
        exact iff_of_true rfl (Or.inl rfl)
      · refine ⟨hsource, ?_⟩
        rw [shownToken, hsource, htoken, Server.maskToken_trimmed_iff hvisible]
        simp [BeginsAlike]
  · intro e hcurrent
    constructor
    · rintro ⟨conn, hconn⟩
      exact ((connection_eq_ok_iff hcurrent).mp hconn).1
    · intro hsource
      exact ⟨_, (connection_eq_ok_iff hcurrent).mpr ⟨hsource, rfl⟩⟩

def oneToken (token : String) : Config :=
  ⟨"https://a.example", [⟨"", "https://a.example", token, false⟩]⟩

theorem beginning_of_token_is_shown :
    (oneToken "sc_0123456789abcdef\n").connection none =
        .ok ⟨"https://a.example", "sc_0123456789abcdef", false⟩ ∧
      (oneToken "sc_0123456789abcdef\n").tokenSource none = .stored ∧
      ∃ e, (oneToken "sc_0123456789abcdef\n").current? = some e ∧
        shownToken (oneToken "sc_0123456789abcdef\n") e none = maskToken "sc_0123456789abcdef" := by
  have hconn : (oneToken "sc_0123456789abcdef\n").connection none =
      .ok ⟨"https://a.example", "sc_0123456789abcdef", false⟩ := by
    decide +kernel
  obtain ⟨e, hcurrent, -, hsource, hshown⟩ := (shown_token_iff _ none).1 _ hconn
  have he : (oneToken "sc_0123456789abcdef\n").current? =
      some ⟨"", "https://a.example", "sc_0123456789abcdef\n", false⟩ := by
    decide +kernel
  obtain rfl := Option.some.inj (he.symm.trans hcurrent)
  have hbegins : BeginsAlike "sc_0123456789abcdef\n" := by
    refine Or.inr ⟨?_, by decide +kernel⟩
    intro c hc
    obtain rfl : 's' = c := Option.some.inj hc
    decide
  exact ⟨hconn, hsource, _, hcurrent, hshown.mpr (Or.inr hbegins)⟩

/-- Of a token that is stored with blanks in front two characters less are shown than of the token
that is sent. -/
theorem blanks_are_shown_of_token :
    (oneToken "  sc_0123456789abcdef").connection none =
        .ok ⟨"https://a.example", "sc_0123456789abcdef", false⟩ ∧
      (∃ e, (oneToken "  sc_0123456789abcdef").current? = some e ∧
        shownToken (oneToken "  sc_0123456789abcdef") e none = "  sc_0123456...") ∧
      maskToken "sc_0123456789abcdef" = "sc_012345678..." := by
  refine ⟨by decide +kernel, ⟨⟨"", "https://a.example", "  sc_0123456789abcdef", false⟩, ?_⟩, ?_⟩
  · decide +kernel
  · decide +kernel

end SandboxClient.Program
