/-
  SandboxClient/Proofs/Server/HiddenBlanks.lean
  =============================================
  **Addresses that hide a blank.** Blanks are dropped from an address first and
  slashes at its end second, so a blank before these slashes comes out at the end
  of the normal form, and normalising it once more drops it. An entry that is
  added has had its address normalised twice, a login and a file of an older
  layout once: the ways to store an address and to look for it agree on the text
  exactly when no such blank is there.
-/
import SandboxClient.Proofs.Server.DerivedAlias
import SandboxClient.Proofs.Server.Migrated
import SandboxClient.Proofs.Text.Trimmed

namespace SandboxClient.Server

/-! ### The normal form

Normalising once more can only drop something at the end. -/

section NormalForm

variable {s : List Char} {c : Char}

theorem head?_normalizeChars (hc : c ∈ (normalizeChars s).head?) : Text.isBlank c = false :=
  Text.head?_trim (Text.head?_dropTail hc)

theorem getLast?_normalizeChars (hc : c ∈ (normalizeChars s).getLast?) : c ≠ '/' := by
  simpa using Text.getLast?_dropTail hc

theorem exists_slashes (s : List Char) :
    ∃ slashes, Text.trim s = normalizeChars s ++ slashes ∧ ∀ c ∈ slashes, c = '/' := by
  obtain ⟨slashes, hslashes, hall⟩ := Text.exists_dropTail (· == '/') (Text.trim s)
  exact ⟨slashes, hslashes, by simpa using hall⟩

/-- Nothing is dropped in front of a normal form, so its end decides whether it stays as it is. -/
theorem normalizeChars_normalizeChars_iff :
    normalizeChars (normalizeChars s) = normalizeChars s ↔
      ∀ c ∈ (normalizeChars s).getLast?, Text.isBlank c = false := by
  constructor
  · intro hsame c hc
    obtain ⟨before, after, hblanks, -⟩ := Text.exists_trim (normalizeChars s)
    obtain ⟨slashes, hslashes, -⟩ := exists_slashes (normalizeChars s)
    rw [hsame] at hslashes
    -- what is left is neither longer nor shorter, so no blanks have been dropped
    have hlength := congrArg List.length hblanks
    rw [hslashes] at hlength
    simp only [List.length_append] at hlength
    have hnone : slashes = [] := List.length_eq_zero_iff.mp (by omega)
    rw [hnone, List.append_nil] at hslashes
    rw [← hslashes] at hc
    exact Text.getLast?_trim hc
  · intro hlast
    have htrim := Text.trim_of_ends (fun _ => head?_normalizeChars) hlast
    rw [normalizeChars, htrim]
    refine Text.dropTail_of_getLast? (fun c hc => ?_)
    simpa using getLast?_normalizeChars hc

end NormalForm

/-! ### Hidden blanks -/

/-- Whether a blank stands before the slashes at the end of an address, and something else than
blanks before it. Blanks behind the slashes do not count. -/
def HidesBlank (url : String) : Prop :=
  ∃ front blank slashes after, url.toList = front ++ blank :: slashes ++ after ∧
    (∃ c ∈ front, Text.isBlank c = false) ∧ Text.isBlank blank = true ∧
    (slashes ≠ [] ∧ ∀ c ∈ slashes, c = '/') ∧ ∀ c ∈ after, Text.isBlank c = true

section Hidden

variable {url : String}

theorem slash_visible {slashes : List Char} (h : ∀ c ∈ slashes, c = '/') {c : Char}
    (hc : c ∈ slashes) : Text.isBlank c = false := by
  rw [h c hc]
  decide

/-- A hidden blank is what the normal form ends with. -/
theorem HidesBlank.getLast? (h : HidesBlank url) :
    ∃ c ∈ (normalizeChars url.toList).getLast?, Text.isBlank c = true := by
  obtain ⟨front, blank, slashes, after, hurl, ⟨x, hx, hvisible⟩, hblank, ⟨hne, hslashes⟩,
    hafter⟩ := h
  obtain ⟨before, hfront, hbefore⟩ := Text.exists_dropWhile Text.isBlank front
  obtain ⟨y, rest, hrest⟩ :=
    List.exists_cons_of_ne_nil (List.ne_nil_of_mem (Text.mem_dropWhile hx hvisible))
  have hy : Text.isBlank y = false := Text.head?_dropWhile (s := front) (by rw [hrest]; rfl)
  have htrim : Text.trim url.toList = (y :: rest) ++ blank :: slashes := by
    rw [hurl, hfront, hrest, List.append_assoc before]
    refine Text.trim_append_append hbefore ?_ ?_ hafter
    · simpa using hy
    · intro c hc
      rw [List.getLast?_append_of_ne_nil _ (by simp), List.getLast?_cons_of_ne_nil hne] at hc
      exact slash_visible hslashes (List.mem_of_getLast? hc)
  have hnormal : normalizeChars url.toList = (y :: rest) ++ [blank] := by
    rw [normalizeChars, htrim, List.append_cons]
    refine Text.dropTail_append_of_forall (by simpa using hslashes) ?_
    intro c hc
    rw [List.getLast?_concat, Option.mem_def, Option.some_inj] at hc
    rw [← hc, Bool.eq_false_iff]
    intro hslash
    rw [beq_iff_eq.mp hslash] at hblank
    exact absurd hblank (by decide)
  refine ⟨blank, ?_, hblank⟩
  rw [hnormal, List.getLast?_concat]
  rfl

/-- A blank at the end of a normal form has been hidden by slashes, since blanks are dropped
first. -/
theorem hidesBlank_of_getLast? {c : Char} (hc : c ∈ (normalizeChars url.toList).getLast?)
    (hblank : Text.isBlank c = true) : HidesBlank url := by
  obtain ⟨front, hfront⟩ := List.getLast?_eq_some_iff.mp hc
  obtain ⟨before, after, hurl, hbefore, hafter⟩ := Text.exists_trim url.toList
  obtain ⟨slashes, hslashes, hall⟩ := exists_slashes url.toList
  rw [hfront] at hslashes
  refine ⟨before ++ front, c, slashes, after, ?_, ?_, hblank, ⟨?_, hall⟩, hafter⟩
  · rw [hurl, hslashes]
    simp
  · cases front with
    | nil =>
      have hvisible : Text.isBlank c = false := head?_normalizeChars (by rw [hfront]; rfl)
      rw [hblank] at hvisible
      cases hvisible
    | cons x front =>
      exact ⟨x, by simp, head?_normalizeChars (by rw [hfront]; rfl)⟩
  · rintro rfl
    have hvisible : Text.isBlank c = false := Text.getLast?_trim (s := url.toList) (by
      rw [hslashes]
      simp)
    rw [hblank] at hvisible
    cases hvisible

theorem normalizeUrl_normalizeUrl_iff :
    normalizeUrl (normalizeUrl url) = normalizeUrl url ↔ ¬ HidesBlank url := by
  rw [normalizeUrl, normalizeUrl, String.toList_ofList, String.ofList_inj,
    normalizeChars_normalizeChars_iff]
  constructor
  · intro hlast h
    obtain ⟨c, hc, hblank⟩ := h.getLast?
    rw [hlast c hc] at hblank
    cases hblank
  · intro h c hc
    rw [Bool.eq_false_iff]
    intro hblank
    exact h (hidesBlank_of_getLast? hc hblank)

instance : Decidable (HidesBlank url) :=
  decidable_of_iff (normalizeUrl (normalizeUrl url) ≠ normalizeUrl url)
    (by rw [Ne, normalizeUrl_normalizeUrl_iff, not_not])

end Hidden

/-! ### Storing an address and looking for it

The ways differ in how often they normalise; they agree where once is enough. -/

/-- Whichever way an address gets into a store, it is stored as this text. -/
structure StoredAs (url text : String) : Prop where
  /-- An entry for it is added. -/
  added : ∀ (c c' : Config) (name : String) (insecure : Bool),
    c.add { Entry.fresh name url with insecure := insecure } = .ok c' →
      c'.servers = c.servers ++ [⟨name, text, "", insecure⟩]
  /-- A login there is stored. -/
  login : ∀ (c : Config) (name token : String),
    ∃ k, c.setEntry? name url token = some k ∧ k.server = text
  /-- A file names it as the only server. -/
  single : ∀ token, ∀ e ∈ (ofSingle url token).servers, e.server = text
  /-- A file maps an alias to it. -/
  mapped : ∀ (c : Config) (name : String) (m : MappedServer), m.url = url →
    ∀ e ∈ (adopt c name m).servers, e ∈ c.servers ∨ e.server = text

/-- Whichever way an address is looked for in a store, the entries with this text are found. -/
structure SoughtAs (url text : String) : Prop where
  /-- An entry for it, under no alias that is taken, is refused. -/
  added : ∀ (c : Config) (name : String) (insecure : Bool),
    (name ≠ "" → ∀ e ∈ c.servers, e.name ≠ name) →
      (c.add { Entry.fresh name url with insecure := insecure } = .error (.serverKnown text) ↔
        ∃ e ∈ c.servers, e.server = text)
  /-- A login there, under no alias that is taken, needs no entry of its own. -/
  login : ∀ (c : Config) (name token : String), (name ≠ "" → ∀ e ∈ c.servers, e.name ≠ name) →
    ((c.set name url token).servers.length ≤ c.servers.length ↔ ∃ e ∈ c.servers, e.server = text)
  /-- A login there without alias gets one that an entry has. -/
  chosen : ∀ c : Config, (∃ e ∈ c.servers, e.name ≠ "" ∧ e.name = c.chooseAlias url none) ↔
    ∃ e ∈ c.servers, e.name ≠ "" ∧ e.server = text
  /-- In a file that maps an alias to it, another one has come before. -/
  mapped : ∀ (c : Config) (name : String) (m : MappedServer), m.url = url →
    ((adopt c name m).servers = c.servers ↔ ∃ e ∈ c.servers, e.server = text)

section Storing

variable {c : Config} {name url token text : String} {m : MappedServer}

/-- What is added is refused for its address when the address, normalised twice, is there. -/
theorem add_fresh_known_iff {insecure : Bool}
    (hfree : name ≠ "" → ∀ e ∈ c.servers, e.name ≠ name) :
    c.add { Entry.fresh name url with insecure := insecure } =
        .error (.serverKnown (normalizeUrl (normalizeUrl url))) ↔
      ∃ e ∈ c.servers, e.server = normalizeUrl (normalizeUrl url) := by
  constructor
  · intro h
    exact Config.add_eq_error h
  · rintro ⟨e, he, hserver⟩
    have hname : ¬ (!name.isEmpty && c.servers.any (fun s => s.name == name)) = true := by
      rw [Bool.and_eq_true, List.any_eq_true]
      rintro ⟨hne, s, hs, heq⟩
      exact hfree (by simpa [String.isEmpty_iff] using hne) s hs (beq_iff_eq.mp heq)
    unfold Config.add
    dsimp only [Entry.fresh]
    rw [if_neg hname, if_pos]
    rw [List.any_eq_true]
    exact ⟨e, he, beq_iff_eq.mpr hserver⟩

/-- A login needs no entry of its own when its address, normalised once, is there. -/
theorem length_set_le_iff (hfree : name ≠ "" → ∀ e ∈ c.servers, e.name ≠ name) :
    (c.set name url token).servers.length ≤ c.servers.length ↔
      ∃ e ∈ c.servers, e.server = normalizeUrl url := by
  obtain ⟨k, before, after, hk, hset, hothers, horigin⟩ := Config.set_spec c name url token
  have hlength : (c.set name url token).servers.length =
      (c.servers.filter (Config.staysBeside k)).length + 1 := by
    rw [hset, ← hothers]
    simp only [List.length_append, List.length_cons]
    omega
  rw [hlength, Nat.succ_le_iff, List.length_filter_lt_length_iff_exists]
  rcases horigin with ⟨old, hold, htarget, rfl⟩ | ⟨hnone, rfl⟩
  · have hgoes := @Config.not_staysBeside_updated c name (normalizeUrl url) token old htarget
    rcases htarget with ⟨hne, heq⟩ | ⟨heq, -⟩
    · exact absurd heq (hfree hne old hold)
    · exact iff_of_true ⟨old, hold, by simpa using hgoes⟩ ⟨old, hold, heq⟩
  · refine exists_congr (fun e => and_congr_right (fun he => ?_))
    rw [Config.staysBeside_iff, Entry.Apart, and_iff_left, Ne, not_not, eq_comm]
    intro hne heq
    exact hfree hne e he heq.symm

theorem chosen_iff : (∃ e ∈ c.servers, e.name ≠ "" ∧ e.name = c.chooseAlias url none) ↔
    ∃ e ∈ c.servers, e.name ≠ "" ∧ e.server = normalizeUrl url := by
  constructor
  · rintro ⟨e, he, hne, hname⟩
    obtain ⟨s, hs, hserver, hsname⟩ := Config.exists_of_chosen he hname hne
    exact ⟨s, hs, hsname ▸ hne, hserver⟩
  · rintro ⟨e, he, hne, hserver⟩
    rcases Config.chooseAlias_cases c url with ⟨s, hs, -, hsne, hchosen⟩ | ⟨hnone, -⟩
    · exact ⟨s, hs, hsne, hchosen.symm⟩
    · exact absurd (hnone e he hserver) hne

theorem adopt_servers_iff :
    (adopt c name m).servers = c.servers ↔ ∃ e ∈ c.servers, e.server = normalizeUrl m.url := by
  cases hfind : c.servers.find? (fun e => e.server == normalizeUrl m.url) with
  | some kept =>
    have hkept := List.find?_some hfind
    rw [adopt_of_find? hfind]
    exact iff_of_true rfl ⟨kept, List.mem_of_find?_eq_some hfind, beq_iff_eq.mp hkept⟩
  | none =>
    rw [adopt_of_find?_eq_none hfind]
    refine iff_of_false (by simp) ?_
    rintro ⟨e, he, hserver⟩
    exact List.find?_eq_none.mp hfind e he (beq_iff_eq.mpr hserver)

/-- Where one normalisation is enough, it gives the text that is stored. -/
theorem storedAs_normalizeUrl (h : normalizeUrl (normalizeUrl url) = normalizeUrl url) :
    StoredAs url (normalizeUrl url) where
  added := by
    intro c c' name insecure hadd
    rw [(Config.add_eq_ok hadd).2]
    simp only [Entry.normalized, Entry.fresh, h]
  login := by
    intro c name token
    obtain ⟨k, hk, -, hserver, -⟩ := Config.mem_set c name url token
    exact ⟨k, hk, hserver⟩
  single := by
    intro token e he
    unfold ofSingle at he
    dsimp only at he
    split at he
    · cases he
    · rw [List.mem_singleton.mp he]
  mapped := by
    rintro c name m rfl e he
    cases hfind : c.servers.find? (fun e => e.server == normalizeUrl m.url) with
    | some kept =>
      rw [adopt_of_find? hfind] at he
      exact Or.inl he
    | none =>
      rw [adopt_of_find?_eq_none hfind] at he
      rcases List.mem_append.mp he with he | he
      · exact Or.inl he
      · rw [List.mem_singleton.mp he]
        exact Or.inr rfl

/-- And that is the text that is looked for. -/
theorem soughtAs_normalizeUrl (h : normalizeUrl (normalizeUrl url) = normalizeUrl url) :
    SoughtAs url (normalizeUrl url) where
  added := by
    intro c name insecure hfree
    have hadd := @add_fresh_known_iff c name url insecure hfree
    rwa [h] at hadd
  login := by
    intro c name token hfree
    exact length_set_le_iff hfree
  chosen := by
    intro c
    exact chosen_iff
  mapped := by
    rintro c name m rfl
    exact adopt_servers_iff

/-- A login stores the address normalised once, and what is added has it normalised twice. -/
theorem StoredAs.eq_normalizeUrl (h : StoredAs url text) :
    text = normalizeUrl url ∧ normalizeUrl text = text := by
  obtain ⟨k, hk, hserver⟩ := h.login .empty "" ""
  obtain ⟨k', hk', -, hserver', -⟩ := Config.mem_set .empty "" url ""
  obtain rfl : k = k' := Option.some.inj (hk.symm.trans hk')
  obtain rfl : text = normalizeUrl url := hserver.symm.trans hserver'
  have hadd : Config.empty.add { Entry.fresh "" url with insecure := false } =
      .ok ⟨normalizeUrl (normalizeUrl url), [⟨"", normalizeUrl (normalizeUrl url), "", false⟩]⟩ :=
    rfl
  have hstored := h.added _ _ _ _ hadd
  rw [Config.empty, List.nil_append, List.cons.injEq, Entry.mk.injEq] at hstored
  exact ⟨rfl, hstored.1.2.1⟩

/-- A login looks for the address normalised once, and what is added for it normalised twice. -/
theorem SoughtAs.eq_normalizeUrl (h : SoughtAs url text) :
    text = normalizeUrl url ∧ normalizeUrl text = text := by
  let only : Config := ⟨"", [⟨"", text, "", false⟩]⟩
  have hthere : ∃ e ∈ only.servers, e.server = text := ⟨_, List.mem_singleton_self _, rfl⟩
  have hlogin := (h.login only "" "" (by simp)).mpr hthere
  rw [length_set_le_iff (by simp)] at hlogin
  obtain ⟨e, he, heq⟩ := hlogin
  obtain rfl : text = normalizeUrl url := by
    rw [← heq, List.mem_singleton.mp he]
  have hadd := (h.added only "" false (by simp)).mpr hthere
  refine ⟨rfl, ?_⟩
  by_contra hno
  simp [Config.add, Entry.fresh, only, Ne.symm hno] at hadd

/-- **One text for each address.** Normalising an address once more changes nothing, all the ways
to store it go by one text, and all the ways to look for it do so, exactly when no blank is hidden
behind slashes at its end. That text is the normal form of the address, and its own normal form. -/
theorem one_text_iff (url : String) :
    (normalizeUrl (normalizeUrl url) = normalizeUrl url ↔ ¬ HidesBlank url) ∧
    ((∃ text, StoredAs url text) ↔ ¬ HidesBlank url) ∧
    ((∃ text, SoughtAs url text) ↔ ¬ HidesBlank url) ∧
    ∀ text, StoredAs url text ∨ SoughtAs url text →
      text = normalizeUrl url ∧ normalizeUrl text = text := by
  refine ⟨normalizeUrl_normalizeUrl_iff, ?_, ?_, ?_⟩
  · rw [← normalizeUrl_normalizeUrl_iff]
    constructor
    · rintro ⟨text, h⟩
      obtain ⟨rfl, htwice⟩ := h.eq_normalizeUrl
      exact htwice
    · intro htwice
      exact ⟨normalizeUrl url, storedAs_normalizeUrl htwice⟩
  · rw [← normalizeUrl_normalizeUrl_iff]
    constructor
    · rintro ⟨text, h⟩
      obtain ⟨rfl, htwice⟩ := h.eq_normalizeUrl
      exact htwice
    · intro htwice
      exact ⟨normalizeUrl url, soughtAs_normalizeUrl htwice⟩
  · rintro text (h | h)
    · exact h.eq_normalizeUrl
    · exact h.eq_normalizeUrl

/-- Blanks behind the slashes, or with something else behind them, are not hidden. -/
example : ¬ HidesBlank "https://a.example/b c// " := by decide +kernel

/-- An address of the kind that is copied with a blank too many: the login there is stored with
the blank, the same address can be added beside it without, and the store that this makes is not
accepted when it is read again. -/
theorem hidden_blank_stores_twice :
    HidesBlank "https://a.example /" ∧
    normalizeUrl "https://a.example /" = "https://a.example " ∧
    normalizeUrl (normalizeUrl "https://a.example /") = "https://a.example" ∧
    Config.empty.set "" "https://a.example /" "t" =
      ⟨"https://a.example ", [⟨"", "https://a.example ", "t", false⟩]⟩ ∧
    ∃ c, (Config.empty.set "" "https://a.example /" "t").add
        (Entry.fresh "b" "https://a.example /") = .ok c ∧
      c.servers = [⟨"", "https://a.example ", "t", false⟩, ⟨"b", "https://a.example", "", false⟩] ∧
      checkUnique c = .error (.duplicateServer "https://a.example") := by
  refine ⟨by decide +kernel, by decide +kernel, by decide +kernel, by decide +kernel, _, rfl,
    by decide +kernel, by decide +kernel⟩

end Storing

end SandboxClient.Server
