/-
  SandboxClient/Proofs/Files/Ways.lean
  ====================================
  **Ways that open.** A path that leads nowhere may lead somewhere once directories
  have been made. Where it leads then, nothing stood before, with one exception: the
  system resolves `..` only in a directory that is there, so a path that goes up out
  of a missing directory leads to a file that has stood there all the time as soon as
  that directory is made (`item?_or_opensWay`).
-/
import SandboxClient.Proofs.Files.Sound

namespace SandboxClient.Files

/-- A path that led nowhere goes up out of a directory that was missing and has been made. -/
structure OpensWay (p : Path) (d d' : Disk) : Prop where
  lost : ∀ q, d.find p ≠ .ok q
  up : ∃ before after q, p.names = before ++ above :: after ∧
    d'.find { p with names := before } = .ok q ∧
    d.isDirectory q = false ∧ d'.isDirectory q = true

section Ways

variable {d d' : Disk} {p : Path} {q r : Place} {name : String} {names : List String}

/-- Where a way leads, it led before, or nothing stood there before, or it goes up out of a
directory that is new. -/
theorem walk_or_up (hd : d.Sound) (hwalk : d'.walk q names = .ok r) :
    d.walk q names = .ok r ∨ d.item? r = none ∨
      ∃ before after s, names = before ++ above :: after ∧ d'.walk q before = .ok s ∧
        d.isDirectory s = false ∧ d'.isDirectory s = true := by
  induction names generalizing q with
  | nil => exact Or.inl hwalk
  | cons name names ih =>
    obtain ⟨hnew, hrest⟩ := Disk.walk_cons_eq_ok.mp hwalk
    -- what is gone up from behind the first name is gone up from on the whole way
    have hup : (∃ before after s, names = before ++ above :: after ∧
          d'.walk (if name == above then q.dropLast else q ++ [name]) before = .ok s ∧
          d.isDirectory s = false ∧ d'.isDirectory s = true) →
        ∃ before after s, name :: names = before ++ above :: after ∧ d'.walk q before = .ok s ∧
          d.isDirectory s = false ∧ d'.isDirectory s = true := by
      rintro ⟨before, after, s, rfl, hs, hmissing⟩
      exact ⟨name :: before, after, s, rfl, Disk.walk_cons_eq_ok.mpr ⟨hnew, hs⟩, hmissing⟩
    cases hold : d.isDirectory q with
    | true =>
      rcases ih hrest with hway | hlater
      · exact Or.inl (Disk.walk_cons_eq_ok.mpr ⟨hold, hway⟩)
      · exact Or.inr (hlater.imp_right hup)
    | false =>
      refine Or.inr ?_
      by_cases hname : name = above
      · subst hname
        exact Or.inr ⟨[], names, q, rfl, rfl, hold, hnew⟩
      · rw [if_neg (by simpa using hname)] at hrest hup
        have hbelow := hd.item?_below hold name
        rcases ih hrest with hway | hlater
        · cases names with
          | nil =>
            cases hway
            exact Or.inl hbelow
          | cons next names =>
            obtain ⟨mode, hi⟩ := Disk.isDirectory_iff.mp (Disk.walk_cons_eq_ok.mp hway).1
            rw [hbelow] at hi
            cases hi
        · exact hlater.imp_right hup

/-- Where a path leads that led nowhere, nothing stood before, unless the way has opened. -/
theorem item?_or_opensWay (hd : d.Sound) (hhere : d'.here = d.here)
    (hlost : ∀ q, d.find p ≠ .ok q) (hq : d'.find p = .ok q) :
    d.item? q = none ∨ OpensWay p d d' := by
  rcases walk_or_up hd hq with hway | hnone | hup
  · rw [hhere] at hway
    exact absurd hway (hlost q)
  · exact Or.inl hnone
  · exact Or.inr ⟨hlost, hup⟩

end Ways

end SandboxClient.Files
