/-
  SandboxClient/Proofs/Program/ActiveNames.lean
  =============================================
  **The active sandbox that is reported and the one that is meant.** Making a
  sandbox the active one reports the name without the blanks around it; what the
  commands after that take for the active one is the first line of it. The two
  are the same exactly for names of one line (`active_name_iff`).
-/
import SandboxClient.Proofs.Program.Failed
import SandboxClient.Proofs.Session.Markers
import SandboxClient.Program.Perform

namespace SandboxClient.Program

open SandboxClient.Files (bind_of_ok get_eq_ok)
open SandboxClient.Session (readMarker writeMarker firstLine)
open SandboxClient.Text (isBlankText trimmed quoted)

section Active

variable {name : String} {w w' : World}

theorem makeActive_eq_ok : makeActive name w = (.ok (), w') ↔
    ∃ d, writeMarker w.markerPath name w.disk = (.ok (), d) ∧
      w' = { w with
        disk := d
        output := w.output ++ Terminal.success ("Active sandbox set to " ++ quoted (trimmed name)) ++
          Terminal.hint ("Saved in " ++ w.markerPath) } := by
  unfold makeActive
  rw [bind_of_ok (get_eq_ok.mpr ⟨rfl, rfl⟩)]
  have hrun : (writeMarker w.markerPath name).run w.disk = writeMarker w.markerPath name w.disk := rfl
  rw [hrun]
  rcases writeMarker w.markerPath name w.disk with ⟨fault | _, d⟩
  · constructor
    · rintro ⟨⟩
    · rintro ⟨d, ⟨⟩, -⟩
  · constructor
    · intro h
      have hworld := (Prod.mk.inj h).2
      exact ⟨d, rfl, hworld.symm⟩
    · rintro ⟨d, ⟨⟩, rfl⟩
      rfl

theorem activeName_of_readMarker {found : Option String} {d : Files.Disk}
    (h : readMarker w.markerPath w.disk = (.ok found, d)) :
    activeName w = (.ok found, { w with disk := d }) := by
  unfold activeName
  rw [show (readMarker w.markerPath).run w.disk = _ from h]

theorem use_of_not_blank (hname : isBlankText name = false) : use (some name) = makeActive name := by
  have hspoken : Session.spoken (some name) = some name :=
    Option.filter_eq_some_iff.mpr ⟨rfl, by simp [hname]⟩
  rw [use, hspoken]

/-- **The active sandbox is the one that was reported exactly if its name is a single line.** After
a marker was written its first line is read, and after a sandbox was made the active one its whole
name is reported and its first line is what commands take for it. -/
theorem active_name_iff (hname : isBlankText name = false) :
    (∀ path d d', writeMarker path name d = (.ok (), d') → d'.trouble d'.calls = none →
      readMarker path d' = (.ok (some (firstLine name)), d'.counted)) ∧
    (∀ w w', use (some name) w = (.ok (), w') →
      w'.output = w.output ++
        Terminal.success ("Active sandbox set to " ++ quoted (trimmed name)) ++
        Terminal.hint ("Saved in " ++ w.markerPath) ∧
      (w'.disk.trouble w'.disk.calls = none →
        (activeName w').1 = .ok (some (firstLine name)))) ∧
    (firstLine name = trimmed name ↔ '\n' ∉ (trimmed name).toList) := by
  refine ⟨fun path d d' hwrite hcalm => ?_, fun w w' hmake => ?_, ?_⟩
  · exact Session.readMarker_of_writeMarker hname hwrite hcalm
  · rw [use_of_not_blank hname] at hmake
    obtain ⟨d, hwrite, rfl⟩ := makeActive_eq_ok.mp hmake
    refine ⟨rfl, fun hcalm => ?_⟩
    have hread := Session.readMarker_of_writeMarker hname hwrite hcalm
    rw [activeName_of_readMarker hread]
  · rw [trimmed, String.toList_ofList]
    exact Session.firstLine_eq_iff

end Active

/-- A carriage return in a name is read back. -/
theorem return_in_name_is_kept :
    isBlankText " dev\r box " = false ∧
      (∃ w, use (some " dev\r box ") singleWorld = (.ok (), w) ∧
        (activeName w).1 = .ok (some (firstLine " dev\r box "))) ∧
      firstLine " dev\r box " = trimmed " dev\r box " := by
  have hname : isBlankText " dev\r box " = false := by
    decide +kernel
  have hmade : (use (some " dev\r box ") singleWorld).1 = .ok () := by
    decide +kernel
  obtain ⟨w, hmake⟩ : ∃ w, use (some " dev\r box ") singleWorld = (.ok (), w) :=
    ⟨_, Prod.ext hmade rfl⟩
  obtain ⟨-, hactive, hsame⟩ := active_name_iff hname
  have hcalm : w.disk.trouble w.disk.calls = none := by
    rw [use_of_not_blank hname] at hmake
    obtain ⟨d, hwrite, rfl⟩ := makeActive_eq_ok.mp hmake
    exact congrFun (Session.overwrite_left hwrite).1.trouble d.calls
  exact ⟨hname, ⟨w, hmake, (hactive singleWorld w hmake).2 hcalm⟩, hsame.mpr (by decide +kernel)⟩

/-- Of a name of two lines only the first is the active sandbox, though both are reported. -/
theorem second_line_is_lost :
    isBlankText "a\nb" = false ∧ trimmed "a\nb" = "a\nb" ∧
      (use (some "a\nb") singleWorld).1 = .ok () ∧
      (activeName (use (some "a\nb") singleWorld).2).1 = .ok (some "a") := by
  decide +kernel

end SandboxClient.Program
