/-
  SandboxClient/Proofs/Session/Markers.lean
  =========================================
  **What is read from a marker that was written.** A marker is written with the
  whole name, without the blanks around it, and a line end; what is read is the
  first line alone. So the name that is read is the one that was written exactly
  if it is a single line (`firstLine_eq_iff`). Carriage returns and all other
  blanks in it do not matter.
-/
import Mathlib.Data.List.TakeWhile
import SandboxClient.Proofs.Files.Replaced
import SandboxClient.Proofs.Text.Octets
import SandboxClient.Proofs.Text.Trimmed
import SandboxClient.Session.Marker

namespace SandboxClient.Text

/-! ### Lines -/

section Lines

variable {c : Char} {x r : List Char}

theorem lines_cons (hx : ∀ c ∈ x, c ≠ '\n') (r : List Char) :
    lines (x ++ '\n' :: r) = dropReturn x :: lines r := by
  have hsplit : (x ++ '\n' :: r).splitOnP (· == '\n') = x :: r.splitOnP (· == '\n') :=
    List.splitOnP_append_cons_of_forall_mem (by simpa using hx) '\n' (by decide) r
  have hne := List.splitOnP_ne_nil (· == '\n') r
  simp only [lines, hsplit, List.dropLast_cons_of_ne_nil hne, List.getLast?_cons_of_ne_nil hne,
    List.map_cons, List.cons_append]

/-- A carriage return at the end is a blank like others. -/
theorem trim_dropReturn (x : List Char) : trim (dropReturn x) = trim x := by
  unfold dropReturn
  split
  · rename_i hlast
    obtain ⟨front, rfl⟩ := List.getLast?_eq_some_iff.mp (beq_iff_eq.mp hlast)
    rw [List.dropLast_concat, trim_concat (by decide)]
  · rfl

end Lines

end SandboxClient.Text

namespace SandboxClient.Session

open SandboxClient.Files (Disk DiskCall Path)
open SandboxClient.Text

/-! ### Names that are read

A name is written as it is, so a line end in it is one in the file. -/

/-- The first line of a name without the blanks around it. -/
def firstLine (name : String) : String :=
  String.ofList (trim ((trim name.toList).takeWhile (· != '\n')))

section Names

variable {name path : String} {d d' : Disk}

/-- A text with a line end put behind it begins with its first line. -/
theorem exists_lines (u : List Char) :
    ∃ r, lines (u ++ ['\n']) = dropReturn (u.takeWhile (· != '\n')) :: r := by
  have hline : ∀ c ∈ u.takeWhile (· != '\n'), c ≠ '\n' := by
    intro c hc
    simpa using List.all_eq_true.mp List.all_takeWhile c hc
  have hu : u.takeWhile (· != '\n') ++ u.dropWhile (· != '\n') = u :=
    List.takeWhile_append_dropWhile
  cases hrest : u.dropWhile (· != '\n') with
  | nil =>
    rw [hrest, List.append_nil] at hu
    have hwhole := lines_cons hline []
    rw [hu] at hwhole ⊢
    exact ⟨lines [], hwhole⟩
  | cons c r =>
    obtain rfl : c = '\n' := by
      simpa using Text.head?_dropWhile (p := (· != '\n')) (s := u) (c := c) (by rw [hrest]; rfl)
    rw [hrest] at hu
    refine ⟨lines (r ++ ['\n']), ?_⟩
    rw [← lines_cons hline, ← List.cons_append, ← List.append_assoc, hu]

theorem nameInMarker_markerText (hname : isBlankText name = false) :
    nameInMarker (markerText name) = some (firstLine name) := by
  obtain ⟨r, hlines⟩ := exists_lines (trim name.toList)
  have htext : (markerText name).toList = trim name.toList ++ ['\n'] := by
    rw [markerText, trimmed, String.toList_append, String.toList_ofList]
    rfl
  -- The name begins with a character that is not blank, and that is in its first line.
  have hvisible : trim ((trim name.toList).takeWhile (· != '\n')) ≠ [] := by
    obtain ⟨c, s, hcons⟩ : ∃ c s, trim name.toList = c :: s :=
      List.exists_cons_of_ne_nil (by simpa [isBlankText] using hname)
    have hc : isBlank c = false := head?_trim (by rw [hcons]; rfl)
    have hne : c ≠ '\n' := by
      rintro rfl
      cases hc
    rw [hcons, List.takeWhile_cons_of_pos (by simpa using hne)]
    exact List.ne_nil_of_mem (mem_trim List.mem_cons_self hc)
  rw [nameInMarker, htext, hlines]
  simp only [List.headD_cons, trim_dropReturn]
  rw [if_neg (by simpa using hvisible)]
  rfl

theorem firstLine_eq_iff : firstLine name = trimmed name ↔ '\n' ∉ trim name.toList := by
  rw [firstLine, trimmed, String.ofList_inj]
  constructor
  · intro heq hmem
    rw [← heq] at hmem
    have hline := List.mem_takeWhile_imp ((trim_sublist _).subset hmem)
    exact absurd hline (by decide)
  · intro hsingle
    rw [List.takeWhile_eq_self_iff.mpr, trim_trim]
    intro c hc
    simpa using ne_of_mem_of_not_mem hc hsingle

/-! ### Files -/

theorem overwrite_left {p : Path} {content : List UInt8}
    (h : Files.overwrite p content d = (.ok (), d')) :
    d.Keeps d' ∧ ∃ q n mode, d'.find p = .ok q ∧ d'.item? q = some (.file n content mode) := by
  obtain ⟨n, d₁, hopen, hwrite⟩ := Files.bind_eq_ok.mp h
  obtain ⟨hopened, q, mode, hq, hi⟩ := Files.openEmpty_left hopen
  obtain ⟨hkeeps, hi⟩ := Files.write_left hwrite hi
  exact ⟨hopened.trans hkeeps, q, n, mode, hkeeps.find hq, Files.writtenOver_nil content ▸ hi⟩

/-- After a marker was written, its name is read from it unless there is trouble with that. -/
theorem readMarker_of_writeMarker (hname : isBlankText name = false)
    (hwrite : writeMarker path name d = (.ok (), d')) (hcalm : d'.trouble d'.calls = none) :
    readMarker path d' = (.ok (some (firstLine name)), d'.counted) := by
  obtain ⟨-, q, n, mode, hq, hi⟩ := overwrite_left hwrite
  have hread : Files.readFile (Path.read path) d' = (.ok (octets (markerText name)), d'.counted) :=
    Files.readFile_eq_ok.mpr ⟨hcalm, rfl, q, n, mode, hq, hi⟩
  have hmarker : readMarker path d' =
      (.ok ((strictText (octets (markerText name))).bind nameInMarker), d'.counted) := by
    unfold readMarker
    rw [show (Files.readFile (Path.read path)).run d' = _ from hread]
  rw [hmarker, strictText_octets, Option.bind_some, nameInMarker_markerText hname]

end Names

end SandboxClient.Session
