/-
  SandboxClient/Terminal/Size.lean
  ================================
  **Sizes in words.** Sizes below a gigabyte are whole megabytes, rounded down;
  others are gigabytes with one place.
-/
import SandboxClient.Number.Fixed

namespace SandboxClient.Terminal

open SandboxClient.Number

def megabyte : Nat := 1024 * 1024

def gigabyte : Nat := 1024 * megabyte

def gigabytes (bytes : Nat) : Binary64 :=
  (do (← Binary64.ofNat bytes).div (← Binary64.ofNat gigabyte)).getD (Binary64.zero false)

/-- A size as it is shown. -/
def sizeText (bytes : Nat) : String :=
  if bytes ≥ gigabyte then fixed 1 (gigabytes bytes) ++ " GB"
  else toString (bytes / megabyte) ++ " MB"

end SandboxClient.Terminal
