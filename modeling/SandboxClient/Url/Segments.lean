/-
  SandboxClient/Url/Segments.lean
  ===============================
  **Addresses below an address.** Segments are put behind the path of an
  address, each as one segment whatever characters it has. A segment that is
  exactly one or two dots is passed over. Query and fragment stay.
-/
import SandboxClient.Url.Reader

namespace SandboxClient.Url

/-- A path without an empty segment at its end. -/
def dropEmptyEnd (ss : List (List Char)) : List (List Char) :=
  if ss.length > 1 && ss.getLast? == some [] then ss.dropLast else ss

/-- Puts one segment behind a path. An empty path takes it in the place of nothing. -/
def appendSegment (scheme : List Char) (done : List (List Char)) (s : String) :
    List (List Char) :=
  -- dots are passed over as they are written; what they become when the tabs are gone is not
  if s == "." || s == ".." then done
  else
    let done := if done == [[]] then [] else done
    let sent := escape (escapedInSegment (isSpecial scheme))
      (s.toList.filter (fun c => !isDropped c))
    let next := putSegment scheme done sent true
    if scheme == fileScheme then dropEmptyFront next else next

/-- The address below an address that segments lead to; an address with a plain path has none. -/
def below (u : Url) (segments : List String) : Url :=
  match u.path with
  | .plain _ => u
  | .segments done =>
    { u with path := .segments (segments.foldl (appendSegment u.scheme) (dropEmptyEnd done)) }

end SandboxClient.Url
