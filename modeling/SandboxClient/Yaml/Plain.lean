/-
  SandboxClient/Yaml/Plain.lean
  =============================
  **Plain scalars.** A scalar without quotes ends at a colon that a separation
  follows, at a number sign behind a gap, at the indicators of flow collections
  inside one, and at a line that is indented less than its content must be.
-/
import SandboxClient.Yaml.Token

namespace SandboxClient.Yaml

def isFlowIndicator (c : Char) : Bool :=
  c == ',' || c == '[' || c == ']' || c == '{' || c == '}'

/-- A plain scalar, what follows it, and whether a line ended behind its last word. -/
structure PlainScalar where
  text : String
  rest : Source
  lineOver : Bool
  deriving Repr

/-- Reads a plain scalar. Content on a further line must be indented to `indent` unless `inFlow`
holds; `fold` is what stands since the last word, `done` the text so far, last character
first. -/
def scanPlain (inFlow : Bool) (indent : Int) (fold : Option Fold) (done : List Char) :
    Source → Except Fault PlainScalar
  | [] => .ok ⟨String.ofList done.reverse, [], false⟩
  | cell :: rest =>
    let c := cell.char
    let here := cell :: rest
    let stop : Except Fault PlainScalar :=
      .ok ⟨String.ofList done.reverse, here, (fold.map Fold.broken).getD false⟩
    if isGap c then
      let f := fold.getD Fold.start
      if f.broken && (cell.column : Int) < indent && c == '\t' then .error .token
      else scanPlain inFlow indent (some (f.addBlank c)) done rest
    else if isBreak c then
      scanPlain inFlow indent (some ((fold.getD Fold.start).addBreak c)) done rest
    else if isEnd c then stop
    else if fold.isSome && !inFlow && (cell.column : Int) < indent then stop
    else if fold.isSome && (c == '#' || Source.atDocumentMark here '-' ||
        Source.atDocumentMark here '.') then stop
    else
      let next := Source.ahead here 1
      if inFlow && c == ':' && (isFlowIndicator next || next == '?') then .error .token
      else if (c == ':' && isSeparation next) || (inFlow && isFlowIndicator c) then stop
      else
        let gap := (fold.map Fold.text).getD []
        scanPlain inFlow indent none (c :: (gap.reverse ++ done)) rest

end SandboxClient.Yaml
