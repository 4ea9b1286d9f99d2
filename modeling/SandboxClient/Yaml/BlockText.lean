/-
  SandboxClient/Yaml/BlockText.lean
  =================================
  **Block scalars.** A header gives the kind (`|` keeps line ends, `>` folds
  them), an optional indentation and what happens to line ends behind the last
  line. The text is the indented lines after it.
-/
import SandboxClient.Yaml.Tag

namespace SandboxClient.Yaml

/-! ### The header

The indicators behind the sign that begins a block scalar. -/

inductive Chomping
  /-- All are dropped. -/
  | strip
  /-- The first is kept. -/
  | clip
  /-- All are kept. -/
  | keep
  deriving DecidableEq, Repr

/-- What the header of a block scalar says. -/
structure BlockHeader where
  chomping : Chomping
  /-- The indentation relative to the parent, when it is given. -/
  increment : Option Nat
  deriving Repr

/-- The chomping that an indicator asks for. -/
def chompingOf (c : Char) : Option Chomping :=
  if c == '+' then some .keep else if c == '-' then some .strip else none

def digitOf (c : Char) : Option Nat :=
  if c.isDigit then some (c.toNat - 0x30) else none

/-- Reads the indicators of a header in either order; an indentation of zero is refused. -/
def scanBlockHeader (s : Source) : Except Fault (BlockHeader × Source) :=
  let sized (header : BlockHeader) (s : Source) : Except Fault (BlockHeader × Source) :=
    match digitOf (s.ahead 0) with
    | some 0 => .error .token
    | some n => .ok ({ header with increment := some n }, s.drop 1)
    | none => .ok (header, s)
  match chompingOf (s.ahead 0) with
  | some chomping => sized ⟨chomping, none⟩ (s.drop 1)
  | none => do
    let (header, s) ← sized ⟨.clip, none⟩ s
    if header.increment.isSome then
      match chompingOf (s.ahead 0) with
      | some chomping => .ok ({ header with chomping := chomping }, s.drop 1)
      | none => .ok (header, s)
    else .ok (header, s)

/-! ### The lines

The first line that is not empty sets the indentation, unless the header does. -/

/-- Where in a block scalar the reader is. -/
inductive BlockMode
  /-- Before the first character of a line that has content; holds the widest indentation seen
  since the last such line. -/
  | margin (widest : Nat)
  /-- Among the characters of a line. -/
  | line
  deriving Repr

/-- What is known of a block scalar while it is read. -/
structure BlockState where
  /-- The indentation of the content, zero while it is not known. -/
  indent : Nat
  /-- The text so far, last character first. -/
  done : List Char
  /-- The line end behind the last line. -/
  lineEnd : Option Char
  /-- The line ends after that, last first. -/
  more : List Char
  /-- Whether the last line started with a gap. -/
  indented : Bool
  deriving Repr

/-- The text before a line that starts with `c`: what was read and the line ends between, of
which a folded scalar drops the first or turns it into a space. -/
def BlockState.joined (folded : Bool) (b : BlockState) (c : Char) : List Char :=
  let ends := match b.lineEnd with
    | some '\n' =>
      if folded && !b.indented && !isGap c then (if b.more.isEmpty then [' '] else [])
      else ['\n']
    | some e => [e]
    | none => []
  b.more ++ (ends ++ b.done)

/-- The text when the scalar is over. -/
def BlockState.finish (chomping : Chomping) (b : BlockState) : String :=
  let text := match chomping with
    | .strip => b.done
    | .clip => b.lineEnd.toList ++ b.done
    | .keep => b.more ++ (b.lineEnd.toList ++ b.done)
  String.ofList text.reverse

/-- Reads the lines of a block scalar under a collection indented to `parent`. -/
def scanBlockLines (folded : Bool) (chomping : Chomping) (parent : Int) (mode : BlockMode)
    (b : BlockState) : Source → Except Fault (String × Source)
  | [] => .ok (b.finish chomping, [])
  | cell :: rest =>
    let c := cell.char
    match mode with
    | .line =>
      if isBreak c then
        scanBlockLines folded chomping parent (.margin 0) { b with lineEnd := some c } rest
      else if isEnd c then .ok (b.finish chomping, cell :: rest)
      else scanBlockLines folded chomping parent .line { b with done := c :: b.done } rest
    | .margin widest =>
      let inMargin := b.indent == 0 || cell.column < b.indent
      if inMargin && c == ' ' then
        scanBlockLines folded chomping parent (.margin widest) b rest
      else if inMargin && c == '\t' then .error .token
      else
        let widest := max widest cell.column
        if isBreak c then
          scanBlockLines folded chomping parent (.margin widest) { b with more := c :: b.more } rest
        else
          let indent :=
            if b.indent == 0 then max widest (max (parent + 1).toNat 1) else b.indent
          if cell.column == indent && !isEnd c then
            scanBlockLines folded chomping parent .line
              { indent := indent, done := c :: b.joined folded c, lineEnd := none, more := [],
                indented := isGap c } rest
          else .ok (b.finish chomping, cell :: rest)

/-- Reads a block scalar from behind its first indicator. -/
def scanBlock (folded : Bool) (parent : Int) (s : Source) : Except Fault (String × Source) := do
  let (header, s) ← scanBlockHeader s
  let s ← finishLine s
  let indent := match header.increment with
    | some n => if parent ≥ 0 then parent.toNat + n else n
    | none => 0
  scanBlockLines folded header.chomping parent (.margin 0) ⟨indent, [], none, [], false⟩ s

end SandboxClient.Yaml
