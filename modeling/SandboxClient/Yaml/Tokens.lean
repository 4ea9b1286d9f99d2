/-
  SandboxClient/Yaml/Tokens.lean
  ==============================
  **From characters to tokens.** The state of the reader is the source that is
  left, the tokens so far, the indentation of the open block collections, and
  for each open flow collection the place where a key without an indicator may
  have started. When a value indicator follows such a place on the same line,
  a key mark is inserted there, and with it the start of a block mapping if the
  column is deeper than the collections that are open.

  `Scanner.step` reads one token and always leaves less of the source, so
  `Scanner.run` ends by the length of what is left.
-/
import SandboxClient.Yaml.Plain
import SandboxClient.Yaml.BlockText

namespace SandboxClient.Yaml

/-! ### State

The tokens read so far, the collections that are open, and the places where a key may have begun. -/

/-- The place of a node that may turn out to be a key. -/
structure PendingKey where
  /-- Whether nothing but a key may stand there. -/
  required : Bool
  /-- The number of tokens before it. -/
  position : Nat
  cell : Cell
  deriving Repr

structure Scanner where
  rest : Source
  tokens : Array Token
  /-- How many flow collections are open. -/
  flow : Nat
  /-- The indentation of the innermost block collection, `-1` outside all. -/
  indent : Int
  /-- The indentations around it, innermost first. -/
  outer : List Int
  /-- Whether a key without an indicator may start here. -/
  keyAllowed : Bool
  /-- The pending key of the block context and of each open flow collection, innermost first. -/
  keys : List (Option PendingKey)
  deriving Repr

def Scanner.start (s : Source) : Scanner := ⟨s, #[], 0, -1, [], true, [none]⟩

/-- How far a key may extend before its value indicator. -/
def keyReach : Nat := 1024

/-! ### Bookkeeping

A key is known as one only when its value begins; until then its place is kept, and its tokens are
put in front of it later. -/

def Scanner.emit (s : Scanner) (t : Token) : Scanner := { s with tokens := s.tokens.push t }

def Scanner.inFlow (s : Scanner) : Bool := s.flow > 0

def Scanner.column (s : Scanner) : Nat := s.rest.here.column

/-- Gives up pending keys that the next character can no longer belong to; giving up a required
one is a fault. -/
def Scanner.dropStale (s : Scanner) : Except Fault Scanner := do
  let here := s.rest.here
  let stale (k : PendingKey) : Bool :=
    k.cell.line < here.line || k.cell.index + keyReach < here.index
  if s.keys.any (fun k => k.any (fun k => stale k && k.required)) then .error .token
  else .ok { s with keys := s.keys.map (fun k => k.filter (fun k => !stale k)) }

def Scanner.dropKey (s : Scanner) : Except Fault Scanner :=
  match s.keys with
  | some k :: r => if k.required then .error .token else .ok { s with keys := none :: r }
  | _ => .ok s

def Scanner.saveKey (s : Scanner) : Except Fault Scanner := do
  if s.keyAllowed then
    let s ← s.dropKey
    let required := !s.inFlow && s.indent == (s.column : Int)
    return { s with keys := some ⟨required, s.tokens.size, s.rest.here⟩ :: s.keys.drop 1 }
  else return s

/-- Opens a block collection at a column deeper than those that are open, with its start token
at the given position or at the end. -/
def Scanner.openBlock (s : Scanner) (column : Nat) (position : Option Nat) (t : Token) :
    Scanner :=
  if !s.inFlow && s.indent < (column : Int) then
    let tokens := match position with
      | some p => s.tokens.insertIdxIfInBounds p t
      | none => s.tokens.push t
    { s with tokens := tokens, outer := s.indent :: s.outer, indent := column }
  else s

/-- Closes the block collections deeper than a column. -/
def Scanner.closeBlocks (s : Scanner) (column : Int) : Scanner :=
  if s.inFlow then s else
  let rec go (indent : Int) (tokens : Array Token) : List Int → Scanner
    | [] => { s with indent := indent, outer := [], tokens := tokens }
    | o :: os =>
      if indent > column then go o (tokens.push .blockEnd) os
      else { s with indent := indent, outer := o :: os, tokens := tokens }
  go s.indent s.tokens s.outer

/-! ### Between tokens

Blanks, comments and line ends part tokens. -/

/-- Drops blanks, comments and line ends, and says whether a key may start after them. Tabs count
as blanks where they cannot be taken for indentation. -/
def skipToToken (inFlow : Bool) (keyAllowed inComment : Bool) : Source → Bool × Source
  | [] => (keyAllowed, [])
  | cell :: rest =>
    let c := cell.char
    if isBreak c then skipToToken inFlow (keyAllowed || !inFlow) false rest
    else if isEnd c then (keyAllowed, cell :: rest)
    else if inComment then skipToToken inFlow keyAllowed true rest
    else if c == byteOrderMark && cell.column == 0 then skipToToken inFlow keyAllowed false rest
    else if c == ' ' || (c == '\t' && (inFlow || !keyAllowed)) then
      skipToToken inFlow keyAllowed false rest
    else if c == '#' then skipToToken inFlow keyAllowed true rest
    else (keyAllowed, cell :: rest)

/-! ### The tokens

One definition for each kind of token, and one that tells which kind begins. -/

/-- Ends all block collections and the pending key, as a line of its own at column zero does. -/
def Scanner.breakOff (s : Scanner) : Except Fault Scanner := do
  let s ← (s.closeBlocks (-1)).dropKey
  return { s with keyAllowed := false }

def Scanner.openFlow (s : Scanner) (t : Token) : Except Fault Scanner := do
  let s ← s.saveKey
  return { (s.emit t) with
    rest := s.rest.drop 1, flow := s.flow + 1, keys := none :: s.keys, keyAllowed := true }

def Scanner.closeFlow (s : Scanner) (t : Token) : Except Fault Scanner := do
  let s ← s.dropKey
  let s := if s.flow > 0 then { s with flow := s.flow - 1, keys := s.keys.drop 1 } else s
  return { (s.emit t) with rest := s.rest.drop 1, keyAllowed := false }

def Scanner.readComma (s : Scanner) : Except Fault Scanner := do
  let s ← s.dropKey
  return { (s.emit .comma) with rest := s.rest.drop 1, keyAllowed := true }

def Scanner.readEntry (s : Scanner) : Except Fault Scanner := do
  if !s.inFlow && !s.keyAllowed then .error .token
  let s ← (s.openBlock s.column none .blockSequenceStart).dropKey
  return { (s.emit .entryMark) with rest := s.rest.drop 1, keyAllowed := true }

def Scanner.readKey (s : Scanner) : Except Fault Scanner := do
  if !s.inFlow && !s.keyAllowed then .error .token
  let s ← (s.openBlock s.column none .blockMappingStart).dropKey
  return { (s.emit .keyMark) with rest := s.rest.drop 1, keyAllowed := !s.inFlow }

/-- Reads the indicator of a value; a pending key is marked as a key. -/
def Scanner.readValue (s : Scanner) : Except Fault Scanner := do
  match s.keys with
  | some k :: r =>
    let s := { s with
      tokens := s.tokens.insertIdxIfInBounds k.position .keyMark, keys := none :: r }
    let s := s.openBlock k.cell.column (some k.position) .blockMappingStart
    return { (s.emit .valueMark) with rest := s.rest.drop 1, keyAllowed := false }
  | _ =>
    if !s.inFlow && !s.keyAllowed then .error .token
    let s := s.openBlock s.column none .blockMappingStart
    return { (s.emit .valueMark) with rest := s.rest.drop 1, keyAllowed := !s.inFlow }

/-- Reads a node property or a scalar, which may start a key. -/
def Scanner.readNode (s : Scanner) (scan : Source → Except Fault (Token × Source)) :
    Except Fault Scanner := do
  let s ← s.saveKey
  let (t, rest) ← scan s.rest
  return { (s.emit t) with rest := rest, keyAllowed := false }

/-- Reads a plain scalar; when a line ended behind it, a key may start on the next. -/
def Scanner.readPlain (s : Scanner) : Except Fault Scanner := do
  let s ← s.saveKey
  let p ← scanPlain s.inFlow (s.indent + 1) none [] s.rest
  return { (s.emit (.scalar p.text .plain)) with rest := p.rest, keyAllowed := p.lineOver }

def Scanner.readBlock (s : Scanner) (folded : Bool) : Except Fault Scanner := do
  let s ← s.dropKey
  let (text, rest) ← scanBlock folded s.indent (s.rest.drop 1)
  return { (s.emit (.scalar text (if folded then .folded else .literal))) with
    rest := rest, keyAllowed := true }

/-- Characters that cannot start a plain scalar. -/
def isIndicator (c : Char) : Bool :=
  c == '-' || c == '?' || c == ':' || isFlowIndicator c || c == '#' || c == '&' || c == '*' ||
    c == '!' || c == '|' || c == '>' || c == '\'' || c == '"' || c == '%' || c == '@' ||
    c == '\u0060'

/-- Whether a plain scalar starts here: an indicator that could also be one does when no
separation follows. -/
def Scanner.atPlain (s : Scanner) : Bool :=
  let c := s.rest.ahead 0
  let next := s.rest.ahead 1
  !(isSeparation c || isIndicator c) || (c == '-' && !isGap next) ||
    (!s.inFlow && (c == '?' || c == ':') && !isSeparation next)

def Scanner.readToken (s : Scanner) : Except Fault Scanner := do
  let c := s.rest.ahead 0
  let next := s.rest.ahead 1
  if s.column == 0 && c == '%' then
    let s ← s.breakOff
    let (t, rest) ← scanDirective s.rest
    return { (s.emit t) with rest := rest }
  else if s.rest.atDocumentMark '-' then
    let s ← s.breakOff
    return { (s.emit .documentStart) with rest := s.rest.drop 3 }
  else if s.rest.atDocumentMark '.' then
    let s ← s.breakOff
    return { (s.emit .documentEnd) with rest := s.rest.drop 3 }
  else if c == '[' then s.openFlow .flowSequenceStart
  else if c == '{' then s.openFlow .flowMappingStart
  else if c == ']' then s.closeFlow .flowSequenceEnd
  else if c == '}' then s.closeFlow .flowMappingEnd
  else if c == ',' then s.readComma
  else if c == '-' && isSeparation next then s.readEntry
  else if c == '?' && (s.inFlow || isSeparation next) then s.readKey
  else if c == ':' && (s.inFlow || isSeparation next) then s.readValue
  else if c == '*' then
    s.readNode (fun r => return ((← scanAnchor (r.drop 1)).map .reference id))
  else if c == '&' then
    s.readNode (fun r => return ((← scanAnchor (r.drop 1)).map .anchor id))
  else if c == '!' then s.readNode (scanTag s.inFlow)
  else if c == '|' && !s.inFlow then s.readBlock false
  else if c == '>' && !s.inFlow then s.readBlock true
  else if c == '\'' then
    s.readNode (fun r =>
      return ((← scanQuoted false .word [] (r.drop 1)).map (.scalar · .singleQuoted) id))
  else if c == '"' then
    s.readNode (fun r =>
      return ((← scanQuoted true .word [] (r.drop 1)).map (.scalar · .doubleQuoted) id))
  else if s.atPlain then s.readPlain
  else .error .token

/-- Reads up to the next token and that token; `none` at the end of the source, where all is
closed. -/
def Scanner.step (s : Scanner) : Except Fault (Scanner × Bool) := do
  let (keyAllowed, rest) := skipToToken s.inFlow s.keyAllowed false s.rest
  let s ← { s with keyAllowed := keyAllowed, rest := rest }.dropStale
  let s := s.closeBlocks s.column
  if isEnd (s.rest.ahead 0) then return (← s.breakOff, true)
  else return (← s.readToken, false)

/-- Reads all tokens that are left. -/
def Scanner.run (s : Scanner) : Except Fault (List Token) :=
  match s.step with
  | .error e => .error e
  | .ok (s', ended) =>
    if ended then .ok s'.tokens.toList
    else if _h : s'.rest.length < s.rest.length then s'.run
    else .error .token
termination_by s.rest.length

def tokens (text : List Char) : Except Fault (List Token) := do
  (Scanner.start (← Source.ofText text)).run

end SandboxClient.Yaml
