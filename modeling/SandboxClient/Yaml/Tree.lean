/-
  SandboxClient/Yaml/Tree.lean
  ============================
  **The tree that the tokens of one document form.** Nodes still carry their
  anchors and tags, and references are still names. Every function takes the
  tokens that are left and returns what follows the node it has read; the
  recursion is on the number of tokens, and a collection that reads a node asks
  that no more tokens are left than before.
-/
import SandboxClient.Yaml.Tokens

namespace SandboxClient.Yaml

/-! ### Trees

A node with what stands in front of it, and its items or entries. -/

/-- What may stand in front of a node. -/
structure Properties where
  anchor : Option String
  /-- The tag with its handle replaced by what the handle means. -/
  tag : Option String
  deriving DecidableEq, Repr

inductive Tree
  | reference (name : String)
  | scalar (properties : Properties) (text : String) (plain : Bool)
  | sequence (properties : Properties) (items : List Tree)
  | mapping (properties : Properties) (entries : List (Tree × Tree))
  deriving Repr

/-- The node that stands where none is written. -/
def Tree.empty : Tree := .scalar ⟨none, none⟩ "" true

/-! ### Directives

Versions and tag handles, which hold for one document. -/

abbrev Handles := List (String × String)

def coreTagStart : String := "tag:yaml.org,2002:"

def Handles.standard : Handles := [("!", "!"), ("!!", coreTagStart)]

/-- Reads the directives in front of a document. A version must be 1.1 or 1.2; a version and
a handle may be given once. -/
def readDirectives (versioned : Bool) (handles : Handles) :
    List Token → Except Fault (Handles × List Token)
  | .versionDirective major minor :: r =>
    if versioned || major != 1 || (minor != 1 && minor != 2) then .error .arrangement
    else readDirectives true handles r
  | .tagDirective handle meaning :: r =>
    if (handles.lookup handle).isSome then .error .arrangement
    else readDirectives versioned (handles ++ [(handle, meaning)]) r
  | ts => .ok (handles ++ Handles.standard, ts)

structure Marks where
  anchor : Option String
  /-- Handle and suffix of the tag. -/
  tag : Option (String × String)

/-- The anchor and the tag in front, in either order, and the tokens behind them. -/
def splitMarks : List Token → Marks × List Token
  | .anchor a :: .tag h s :: r => (⟨some a, some (h, s)⟩, r)
  | .anchor a :: r => (⟨some a, none⟩, r)
  | .tag h s :: .anchor a :: r => (⟨some a, some (h, s)⟩, r)
  | .tag h s :: r => (⟨none, some (h, s)⟩, r)
  | r => (⟨none, none⟩, r)

/-- Behind the marks there are no more tokens than before. -/
theorem splitMarks_length (ts : List Token) : (splitMarks ts).2.length ≤ ts.length := by
  unfold splitMarks
  split <;> simp <;> omega

/-- Replaces the handle of a tag by what it means; an empty handle leaves the suffix as it is. -/
def Marks.resolve (handles : Handles) (m : Marks) : Except Fault Properties :=
  match m.tag with
  | none => .ok ⟨m.anchor, none⟩
  | some (handle, suffix) =>
    if handle.isEmpty then .ok ⟨m.anchor, some suffix⟩
    else match handles.lookup handle with
      | some meaning => .ok ⟨m.anchor, some (meaning ++ suffix)⟩
      | none => .error .arrangement

/-! ### Nodes

The readers of nodes and of the parts of collections call each other. Each of them hands on no more
tokens than it was given, which is checked on the way, so that the recursion ends. -/

/-- Tokens in front of which a block mapping has an empty key or value. -/
def endsBlockField : Token → Bool
  | .keyMark | .valueMark | .blockEnd => true
  | _ => false

/-- Tokens in front of which a block sequence without own indentation has an empty entry. -/
def endsIndentlessEntry : Token → Bool
  | .entryMark | .keyMark | .valueMark | .blockEnd => true
  | _ => false

/-- Tokens in front of which a flow mapping has an empty key. -/
def endsFlowKey : Token → Bool
  | .valueMark | .comma | .flowMappingEnd => true
  | _ => false

/-- Whether the next token, if there is one, satisfies `p`. -/
def nextIs (p : Token → Bool) : List Token → Bool
  | t :: _ => p t
  | [] => false

/-- Reads on only when no more tokens are left than there were. -/
def unlessLonger {α : Type} (n : Nat) (rest : List Token)
    (k : rest.length ≤ n → Except Fault α) : Except Fault α :=
  if h : rest.length ≤ n then k h else .error .arrangement

/-- A node of which only the properties are written; there must be some. -/
def emptyNode (p : Properties) (r : List Token) : Except Fault (Tree × List Token) :=
  if p.anchor.isNone && p.tag.isNone then .error .arrangement else .ok (.scalar p "" true, r)

mutual

/-- Reads a node. In block context it may be a block collection, and behind a key or value
indicator also a sequence that is not indented. -/
def readNode (handles : Handles) (block indentless : Bool) (ts : List Token) :
    Except Fault (Tree × List Token) :=
  match (splitMarks ts).1.resolve handles with
  | .error e => .error e
  | .ok p =>
    have _hr := splitMarks_length ts
    match _hs : (splitMarks ts).2 with
    | .reference name :: r =>
      if p.anchor.isNone && p.tag.isNone then .ok (.reference name, r)
      else emptyNode p (.reference name :: r)
    | .entryMark :: r =>
      if indentless then do
        let (items, rest) ← readIndentless handles (.entryMark :: r) []
        return (.sequence p items, rest)
      else emptyNode p (.entryMark :: r)
    | .scalar text style :: r => .ok (.scalar p text (style == .plain), r)
    | .flowSequenceStart :: r => do
      let (items, rest) ← readFlowSequence handles true r []
      return (.sequence p items, rest)
    | .flowMappingStart :: r => do
      let (entries, rest) ← readFlowMapping handles true r []
      return (.mapping p entries, rest)
    | .blockSequenceStart :: r =>
      if block then do
        let (items, rest) ← readBlockSequence handles r []
        return (.sequence p items, rest)
      else emptyNode p (.blockSequenceStart :: r)
    | .blockMappingStart :: r =>
      if block then do
        let (entries, rest) ← readBlockMapping handles r []
        return (.mapping p entries, rest)
      else emptyNode p (.blockMappingStart :: r)
    | r => emptyNode p r
termination_by ts.length * 8 + 1
decreasing_by
  all_goals
    simp only [_hs, List.length_cons] at _hr ⊢
    omega

def readBlockSequence (handles : Handles) (ts : List Token) (done : List Tree) :
    Except Fault (List Tree × List Token) :=
  match ts with
  | .blockEnd :: r => .ok (done.reverse, r)
  | .entryMark :: r =>
    if nextIs (fun t => t == .entryMark || t == .blockEnd) r then
      readBlockSequence handles r (.empty :: done)
    else do
      let (t, rest) ← readNode handles true false r
      unlessLonger r.length rest (fun _ => readBlockSequence handles rest (t :: done))
  | _ => .error .arrangement
termination_by ts.length * 8 + 0

/-- Reads the entries of a block sequence that is not indented; it has no end token. -/
def readIndentless (handles : Handles) (ts : List Token) (done : List Tree) :
    Except Fault (List Tree × List Token) :=
  match ts with
  | .entryMark :: r =>
    if nextIs endsIndentlessEntry r then readIndentless handles r (.empty :: done)
    else do
      let (t, rest) ← readNode handles true false r
      unlessLonger r.length rest (fun _ => readIndentless handles rest (t :: done))
  | _ => .ok (done.reverse, ts)
termination_by ts.length * 8 + 0

/-- Reads the entries of a block mapping and its end. -/
def readBlockMapping (handles : Handles) (ts : List Token) (done : List (Tree × Tree)) :
    Except Fault (List (Tree × Tree) × List Token) :=
  match ts with
  | .blockEnd :: r => .ok (done.reverse, r)
  | .keyMark :: r =>
    if nextIs endsBlockField r then readBlockValue handles .empty r done
    else do
      let (k, rest) ← readNode handles true true r
      unlessLonger r.length rest (fun _ => readBlockValue handles k rest done)
  | _ => .error .arrangement
termination_by ts.length * 8 + 0

/-- Reads the value of a key of a block mapping, and the entries after it. -/
def readBlockValue (handles : Handles) (k : Tree) (ts : List Token)
    (done : List (Tree × Tree)) : Except Fault (List (Tree × Tree) × List Token) :=
  match ts with
  | .valueMark :: r =>
    if nextIs endsBlockField r then readBlockMapping handles r ((k, .empty) :: done)
    else do
      let (v, rest) ← readNode handles true true r
      unlessLonger r.length rest (fun _ => readBlockMapping handles rest ((k, v) :: done))
  | rest => readBlockMapping handles rest ((k, .empty) :: done)
termination_by ts.length * 8 + 1

/-- Reads the entries of a flow sequence and its end. An entry may be a key and a value, which
form a mapping of their own. -/
def readFlowSequence (handles : Handles) (first : Bool) (ts : List Token) (done : List Tree) :
    Except Fault (List Tree × List Token) :=
  match ts with
  | .flowSequenceEnd :: r => .ok (done.reverse, r)
  | .comma :: r =>
    if first then .error .arrangement
    else if nextIs (· == .flowSequenceEnd) r then .ok (done.reverse, r.drop 1)
    else readFlowEntry handles r done
  | rest => if first then readFlowEntry handles rest done else .error .arrangement
termination_by ts.length * 8 + 3

/-- Reads an entry of a flow sequence, and the entries after it. -/
def readFlowEntry (handles : Handles) (ts : List Token) (done : List Tree) :
    Except Fault (List Tree × List Token) :=
  match ts with
  | .keyMark :: r =>
    if nextIs (fun t => t == .valueMark || t == .comma || t == .flowSequenceEnd) r then
      readFlowPairValue handles .empty (r.drop 1) done
    else do
      let (k, rest) ← readNode handles false false r
      unlessLonger r.length rest (fun _ => readFlowPairValue handles k rest done)
  | t :: r => do
    let (entry, rest) ← readNode handles false false (t :: r)
    unlessLonger r.length rest (fun _ => readFlowSequence handles false rest (entry :: done))
  | [] => .error .arrangement
termination_by ts.length * 8 + 2

/-- Reads the value of a pair in a flow sequence, and the entries after it. -/
def readFlowPairValue (handles : Handles) (k : Tree) (ts : List Token) (done : List Tree) :
    Except Fault (List Tree × List Token) :=
  match ts with
  | .valueMark :: r =>
    if nextIs (fun t => t == .comma || t == .flowSequenceEnd) r then
      readFlowSequence handles false r (.mapping ⟨none, none⟩ [(k, .empty)] :: done)
    else do
      let (v, rest) ← readNode handles false false r
      unlessLonger r.length rest (fun _ =>
        readFlowSequence handles false rest (.mapping ⟨none, none⟩ [(k, v)] :: done))
  | rest => readFlowSequence handles false rest (.mapping ⟨none, none⟩ [(k, .empty)] :: done)
termination_by ts.length * 8 + 4

def readFlowMapping (handles : Handles) (first : Bool) (ts : List Token)
    (done : List (Tree × Tree)) : Except Fault (List (Tree × Tree) × List Token) :=
  match ts with
  | .flowMappingEnd :: r => .ok (done.reverse, r)
  | .comma :: r =>
    if first then .error .arrangement
    else if nextIs (· == .flowMappingEnd) r then .ok (done.reverse, r.drop 1)
    else readFlowKey handles r done
  | rest => if first then readFlowKey handles rest done else .error .arrangement
termination_by ts.length * 8 + 3

/-- Reads a key of a flow mapping, its value, and the entries after it. A node without key
indicator is a key without value. -/
def readFlowKey (handles : Handles) (ts : List Token) (done : List (Tree × Tree)) :
    Except Fault (List (Tree × Tree) × List Token) :=
  match ts with
  | .keyMark :: r =>
    if nextIs endsFlowKey r then readFlowValue handles .empty r done
    else do
      let (k, rest) ← readNode handles false false r
      unlessLonger r.length rest (fun _ => readFlowValue handles k rest done)
  | t :: r => do
    let (k, rest) ← readNode handles false false (t :: r)
    unlessLonger r.length rest (fun _ => readFlowMapping handles false rest ((k, .empty) :: done))
  | [] => .error .arrangement
termination_by ts.length * 8 + 2

/-- Reads the value of a key of a flow mapping, and the entries after it. -/
def readFlowValue (handles : Handles) (k : Tree) (ts : List Token)
    (done : List (Tree × Tree)) : Except Fault (List (Tree × Tree) × List Token) :=
  match ts with
  | .valueMark :: r =>
    if nextIs (fun t => t == .comma || t == .flowMappingEnd) r then
      readFlowMapping handles false r ((k, .empty) :: done)
    else do
      let (v, rest) ← readNode handles false false r
      unlessLonger r.length rest (fun _ => readFlowMapping handles false rest ((k, v) :: done))
  | rest => readFlowMapping handles false rest ((k, .empty) :: done)
termination_by ts.length * 8 + 4

end

/-! ### Documents

A text holds one document or none. -/

/-- Whether a token may stand in front of a document that no mark opens. -/
def opensExplicitly : Token → Bool
  | .versionDirective _ _ | .tagDirective _ _ | .documentStart => true
  | _ => false

/-- Tokens in front of which a document that a mark has opened is empty. -/
def endsContent : Token → Bool
  | .versionDirective _ _ | .tagDirective _ _ | .documentStart | .documentEnd => true
  | _ => false

/-- The only document of a text; `none` when the text has none. -/
def readDocument (ts : List Token) : Except Fault (Option Tree) := do
  if ts.isEmpty then return none
  let (tree, rest) ←
    if nextIs opensExplicitly ts then do
      let (handles, rest) ← readDirectives false [] ts
      match rest with
      | .documentStart :: r =>
        if r.isEmpty || nextIs endsContent r then
          (.ok (Tree.empty, r) : Except Fault (Tree × List Token))
        else readNode handles true false r
      | _ => .error .arrangement
    else readNode Handles.standard true false ts
  match rest.dropWhile (· == .documentEnd) with
  | [] => return some tree
  | _ => .error .secondDocument

end SandboxClient.Yaml
