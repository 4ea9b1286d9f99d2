/-
  SandboxClient/Text/Width.lean
  =============================
  **How many columns a text takes.** A text takes the columns of its characters,
  except where characters are drawn together: a line end of two characters, an
  emoji with what modifies it or is joined to it, and a few ligatures. What is
  drawn together is decided from right to left, each character by what stands
  right of it.
-/
import SandboxClient.Unicode.Columns

namespace SandboxClient.Text

open SandboxClient.Unicode

/-! ### Characters

The width of a character by itself, from the tables. -/

def charColumns (c : Char) : Nat :=
  if c == '\u17D8' then 3
  else if c == '\u17A4' then 2
  else if columnless.contains c then 0
  else if wide.contains c then 2
  else 1

/-- Whether a character is a control; controls have no columns by themselves, but one in
a text. -/
def isControlChar (c : Char) : Bool := c.toNat < 0x20 || (0x7F ≤ c.toNat && c.toNat < 0xA0)

/-- The columns of a character that is looked at outside of a text. -/
def loneColumns (c : Char) : Nat := if isControlChar c then 0 else charColumns c

/-! ### What stands to the right

A text is measured from its end, so that each character is added to what is known of the text on its
right. -/

/-- The characters to the right that matter to what is drawn together. -/
inductive Right
  | other
  | lineFeed
  | emoji
  /-- A joiner and then an emoji. -/
  | joinedEmoji
  | skinTone
  | arabicAlef
  | hebrewLamed
  | bugineseYa
  /-- A vowel sign joined to the letter after it. -/
  | bugineseVowel
  | khmerLetter
  | tifinaghLetter
  /-- A mark that joins two letters, and the second one. -/
  | tifinaghJoined
  | lisuTone
  | turkicOrkhon
  deriving DecidableEq, Repr

inductive Style
  | plain | asEmoji | asText
  deriving DecidableEq, Repr

/-- What stands right of a character. -/
structure After where
  right : Right
  /-- Whether a joiner stands before that. -/
  joiner : Bool
  style : Style
  deriving DecidableEq, Repr

def After.nothing : After := ⟨.other, false, .plain⟩

/-- A character to the right without selectors or joiners before it. -/
def After.of (r : Right) : After := ⟨r, false, .plain⟩

/-! ### Classes of characters

Letters and marks that are drawn together with a neighbour. -/

/-- Whether the number of a character lies in one of some ranges. -/
def isAmong (ranges : List (Nat × Nat)) (c : Char) : Bool :=
  ranges.any (fun r => r.1 ≤ c.toNat && c.toNat ≤ r.2)

/-- Forms of the letter alef. -/
def isArabicAlef : Char → Bool :=
  isAmong [(0x622, 0x623), (0x625, 0x625), (0x627, 0x627), (0x671, 0x673), (0x675, 0x675),
    (0x773, 0x774), (0x870, 0x882)]

/-- Forms of the letter lam. -/
def isArabicLam : Char → Bool :=
  isAmong [(0x644, 0x644), (0x6B5, 0x6B8), (0x76A, 0x76A), (0x8A6, 0x8A6), (0x8C7, 0x8C7)]

/-- Letters that are drawn below another one. -/
def isKhmerLetter : Char → Bool :=
  isAmong [(0x1780, 0x1782), (0x1784, 0x1787), (0x1789, 0x178C), (0x178E, 0x1793),
    (0x1795, 0x1798), (0x179B, 0x179D), (0x17A0, 0x17A0), (0x17A2, 0x17A2), (0x17A7, 0x17A7),
    (0x17AB, 0x17AC), (0x17AF, 0x17AF)]

/-- Letters of which two are drawn as one when they are joined. -/
def isTifinaghLetter : Char → Bool := isAmong [(0x2D31, 0x2D65), (0x2D6F, 0x2D6F)]

def isSkinTone : Char → Bool := isAmong [(0x1F3FB, 0x1F3FF)]

/-- What a character is to the one on its left. -/
def rightOf (c : Char) : Right :=
  if c == '\n' then .lineFeed
  else if c.toNat ≤ 0xA0 then .other
  else if isSkinTone c then .skinTone
  else if emojiPresentation.contains c then .emoji
  else if isArabicAlef c then .arabicAlef
  else if c == '\u05DC' then .hebrewLamed
  else if c == '\u1A10' then .bugineseYa
  else if isKhmerLetter c then .khmerLetter
  else if isTifinaghLetter c then .tifinaghLetter
  else if isAmong [(0xA4FC, 0xA4FD)] c then .lisuTone
  else if c == Char.ofNat 0x10C03 then .turkicOrkhon
  else .other

/-- Whether joiners and marks that are not drawn may stand left of a character without keeping
it from being drawn together with another one. -/
def Right.seesThrough : Right → Bool
  | .hebrewLamed | .bugineseYa | .bugineseVowel | .khmerLetter | .tifinaghLetter
  | .tifinaghJoined | .lisuTone | .turkicOrkhon => true
  | _ => false

/-- What stands right of a selector, as far as it matters to what stands left of it. -/
def After.past (a : After) (keep : Bool) : After :=
  if keep || a.right.seesThrough then a else .nothing

/-! ### Drawing together

Some sequences take fewer columns than their characters, and a few take more. -/

/-- The columns that a character adds, and what it is to the next one on the left, when it is
drawn by itself. -/
def alone (c : Char) : Int × After := (charColumns c, .of (rightOf c))

/-- The columns that a character adds by being drawn together with what stands right of it, and
what both are to the next one on the left. -/
def together? (c : Char) (right : Right) (joiner : Bool) : Option (Int × After) :=
  match right, joiner with
  | .arabicAlef, _ =>
    if isArabicLam c then some (0, .nothing)
    else if columnless.contains c && c != '\u200C' && c != '\u200D' then some (0, .of .arabicAlef)
    else none
  | .hebrewLamed, true => if c == '\u05D0' then some (0, .nothing) else none
  | .khmerLetter, false => if c == '\u17D2' then some (-1, .nothing) else none
  | .bugineseYa, true => if c == '\u1A17' then some (0, .of .bugineseVowel) else none
  | .bugineseVowel, _ => if c == '\u1A15' then some (0, .nothing) else none
  | .tifinaghLetter, joiner =>
    if c == '\u2D7F' then some (1, .of .tifinaghJoined)
    else if joiner && isTifinaghLetter c then some (0, .nothing)
    else none
  | .tifinaghJoined, _ => if isTifinaghLetter c then some (-1, .nothing) else none
  | .lisuTone, false => if isAmong [(0xA4F8, 0xA4FB)] c then some (0, .nothing) else none
  | .turkicOrkhon, true => if c == Char.ofNat 0x10C32 then some (0, .nothing) else none
  | .skinTone, _ => if emojiModifierBase.contains c then some (0, .of .emoji)
    else if c == '\u200D' then some (0, .of .joinedEmoji) else none
  | .emoji, _ => if c == '\u200D' then some (0, .of .joinedEmoji) else none
  | .joinedEmoji, _ =>
    if isSkinTone c then some (0, .of .skinTone)
    else if emojiPresentation.contains c then some (0, .of .emoji)
    else none
  | _, _ => none

/-- The columns that a character adds to those of the text right of it, and what both are to
the next one on the left. -/
def addChar (c : Char) (a : After) : Int × After :=
  if a.style == .asEmoji && emojiSelectable.contains c then
    (if a.right == .joinedEmoji then 0 else 2, .of .emoji)
  else if c.toNat ≤ 0xA0 then
    (if c == '\r' && a == .of .lineFeed then 0 else 1, .of (rightOf c))
  else if c == '\uFE0F' then
    (0, { a.past (a.right == .joinedEmoji) with style := .asEmoji })
  else if c == '\uFE0E' then (0, { a.past false with style := .asText })
  else if a.style == .asText && textSelectable.contains c then (1, .nothing)
  else if a.right.seesThrough && c == '\u200D' then (0, { a with joiner := true, style := .plain })
  else if a.right.seesThrough && ligatureTransparent.contains c then
    (0, { a with style := .plain })
  else (together? c a.right a.joiner).getD (alone c)

/-! ### Texts

The width of a text is the sum of what its characters add. -/

/-- The columns of a text, and what it is to a character left of it. -/
def columnsAfter (s : List Char) : Int × After :=
  s.foldr (fun c right => ((addChar c right.2).1 + right.1, (addChar c right.2).2))
    (0, .nothing)

def columns (s : List Char) : Nat := (columnsAfter s).1.toNat

/-- The columns that a text takes on a terminal. -/
def displayWidth (s : String) : Nat := columns s.toList

end SandboxClient.Text
