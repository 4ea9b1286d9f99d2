/-
  SandboxClient/Usage/Reader.lean
  ===============================
  **Reading command lines.** A command line is read word by word. A value is
  accepted when it is complete, that is when the next word does not belong to it;
  so of two faults the one whose word is read first is told, and a fault of a
  value is told when the next option or word begins.
-/
import SandboxClient.Usage.Form

namespace SandboxClient.Usage

/-! ### Progress

A command line is read word by word; between two words the state is an option that still takes a
value, and what has been found. -/

inductive Taker
  | option (o : OptionForm)
  | word (w : WordForm)
  deriving DecidableEq, Repr

def Taker.name : Taker → String
  | .option o => o.long
  | .word w => w.name

/-- How far a command line has been read. -/
structure Progress where
  /-- The options that may be given here. -/
  options : List OptionForm
  /-- The words that are still to come. -/
  words : List WordForm
  /-- The commands that may be given here. -/
  commands : List String
  found : Found
  /-- The values that are being gathered. -/
  pending : Option (Taker × List String)
  /-- The last word was an option that may take this word as its value. -/
  awaiting : Bool
  /-- Words are no longer taken for options or commands. -/
  wordsOnly : Bool
  deriving Repr

def Progress.start (options : List OptionForm) (words : List WordForm) (commands : List String) :
    Progress :=
  ⟨options, words, commands, [], none, false, false⟩

/-! ### Accepting values

An option or word may be found once. Whether its values fit is looked at when the next option or
word begins. -/

def Taker.complete (t : Taker) (values : List String) : Except Refusal (List String) :=
  match t with
  | .option o =>
    match o.effect, values with
    | .value, [] => .error .invalidValue
    | .optionalValue standing, [] => .ok [standing]
    | _, values => .ok values
  | .word _ => .ok values

def Taker.refusal? (t : Taker) (values : List String) : Option Refusal :=
  match t with
  | .option _ => none
  | .word w => values.findSome? w.kind.refusal?

def Progress.accept (p : Progress) (t : Taker) (values : List String) :
    Except Refusal Progress := do
  let values ← t.complete values
  if (p.found.lookup t.name).isSome then throw .repeated
  match t.refusal? values with
  | some refusal => throw refusal
  | none => return { p with found := p.found ++ [(t.name, values)] }

def Progress.settle (p : Progress) : Except Refusal Progress :=
  match p.pending with
  | none => .ok p
  | some (t, values) => Progress.accept { p with pending := none } t values

/-! ### Options

An option says yes, or has a value, joined to it or in the next word. -/

def yes : String := "true"

def Progress.raise (p : Progress) (o : OptionForm) : Except Refusal Progress := do
  let p ← p.settle
  match o.effect with
  | .help => throw .help
  | .version => throw .version
  | _ => Progress.accept { p with awaiting := false } (.option o) [yes]

def Progress.joined (p : Progress) (o : OptionForm) (value : String) : Except Refusal Progress := do
  let p ← p.settle
  Progress.accept { p with awaiting := false } (.option o) [value]

/-- An option whose value may be the next word. -/
def Progress.await (p : Progress) (o : OptionForm) : Except Refusal Progress := do
  let p ← p.settle
  return { p with pending := some (.option o, []), awaiting := true }

/-- Short options in one word. The value of one may be joined to it. -/
def Progress.shorts (p : Progress) : List Char → Except Refusal Progress
  | [] => .ok p
  | c :: cs =>
    match p.options.find? (fun o => o.short == some c) with
    | none => .error .unknownArgument
    | some o =>
      if !o.takesValue then (p.raise o).bind (fun p => p.shorts cs)
      else match cs with
        | [] => p.await o
        | '=' :: value => p.joined o (String.ofList value)
        | value => p.joined o (String.ofList value)

/-- A long option by its name, perhaps with a value joined to it. -/
def Progress.long (p : Progress) (o : OptionForm) (value : Option String) :
    Except Refusal Progress :=
  match o.takesValue, value with
  | true, some v => p.joined o v
  | true, none => p.await o
  | false, some _ => .error .tooManyValues
  | false, none => p.raise o

/-! ### Words

A word is the value of the option before it, the name of an option, or a word in its place. -/

def Progress.stray (p : Progress) (word : String) : Refusal :=
  if p.commands.isEmpty || (p.wordsOnly && p.commands.contains word) then .unknownArgument
  else .invalidCommand

def Progress.inPlace (p : Progress) (word : String) : Except Refusal Progress :=
  match p.words with
  | [] => .error (p.stray word)
  | w :: ws =>
    if w.takesRest then
      match p.pending with
      | some (.word v, values) =>
        if v == w then .ok { p with pending := some (.word v, values ++ [word]) }
        else gather { p with wordsOnly := true } w
      | _ => gather { p with wordsOnly := true } w
    else gather { p with words := ws } w
where
  /-- Begins to gather values for a word. -/
  gather (p : Progress) (w : WordForm) : Except Refusal Progress := do
    let p ← p.settle
    return { p with pending := some (.word w, [word]), awaiting := false }

/-- A word that is no option: the value of the option before it, or a word in its place. -/
def Progress.plain (p : Progress) (word : String) : Except Refusal Progress :=
  match p.awaiting, p.pending with
  | true, some (t, values) =>
    .ok { p with pending := some (t, values ++ [word]), awaiting := false }
  | _, _ => p.inPlace word

/-- Whether the next word in its place may look like an option. -/
def Progress.takesOptions (p : Progress) : Bool := p.words.head?.any (fun w => w.takesRest)

def endOfOptions : String := "--"

def Progress.longWord (p : Progress) (word : String) (body : List Char) :
    Except Refusal Progress :=
  let name := String.ofList (body.takeWhile (· != '='))
  let value := match body.dropWhile (· != '=') with
    | _ :: v => some (String.ofList v)
    | [] => none
  match p.options.find? (fun o => o.long == name) with
  | some o => p.long o value
  -- a word that is no option may still belong to a command that is given behind the name
  | none => if p.takesOptions then p.plain word else .error .unknownArgument

def Progress.shortWord (p : Progress) (word : String) (body : List Char) :
    Except Refusal Progress :=
  if p.takesOptions && body.any (fun c => !p.options.any (fun o => o.short == some c)) then
    p.plain word
  else p.shorts body

def Progress.read (p : Progress) (word : String) : Except Refusal Progress :=
  if p.wordsOnly then p.inPlace word
  else if word == endOfOptions then .ok { p with wordsOnly := true }
  else match word.toList with
    | '-' :: '-' :: body => p.longWord word body
    | '-' :: c :: body => p.shortWord word (c :: body)
    | _ => p.plain word

/-! ### Whole command lines

A group reads up to the name of one of its commands and leaves the rest to that one. The settings of
the environment count for options that were not given. -/

abbrev Settings := List (String × String)

/-- Values from the environment for options that were not given. -/
def withSettings (settings : Settings) (options : List OptionForm) (found : Found) : Found :=
  options.foldl (fun found o =>
    match found.lookup o.long, o.standsIn.bind (fun v => settings.lookup v) with
    | none, some value => found ++ [(o.long, [value])]
    | _, _ => found) found

def verboseOption : OptionForm := ⟨"verbose", some 'v', .flag, none⟩

def helpOption : OptionForm := ⟨"help", some 'h', .help, none⟩

def versionOption : OptionForm := ⟨"version", some 'V', .version, none⟩

def commonOptions : List OptionForm := [verboseOption, helpOption]

def helpCommand : String := "help"

def commandNamed (commands : List (List String × Form)) (name : String) : Option Form :=
  (commands.find? (fun c => c.1.contains name)).map (fun c => c.2)

/-- What the words after the request for an explanation come to: commands, each below the one
before, are explained. -/
def explain (commands : List (List String × Form)) : List String → Refusal
  | [] => .help
  | name :: names =>
    match commandNamed commands name with
    | some (.group below) => explain below names
    | some (.single ..) => explain [] names
    | none =>
      if name == helpCommand && !commands.isEmpty then explain [] names else .invalidCommand

def finish (settings : Settings) (words : List WordForm) (build : Found → Command)
    (p : Progress) : Except Refusal Invocation := do
  let p ← p.settle
  let found := withSettings settings p.options p.found
  if words.any (fun w => w.required && (found.lookup w.name).isNone) then throw .missingArgument
  return ⟨found.flag verboseOption.long, build found⟩

def readSingle (settings : Settings) (options : List OptionForm) (words : List WordForm)
    (build : Found → Command) (line : List String) : Except Refusal Invocation := do
  finish settings words build
    (← line.foldlM Progress.read (Progress.start (commonOptions ++ options) words []))

def Progress.startGroup (more : List OptionForm) (commands : List (List String × Form)) :
    Progress :=
  Progress.start (commonOptions ++ more) [] (commands.flatMap (fun c => c.1) ++ [helpCommand])

/-- What a group was asked for is asked of the command in it too. -/
def Progress.passOn (p : Progress) (i : Invocation) : Invocation :=
  { i with verbose := i.verbose || p.found.flag verboseOption.long }

/-- The words of a group of commands, up to the name of one of them and then those of that
one. -/
def readGroup (settings : Settings) (commands : List (List String × Form)) (p : Progress) :
    List String → Except Refusal Invocation
  | [] => .error (if p.found.isEmpty then .nothingAsked else .missingCommand)
  | word :: line =>
    let proceed := (p.read word).bind (fun p => readGroup settings commands p line)
    -- behind the mark no word is the name of a command
    if p.wordsOnly then proceed
    else match commandNamed commands word with
      | some (.single options words build) =>
        (readSingle settings options words build line).map p.passOn
      | some (.group below) =>
        (readGroup settings below (Progress.startGroup [] below) line).map p.passOn
      | none => if word == helpCommand then .error (explain commands line) else proceed

def readLine (settings : Settings) (commands : List (List String × Form)) (line : List String) :
    Except Refusal Invocation :=
  readGroup settings commands (Progress.startGroup [versionOption] commands) line

end SandboxClient.Usage
