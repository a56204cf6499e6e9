import GapAudit.Text.Scan

/-!
The words of a command line: switches by name or by letter, with or without values, operands and
commands. A value that stands in a word of its own is looked at when the next switch or operand
comes, and so is an operand; what is wrong with it is found then.
-/

namespace GapAudit.CommandLine

open Text

/-- Why there is no request in the words: they ask for something else, or are not understood. -/
inductive UsageError where
  | help
  | version
  | nothingGiven
  | noCommand
  | unknownCommand (word : String)
  | unknownArgument (word : String)
  | missingValue (name : String)
  | unacceptedValue (name value : String)
  | malformedValue (name value : String)
  | surplusValue (name value : String)
  | repeated (name : String)
  deriving DecidableEq, Repr

def UsageError.message : UsageError → String
  | .help => "help is asked for"
  | .version => "the version is asked for"
  | .nothingGiven => "nothing is asked for"
  | .noCommand => "a command is missing"
  | .unknownCommand word => s!"unknown command: {word}"
  | .unknownArgument word => s!"unexpected argument: {word}"
  | .missingValue name => s!"{name} needs a value"
  | .unacceptedValue name value => s!"{name} does not take the value: {value}"
  | .malformedValue name value => s!"{name} cannot be read from: {value}"
  | .surplusValue name value => s!"{name} takes no value: {value}"
  | .repeated name => s!"{name} is given more than once"

/-- What a switch or an operand does to a request of type `σ`. -/
inductive Effect (σ : Type) where
  /-- It stands alone and may be given once. -/
  | mark (set : σ → σ)
  /-- It takes a value, and may be given `many` times or once. -/
  | value (many : Bool) (set : String → σ → Except UsageError σ)
  /-- It ends the reading. -/
  | stop (reason : UsageError)

/-- A switch, with a letter for short, or an operand. -/
structure Switch (σ : Type) where
  name : String
  letter : Option Char
  effect : Effect σ

def Switch.takesValue {σ : Type} (s : Switch σ) : Bool :=
  match s.effect with
  | .value _ _ => true
  | _ => false

/-- The words that are understood: switches, operands in their order, and commands, each with the
reading of the words behind it. -/
structure Grammar (σ : Type) where
  switches : List (Switch σ)
  operands : List (Switch σ) := []
  commands : List (String × (List String → Except UsageError σ)) := []

/-- How far the reading of a command line has come. -/
structure Progress (σ : Type) where
  request : σ
  /-- The names that have been given. -/
  given : List String := []
  /-- The operands that may still come. -/
  operands : List (Switch σ)
  /-- What has been given last if it is not looked at yet, with its value if that was given, too. -/
  pending : Option (Switch σ × Option String) := none

namespace Progress

variable {σ : Type}

/-- The progress that a switch or an operand makes, perhaps with a value. -/
def apply (p : Progress σ) (s : Switch σ) (value : Option String) :
    Except UsageError (Progress σ) :=
  let repeatedly := p.given.contains s.name
  let given := s.name :: p.given
  match s.effect, value with
  | .stop reason, _ => .error reason
  | .mark set, _ =>
    if repeatedly then .error (.repeated s.name) else .ok { p with request := set p.request, given }
  | .value _ _, none => .error (.missingValue s.name)
  | .value many set, some value =>
    if repeatedly && !many then .error (.repeated s.name)
    else (set value p.request).map fun request => { p with request, given }

/-- The progress after what has been given last is looked at. -/
def settle (p : Progress σ) : Except UsageError (Progress σ) :=
  match p.pending with
  | none => .ok p
  | some (s, value) => { p with pending := none }.apply s value

/-- The progress that something makes which is looked at immediately. -/
def take (p : Progress σ) (s : Switch σ) (value : Option String) :
    Except UsageError (Progress σ) := do
  (← p.settle).apply s value

/-- The progress that something makes which is looked at later. -/
def await (p : Progress σ) (s : Switch σ) (value : Option String) :
    Except UsageError (Progress σ) := do
  return { (← p.settle) with pending := some (s, value) }

/-- The switch whose value must come next. -/
def awaited? (p : Progress σ) : Option (Switch σ) :=
  match p.pending with
  | some (s, none) => some s
  | _ => none

end Progress

namespace Grammar

variable {σ : Type}

/-- The progress that a switch makes which is given by name. A value may follow behind an equals
sign. -/
def takeName (g : Grammar σ) (p : Progress σ) (word : List Char) :
    Except UsageError (Progress σ) :=
  let (name, value) := spanWhile (· != '=') word
  let value := if value.isEmpty then none else some (String.ofList (value.drop 1))
  match g.switches.find? (·.name == String.ofList name), value with
  | none, _ => .error (.unknownArgument (String.ofList ('-' :: '-' :: name)))
  | some s, none => if s.takesValue then p.await s none else p.take s none
  | some s, some value =>
    if s.takesValue then p.take s value else .error (.surplusValue s.name value)

/-- The progress that switches make which are given by letters. The letters behind one that takes a
value are its value, perhaps with an equals sign between. -/
def takeLetters (g : Grammar σ) (p : Progress σ) : (letters : List Char) →
    Except UsageError (Progress σ)
  | [] => .ok p
  | c :: rest =>
    match g.switches.find? (·.letter == some c) with
    | none => .error (.unknownArgument (String.ofList ['-', c]))
    | some s =>
      if s.takesValue then
        match rest with
        | [] => p.await s none
        | '=' :: value => p.take s (String.ofList value)
        | value => p.take s (String.ofList value)
      else do takeLetters g (← p.take s none) rest

/-- What is wrong with a word that is no switch when no operand may come. `free` tells whether a
word of two dashes has been given before. -/
def surplus (g : Grammar σ) (free : Bool) (word : String) : UsageError :=
  if g.commands.isEmpty || (free && (g.commands.lookup word).isSome) then .unknownArgument word
  else .unknownCommand word

def takeOperand (g : Grammar σ) (free : Bool) (p : Progress σ) (word : String) :
    Except UsageError (Progress σ) :=
  match p.operands with
  | [] => .error (g.surplus free word)
  | operand :: operands => do return { (← p.await operand (some word)) with operands }

/-- The progress that words make. Behind a word of two dashes there are only operands. -/
def readFrom (g : Grammar σ) (free : Bool) (p : Progress σ) : (words : List String) →
    Except UsageError (Progress σ)
  | [] => p.settle
  | word :: rest =>
    match p.awaited?, if free then none else g.commands.lookup word with
    | none, some read => (read rest).map fun request => { p with request }
    | awaited, _ => do
      if free then readFrom g true (← g.takeOperand true p word) rest
      else
        match word.toList, awaited with
        | ['-', '-'], _ => readFrom g true p rest
        | '-' :: '-' :: word, _ => readFrom g false (← g.takeName p word) rest
        | '-' :: c :: letters, _ => readFrom g false (← g.takeLetters p (c :: letters)) rest
        | _, some s => readFrom g false { p with pending := some (s, some word) } rest
        | _, none => readFrom g false (← g.takeOperand false p word) rest

/-- The request that words make of another, and the names given in them. -/
def read (g : Grammar σ) (request : σ) (words : List String) :
    Except UsageError (σ × List String) := do
  let p ← g.readFrom false { request, operands := g.operands } words
  return (p.request, p.given)

end Grammar

end GapAudit.CommandLine
