import LineShell.Text.Digit
import LineShell.Text.Quoted

namespace LineShell

inductive Invocation
  | help
  | misuse (message : Text)
  | lostCommand
  | shell (command : Option Text) (verbose : Bool)
  deriving DecidableEq, Repr

namespace Invocation

inductive Switch
  | help
  | command
  | verbose
  deriving DecidableEq, Repr

namespace Switch

def ofLetter? : CodePoint → Option Switch
  | 'h' => some help
  | 'c' => some command
  | 'v' => some verbose
  | _ => none

def longForms : List (Text × Switch) :=
  [("--help".text, help), ("--verbose".text, verbose)]

def ofWord? (word : Text) : Option (Switch × Bool) :=
  match word with
  | ['-', letter] => (ofLetter? letter).map (·, true)
  | _ => (longForms.lookup word).map (·, false)

def name : Switch → Text
  | help => "-h/--help".text
  | command => "-c".text
  | verbose => "-v/--verbose".text

def takesValue : Switch → Bool
  | command => true
  | _ => false

end Switch

inductive Word
  | operand
  | separator
  | unknownOption
  /-- A word that begins with the name of an option, and what follows the name; an equals sign right
  behind the name is left out. -/
  | option (switch : Switch) (byLetter : Bool) (attached : Option Text)
  deriving DecidableEq, Repr

/-- Holds of a minus sign followed by digits with at most one point before the last of them; a line
end behind them is overlooked. -/
def looksNegative (word : Text) : Bool :=
  match word with
  | '-' :: rest =>
      let body := if rest.getLast? = some (.char '\n') then rest.dropLast else rest
      match body.dropWhile Text.isDecimalDigit with
      | [] => !body.isEmpty
      | '.' :: places => !places.isEmpty && places.all Text.isDecimalDigit
      | _ => false
  | _ => false

def splitEquals (word : Text) : Text × Option Text :=
  match Text.cutAt '=' word with
  | some (before, behind) => (before, some behind)
  | none => (word, none)

def classifyDashed (word : Text) : Word :=
  if looksNegative word || ' ' ∈ word then .operand else .unknownOption

def classify (word : Text) : Except Text Word :=
  match Switch.ofWord? word with
  | some (switch, byLetter) => .ok (.option switch byLetter none)
  | none =>
      match Switch.ofWord? (splitEquals word).1 with
      | some (switch, byLetter) => .ok (.option switch byLetter (splitEquals word).2)
      | none =>
          match word with
          | '-' :: '-' :: _ =>
              match Switch.longForms.filter fun form => (splitEquals word).1.isPrefixOf form.1 with
              | [] => .ok (classifyDashed word)
              | [(_, switch)] => .ok (.option switch false (splitEquals word).2)
              | forms =>
                  .error ("ambiguous option: ".text ++ word ++ " could match ".text ++
                    Text.join ", ".text (forms.map Prod.fst))
          | '-' :: letter :: rest =>
              match Switch.ofLetter? letter with
              | some switch => .ok (.option switch true (some rest))
              | none => .ok (classifyDashed word)
          | _ => .ok .operand

def classifyAll : List Text → Except Text (List (Text × Word))
  | [] => .ok []
  | word :: rest =>
      if word = "--".text then
        .ok ((word, .separator) :: rest.map fun operand => (operand, .operand))
      else
        match classify word with
        | .error message => .error message
        | .ok kind =>
            match classifyAll rest with
            | .error message => .error message
            | .ok others => .ok ((word, kind) :: others)

structure Action where
  switch : Switch
  value : Text
  deriving DecidableEq, Repr

structure Request where
  actions : List Action
  takesNext : Bool
  deriving DecidableEq, Repr

def Request.after (action : Action) (request : Request) : Request :=
  { request with actions := action :: request.actions }

def complaint (switch : Switch) (message : Text) : Text :=
  "argument ".text ++ switch.name ++ ": ".text ++ message

def unwantedValue (switch : Switch) (value : Text) : Text :=
  complaint switch ("ignored explicit argument ".text ++ Text.quoted value)

def requestAlone (switch : Switch) (next : Option (Text × Word)) : Except Text Request :=
  if switch.takesValue then
    match next with
    | some (value, .operand) => .ok ⟨[⟨switch, value⟩], true⟩
    | _ => .error (complaint switch "expected one argument".text)
  else .ok ⟨[⟨switch, []⟩], false⟩

/-- What an option asks for whose letter other characters follow: they are its value if it takes
one, and otherwise each is the letter of one more option. -/
def requestLetters (switch : Switch) (next : Option (Text × Word)) : Text → Except Text Request
  | [] => requestAlone switch next
  | c :: rest =>
      if switch.takesValue then .ok ⟨[⟨switch, c :: rest⟩], false⟩
      else
        match Switch.ofLetter? c with
        | none => .error (unwantedValue switch (c :: rest))
        | some other => (requestLetters other next rest).map (Request.after ⟨switch, []⟩)

/-- What an option word asks for. If the option takes no value, only its letter may be followed by
something, and not by an equals sign alone. -/
def request (switch : Switch) (byLetter : Bool) (attached : Option Text)
    (next : Option (Text × Word)) : Except Text Request :=
  match attached with
  | none => requestAlone switch next
  | some value =>
      if switch.takesValue then .ok ⟨[⟨switch, value⟩], false⟩
      else if byLetter && !value.isEmpty then requestLetters switch next value
      else .error (unwantedValue switch value)

structure Settled where
  command : Option Text
  verbose : Bool
  leftOver : List Text
  deriving DecidableEq, Repr

def Settled.act (settled : Settled) : List Action → Option Settled
  | [] => some settled
  | ⟨.help, _⟩ :: _ => none
  | ⟨.command, value⟩ :: rest => { settled with command := some value }.act rest
  | ⟨.verbose, _⟩ :: rest => { settled with verbose := true }.act rest

/-- The invocation once all words have acted. The separator is no command: where it is written as
one, the command is lost. -/
def Settled.invocation (settled : Settled) : Invocation :=
  if !settled.leftOver.isEmpty then
    .misuse ("unrecognized arguments: ".text ++ Text.join [' '] settled.leftOver)
  else if settled.command = some "--".text then .lostCommand
  else .shell settled.command settled.verbose

def settle (settled : Settled) (words : List (Text × Word)) : Invocation :=
  match words with
  | [] => settled.invocation
  | (_, .option switch byLetter attached) :: rest =>
      match request switch byLetter attached rest.head? with
      | .error message => .misuse message
      | .ok asked =>
          match settled.act asked.actions with
          | none => .help
          | some next => settle next (rest.drop (if asked.takesNext then 1 else 0))
  | (word, _) :: rest => settle { settled with leftOver := settled.leftOver ++ [word] } rest
termination_by words.length
decreasing_by
  · simp only [List.length_cons, List.length_drop]
    omega
  · simp only [List.length_cons]
    omega

def read (words : List Text) : Invocation :=
  match classifyAll words with
  | .error message => .misuse message
  | .ok classified => settle ⟨none, false, []⟩ classified

def usage : Text :=
  "usage: myshell [-h] [-c COMMAND] [-v]\n".text

def helpText : Text :=
  usage ++ ("\n" ++
    "Interactive shell with brace, history, variable and arithmetic expansion.\n" ++
    "\n" ++
    "options:\n" ++
    "  -h, --help     show this help message and exit\n" ++
    "  -c COMMAND     run COMMAND and exit\n" ++
    "  -v, --verbose  log expansion details\n").text

def refusal (message : Text) : Text :=
  usage ++ "myshell: error: ".text ++ message ++ [.char '\n']

end Invocation

end LineShell
