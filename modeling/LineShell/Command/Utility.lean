import LineShell.Command.Line
import LineShell.Command.Outcome

namespace LineShell

namespace Text

def notAfter : Text → Text → Bool
  | [], _ => true
  | _ :: _, [] => false
  | c :: rest, d :: others =>
      if c.toNat < d.toNat then true
      else if d.toNat < c.toNat then false
      else notAfter rest others

def sorted (texts : List Text) : List Text :=
  texts.mergeSort notAfter

end Text

inductive Utility
  | echo
  | env
  | pwd
  deriving DecidableEq, Repr

abbrev Registry := List (Text × Utility)

def Registry.standard : Registry :=
  [("echo".text, .echo), ("env".text, .env), ("pwd".text, .pwd)]

namespace Utility

structure EchoEnding where
  withoutNewline : Bool
  withSpace : Bool
  deriving DecidableEq, Repr

def echoOption? (word : Text) : Option EchoEnding :=
  if word = "-n".text then some ⟨true, false⟩
  else if word = "-s".text then some ⟨false, true⟩
  else if word = "-ns".text || word = "-sn".text then some ⟨true, true⟩
  else none

/-- The first word of a text, up to a plain space, and what follows without leading blanks. -/
def takeEchoWord (text : Text) : Text × Text :=
  match Text.cutAt ' ' text with
  | some (word, rest) => (word, Text.trimLeft rest)
  | none => (text, [])

theorem length_takeEchoWord {text : Text} (nonempty : text ≠ []) :
    (takeEchoWord text).2.length < text.length := by
  unfold takeEchoWord
  split
  · next word rest cut =>
      have shorter := Text.length_of_cutAt cut
      have trimmed := (List.dropWhile_sublist (l := rest) Text.isBlank).length_le
      exact Nat.lt_of_le_of_lt trimmed shorter
  · exact List.length_pos_iff.mpr nonempty

def takeEchoOptions (ending : EchoEnding) (text : Text) : EchoEnding × Text :=
  if _occupied : text = [] then (ending, text)
  else match echoOption? (takeEchoWord text).1 with
    | none => (ending, text)
    | some asked =>
        takeEchoOptions
          ⟨ending.withoutNewline || asked.withoutNewline, ending.withSpace || asked.withSpace⟩
          (takeEchoWord text).2
termination_by text.length
decreasing_by exact length_takeEchoWord _occupied

def writeText (line : CommandLine) : Result :=
  let options := takeEchoOptions ⟨false, false⟩ line.text
  .success (options.2 ++
    (if options.1.withSpace then [.char ' ']
      else if options.1.withoutNewline then [] else [.char '\n']))

def listing (store : Store) : List Text :=
  (store.own.entries.mergeSort fun first second => Text.notAfter first.1 second.1).map
    fun entry => entry.1 ++ .char '=' :: entry.2

/-- The values of the named variables one per line; a name without a value makes it a failure. -/
def valuesOf (store : Store) (names : List Text) : Result :=
  let values := names.filterMap store.resolve
  let joined := Text.join ['\n'] values
  ⟨if joined.isEmpty then [] else joined ++ [.char '\n'], [],
    if names.all fun name => (store.resolve name).isSome then 0 else 1⟩

def showVariables (store : Store) (line : CommandLine) : Outcome :=
  if "--help".text ∈ line.words then .returned (.success "Usage: env [VARIABLE]...\n".text)
  else if line.words.isEmpty then .returned (.success (Text.asLines (listing store)))
  else
    match line.words.find? store.refuses with
    | some name => .failed (.unencodableName name)
    | none => .returned (valuesOf store line.words)

def showDirectory (directory : Text) (line : CommandLine) : Result :=
  match line.words.find? fun word => word.head? = some (.char '-') with
  | some option =>
      .failure ("pwd: invalid option -- '".text ++ option.drop 1 ++ "'\n".text) 1
  | none => .success (directory ++ [.char '\n'])

def outcome (utility : Utility) (state : State) (line : CommandLine) : Outcome :=
  match utility with
  | .echo => .returned (writeText line)
  | .env => showVariables state.store line
  | .pwd => .returned (showDirectory state.directory line)

end Utility

end LineShell
