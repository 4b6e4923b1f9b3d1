import LineShell.Command.Builtin

namespace LineShell

inductive Recognized
  | builtin (command : Builtin)
  | utility (command : Utility)
  | assignment (name value : Text)
  | unknown
  deriving DecidableEq, Repr

def unknownCommandCode : Int := 127

def Recognized.of (registry : Registry) (line : Text) (cut : CommandLine) : Recognized :=
  let key := Text.lower cut.name
  match Builtin.ofName? key with
  | some command => .builtin command
  | none =>
      match registry.lookup key with
      | some command => .utility command
      | none =>
          match CommandLine.assignment? line with
          | some (name, value) => .assignment name value
          | none => .unknown

def Recognized.effect (recognized : Recognized) (registry : Registry) (state : State)
    (cut : CommandLine) : Effect :=
  match recognized with
  | .builtin command => command.effect registry state cut
  | .utility command => ⟨command.outcome state cut, .nothing⟩
  | .assignment name value => ⟨.returned (.success []), .assign name value⟩
  | .unknown =>
      .returning (.failure ("myshell: ".text ++ cut.name ++ ": command not found\n".text)
        unknownCommandCode)

def effectOf (registry : Registry) (state : State) (line : Text) : Effect :=
  match CommandLine.read? line with
  | none => .failing .blankCommand
  | some cut => (Recognized.of registry line cut).effect registry state cut

def execute (registry : Registry) (state : State) (line : Text) : Outcome × State :=
  let effect := effectOf registry state line
  (effect.outcome, state.apply effect.change)

end LineShell
