import LineShell.Escape
import LineShell.Text.Identifier
import LineShell.Text.Word
import LineShell.Store

/-!
References to variables: `$name`, `${name}`, `${name:-default}` and `${name:=default}`. How a text
is cut into references does not depend on the variables; whether a reference is replaced does. A
value that was put in is not read again, and a reference without a value stays as it was written.
-/

namespace LineShell

inductive Reference
  | plain (name : Text)
  | withDefault (name default : Text) (keeps : Bool)
  deriving DecidableEq, Repr

namespace Reference

/-- The text before the first `:-` or `:=`, whether it is `:=`, and the text after it. -/
def splitDefault? : Text → Option (Text × Bool × Text)
  | [] => none
  | [_] => none
  | c :: d :: rest =>
      if c = ':' && d = '-' then some ([], false, rest)
      else if c = ':' && d = '=' then some ([], true, rest)
      else (splitDefault? (d :: rest)).map fun (name, keeps, default) =>
        (c :: name, keeps, default)

/-- The reference with the given text between its braces. Without a default every text is a name;
with one the name has to be an identifier. -/
def ofBody? (body : Text) : Option Reference :=
  match splitDefault? body with
  | none => some (.plain body)
  | some (name, keeps, default) =>
      if Text.isIdentifier name then some (.withDefault name default keeps) else none

/-- The reference whose dollar stood directly before a text, and the text behind the reference. -/
def take? (text : Text) : Option (Reference × Text) :=
  match text with
  | '{' :: rest =>
      match Text.cutAt '}' rest with
      | some (body, after) => (ofBody? body).map (·, after)
      | none => none
  | _ => (Text.takeName? text).map fun (name, after) => (.plain name, after)

theorem length_of_take? {text after : Text} {reference : Reference}
    (found : take? text = some (reference, after)) : after.length < text.length := by
  unfold take? at found
  split at found
  · next rest =>
      split at found
      · next body after' cut =>
          simp only [Option.map_eq_some_iff, Prod.mk.injEq] at found
          obtain ⟨_, _, _, rfl⟩ := found
          have shorter := Text.length_of_cutAt cut
          simp only [List.length_cons]
          omega
      · contradiction
  · simp only [Option.map_eq_some_iff, Prod.exists, Prod.mk.injEq] at found
    obtain ⟨_, _, named, _, rfl⟩ := found
    exact Text.length_of_takeName? named

def name : Reference → Text
  | plain name => name
  | withDefault name _ _ => name

/-- The value of a reference and the variables after it was taken; none if it has no value. -/
def follow? (reference : Reference) (store : Store) : Option (Text × Store) :=
  match reference with
  | .plain name => (store.resolve name).map (·, store)
  | .withDefault name default keeps =>
      match store.resolve name with
      | some value => some (value, store)
      | none => some (default, if keeps then store.assign name default else store)

/-- The value of the reference whose dollar stood directly before a text, the text behind the
reference and the variables after it; none if there is no reference or it has no value. -/
def valueAt? (text : Text) (store : Store) : Option (Text × Text × Store) :=
  match take? text with
  | none => none
  | some (reference, after) =>
      (reference.follow? store).map fun (value, next) => (value, after, next)

theorem length_of_valueAt? {text value after : Text} {store next : Store}
    (found : valueAt? text store = some (value, after, next)) : after.length < text.length := by
  rw [valueAt?] at found
  split at found
  · contradiction
  · next reference behind taken =>
      simp only [Option.map_eq_some_iff, Prod.exists, Prod.mk.injEq] at found
      obtain ⟨_, _, _, _, rfl, _⟩ := found
      exact length_of_take? taken

def prepend (lead : Text) (replaced : Text × Store) : Text × Store :=
  (lead ++ replaced.1, replaced.2)

/-- Replaces the references of a text that `run` backslashes precede, from left to right, each under
the variables that those before it left. The even run before a replaced reference is halved. -/
def replaceAfter (run : Nat) (text : Text) (store : Store) : Text × Store :=
  match text with
  | [] => (Escape.backslashes run, store)
  | c :: rest =>
      if c = '\\' then replaceAfter (run + 1) rest store
      else if c = '$' && !Escape.escapes run then
        match _found : valueAt? rest store with
        | some (value, after, next) =>
            prepend (Escape.backslashes (run / 2) ++ value) (replaceAfter 0 after next)
        | none => prepend (Escape.backslashes run ++ [c]) (replaceAfter 0 rest store)
      else prepend (Escape.backslashes run ++ [c]) (replaceAfter 0 rest store)
termination_by text.length
decreasing_by
  all_goals simp only [List.length_cons]
  all_goals first
    | omega
    | (have shorter := length_of_valueAt? _found; omega)

def replace (text : Text) (store : Store) : Text × Store :=
  replaceAfter 0 text store

def askedAt (text : Text) (store : Store) : List (Text × Store) :=
  ((take? text).map fun taken => (taken.1.name, store)).toList

/-- The names that are looked up to replace the references of a text, each with the variables at
that time. -/
def lookupsAfter (run : Nat) (text : Text) (store : Store) : List (Text × Store) :=
  match text with
  | [] => []
  | c :: rest =>
      if c = '\\' then lookupsAfter (run + 1) rest store
      else if c = '$' && !Escape.escapes run then
        match _found : valueAt? rest store with
        | some (_, after, next) => askedAt rest store ++ lookupsAfter 0 after next
        | none => askedAt rest store ++ lookupsAfter 0 rest store
      else lookupsAfter 0 rest store
termination_by text.length
decreasing_by
  all_goals simp only [List.length_cons]
  all_goals first
    | omega
    | (have shorter := length_of_valueAt? _found; omega)

def lookups (text : Text) (store : Store) : List (Text × Store) :=
  lookupsAfter 0 text store

/-- The text with its references replaced and the variables after that, or the first name that
cannot be looked up and the variables at that time. -/
def substitute (text : Text) (store : Store) : Except (Text × Store) (Text × Store) :=
  match (lookups text store).find? fun asked => asked.2.refuses asked.1 with
  | some asked => .error asked
  | none => .ok (replace text store)

end Reference

end LineShell
