import LineShell.Escape

namespace LineShell.Brace

inductive Piece
  | literal (text : Text)
  | group (run : Nat) (content : Text)
  | unclosed (run : Nat) (rest : Text)
  deriving DecidableEq, Repr

def Piece.text : Piece → Text
  | .literal text => text
  | .group run content => Escape.backslashes run ++ .char '{' :: content ++ [.char '}']
  | .unclosed run rest => Escape.backslashes run ++ .char '{' :: rest

/-- The content of the group whose opening brace stood before the text, and the text behind the
closing brace. No group ends beyond another unescaped opening brace. -/
def takeGroup? (run : Nat) : Text → Option (Text × Text)
  | [] => none
  | c :: rest =>
      if c = '}' then some ([], rest)
      else if c = '{' && !Escape.escapes run then none
      else (takeGroup? (if c = '\\' then run + 1 else 0) rest).map fun (content, after) =>
        (c :: content, after)

theorem takeGroup?_append {run : Nat} {text content after : Text}
    (found : takeGroup? run text = some (content, after)) :
    text = content ++ .char '}' :: after := by
  induction text generalizing run content with
  | nil => simp [takeGroup?] at found
  | cons c rest ih =>
      rw [takeGroup?] at found
      split at found
      · next closing =>
          simp only [Option.some.injEq, Prod.mk.injEq] at found
          obtain ⟨rfl, rfl⟩ := found
          simp [closing]
      · split at found
        · contradiction
        · simp only [Option.map_eq_some_iff, Prod.exists, Prod.mk.injEq] at found
          obtain ⟨tail, after', inner, rfl, rfl⟩ := found
          simp [ih inner]

theorem length_of_takeGroup? {run : Nat} {text content after : Text}
    (found : takeGroup? run text = some (content, after)) : after.length < text.length := by
  rw [takeGroup?_append found]
  simp only [List.length_append, List.length_cons]
  omega

/-- The pieces of a text that `run` backslashes precede; `afterDollar` tells that an unescaped
dollar stands directly before it. -/
def piecesAfter (run : Nat) (afterDollar : Bool) : Text → List Piece
  | [] => [.literal (Escape.backslashes run)]
  | c :: rest =>
      if c = '\\' then piecesAfter (run + 1) false rest
      else if c = '{' && !Escape.escapes run && !afterDollar then
        match _found : takeGroup? 0 rest with
        | some (content, after) => .group run content :: piecesAfter 0 false after
        | none =>
            if .char '}' ∈ rest then
              .literal (Escape.backslashes run ++ [c]) :: piecesAfter 0 false rest
            else [.unclosed run rest]
      else
        .literal (Escape.backslashes run ++ [c]) ::
          piecesAfter 0 (c = '$' && !Escape.escapes run) rest
termination_by text => text.length
decreasing_by
  all_goals simp only [List.length_cons]
  all_goals first
    | omega
    | (have shorter := length_of_takeGroup? _found; omega)

theorem flatMap_piecesAfter (run : Nat) (afterDollar : Bool) (text : Text) :
    (piecesAfter run afterDollar text).flatMap Piece.text = Escape.backslashes run ++ text := by
  fun_induction piecesAfter run afterDollar text with
  | case1 => simp [Piece.text]
  | case2 => simp_all [Escape.backslashes, List.replicate_succ']
  | case3 run afterDollar c rest _ opening content after found ih =>
      have brace : c = '{' := by simp_all
      simp [Piece.text, ih, takeGroup?_append found, brace, Escape.backslashes]
  | case4 => simp_all [Piece.text, Escape.backslashes]
  | case5 => simp_all [Piece.text, Escape.backslashes]
  | case6 => simp_all [Piece.text, Escape.backslashes]

def pieces (text : Text) : List Piece :=
  piecesAfter 0 false text

theorem flatMap_pieces (text : Text) : (pieces text).flatMap Piece.text = text :=
  flatMap_piecesAfter 0 false text

end LineShell.Brace
