import LineShell.Text.CodePoint

namespace LineShell

abbrev Text := List CodePoint

end LineShell

def String.text (value : String) : LineShell.Text :=
  value.toList.map .char

namespace LineShell

namespace Text

/-- The text as it is written out, with the replacement character in place of a surrogate. -/
def string (text : Text) : String :=
  String.ofList (text.map CodePoint.replaced)

def bytes? : Text → Option (List UInt8)
  | [] => some []
  | c :: rest =>
      match c.bytes?, bytes? rest with
      | some first, some others => some (first ++ others)
      | _, _ => none

def sameBytes (first second : Text) : Bool :=
  match bytes? first, bytes? second with
  | some bytes, some others => bytes = others
  | _, _ => false

def cutAt (mark : CodePoint) : Text → Option (Text × Text)
  | [] => none
  | c :: rest =>
      if c = mark then some ([], rest)
      else (cutAt mark rest).map fun (before, after) => (c :: before, after)

theorem cutAt_eq_some {mark : CodePoint} {text before after : Text}
    (found : cutAt mark text = some (before, after)) :
    text = before ++ mark :: after ∧ mark ∉ before := by
  induction text generalizing before with
  | nil => simp [cutAt] at found
  | cons c rest ih =>
      rw [cutAt] at found
      split at found
      · next same =>
          simp only [Option.some.injEq, Prod.mk.injEq] at found
          obtain ⟨rfl, rfl⟩ := found
          simp [same]
      · next different =>
          simp only [Option.map_eq_some_iff, Prod.exists, Prod.mk.injEq] at found
          obtain ⟨tail, after', cut, rfl, rfl⟩ := found
          obtain ⟨rebuilt, absent⟩ := ih cut
          exact ⟨by simp [rebuilt], by simp [absent, Ne.symm different]⟩

theorem length_of_cutAt {mark : CodePoint} {text before after : Text}
    (found : cutAt mark text = some (before, after)) : after.length < text.length := by
  rw [(cutAt_eq_some found).1]
  simp only [List.length_append, List.length_cons]
  omega

theorem cutAt_eq_none_iff {mark : CodePoint} {text : Text} :
    cutAt mark text = none ↔ mark ∉ text := by
  induction text with
  | nil => simp [cutAt]
  | cons c rest ih =>
      by_cases same : c = mark
      · simp [cutAt, same]
      · simp [cutAt, same, ih, Ne.symm same]

theorem cutAt_append {mark : CodePoint} {before : Text} (absent : mark ∉ before) (after : Text) :
    cutAt mark (before ++ mark :: after) = some (before, after) := by
  induction before with
  | nil => rw [List.nil_append, cutAt, if_pos rfl]
  | cons c rest ih =>
      have different : c ≠ mark := (List.ne_of_not_mem_cons absent).symm
      rw [List.cons_append, cutAt, if_neg different, ih (List.not_mem_of_not_mem_cons absent)]
      rfl

/-- The pieces of a text between the characters that satisfy `separates`, empty ones included. -/
def splitWhere (separates : CodePoint → Bool) : Text → List Text
  | [] => [[]]
  | c :: rest =>
      if separates c then [] :: splitWhere separates rest
      else match splitWhere separates rest with
        | [] => [[c]]
        | piece :: pieces => (c :: piece) :: pieces

theorem splitWhere_ne_nil (separates : CodePoint → Bool) (text : Text) :
    splitWhere separates text ≠ [] := by
  cases text with
  | nil => simp [splitWhere]
  | cons c rest =>
      rw [splitWhere]
      split
      · simp
      · split <;> simp

def join (separator : Text) (texts : List Text) : Text :=
  separator.intercalate texts

def asLines (texts : List Text) : Text :=
  texts.flatMap (· ++ [.char '\n'])

/-- The physical lines of a text. A line ends behind a line end or at the end of the text. -/
def physicalLines : Text → List Text
  | [] => []
  | c :: rest =>
      if c = '\n' then [c] :: physicalLines rest
      else match physicalLines rest with
        | [] => [[c]]
        | line :: lines => (c :: line) :: lines

theorem flatten_physicalLines (text : Text) : (physicalLines text).flatten = text := by
  induction text with
  | nil => rfl
  | cons c rest ih =>
      rw [physicalLines]
      split
      · rw [List.flatten_cons, ih]
        rfl
      · split
        · next empty =>
            rw [empty] at ih
            subst ih
            rfl
        · next line lines cut =>
            rw [cut] at ih
            rw [← ih]
            rfl

end Text

end LineShell
