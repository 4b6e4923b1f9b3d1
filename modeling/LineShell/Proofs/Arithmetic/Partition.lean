import Mathlib.Tactic.NormNum
import LineShell.Proofs.Arithmetic.Lexing

/-!
The exact token list of an expression. The tokens divide the text into their spans and the blanks
between them, and each span reaches as far as it can. A text is divided like this up to its end, or
up to a character where neither a blank nor a token starts, and there reading fails.
-/

namespace LineShell.Arithmetic

/-- Holds of a lexeme, the text that it is written with and the text behind that. -/
inductive Lexeme.Spans : Lexeme → Text → Text → Prop
  | operator {c : CodePoint} {lexeme : Lexeme} (operates : Operates c lexeme) (behind : Text) :
      Spans lexeme [c] behind
  | literal {literal : Literal} {behind : Text}
      (longest : literal.LongestAt (literal.text ++ behind)) :
      Spans (.number literal.reading) literal.text behind

/-- Holds of a position, a text from there and the tokens that the text consists of apart from
blanks. What follows the text decides how far its last literal reaches. -/
inductive Partitions (rest : Text) : Nat → Text → List Token → Prop
  | done {position : Nat} : Partitions rest position [] []
  | blank {position : Nat} {c : CodePoint} {text : Text} {tokens : List Token}
      (isBlank : Text.isBlank c = true) (others : Partitions rest (position + 1) text tokens) :
      Partitions rest position (c :: text) tokens
  | token {position : Nat} {lexeme : Lexeme} {span text : Text} {tokens : List Token}
      (spans : lexeme.Spans span (text ++ rest))
      (others : Partitions rest (position + span.length) text tokens) :
      Partitions rest position (span ++ text) (⟨lexeme, position⟩ :: tokens)

/-- Holds of the texts with neither a blank nor a token at their front. -/
structure StartsNothing (text : Text) : Prop where
  blank : ∀ c ∈ text.head?, Text.isBlank c = false
  operator : ∀ c ∈ text.head?, ∀ lexeme, ¬Operates c lexeme
  literal : ∀ literal : Literal, literal.WellFormed → ¬literal.text <+: text

def LiteralsWithin (text : Text) : Prop :=
  ∀ literal : Literal, literal.WellFormed → literal.text <:+: text →
    literal.whole.length ≤ Numeral.digitLimit ∧ literal.decimals.length ≤ Numeral.digitLimit

variable {rest text span behind : Text} {position : Nat} {tokens : List Token} {lexeme : Lexeme}

theorem LiteralsWithin.of_suffix (within : LiteralsWithin text) (atEnd : rest <:+ text) :
    LiteralsWithin rest :=
  fun literal valid inRest => within literal valid (inRest.trans atEnd.isInfix)

theorem literalsWithin_of_length_le (short : text.length ≤ Numeral.digitLimit) :
    LiteralsWithin text := by
  intro literal _ inText
  have digits := literal.length_text
  have inside := inText.length_le
  omega

theorem Lexeme.Spans.length_pos (spans : lexeme.Spans span behind) : 0 < span.length := by
  cases spans with
  | operator => exact Nat.one_pos
  | literal longest => exact List.length_pos_iff.mpr longest.wellFormed.text_ne_nil

theorem startsNothing_nil : StartsNothing [] := by
  refine ⟨fun c first => (nomatch first), fun c first => (nomatch first), ?_⟩
  intro literal valid atFront
  exact valid.text_ne_nil (List.prefix_nil.mp atFront)

theorem Partitions.located (partition : Partitions rest position text tokens) :
    ∀ token ∈ tokens, ∃ front span behind, text = front ++ (span ++ behind) ∧
      token.position = position + front.length ∧ token.lexeme.Spans span (behind ++ rest) := by
  induction partition with
  | done => exact fun token member => nomatch member
  | @blank position c text tokens isBlank others ih =>
      intro token member
      obtain ⟨front, span, behind, rfl, located, spans⟩ := ih token member
      refine ⟨c :: front, span, behind, rfl, ?_, spans⟩
      rw [located, List.length_cons]
      omega
  | @token position lexeme first text tokens firstSpans others ih =>
      intro token member
      rcases List.mem_cons.mp member with rfl | among
      · exact ⟨[], first, text, rfl, rfl, firstSpans⟩
      · obtain ⟨front, span, behind, rfl, located, spans⟩ := ih token among
        refine ⟨first ++ front, span, behind, by simp, ?_, spans⟩
        rw [located, List.length_append]
        omega

theorem Partitions.bounds (partition : Partitions rest position text tokens) {token : Token}
    (member : token ∈ tokens) :
    position ≤ token.position ∧ token.position < position + text.length := by
  obtain ⟨front, span, behind, rfl, located, spans⟩ := partition.located token member
  have occupied := spans.length_pos
  rw [List.length_append, List.length_append]
  omega

theorem Partitions.ascending (partition : Partitions rest position text tokens) :
    tokens.Pairwise fun earlier later => earlier.position < later.position := by
  induction partition with
  | done => exact .nil
  | blank isBlank others ih => exact ih
  | @token position lexeme span text tokens spans others ih =>
      refine List.pairwise_cons.mpr ⟨fun later member => ?_, ih⟩
      have occupied := spans.length_pos
      have bound := (others.bounds member).1
      change position < later.position
      omega

theorem startsNothing_of_take? {c : CodePoint} (noBlank : Text.isBlank c = false)
    (noOperator : Token.operator? c = none) (noLiteral : Literal.take? (c :: text) = none) :
    StartsNothing (c :: text) := by
  refine ⟨?_, ?_, ?_⟩
  · rintro d ⟨⟩
    exact noBlank
  · rintro d ⟨⟩ lexeme operates
    rw [operator?_eq_some_iff.mpr operates] at noOperator
    cases noOperator
  · rintro literal valid ⟨after, rebuilt⟩
    exact valid.take?_ne_none after (rebuilt ▸ noLiteral)

theorem start_cases (c : CodePoint) (text : Text) :
    Text.isBlank c = true ∨
      (∃ (lexeme : Lexeme) (span behind : Text), c :: text = span ++ behind ∧
        lexeme.Spans span behind) ∨
      StartsNothing (c :: text) := by
  cases isBlank : Text.isBlank c with
  | true => exact Or.inl rfl
  | false =>
      right
      cases isOperator : Token.operator? c with
      | some lexeme =>
          have operates := operator?_eq_some_iff.mp isOperator
          exact Or.inl ⟨lexeme, [c], text, rfl, .operator operates text⟩
      | none =>
          cases found : Literal.take? (c :: text) with
          | none => exact Or.inr (startsNothing_of_take? isBlank isOperator found)
          | some taken =>
              obtain ⟨literal, after⟩ := taken
              obtain ⟨longest, rebuilt⟩ := Literal.take?_eq_some_iff.mp found
              exact Or.inl ⟨_, literal.text, after, rebuilt, .literal (rebuilt ▸ longest)⟩

theorem exists_partition (text : Text) (position : Nat) :
    ∃ front rest tokens, text = front ++ rest ∧ Partitions rest position front tokens ∧
      StartsNothing rest := by
  -- The induction is on the length, since a literal takes several characters at once.
  induction size : text.length using Nat.strong_induction_on generalizing text position with
  | _ length ih =>
      subst size
      cases text with
      | nil => exact ⟨[], [], [], rfl, .done, startsNothing_nil⟩
      | cons c text =>
          rcases start_cases c text with isBlank | ⟨lexeme, span, behind, rebuilt, spans⟩ | stuck
          · obtain ⟨front, rest, tokens, rfl, partition, stuck⟩ :=
              ih text.length (Nat.lt_succ_self _) text (position + 1) rfl
            exact ⟨c :: front, rest, tokens, rfl, .blank isBlank partition, stuck⟩
          · have shorter : behind.length < (c :: text).length := by
              have occupied := spans.length_pos
              rw [rebuilt, List.length_append]
              omega
            obtain ⟨front, rest, tokens, rfl, partition, stuck⟩ :=
              ih behind.length shorter behind (position + span.length) rfl
            rw [rebuilt]
            exact ⟨span ++ front, rest, _, (List.append_assoc ..).symm, .token spans partition,
              stuck⟩
          · exact ⟨[], c :: text, [], rfl, .done, stuck⟩

namespace Token

theorem readFrom_span (within : LiteralsWithin (span ++ behind))
    (spans : lexeme.Spans span behind) (position : Nat) :
    readFrom position (span ++ behind) =
      (readFrom (position + span.length) behind).map (⟨lexeme, position⟩ :: ·) := by
  cases spans with
  | operator operates => exact readFrom_operator operates position behind
  | @literal literal _ longest =>
      obtain ⟨whole, decimals⟩ := within literal longest.wellFormed
        (List.prefix_append literal.text behind).isInfix
      exact readFrom_literal longest whole decimals position

theorem readFrom_of_partitions (partition : Partitions rest position text tokens)
    (within : LiteralsWithin (text ++ rest)) :
    readFrom position (text ++ rest) =
      (readFrom (position + text.length) rest).map (tokens ++ ·) := by
  induction partition with
  | @done position =>
      change readFrom position rest = (readFrom position rest).map id
      cases readFrom position rest <;> rfl
  | @blank position c text tokens isBlank others ih =>
      have later := ih (within.of_suffix (List.suffix_cons c (text ++ rest)))
      rw [List.cons_append, readFrom_blank isBlank, later, List.length_cons, Nat.add_right_comm,
        Nat.add_assoc]
  | @token position lexeme span text tokens spans others ih =>
      rw [List.append_assoc] at within ⊢
      have later := ih (within.of_suffix (List.suffix_append span (text ++ rest)))
      rw [readFrom_span within spans, later, List.length_append, Nat.add_assoc]
      cases readFrom (position + (span.length + text.length)) rest <;> rfl

theorem readFrom_of_startsNothing {c : CodePoint} (stuck : StartsNothing (c :: text))
    (position : Nat) :
    readFrom position (c :: text) = .error (.malformed (.invalidCharacter c position)) := by
  have noOperator : operator? c = none := by
    rw [Option.eq_none_iff_forall_ne_some]
    exact fun lexeme found => stuck.operator c rfl lexeme (operator?_eq_some_iff.mp found)
  have noLiteral : Literal.take? (c :: text) = none := by
    rw [Option.eq_none_iff_forall_ne_some]
    rintro ⟨literal, after⟩ found
    have longest := (Literal.take?_eq_some_iff.mp found).1
    exact stuck.literal literal longest.wellFormed longest.atFront
  rw [readFrom, if_neg (by simp [stuck.blank c rfl])]
  simp only [noOperator]
  split
  · rfl
  · next found =>
      rw [noLiteral] at found
      cases found

theorem read_of_partitions (partition : Partitions [] 0 text tokens)
    (within : LiteralsWithin text) : read text = .ok tokens := by
  have found := readFrom_of_partitions partition (by rwa [List.append_nil])
  rw [List.append_nil, readFrom] at found
  rw [read, found]
  change Except.ok (tokens ++ []) = _
  rw [List.append_nil]

theorem read_of_stuck {c : CodePoint} (partition : Partitions (c :: rest) 0 text tokens)
    (stuck : StartsNothing (c :: rest)) (within : LiteralsWithin (text ++ c :: rest)) :
    read (text ++ c :: rest) = .error (.malformed (.invalidCharacter c text.length)) := by
  rw [read, readFrom_of_partitions partition within, readFrom_of_startsNothing stuck, Nat.zero_add]
  rfl

/-- Reading yields the tokens that the text divides into, or names the first position where
nothing starts. -/
theorem read_cases (within : LiteralsWithin text) :
    (∃ tokens, Partitions [] 0 text tokens ∧ read text = .ok tokens) ∨
      ∃ front c back tokens, text = front ++ c :: back ∧
        Partitions (c :: back) 0 front tokens ∧ StartsNothing (c :: back) ∧
        read text = .error (.malformed (.invalidCharacter c front.length)) := by
  obtain ⟨front, rest, tokens, rfl, partition, stuck⟩ := exists_partition text 0
  cases rest with
  | nil =>
      rw [List.append_nil] at within ⊢
      exact Or.inl ⟨tokens, partition, read_of_partitions partition within⟩
  | cons c back =>
      exact Or.inr ⟨front, c, back, tokens, rfl, partition, stuck,
        read_of_stuck partition stuck within⟩

theorem read_eq_ok_iff (within : LiteralsWithin text) :
    read text = .ok tokens ↔ Partitions [] 0 text tokens := by
  constructor
  · intro success
    rcases read_cases within with ⟨found, partition, read⟩ | ⟨_, _, _, _, -, -, -, read⟩
    · rw [read] at success
      cases success
      exact partition
    · rw [read] at success
      cases success
  · exact fun partition => read_of_partitions partition within

theorem read_eq_error_iff (within : LiteralsWithin text) {failure : Failure} :
    read text = .error failure ↔
      ∃ front c back tokens, text = front ++ c :: back ∧ Partitions (c :: back) 0 front tokens ∧
        StartsNothing (c :: back) ∧
        failure = .malformed (.invalidCharacter c front.length) := by
  constructor
  · intro refused
    rcases read_cases within with
      ⟨_, -, read⟩ | ⟨front, c, back, tokens, rebuilt, partition, stuck, read⟩
    · rw [read] at refused
      cases refused
    · rw [read] at refused
      cases refused
      exact ⟨front, c, back, tokens, rebuilt, partition, stuck, rfl⟩
  · rintro ⟨front, c, back, tokens, rfl, partition, stuck, rfl⟩
    exact read_of_stuck partition stuck within

theorem listing_ascending (partition : Partitions [] 0 text tokens) :
    (listing text tokens).Pairwise fun earlier later => earlier.2 < later.2 := by
  refine List.pairwise_append.mpr ⟨List.pairwise_map.mpr partition.ascending,
    List.pairwise_singleton .., ?_⟩
  intro earlier inTokens later isEnd
  obtain ⟨token, member, rfl⟩ := List.mem_map.mp inTokens
  rw [List.mem_singleton.mp isEnd]
  have bound := (partition.bounds member).2
  rwa [Nat.zero_add] at bound

theorem filter_listing (text : Text) (tokens : List Token) :
    (listing text tokens).filter (·.1.isNone) = [(none, text.length)] := by
  rw [listing, List.filter_append, List.filter_eq_nil_iff.mpr, List.nil_append]
  · rfl
  · intro entry member
    obtain ⟨token, -, rfl⟩ := List.mem_map.mp member
    exact Bool.false_ne_true

/-- Reading succeeds exactly on the texts that divide into blanks, operator characters and longest
literals, with the tokens of that division. They stand at their spans in ascending order before the
one mark of the end. All other texts are refused with the first position where nothing starts. -/
theorem read_exact {text : Text} (within : LiteralsWithin text) :
    (∀ tokens, read text = .ok tokens ↔ Partitions [] 0 text tokens) ∧
      (∀ tokens, read text = .ok tokens →
        (∀ token ∈ tokens, ∃ front span behind, text = front ++ (span ++ behind) ∧
          token.position = front.length ∧ token.lexeme.Spans span behind) ∧
        (listing text tokens).Pairwise (fun earlier later => earlier.2 < later.2) ∧
        (listing text tokens).getLast? = some (none, text.length) ∧
        (listing text tokens).filter (·.1.isNone) = [(none, text.length)]) ∧
      ∀ failure, read text = .error failure ↔
        ∃ front c back tokens, text = front ++ c :: back ∧ Partitions (c :: back) 0 front tokens ∧
          StartsNothing (c :: back) ∧
          failure = .malformed (.invalidCharacter c front.length) := by
  refine ⟨fun tokens => read_eq_ok_iff within, fun tokens success => ?_,
    fun failure => read_eq_error_iff within⟩
  have partition := (read_eq_ok_iff within).mp success
  refine ⟨fun token member => ?_, listing_ascending partition, List.getLast?_concat,
    filter_listing text tokens⟩
  obtain ⟨front, span, behind, rebuilt, located, spans⟩ := partition.located token member
  rw [Nat.zero_add] at located
  rw [List.append_nil] at spans
  exact ⟨front, span, behind, rebuilt, located, spans⟩

/-- A point behind a literal starts the next one if a digit follows, and otherwise nothing. -/
theorem read_exact_at_neighbouring_literals :
    LiteralsWithin "1..2".text ∧
      read "1..2".text = .ok [⟨.number 1, 0⟩, ⟨.number (1 / 5), 2⟩] ∧
      LiteralsWithin "1.5.".text ∧
      read "1.5.".text = .error (.malformed (.invalidCharacter '.' 3)) := by
  let one : Literal := ⟨['1'], some []⟩
  let fifth : Literal := ⟨[], some ['2']⟩
  let halves : Literal := ⟨['1'], some ['5']⟩
  have within : LiteralsWithin "1..2".text := literalsWithin_of_length_le (by decide)
  have withinOther : LiteralsWithin "1.5.".text := literalsWithin_of_length_le (by decide)
  refine ⟨within, ((read_exact within).1 _).mpr ?_, withinOther,
    ((read_exact withinOther).2.2 _).mpr ?_⟩
  · have oneTaken : Literal.take? "1..2".text = some (one, ".2".text) := rfl
    have fifthTaken : Literal.take? ".2".text = some (fifth, []) := rfl
    have readsOne : one.reading = 1 := by
      change ((1 : Nat) : Rat) + (0 : Nat) / 10 ^ 0 = 1
      norm_num
    have readsFifth : fifth.reading = 1 / 5 := by
      change ((0 : Nat) : Rat) + (2 : Nat) / 10 ^ 1 = 1 / 5
      norm_num
    rw [← readsFifth, ← readsOne]
    exact .token (.literal (Literal.take?_eq_some_iff.mp oneTaken).1)
      (.token (.literal (Literal.take?_eq_some_iff.mp fifthTaken).1) .done)
  · have halvesTaken : Literal.take? "1.5.".text = some (halves, [.char '.']) := rfl
    have stuck : StartsNothing ['.'] := startsNothing_of_take? rfl rfl rfl
    exact ⟨"1.5".text, '.', [], _, rfl,
      .token (.literal (Literal.take?_eq_some_iff.mp halvesTaken).1) .done, stuck, rfl⟩

end Token

end LineShell.Arithmetic
