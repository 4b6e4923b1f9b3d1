import LineShell.Proofs.Brace.Choice
import LineShell.Proofs.Halving.Pass

namespace LineShell.Brace

open Escape

def Piece.behind (n : Nat) : Piece → Piece
  | .literal text => .literal (backslashes n ++ text)
  | .group run content => .group (n + run) content
  | .unclosed run rest => .unclosed (n + run) rest

def Piece.opens : Piece → Bool
  | .group _ content => (alternatives content).isOk
  | _ => false

def opens (text : Text) : Bool :=
  match choices 1 (pieces text), pieces text with
  | .ok _, piece :: _ => piece.opens
  | _, _ => false

/-- The backslashes that are left of `2 * n` in front of a text behind brace expansion. -/
def runLeft (opened : Bool) (n : Nat) : Nat :=
  if opened then n else 2 * n

theorem Piece.offer_behind (n : Nat) (piece : Piece) :
    (piece.behind (2 * n)).offer =
      piece.offer.map (List.map (backslashes (runLeft piece.opens n) ++ ·)) := by
  cases piece with
  | literal text => rfl
  | unclosed run rest => rfl
  | group run content =>
      rw [behind, offer, offer, opens]
      cases expanded : alternatives content with
      | ok texts =>
          have halved : (2 * n + run) / 2 = n + run / 2 := by omega
          change Except.ok (texts.map (backslashes ((2 * n + run) / 2) ++ ·)) =
            Except.ok ((texts.map (backslashes (run / 2) ++ ·)).map (backslashes n ++ ·))
          rw [halved, List.map_map]
          congr 1
          refine List.map_congr_left fun text _ => ?_
          exact (backslashes_append_append n (run / 2) text).symm
      | error refusal =>
          cases refusal with
          | notAGroup =>
              change Except.ok [backslashes (2 * n + run) ++ .char '{' :: content ++ [.char '}']] =
                Except.ok
                  [backslashes (2 * n) ++ (backslashes run ++ .char '{' :: content ++ [.char '}'])]
              rw [backslashes_add]
              simp only [List.append_assoc]
          | tooManyDigits => rfl

theorem Piece.behind_zero (piece : Piece) : piece.behind 0 = piece := by
  cases piece with
  | literal text => rfl
  | group run content => rw [behind, Nat.zero_add]
  | unclosed run rest => rw [behind, Nat.zero_add]

/-- Holds of pieces whose text begins with a trigger, whatever the groups behind it offer. -/
def Lead (first : Piece) (others : List Piece) : Prop :=
  (∀ tail, startsTrigger (first.text ++ tail) = true) ∨
    first = .literal ['!'] ∧ ∃ more, others = .literal ['!'] :: more

theorem piecesAfter_of_startsTrigger {text : Text} (leads : startsTrigger text = true) :
    ∃ (first : Piece) (others : List Piece), Lead first others ∧ ∀ run, escapes run = false →
      piecesAfter run false text = first.behind run :: others := by
  rcases eq_of_startsTrigger leads with ⟨rest, rfl⟩ | ⟨rest, rfl⟩ | ⟨rest, rfl⟩
  · cases found : takeGroup? 0 rest with
    | some taken =>
        obtain ⟨content, after⟩ := taken
        refine ⟨.group 0 content, piecesAfter 0 false after, Or.inl fun _ => rfl,
          fun run unescaped => ?_⟩
        rw [piecesAfter_brace unescaped, found]
        rfl
    | none =>
        by_cases closing : .char '}' ∈ rest
        · refine ⟨.literal ['{'], piecesAfter 0 false rest, Or.inl fun _ => rfl,
            fun run unescaped => ?_⟩
          rw [piecesAfter_brace unescaped, found]
          exact if_pos closing
        · refine ⟨.unclosed 0 rest, [], Or.inl fun _ => rfl, fun run unescaped => ?_⟩
          rw [piecesAfter_brace unescaped, found]
          exact if_neg closing
  · refine ⟨.literal ['$'], piecesAfter 0 true rest, Or.inl fun _ => rfl, fun run unescaped => ?_⟩
    rw [piecesAfter_cons (by decide) (fun absent => by cases absent), unescaped]
    rfl
  · have second : piecesAfter 0 false (.char '!' :: rest) =
        .literal ['!'] :: piecesAfter 0 false rest :=
      piecesAfter_cons (by decide) (fun absent => by cases absent)
    refine ⟨.literal ['!'], piecesAfter 0 false (.char '!' :: rest), Or.inr ⟨rfl, _, second⟩,
      fun run unescaped => ?_⟩
    rw [piecesAfter_cons (by decide) (fun absent => by cases absent)]
    rfl

theorem pieces_of_startsTrigger {text : Text} (leads : startsTrigger text = true) :
    ∃ (first : Piece) (others : List Piece), Lead first others ∧ pieces text = first :: others ∧
      ∀ n, pieces (backslashes (2 * n) ++ text) = first.behind (2 * n) :: others := by
  obtain ⟨first, others, lead, read⟩ := piecesAfter_of_startsTrigger leads
  refine ⟨first, others, lead, ?_, fun n => ?_⟩
  · rw [pieces, read 0 rfl, Piece.behind_zero]
  · rw [pieces, piecesAfter_backslashes_append, Nat.zero_add, read _ (escapes_two_mul n)]

theorem combinations_map_append (lead : Text) (texts : List Text) (rest : List (List Text)) :
    combinations (texts.map (lead ++ ·) :: rest) =
      (combinations (texts :: rest)).map (lead ++ ·) := by
  simp only [combinations, List.flatMap_map, List.map_flatMap, List.map_map, List.append_assoc]
  rfl

/-- Expanding the braces of a text that begins with a trigger leaves the run in front of it in every
line, halved if its first piece is a group that is expanded. -/
theorem expand_backslashes_append {text : Text} (leads : startsTrigger text = true) (n : Nat) :
    expand (backslashes (2 * n) ++ text) =
      (expand text).map (List.map (backslashes (runLeft (opens text) n) ++ ·)) := by
  obtain ⟨first, others, -, read, readBehind⟩ := pieces_of_startsTrigger leads
  unfold expand opens
  rw [read, readBehind, choices_cons (by decide), choices_cons (by decide), Piece.offer_behind]
  cases offered : first.offer with
  | error obstacle => cases obstacle <;> rfl
  | ok texts =>
      dsimp only [Except.map]
      rw [List.length_map]
      by_cases beyond : resultLimit < 1 * texts.length
      · rw [if_pos beyond, if_pos beyond]
        rfl
      · rw [if_neg beyond, if_neg beyond]
        cases choices (1 * texts.length) others with
        | error obstacle => cases obstacle <;> rfl
        | ok lists => exact congrArg Except.ok (combinations_map_append _ texts lists)

theorem Piece.offer_of_not_opens {piece : Piece} (unopened : piece.opens = false)
    {texts : List Text} (offered : piece.offer = .ok texts) : texts = [piece.text] := by
  rcases Piece.offer_cases offered with ⟨same, -⟩ | ⟨run, content, values, rfl, found, -⟩
  · exact same
  · rw [opens, found] at unopened
    cases unopened

theorem of_mem_combinations {piece : Piece} {others : List Piece} {lists : List (List Text)}
    {line : Text} (unopened : piece.opens = false)
    (offers : (piece :: others).map Piece.offer = lists.map .ok)
    (member : line ∈ combinations lists) :
    ∃ tail rest, line = piece.text ++ tail ∧ others.map Piece.offer = rest.map .ok ∧
      tail ∈ combinations rest := by
  cases lists with
  | nil => cases offers
  | cons texts rest =>
      rw [List.map_cons, List.map_cons, List.cons.injEq] at offers
      obtain rfl := Piece.offer_of_not_opens unopened offers.1
      simp only [combinations, List.flatMap_singleton, List.mem_map] at member
      obtain ⟨tail, tailMember, rfl⟩ := member
      exact ⟨tail, rest, rfl, offers.2, tailMember⟩

theorem startsTrigger_of_mem_expand {text : Text} (leads : startsTrigger text = true)
    (unopened : opens text = false) {lines : List Text} (expanded : expand text = .ok lines) :
    ∀ line ∈ lines, startsTrigger line = true := by
  obtain ⟨first, others, lead, read, -⟩ := pieces_of_startsTrigger leads
  unfold expand at expanded
  unfold opens at unopened
  rw [read] at expanded unopened
  cases chosen : choices 1 (first :: others) with
  | error obstacle =>
      rw [chosen] at expanded
      cases obstacle with
      | tooManyDigits => cases expanded
      | _ =>
          cases expanded
          intro line member
          rw [List.mem_singleton.mp member]
          exact leads
  | ok lists =>
      rw [chosen] at expanded unopened
      cases expanded
      intro line member
      have offers := ((choices_eq_ok_iff (by decide)).mp chosen).1
      obtain ⟨tail, rest, rfl, restOffers, tailMember⟩ := of_mem_combinations unopened offers member
      rcases lead with whole | ⟨rfl, more, rfl⟩
      · exact whole tail
      · obtain ⟨_, _, rfl, -, -⟩ := of_mem_combinations rfl restOffers tailMember
        rfl

end LineShell.Brace
