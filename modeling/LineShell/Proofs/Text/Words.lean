import LineShell.Proofs.Text.Trimming

namespace LineShell

namespace Text

theorem words_cons_blank {c : CodePoint} (blank : isBlank c = true) (rest : Text) :
    words (c :: rest) = words rest := by
  rw [words, splitWhere, if_pos blank]
  rfl

theorem words_trimLeft (text : Text) : words (trimLeft text) = words text := by
  induction text with
  | nil => rfl
  | cons c rest ih =>
      by_cases blank : isBlank c = true
      · rw [words_cons_blank blank, ← ih]
        exact congrArg words (List.dropWhile_cons_of_pos blank)
      · exact congrArg words (List.dropWhile_cons_of_neg blank)

theorem splitWhere_concat {separates : CodePoint → Bool} {c : CodePoint} (ends : separates c = true)
    (text : Text) : splitWhere separates (text ++ [c]) = splitWhere separates text ++ [[]] := by
  induction text with
  | nil => simp [splitWhere, ends]
  | cons d rest ih =>
      rw [List.cons_append, splitWhere, splitWhere, ih]
      split
      · rfl
      · cases cut : splitWhere separates rest with
        | nil => exact absurd cut (splitWhere_ne_nil separates rest)
        | cons piece pieces => rfl

theorem words_concat_blank {c : CodePoint} (blank : isBlank c = true) (text : Text) :
    words (text ++ [c]) = words text := by
  rw [words, splitWhere_concat blank, List.filter_append]
  exact List.append_nil _

theorem words_append_blanks {tail : Text} (blank : allBlank tail = true) (text : Text) :
    words (text ++ tail) = words text := by
  induction tail generalizing text with
  | nil => rw [List.append_nil]
  | cons c rest ih =>
      obtain ⟨here, others⟩ := List.forall_mem_cons.mp (allBlank_eq_true_iff.mp blank)
      rw [← List.singleton_append, ← List.append_assoc, ih (allBlank_eq_true_iff.mpr others),
        words_concat_blank here]

theorem words_trim (text : Text) : words (trim text) = words text := by
  obtain ⟨tail, blank, rebuilt⟩ := exists_eq_append_trimRight (trimLeft text)
  rw [trim, ← words_append_blanks blank, ← rebuilt, words_trimLeft]

theorem Solid.splitWhere_append {word : Text} (solid : Solid word) {c : CodePoint}
    (blank : isBlank c = true) (rest : Text) :
    splitWhere isBlank (word ++ c :: rest) = word :: splitWhere isBlank rest := by
  induction word with
  | nil => rw [List.nil_append, splitWhere, if_pos blank]
  | cons d word ih =>
      obtain ⟨here, others⟩ := List.forall_mem_cons.mp solid
      rw [List.cons_append, splitWhere, if_neg (by simp [here]), ih others]

theorem words_append {word rest : Text} (solid : Solid word) (occupied : word ≠ [])
    (ends : ∀ c ∈ rest.head?, isBlank c = true) : words (word ++ rest) = word :: words rest := by
  cases rest with
  | nil =>
      rw [List.append_nil, solid.words_eq occupied]
      rfl
  | cons c rest =>
      have blank : isBlank c = true := ends c rfl
      rw [words_cons_blank blank, words, solid.splitWhere_append blank]
      exact List.filter_cons_of_pos (by simp [occupied])

end Text

namespace CommandLine

open Text

theorem words_of_read? {line : Text} {cut : CommandLine} (found : read? line = some cut) :
    Text.words line = cut.name :: cut.words := by
  unfold read? at found
  dsimp only at found
  split at found
  · cases found
  · next named =>
      obtain rfl := Option.some.inj found
      have parts := List.takeWhile_append_dropWhile (p := (!isBlank ·)) (l := trimLeft line)
      have solid : Solid ((trimLeft line).takeWhile (!isBlank ·)) := by
        intro c member
        simpa using List.mem_takeWhile_imp member
      have ends : ∀ c ∈ ((trimLeft line).dropWhile (!isBlank ·)).head?, isBlank c = true := by
        intro c stop
        have stopped := List.head?_dropWhile_not (!isBlank ·) (trimLeft line)
        rw [Option.mem_def.mp stop] at stopped
        simpa using stopped
      have cut := words_append solid (by simpa using named) ends
      rw [parts, words_trimLeft] at cut
      rw [cut, CommandLine.words, CommandLine.text]
      congr 1
      split
      · next nothing =>
          rw [← words_trim, List.isEmpty_iff.mp nothing]
          rfl
      · exact (words_trim _).symm

end CommandLine

end LineShell
