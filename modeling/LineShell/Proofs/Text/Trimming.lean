import Mathlib.Data.List.Basic
import Mathlib.Data.List.TakeWhile
import LineShell.Command.Line

namespace LineShell

namespace Text

theorem allBlank_eq_true_iff {text : Text} : allBlank text = true ↔ ∀ c ∈ text, isBlank c = true :=
  List.all_eq_true

theorem allBlank_trimLeft (text : Text) : allBlank (trimLeft text) = allBlank text := by
  have cut : text.takeWhile isBlank ++ trimLeft text = text := List.takeWhile_append_dropWhile
  have lead : (text.takeWhile isBlank).all isBlank = true := List.all_takeWhile
  calc
    allBlank (trimLeft text) =
      ((text.takeWhile isBlank).all isBlank && allBlank (trimLeft text)) := by
      rw [lead, Bool.true_and]
    _ = allBlank (text.takeWhile isBlank ++ trimLeft text) := List.all_append.symm
    _ = allBlank text := by rw [cut]

theorem trimRight_eq (text : Text) : trimRight text = (trimLeft text.reverse).reverse := rfl

theorem allBlank_reverse (text : Text) : allBlank text.reverse = allBlank text :=
  List.all_reverse

theorem allBlank_trimRight (text : Text) : allBlank (trimRight text) = allBlank text := by
  rw [trimRight_eq, allBlank_reverse, allBlank_trimLeft, allBlank_reverse]

theorem allBlank_trim (text : Text) : allBlank (trim text) = allBlank text := by
  rw [trim, allBlank_trimRight, allBlank_trimLeft]

theorem trimLeft_eq_nil_iff {text : Text} : trimLeft text = [] ↔ allBlank text = true := by
  rw [trimLeft, List.dropWhile_eq_nil_iff, allBlank_eq_true_iff]

theorem trimRight_eq_nil_iff {text : Text} : trimRight text = [] ↔ allBlank text = true := by
  rw [trimRight_eq, List.reverse_eq_nil_iff, trimLeft_eq_nil_iff, allBlank_reverse]

theorem ne_of_isBlank {c d : CodePoint} (blank : isBlank c = true) (visible : isBlank d = false) :
    c ≠ d := by
  rintro rfl
  rw [blank] at visible
  cases visible

theorem exists_eq_append_trimRight (text : Text) :
    ∃ tail, allBlank tail = true ∧ text = trimRight text ++ tail := by
  refine ⟨(text.reverse.takeWhile isBlank).reverse, ?_, ?_⟩
  · rw [allBlank_reverse]
    exact List.all_takeWhile
  · rw [trimRight, ← List.reverse_append, List.takeWhile_append_dropWhile, List.reverse_reverse]

theorem exists_eq_append_trim (text : Text) :
    ∃ lead tail, allBlank lead = true ∧ allBlank tail = true ∧
      text = lead ++ (trim text ++ tail) := by
  obtain ⟨tail, blank, rebuilt⟩ := exists_eq_append_trimRight (trimLeft text)
  refine ⟨text.takeWhile isBlank, tail, List.all_takeWhile, blank, ?_⟩
  rw [trim, ← rebuilt]
  exact List.takeWhile_append_dropWhile.symm

theorem trimLeft_append {lead : Text} (blank : allBlank lead = true) (text : Text) :
    trimLeft (lead ++ text) = trimLeft text :=
  List.dropWhile_append_of_pos (allBlank_eq_true_iff.mp blank)

theorem trimRight_append {tail : Text} (blank : allBlank tail = true) (text : Text) :
    trimRight (text ++ tail) = trimRight text := by
  rw [trimRight_eq, List.reverse_append, trimLeft_append (by rwa [allBlank_reverse])]
  rfl

theorem trim_append {lead tail : Text} (blankLead : allBlank lead = true)
    (blankTail : allBlank tail = true) (text : Text) :
    trim (lead ++ (text ++ tail)) = trim text := by
  rw [trim, trimLeft_append blankLead, trim, trimLeft, trimLeft, List.dropWhile_append]
  split
  · next nothing =>
      rw [List.isEmpty_iff.mp nothing]
      exact trimRight_eq_nil_iff.mpr ((allBlank_trimLeft tail).trans blankTail)
  · exact trimRight_append blankTail _

theorem trimLeft_eq_self {text : Text} (first : ∀ c, text.head? = some c → isBlank c = false) :
    trimLeft text = text := by
  cases text with
  | nil => rfl
  | cons c rest => exact List.dropWhile_cons_of_neg (by simp [first c rfl])

theorem trimRight_eq_self {text : Text} (last : ∀ c, text.getLast? = some c → isBlank c = false) :
    trimRight text = text := by
  rw [trimRight_eq, trimLeft_eq_self, List.reverse_reverse]
  rwa [List.head?_reverse]

theorem trim_eq_self {text : Text} (first : ∀ c, text.head? = some c → isBlank c = false)
    (last : ∀ c, text.getLast? = some c → isBlank c = false) : trim text = text := by
  rw [trim, trimLeft_eq_self first, trimRight_eq_self last]

def Solid (text : Text) : Prop :=
  ∀ c ∈ text, isBlank c = false

instance : DecidablePred Solid :=
  fun text => List.decidableBAll _ text

theorem Solid.trim_eq {text : Text} (solid : Solid text) : trim text = text :=
  trim_eq_self (fun _ found => solid _ (List.mem_of_head? found))
    (fun _ found => solid _ (List.mem_of_getLast? found))

theorem Solid.splitWhere_eq {text : Text} (solid : Solid text) :
    splitWhere isBlank text = [text] := by
  induction text with
  | nil => rfl
  | cons c rest ih =>
      obtain ⟨here, others⟩ := List.forall_mem_cons.mp solid
      rw [splitWhere, if_neg (by simp [here]), ih others]

theorem Solid.words_eq {text : Text} (solid : Solid text) (nonempty : text ≠ []) :
    words text = [text] := by
  rw [words, solid.splitWhere_eq]
  exact List.filter_cons_of_pos (by simp [nonempty])

theorem Solid.takeWhile_eq {text : Text} (solid : Solid text) (behind : Text) :
    (text ++ .char ' ' :: behind).takeWhile (!isBlank ·) = text := by
  rw [List.takeWhile_append_of_pos (fun c member => by simp [solid c member]),
    List.takeWhile_cons_of_neg (by decide), List.append_nil]

theorem Solid.dropWhile_eq {text : Text} (solid : Solid text) (behind : Text) :
    (text ++ .char ' ' :: behind).dropWhile (!isBlank ·) = .char ' ' :: behind := by
  rw [List.dropWhile_append_of_pos (fun c member => by simp [solid c member]),
    List.dropWhile_cons_of_neg (by decide)]

theorem Solid.trim_append {name rest : Text} (solid : Solid name) (named : name ≠ [])
    (occupied : rest ≠ []) (last : ∀ c, rest.getLast? = some c → isBlank c = false) :
    trim (name ++ .char ' ' :: rest) = name ++ .char ' ' :: rest := by
  refine trim_eq_self (fun c found => ?_) (fun c found => ?_)
  · rw [List.head?_append_of_ne_nil _ named] at found
    exact solid c (List.mem_of_head? found)
  · rw [List.getLast?_append_of_ne_nil _ (List.cons_ne_nil _ _),
      List.getLast?_cons_of_ne_nil occupied] at found
    exact last c found

end Text

namespace CommandLine

open Text

theorem read?_eq_none_iff {line : Text} : read? line = none ↔ allBlank line = true := by
  rw [← trimLeft_eq_nil_iff]
  cases trimmed : trimLeft line with
  | nil =>
      rw [read?, trimmed]
      simp
  | cons c rest =>
      have solid : isBlank c = false := by
        have stopped := List.head?_dropWhile_not isBlank line
        rw [← trimLeft, trimmed] at stopped
        simpa using stopped
      rw [read?, trimmed]
      simp [solid]

theorem read?_of_solid {name : Text} (solid : Solid name) (named : name ≠ []) :
    read? name = some ⟨name, none⟩ := by
  have leading : trimLeft name = name :=
    trimLeft_eq_self fun c found => solid c (List.mem_of_head? found)
  have whole : name.takeWhile (!isBlank ·) = name :=
    List.takeWhile_eq_self_iff.mpr fun c member => by simp [solid c member]
  have nothing : name.dropWhile (!isBlank ·) = [] :=
    List.dropWhile_eq_nil_iff.mpr fun c member => by simp [solid c member]
  unfold read?
  simp only [leading, whole, nothing]
  simp [named, trim, trimLeft, trimRight]

theorem read?_of_argument {name rest : Text} (solid : Solid name) (named : name ≠ [])
    (occupied : rest ≠ []) (trimmed : trim rest = rest) :
    read? (name ++ .char ' ' :: rest) = some ⟨name, some rest⟩ := by
  have leading : trimLeft (name ++ .char ' ' :: rest) = name ++ .char ' ' :: rest := by
    refine trimLeft_eq_self fun c found => ?_
    rw [List.head?_append_of_ne_nil _ named] at found
    exact solid c (List.mem_of_head? found)
  have argument : trim (.char ' ' :: rest) = rest := by
    have dropped : trimLeft (.char ' ' :: rest) = trimLeft rest :=
      List.dropWhile_cons_of_pos (by decide)
    rw [trim, dropped, ← trim, trimmed]
  unfold read?
  simp only [leading, solid.takeWhile_eq, solid.dropWhile_eq, argument]
  simp [named, occupied]

theorem exists_read? {line : Text} (occupied : allBlank line = false) :
    ∃ cut, read? line = some cut := by
  refine Option.ne_none_iff_exists'.mp fun absent => ?_
  rw [read?_eq_none_iff, occupied] at absent
  cases absent

end CommandLine

end LineShell
