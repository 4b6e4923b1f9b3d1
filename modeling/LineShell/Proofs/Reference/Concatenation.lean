import Mathlib.Data.List.Infix
import LineShell.Proofs.Defaults
import LineShell.Proofs.Text.Word

/-!
References and concatenation. Where a text ends in a blank and holds a closing brace behind each
dollar with an opening one, no reference that begins in it goes on behind it, whether or not it has
a value. So the text behind it is replaced as if it stood alone, under the variables that the first
one leaves.
-/

namespace LineShell.Reference

open Escape

def Enclosed (text : Text) : Prop :=
  ∀ rest, .char '$' :: .char '{' :: rest <:+ text → .char '}' ∈ rest

def EndsBlank (text : Text) : Prop :=
  ∀ c ∈ text.getLast?, Text.isBlank c = true

theorem enclosed_iff (text : Text) :
    Enclosed text ↔
      ∀ tail ∈ text.tails, tail.take 2 = [.char '$', .char '{'] → .char '}' ∈ tail.drop 2 := by
  constructor
  · intro enclosed tail member opened
    apply enclosed
    have whole := List.take_append_drop 2 tail
    rw [opened] at whole
    change [.char '$', .char '{'] ++ tail.drop 2 <:+ text
    rw [whole]
    exact (List.mem_tails tail text).mp member
  · intro everywhere rest opened
    exact everywhere _ ((List.mem_tails _ text).mpr opened) rfl

instance : DecidablePred Enclosed :=
  fun text => decidable_of_iff _ (enclosed_iff text).symm

theorem Enclosed.of_suffix {text rest : Text} (enclosed : Enclosed text) (behind : rest <:+ text) :
    Enclosed rest :=
  fun inside opened => enclosed inside (opened.trans behind)

theorem EndsBlank.of_suffix {text rest : Text} (ends : EndsBlank text) (behind : rest <:+ text) :
    EndsBlank rest := by
  obtain ⟨front, rfl⟩ := behind
  exact fun c last => ends c (List.mem_getLast?_append_of_mem_getLast? last)

theorem EndsBlank.run_eq_zero {run : Nat} (ends : EndsBlank (backslashes run)) : run = 0 := by
  cases run with
  | zero => rfl
  | succ run =>
      rw [backslashes_add run 1] at ends
      exact absurd (ends '\\' List.getLast?_concat) (by decide)

theorem EndsBlank.exists_blank {text : Text} (ends : EndsBlank (.char '$' :: text)) :
    ∃ front blank, text = front ++ [blank] ∧ Text.isWordCharacter blank = false := by
  rcases List.eq_nil_or_concat' text with rfl | ⟨front, blank, rfl⟩
  · exact absurd (ends '$' rfl) (by decide)
  · refine ⟨front, blank, rfl, Text.isWordCharacter_of_isBlank (ends blank ?_)⟩
    rw [← List.cons_append, List.getLast?_concat]
    rfl

theorem take?_of_bare {text : Text} (bare : ∀ rest, text ≠ .char '{' :: rest) :
    take? text = (Text.takeName? text).map fun (name, after) => (.plain name, after) := by
  unfold take?
  split
  · next rest => exact absurd rfl (bare rest)
  · rfl

theorem take?_append {text : Text} (enclosed : Enclosed (.char '$' :: text))
    (ends : EndsBlank (.char '$' :: text)) (back : Text) :
    take? (text ++ back) =
      (take? text).map fun (reference, after) => (reference, after ++ back) := by
  by_cases braced : ∃ rest, text = .char '{' :: rest
  · obtain ⟨rest, rfl⟩ := braced
    have closing : .char '}' ∈ rest := enclosed rest (List.suffix_refl _)
    cases cut : Text.cutAt '}' rest with
    | none => exact absurd closing (Text.cutAt_eq_none_iff.mp cut)
    | some found =>
        obtain ⟨body, after⟩ := found
        obtain ⟨rfl, absent⟩ := Text.cutAt_eq_some cut
        simp only [List.cons_append, List.append_assoc, take?, Text.cutAt_append absent]
        rw [Option.map_map]
        rfl
  · obtain ⟨front, blank, rfl, outside⟩ := ends.exists_blank
    have bare (more : Text) : take? (front ++ blank :: more) =
        (Text.takeName? (front ++ blank :: more)).map fun (name, after) =>
          (.plain name, after) := by
      apply take?_of_bare
      intro rest same
      cases front with
      | nil =>
          cases same
          exact braced ⟨[], rfl⟩
      | cons c front =>
          cases same
          exact braced ⟨_, rfl⟩
    rw [List.append_assoc, List.singleton_append, bare back, bare [],
      Text.takeName?_append_mark outside, Text.takeName?_append_mark outside]
    simp [Option.map_map, Function.comp_def]

theorem suffix_of_valueAt? {text value after : Text} {store next : Store}
    (found : valueAt? text store = some (value, after, next)) : after <:+ text := by
  obtain ⟨reference, taken, -⟩ := exists_of_valueAt? found
  exact suffix_of_take? taken

/-- What a reference has for a value does not depend on what stands behind a text that it ends in.
-/
theorem valueAt?_append {text back : Text}
    (seam : take? (text ++ back) =
      (take? text).map fun (reference, after) => (reference, after ++ back)) (store : Store) :
    valueAt? (text ++ back) store =
      (valueAt? text store).map fun (value, after, next) => (value, after ++ back, next) := by
  rw [valueAt?, valueAt?, seam]
  cases take? text with
  | none => rfl
  | some found => simp [Option.map_map, Function.comp_def]

theorem askedAt_append {text back : Text}
    (seam : take? (text ++ back) =
      (take? text).map fun (reference, after) => (reference, after ++ back)) (store : Store) :
    askedAt (text ++ back) store = askedAt text store := by
  rw [askedAt, askedAt, seam, Option.map_map]
  rfl

theorem prepend_prepend (lead more : Text) (replaced : Text × Store) :
    prepend lead (prepend more replaced) = prepend (lead ++ more) replaced := by
  simp [prepend]

/-- Behind a text that holds all references which begin in it, and whose last run of backslashes
stays in front of what follows, references are replaced as if the text were not there. -/
theorem replaceAfter_append_of_seam (run : Nat) {front back : Text} (store : Store)
    (seam : ∀ rest, .char '$' :: rest <:+ front → take? (rest ++ back) =
      (take? rest).map fun (reference, after) => (reference, after ++ back))
    (edge : ∀ n next, backslashes n <:+ backslashes run ++ front →
      replaceAfter n back next = prepend (backslashes n) (replaceAfter 0 back next)) :
    replaceAfter run (front ++ back) store =
      prepend (replaceAfter run front store).1
        (replaceAfter 0 back (replaceAfter run front store).2) := by
  fun_induction replaceAfter run front store with
  | case1 run store =>
      rw [List.append_nil] at edge
      exact edge run store (List.suffix_refl _)
  | case2 run store rest ih =>
      rw [List.cons_append, replaceAfter_backslash]
      apply ih
      · exact fun inside opened => seam inside (opened.trans (List.suffix_cons _ rest))
      · rwa [backslashes_succ_append]
  | case3 run store c rest plain dollar value after next found ih =>
      obtain ⟨rfl, unescaped⟩ : c = '$' ∧ escapes run = false := by simpa using dollar
      have whole : valueAt? (rest ++ back) store = some (value, after ++ back, next) := by
        rw [valueAt?_append (seam rest (List.suffix_refl _)), found]
        rfl
      have behind : after <:+ .char '$' :: rest :=
        (suffix_of_valueAt? found).trans (List.suffix_cons _ rest)
      rw [List.cons_append, replaceAfter_dollar unescaped whole, ih, prepend_prepend]
      · rfl
      · exact fun inside opened => seam inside (opened.trans behind)
      · exact fun n next ends =>
          edge n next (ends.trans (behind.trans (List.suffix_append _ _)))
  | case4 run store c rest plain dollar absent ih =>
      obtain ⟨rfl, unescaped⟩ : c = '$' ∧ escapes run = false := by simpa using dollar
      have whole : valueAt? (rest ++ back) store = none := by
        rw [valueAt?_append (seam rest (List.suffix_refl _)), absent]
        rfl
      have behind : rest <:+ .char '$' :: rest := List.suffix_cons _ rest
      rw [List.cons_append, replaceAfter_cons plain fun _ => Or.inr whole, ih, prepend_prepend]
      · rfl
      · exact fun inside opened => seam inside (opened.trans behind)
      · exact fun n next ends =>
          edge n next (ends.trans (behind.trans (List.suffix_append _ _)))
  | case5 run store c rest plain other ih =>
      have behind : rest <:+ c :: rest := List.suffix_cons c rest
      rw [List.cons_append, replaceAfter_cons plain fun isDollar => Or.inl ?_]
      · rw [ih, prepend_prepend]
        · rfl
        · exact fun inside opened => seam inside (opened.trans behind)
        · exact fun n next ends =>
            edge n next (ends.trans (behind.trans (List.suffix_append _ _)))
      · simpa [isDollar] using other

/-- The names that are looked up behind such a text are those that would be looked up without it,
under the variables that it leaves. -/
theorem lookupsAfter_append_of_seam (run : Nat) {front back : Text} (store : Store)
    (seam : ∀ rest, .char '$' :: rest <:+ front → take? (rest ++ back) =
      (take? rest).map fun (reference, after) => (reference, after ++ back))
    (edge : ∀ n next, backslashes n <:+ backslashes run ++ front →
      lookupsAfter n back next = lookupsAfter 0 back next) :
    lookupsAfter run (front ++ back) store =
      lookupsAfter run front store ++ lookupsAfter 0 back (replaceAfter run front store).2 := by
  fun_induction replaceAfter run front store with
  | case1 run store =>
      rw [List.append_nil] at edge
      rw [lookupsAfter_nil]
      exact edge run store (List.suffix_refl _)
  | case2 run store rest ih =>
      rw [List.cons_append, lookupsAfter_backslash, lookupsAfter_backslash]
      apply ih
      · exact fun inside opened => seam inside (opened.trans (List.suffix_cons _ rest))
      · rwa [backslashes_succ_append]
  | case3 run store c rest plain dollar value after next found ih =>
      obtain ⟨rfl, unescaped⟩ : c = '$' ∧ escapes run = false := by simpa using dollar
      have here := seam rest (List.suffix_refl _)
      have whole : valueAt? (rest ++ back) store = some (value, after ++ back, next) := by
        rw [valueAt?_append here, found]
        rfl
      have behind : after <:+ .char '$' :: rest :=
        (suffix_of_valueAt? found).trans (List.suffix_cons _ rest)
      rw [List.cons_append, lookupsAfter_dollar unescaped whole, askedAt_append here, ih,
        lookupsAfter_dollar unescaped found, List.append_assoc]
      · rfl
      · exact fun inside opened => seam inside (opened.trans behind)
      · exact fun n next ends =>
          edge n next (ends.trans (behind.trans (List.suffix_append _ _)))
  | case4 run store c rest plain dollar absent ih =>
      obtain ⟨rfl, unescaped⟩ : c = '$' ∧ escapes run = false := by simpa using dollar
      have here := seam rest (List.suffix_refl _)
      have whole : valueAt? (rest ++ back) store = none := by
        rw [valueAt?_append here, absent]
        rfl
      have behind : rest <:+ .char '$' :: rest := List.suffix_cons _ rest
      rw [List.cons_append, lookupsAfter_dollar_of_none unescaped whole, askedAt_append here, ih,
        lookupsAfter_dollar_of_none unescaped absent, List.append_assoc]
      · rfl
      · exact fun inside opened => seam inside (opened.trans behind)
      · exact fun n next ends =>
          edge n next (ends.trans (behind.trans (List.suffix_append _ _)))
  | case5 run store c rest plain other ih =>
      have behind : rest <:+ c :: rest := List.suffix_cons c rest
      have idle (text : Text) : c = '$' → escapes run = true ∨ take? text = none :=
        fun isDollar => Or.inl (by simpa [isDollar] using other)
      rw [List.cons_append, lookupsAfter_cons plain (idle _), lookupsAfter_cons plain (idle _), ih]
      · rfl
      · exact fun inside opened => seam inside (opened.trans behind)
      · exact fun n next ends =>
          edge n next (ends.trans (behind.trans (List.suffix_append _ _)))

theorem replaceAfter_append (run : Nat) {front : Text} (store : Store) (enclosed : Enclosed front)
    (ends : EndsBlank (backslashes run ++ front)) (back : Text) :
    replaceAfter run (front ++ back) store =
      prepend (replaceAfter run front store).1
        (replaceAfter 0 back (replaceAfter run front store).2) := by
  apply replaceAfter_append_of_seam run store
  · intro rest opened
    have inside : .char '$' :: rest <:+ backslashes run ++ front :=
        opened.trans (List.suffix_append _ _)
    exact take?_append (enclosed.of_suffix opened) (ends.of_suffix inside) back
  · intro n next behind
    rw [(ends.of_suffix behind).run_eq_zero]
    rfl

theorem lookups_append {first : Text} (ends : EndsBlank first) (enclosed : Enclosed first)
    (second : Text) (store : Store) :
    lookups (first ++ second) store =
      lookups first store ++ lookups second (replace first store).2 := by
  refine lookupsAfter_append_of_seam 0 store (fun rest opened => ?_) fun n next behind => ?_
  · exact take?_append (enclosed.of_suffix opened) (ends.of_suffix opened) second
  · rw [(ends.of_suffix behind).run_eq_zero]

/-- Replacing the references of two texts put together replaces those of each text alone, one after
the other, if no reference of the first could go on in the second. The first name that cannot be
looked up ends it in both cases alike. -/
theorem replace_append {first : Text} (ends : EndsBlank first) (enclosed : Enclosed first)
    (second : Text) (store : Store) :
    let front := replace first store
    let behind := replace second front.2
    replace (first ++ second) store = (front.1 ++ behind.1, behind.2) ∧
      substitute (first ++ second) store =
        (substitute first store).bind fun start =>
          (substitute second start.2).map fun rest => (start.1 ++ rest.1, rest.2) := by
  intro front behind
  have replaced : replace (first ++ second) store = (front.1 ++ behind.1, behind.2) :=
    replaceAfter_append 0 store enclosed ends second
  refine ⟨replaced, ?_⟩
  unfold substitute
  rw [lookups_append ends enclosed, List.find?_append, replaced]
  cases (lookups first store).find? fun asked => asked.2.refuses asked.1 with
  | some asked => rfl
  | none =>
      rw [Option.none_or]
      dsimp only [Except.bind]
      cases (lookups second front.2).find? fun asked => asked.2.refuses asked.1 <;> rfl

/-- The first text assigns a default and holds a malformed reference, a name without a value and an
escaped reference; the second uses the default and holds a reference that nothing closes. -/
theorem replace_append_behind_malformed :
    let first : Text :=
      ['$', '{', 'a', ':', '=', '1', '}', '$', '{', '2', ':', '-', 'x', '}', '$', 'u', ' ', '\\',
        '$', '{', 'a', '}', ' ']
    let second : Text := ['$', 'a', '}', '$', '{', 'a']
    let store : Store := ⟨Bindings.empty, Bindings.empty⟩
    let replaced : Text :=
      ['1', '$', '{', '2', ':', '-', 'x', '}', '$', 'u', ' ', '\\', '$', '{', 'a', '}', ' ',
        '1', '}', '$', '{', 'a']
    EndsBlank first ∧ Enclosed first ∧
      replace (first ++ second) store = (replaced, store.assign ['a'] ['1']) ∧
      substitute (first ++ second) store = .ok (replaced, store.assign ['a'] ['1']) := by
  intro first second store replaced
  have ends : EndsBlank first := by
    intro c last
    cases last
    decide
  have enclosed : Enclosed first := by decide +kernel
  obtain ⟨whole, granted⟩ := replace_append ends enclosed second store
  exact ⟨ends, enclosed, whole.trans (by decide +kernel), granted.trans (by decide +kernel)⟩

end LineShell.Reference
