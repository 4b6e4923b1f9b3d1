import Mathlib.Data.Set.Insert
import LineShell.Proofs.Defaults

/-!
Values and the text around them. Which names have values decides how a text is cut into references,
what their values are does not: the text and the names with values determine a template, and the
replaced text is the template with each name's value put in. A `:=` reference adds its name to those
with a value, so the names are carried along from left to right like the variables themselves.
-/

namespace LineShell

namespace Store

def Names (store : Store) (named : Text → Bool) : Prop :=
  ∀ name, (store.resolve name).isSome = named name

theorem Names.assign {store : Store} {named : Text → Bool} (names : store.Names named)
    (name value : Text) :
    (store.assign name value).Names fun other => other = name || named other := by
  intro other
  change _ = (decide (other = name) || named other)
  rw [resolve_assign]
  by_cases same : other = name
  · rw [if_pos same, decide_eq_true same]
    rfl
  · rw [if_neg same, decide_eq_false same, Bool.false_or]
    exact names other

theorem Names.exists_value {store : Store} {named : Text → Bool} (names : store.Names named)
    {name : Text} (known : named name = true) : ∃ value, store.resolve name = some value := by
  apply Option.isSome_iff_exists.mp
  rw [names name, known]

theorem Names.no_value {store : Store} {named : Text → Bool} (names : store.Names named)
    {name : Text} (unknown : ¬named name = true) : store.resolve name = none := by
  rw [← Option.not_isSome_iff_eq_none, names name]
  exact unknown

end Store

namespace Reference

/-- A piece of a template: text as it is, or the place of a value. -/
inductive Slot
  | literal (text : Text)
  | valueOf (name : Text)
  deriving DecidableEq, Repr

def Slot.fill? (store : Store) : Slot → Option Text
  | .literal text => some text
  | .valueOf name => store.resolve name

def fill? (store : Store) (template : List Slot) : Option Text :=
  (template.mapM (Slot.fill? store)).map List.flatten

theorem fill?_nil (store : Store) : fill? store [] = some [] :=
  rfl

theorem fill?_cons {store : Store} {slot : Slot} {template : List Slot} {text others : Text}
    (first : slot.fill? store = some text) (rest : fill? store template = some others) :
    fill? store (slot :: template) = some (text ++ others) := by
  obtain ⟨texts, found, rfl⟩ := Option.map_eq_some_iff.mp rest
  rw [fill?, List.mapM_cons, first, found]
  rfl

theorem fill?_literal_cons {store : Store} {template : List Slot} {others : Text} (text : Text)
    (rest : fill? store template = some others) :
    fill? store (.literal text :: template) = some (text ++ others) :=
  fill?_cons rfl rest

/-- What stands for a reference while just the given names have a value, and the names that have one
behind it; none if it stays as it is. -/
def slot? (named : Text → Bool) : Reference → Option (Slot × (Text → Bool))
  | .plain name => if named name then some (.valueOf name, named) else none
  | .withDefault name default keeps =>
      if named name then some (.valueOf name, named)
      else if keeps then some (.valueOf name, fun other => other = name || named other)
      else some (.literal default, named)

def slotAt? (named : Text → Bool) (text : Text) : Option (Slot × Text × (Text → Bool)) :=
  match take? text with
  | none => none
  | some (reference, after) => (reference.slot? named).map fun (slot, next) => (slot, after, next)

theorem length_of_slotAt? {named next : Text → Bool} {text after : Text} {slot : Slot}
    (found : slotAt? named text = some (slot, after, next)) : after.length < text.length := by
  rw [slotAt?] at found
  split at found
  · cases found
  · next reference behind taken =>
      obtain ⟨_, _, same⟩ := Option.map_eq_some_iff.mp found
      cases same
      exact length_of_take? taken

/-- The template of a text that `run` backslashes precede while just the given names have a value.
-/
def templateAfter (named : Text → Bool) (run : Nat) (text : Text) : List Slot :=
  match text with
  | [] => [.literal (Escape.backslashes run)]
  | c :: rest =>
      if c = '\\' then templateAfter named (run + 1) rest
      else if c = '$' && !Escape.escapes run then
        match _found : slotAt? named rest with
        | some (slot, after, next) =>
            .literal (Escape.backslashes (run / 2)) :: slot :: templateAfter next 0 after
        | none => .literal (Escape.backslashes run ++ [c]) :: templateAfter named 0 rest
      else .literal (Escape.backslashes run ++ [c]) :: templateAfter named 0 rest
termination_by text.length
decreasing_by
  all_goals simp only [List.length_cons]
  all_goals first
    | omega
    | (have shorter := length_of_slotAt? _found; omega)

variable {store : Store} {named : Text → Bool}

theorem follow?_of_slot? (names : store.Names named) {reference : Reference} {slot : Slot}
    {next : Text → Bool} (found : reference.slot? named = some (slot, next)) :
    ∃ value reached, reference.follow? store = some (value, reached) ∧ reached.Names next ∧
      slot.fill? reached = some value := by
  cases reference with
  | plain name =>
      rw [slot?] at found
      split at found
      · next known =>
          cases found
          obtain ⟨value, resolved⟩ := names.exists_value known
          refine ⟨value, store, ?_, names, resolved⟩
          rw [follow?, resolved]
          rfl
      · cases found
  | withDefault name default keeps =>
      rw [slot?] at found
      split at found
      · next known =>
          cases found
          obtain ⟨value, resolved⟩ := names.exists_value known
          refine ⟨value, store, ?_, names, resolved⟩
          rw [follow?, resolved]
      · next unknown =>
          have unresolved := names.no_value unknown
          cases keeps with
          | true =>
              cases found
              refine ⟨default, store.assign name default, ?_, names.assign name default, ?_⟩
              · rw [follow?, unresolved]
                rfl
              · rw [Slot.fill?, Store.resolve_assign, if_pos rfl]
          | false =>
              cases found
              refine ⟨default, store, ?_, names, rfl⟩
              rw [follow?, unresolved]
              rfl

theorem follow?_of_no_slot (names : store.Names named) {reference : Reference}
    (absent : reference.slot? named = none) : reference.follow? store = none := by
  cases reference with
  | plain name =>
      rw [slot?] at absent
      split at absent
      · cases absent
      · next unknown =>
          rw [follow?, names.no_value unknown]
          rfl
  | withDefault name default keeps =>
      rw [slot?] at absent
      split at absent
      · cases absent
      · split at absent <;> cases absent

theorem valueAt?_of_slotAt? (names : store.Names named) {text after : Text} {slot : Slot}
    {next : Text → Bool} (found : slotAt? named text = some (slot, after, next)) :
    ∃ value reached, valueAt? text store = some (value, after, reached) ∧ reached.Names next ∧
      slot.fill? reached = some value := by
  rw [slotAt?] at found
  split at found
  · cases found
  · next reference behind taken =>
      obtain ⟨⟨_, _⟩, asSlot, same⟩ := Option.map_eq_some_iff.mp found
      cases same
      obtain ⟨value, reached, followed, namesBehind, filled⟩ := follow?_of_slot? names asSlot
      refine ⟨value, reached, ?_, namesBehind, filled⟩
      rw [valueAt?, taken]
      dsimp only
      rw [followed]
      rfl

theorem valueAt?_of_no_slot (names : store.Names named) {text : Text}
    (absent : slotAt? named text = none) : valueAt? text store = none := by
  rw [slotAt?] at absent
  rw [valueAt?]
  cases taken : take? text with
  | none => rfl
  | some found =>
      rw [taken] at absent
      obtain ⟨reference, behind⟩ := found
      dsimp only at absent ⊢
      rw [follow?_of_no_slot names (Option.map_eq_none_iff.mp absent)]
      rfl

theorem Slot.fill?_replaceAfter {slot : Slot} {value : Text}
    (filled : slot.fill? store = some value)
    (run : Nat) (text : Text) : slot.fill? (replaceAfter run text store).2 = some value := by
  cases slot with
  | literal text => exact filled
  | valueOf name =>
      rw [Slot.fill?] at filled ⊢
      rw [store_replaceAfter, Store.resolve_assignDefaults, filled]
      rfl

theorem fill?_templateAfter (names : store.Names named) (run : Nat) (text : Text) :
    fill? (replaceAfter run text store).2 (templateAfter named run text) =
      some (replaceAfter run text store).1 := by
  fun_induction templateAfter named run text generalizing store with
  | case1 named run =>
      rw [replaceAfter, fill?_literal_cons _ (fill?_nil store), List.append_nil]
  | case2 named run rest ih =>
      rw [replaceAfter_backslash]
      exact ih names
  | case3 named run c rest plain dollar slot after next found ih =>
      obtain ⟨rfl, unescaped⟩ : c = '$' ∧ Escape.escapes run = false := by simpa using dollar
      obtain ⟨value, reached, replaced, namesBehind, filled⟩ := valueAt?_of_slotAt? names found
      rw [replaceAfter_dollar unescaped replaced]
      have here := fill?_cons (Slot.fill?_replaceAfter filled 0 after) (ih namesBehind)
      have whole := fill?_literal_cons (Escape.backslashes (run / 2)) here
      rw [← List.append_assoc] at whole
      exact whole
  | case4 named run c rest plain dollar absent ih =>
      rw [replaceAfter_cons plain fun _ => Or.inr (valueAt?_of_no_slot names absent)]
      exact fill?_literal_cons _ (ih names)
  | case5 named run c rest plain other ih =>
      rw [replaceAfter_cons plain fun isDollar => Or.inl ?_]
      · exact fill?_literal_cons _ (ih names)
      · simpa [isDollar] using other

/-- A text and the set of names with values determine one template, and whatever these values are,
the replaced text is that template with the value that each of its names has afterwards. Of a text
without surrogates no reference is refused. -/
theorem replace_fills_template (text : Text) (named : Set Text) :
    (∃ template : List Slot, ∀ store : Store,
      (∀ name, (store.resolve name).isSome = true ↔ name ∈ named) →
        fill? (replace text store).2 template = some (replace text store).1) ∧
      (text.Scalar → ∀ store, substitute text store = .ok (replace text store)) := by
  classical
  refine ⟨⟨templateAfter (fun name => decide (name ∈ named)) 0 text, fun store exactly => ?_⟩,
    substitute_of_scalar⟩
  have names : store.Names fun name => decide (name ∈ named) := by
    intro name
    rw [Bool.eq_iff_iff, decide_eq_true_iff]
    exact exactly name
  exact fill?_templateAfter names 0 text

/-- Two values of one name, the second of which looks like a reference: what is cut from the text,
the default that is stored included, is the same. -/
theorem replace_fills_template_for_two_values :
    let text : Text :=
      ['$', '{', 'a', '$', 'b', '}', '$', '{', 'c', ':', '=', '1', '}', '$', 'c']
    let store (value : Text) : Store := Store.assign ⟨Bindings.empty, Bindings.empty⟩ ['b'] value
    let filled (value : Text) : Text :=
      [.char '$', .char '{', .char 'a'] ++ value ++ [.char '}', .char '1', .char '1']
    (∀ value name, ((store value).resolve name).isSome = true ↔ name ∈ ({[.char 'b']} : Set Text)) ∧
      (∃ template : List Slot,
        fill? (replace text (store ['v'])).2 template = some (filled ['v']) ∧
          fill? (replace text (store ['}', '$', 'c'])).2 template =
            some (filled ['}', '$', 'c'])) ∧
      text.Scalar ∧ substitute text (store ['v']) = .ok (replace text (store ['v'])) := by
  intro text store filled
  have exactly : ∀ value name,
      ((store value).resolve name).isSome = true ↔ name ∈ ({[.char 'b']} : Set Text) := by
    intro value name
    have empty : Store.resolve ⟨Bindings.empty, Bindings.empty⟩ name = none := rfl
    rw [Store.resolve_assign, empty, Option.isSome_ite, Set.mem_singleton_iff]
  have scalar : text.Scalar := fun offset => by simp [text]
  obtain ⟨⟨template, fills⟩, granted⟩ := replace_fills_template text {[.char 'b']}
  have plain : (replace text (store ['v'])).1 = filled ['v'] := by decide +kernel
  have reference : (replace text (store ['}', '$', 'c'])).1 = filled ['}', '$', 'c'] := by
    decide +kernel
  refine ⟨exactly, ⟨template, ?_, ?_⟩, scalar, granted scalar _⟩
  · rw [fills _ (exactly _), plain]
  · rw [fills _ (exactly _), reference]

end Reference

end LineShell
