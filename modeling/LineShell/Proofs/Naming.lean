import LineShell.Proofs.Command.Effect
import LineShell.Proofs.Reference.Naming

namespace LineShell

/-- A line `name=value` that calls nothing assigns to the name exactly if it is a plain name. -/
theorem change_effectOf_eq_assign_iff {registry : Registry} (state : State) {name value : Text}
    (visible : ∀ c ∈ value.head?, Text.isBlank c = false)
    (uncalled : CallsNone registry (name ++ .char '=' :: value)) :
    (effectOf registry state (name ++ .char '=' :: value)).change = .assign name value ↔
      Text.isName name = true := by
  constructor
  · intro changed
    rcases change_effectOf registry state (name ++ .char '=' :: value) with unchanged |
      ⟨other, written, assigns⟩ | ⟨symbol, c, sets⟩
    · rw [unchanged] at changed
      cases changed
    · rw [effectOf_of_assigns assigns] at changed
      cases changed
      exact assigns.named
    · exact absurd uncalled (sets.calls registry)
  · intro named
    rw [effectOf_of_assigns ⟨rfl, named, visible, uncalled⟩]

/-- Assignments and references without braces always agree on what is a name. References with a
default agree with them on exactly the names that are both plain names and identifiers or neither,
so on all names without a disputed character. -/
theorem naming_agrees_iff (registry : Registry) (state : State) {name value : Text}
    (solid : Text.Solid value) (noBrace : .char '}' ∉ value)
    (uncalled : CallsNone registry (name ++ .char '=' :: value)) :
    let assigned :=
      (effectOf registry state (name ++ .char '=' :: value)).change = .assign name value
    let bare := Reference.StandsFor (.char '$' :: name) name
    let braced :=
      Reference.StandsFor
        (.char '$' :: .char '{' :: (name ++ .char ':' :: .char '-' :: value ++ [.char '}'])) name
    (assigned ↔ bare) ∧ (bare ↔ Text.isName name = true) ∧
      (braced ↔ Text.isIdentifier name = true) ∧
      ((bare ↔ braced) ↔ Text.isName name = Text.isIdentifier name) ∧
      ((∀ c ∈ name, Text.isDisputed c = false) → (bare ↔ braced)) := by
  intro assigned bare braced
  have byAssignment : assigned ↔ Text.isName name = true :=
    change_effectOf_eq_assign_iff state (fun c first => solid c (List.mem_of_head? first)) uncalled
  have byDollar : bare ↔ Text.isName name = true := Reference.bare_standsFor_iff name
  have byBraces : braced ↔ Text.isIdentifier name = true :=
    Reference.braced_standsFor_iff name noBrace
  have agree : (bare ↔ braced) ↔ Text.isName name = Text.isIdentifier name := by
    rw [byDollar, byBraces]
    exact Bool.eq_iff_iff.symm
  exact ⟨byAssignment.trans byDollar.symm, byDollar, byBraces, agree,
    fun settled => agree.mpr (Text.isName_eq_isIdentifier settled)⟩

/-- A letter with a combining accent is an identifier but no plain name. -/
theorem naming_agrees_iff_at_combining_accent :
    let name : Text := ['e', '\u0301']
    let value : Text := ['x']
    let state := State.start ⟨Bindings.empty, Bindings.empty⟩ [] ['/'] 0 Symbols.standard
    Text.Solid value ∧ .char '}' ∉ value ∧
      CallsNone Registry.standard (name ++ .char '=' :: value) ∧
      (effectOf Registry.standard state (name ++ .char '=' :: value)).change ≠ .assign name value ∧
      Reference.StandsFor
        (.char '$' :: .char '{' :: (name ++ .char ':' :: .char '-' :: value ++ [.char '}']))
        name := by
  intro name value state
  have solid : Text.Solid value := by decide
  have noBrace : .char '}' ∉ value := by decide
  have uncalled : CallsNone Registry.standard (name ++ .char '=' :: value) :=
    ⟨name ++ .char '=' :: value, [], by decide +kernel, by decide +kernel, by decide +kernel⟩
  obtain ⟨assigns, bare, braced, -, -⟩ :=
    naming_agrees_iff Registry.standard state solid noBrace uncalled
  refine ⟨solid, noBrace, uncalled, fun changed => ?_, braced.mpr (by decide +kernel)⟩
  exact absurd (bare.mp (assigns.mp changed)) (by decide +kernel)

/-- A superscript digit is a plain name but no identifier: it is assigned to and referred to, but
a reference with a default stays as it is written. -/
theorem naming_parts_at_superscript :
    ¬∀ (registry : Registry) (state : State) (name value : Text), value ≠ [] → Text.Solid value →
      .char '}' ∉ value → CallsNone registry (name ++ .char '=' :: value) →
      let assigned :=
        (effectOf registry state (name ++ .char '=' :: value)).change = .assign name value
      let bare := Reference.StandsFor (.char '$' :: name) name
      let braced :=
        Reference.StandsFor
          (.char '$' :: .char '{' :: (name ++ .char ':' :: .char '-' :: value ++ [.char '}'])) name
      (assigned ↔ bare) ∧ (bare ↔ braced) := by
  intro claimed
  let state := State.start ⟨Bindings.empty, Bindings.empty⟩ [] ['/'] 0 Symbols.standard
  have uncalled : CallsNone Registry.standard ['\u00b2', '=', 'x'] :=
    ⟨['\u00b2', '=', 'x'], [], by decide +kernel, by decide +kernel, by decide +kernel⟩
  have bare := (Reference.bare_standsFor_iff ['\u00b2']).mpr (by decide +kernel)
  obtain ⟨-, agree⟩ := claimed Registry.standard state ['\u00b2'] ['x'] (by decide) (by decide)
    (by decide) uncalled
  have literal : (Reference.replace ['$', '{', '\u00b2', ':', '-', 'x', '}']
      (Store.holding ['\u00b2'] ['w'])).1 =
      [.char '$', .char '{', .char '\u00b2', .char ':', .char '-', .char 'x', .char '}'] := by
    decide +kernel
  exact absurd (literal.symm.trans (agree.mp bare ['w'])) (by decide)

end LineShell
