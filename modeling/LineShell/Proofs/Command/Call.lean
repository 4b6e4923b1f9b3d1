import LineShell.Command.Dispatch
import LineShell.Proofs.Text.Name
import LineShell.Proofs.Text.Words

namespace LineShell

theorem Builtin.ofName?_eq_none_iff {key : Text} :
    Builtin.ofName? key = none ↔ key ∉ Builtin.all.map Builtin.name := by
  rw [Builtin.ofName?, List.find?_eq_none]
  simp [eq_comm]

theorem Builtin.ofName?_name (builtin : Builtin) : Builtin.ofName? builtin.name = some builtin := by
  cases builtin <;> decide

theorem Builtin.eq_of_ofName? {key : Text} {builtin : Builtin}
    (found : Builtin.ofName? key = some builtin) : key = builtin.name := by
  have same := List.find?_some found
  exact (of_decide_eq_true same).symm

theorem Registry.lookup_eq_none_iff {registry : Registry} {key : Text} :
    registry.lookup key = none ↔ key ∉ registry.map Prod.fst := by
  rw [List.lookup_eq_none_iff]
  constructor
  · intro different member
    obtain ⟨entry, inside, rfl⟩ := List.mem_map.mp member
    simpa using different entry inside
  · intro absent entry inside
    rw [bne_iff_ne]
    rintro rfl
    exact absent (List.mem_map_of_mem inside)

/-- Holds of a line whose first word, in lower case, is the name of no builtin and no utility. -/
def CallsNone (registry : Registry) (line : Text) : Prop :=
  ∃ word arguments, Text.words line = word :: arguments ∧
    Text.lower word ∉ Builtin.all.map Builtin.name ∧ Text.lower word ∉ registry.map Prod.fst

/-- Holds of the assignments: lines `name=value` that call nothing. -/
structure Assigns (registry : Registry) (line name value : Text) : Prop where
  spelled : line = name ++ .char '=' :: value
  named : Text.isName name = true
  visible : ∀ c ∈ value.head?, Text.isBlank c = false
  uncalled : CallsNone registry line

/-- Holds of a call of `symbol` with the name of a symbol, in whatever case, and a character. -/
def SetsSymbol (line : Text) (name : SymbolName) (c : CodePoint) : Prop :=
  ∃ command spelling, Text.words line = [command, spelling, [c]] ∧
    Text.lower command = Builtin.symbol.name ∧ Text.upper spelling = name.shownIn

theorem SetsSymbol.calls {line : Text} {name : SymbolName} {c : CodePoint}
    (sets : SetsSymbol line name c) (registry : Registry) : ¬CallsNone registry line := by
  rintro ⟨word, arguments, listed, noBuiltin, -⟩
  obtain ⟨command, spelling, listed', called, -⟩ := sets
  rw [listed'] at listed
  obtain ⟨rfl, -⟩ := List.cons.inj listed
  rw [called] at noBuiltin
  exact noBuiltin (by decide)

theorem SymbolName.ofVariable?_shownIn (name : SymbolName) :
    SymbolName.ofVariable? name.shownIn = some name := by
  cases name <;> decide

theorem SymbolName.eq_of_ofVariable? {variableName : Text} {name : SymbolName}
    (found : SymbolName.ofVariable? variableName = some name) : variableName = name.shownIn := by
  have same := List.find?_some found
  exact (of_decide_eq_true same).symm

variable {registry : Registry} {state : State} {line : Text}

theorem CommandLine.exists_read?_of_words {word : Text} {arguments : List Text}
    (listed : Text.words line = word :: arguments) :
    ∃ cut, CommandLine.read? line = some cut ∧ cut.name = word ∧ cut.words = arguments := by
  have occupied : Text.allBlank line = false := by
    rw [Bool.eq_false_iff]
    intro blank
    have none := Text.words_append_blanks blank []
    rw [List.nil_append, listed] at none
    cases none
  obtain ⟨cut, read⟩ := CommandLine.exists_read? occupied
  have same := CommandLine.words_of_read? read
  rw [listed] at same
  obtain ⟨rfl, rfl⟩ := List.cons.inj same
  exact ⟨cut, read, rfl, rfl⟩

theorem effectOf_of_assigns {name value : Text} (assigns : Assigns registry line name value) :
    effectOf registry state line = ⟨.returned (.success []), .assign name value⟩ := by
  obtain ⟨word, arguments, listed, noBuiltin, noUtility⟩ := assigns.uncalled
  obtain ⟨cut, read, rfl, -⟩ := CommandLine.exists_read?_of_words listed
  have assignment : CommandLine.assignment? line = some (name, value) :=
    CommandLine.assignment?_eq_some_iff.mpr ⟨assigns.spelled, assigns.named, assigns.visible⟩
  rw [effectOf, read]
  dsimp only
  rw [Recognized.of, Builtin.ofName?_eq_none_iff.mpr noBuiltin]
  dsimp only
  rw [Registry.lookup_eq_none_iff.mpr noUtility]
  dsimp only
  rw [assignment]
  rfl

theorem effectOf_of_setsSymbol {name : SymbolName} {c : CodePoint} (sets : SetsSymbol line name c) :
    effectOf registry state line = Builtin.changeSymbol state.store name [c] := by
  obtain ⟨command, spelling, listed, called, named⟩ := sets
  obtain ⟨cut, read, rfl, arguments⟩ := CommandLine.exists_read?_of_words listed
  rw [effectOf, read]
  dsimp only
  rw [Recognized.of, called, Builtin.ofName?_name]
  change Builtin.runSymbol state cut = _
  rw [Builtin.runSymbol, arguments]
  dsimp only
  rw [named, SymbolName.ofVariable?_shownIn]

theorem Builtin.change_showSymbols (store : Store) (names : List SymbolName) :
    (Builtin.showSymbols store names).change = .nothing := by
  unfold Builtin.showSymbols
  split <;> rfl

theorem Builtin.change_effect (builtin : Builtin) (registry : Registry) (state : State)
    (cut : CommandLine) :
    (builtin.effect registry state cut).change = .nothing ∨
      builtin = .symbol ∧ ∃ spelling name c, cut.words = [spelling, [c]] ∧
        Text.upper spelling = SymbolName.shownIn name := by
  cases builtin with
  | exit => exact Or.inl rfl
  | help => exact Or.inl rfl
  | history => exact Or.inl rfl
  | symbol =>
      change (runSymbol state cut).change = _ ∨ _
      unfold runSymbol
      split
      · exact Or.inl (change_showSymbols _ _)
      · next spelling arguments listed =>
          split
          · exact Or.inl rfl
          · next name found =>
              split
              · exact Or.inl (change_showSymbols _ _)
              · next c =>
                  exact Or.inr ⟨rfl, spelling, name, c, listed, SymbolName.eq_of_ofVariable? found⟩
              · exact Or.inl rfl

theorem change_effectOf (registry : Registry) (state : State) (line : Text) :
    (effectOf registry state line).change = .nothing ∨
      (∃ name value, Assigns registry line name value) ∨ ∃ name c, SetsSymbol line name c := by
  unfold effectOf
  split
  · exact Or.inl rfl
  · next cut read =>
      have listed := CommandLine.words_of_read? read
      unfold Recognized.of
      dsimp only
      split
      · next builtin found =>
          rcases builtin.change_effect registry state cut with unchanged | changed
          · exact Or.inl unchanged
          · obtain ⟨rfl, spelling, name, c, arguments, named⟩ := changed
            rw [arguments] at listed
            exact Or.inr (Or.inr ⟨name, c, cut.name, spelling, listed,
              Builtin.eq_of_ofName? found, named⟩)
      · next noBuiltin =>
          split
          · exact Or.inl rfl
          · next noUtility =>
              split
              · next name value found =>
                  obtain ⟨spelled, named, visible⟩ := CommandLine.assignment?_eq_some_iff.mp found
                  have uncalled : CallsNone registry line :=
                    ⟨cut.name, cut.words, listed, Builtin.ofName?_eq_none_iff.mp noBuiltin,
                      Registry.lookup_eq_none_iff.mp noUtility⟩
                  exact Or.inr (Or.inl ⟨name, value, spelled, named, visible, uncalled⟩)
              · exact Or.inl rfl

end LineShell
