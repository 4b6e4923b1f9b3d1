import LineShell.Proofs.Reference.Concatenation

/-!
What references name. A text in which no reference asks for a variable is replaced alike whatever
its value is. So `$name` stands for a variable exactly if the name is a plain one, and
`${name:-default}` exactly if it is an identifier.
-/

namespace LineShell

namespace Store

def holding (name value : Text) : Store :=
  ⟨Bindings.ofList [(name, value)], Bindings.empty⟩

theorem resolve_holding (name value other : Text) :
    (holding name value).resolve other = if other = name then some value else none :=
  resolve_assign ⟨Bindings.empty, Bindings.empty⟩ name value other

def AgreeOff (name : Text) (first second : Store) : Prop :=
  ∀ other, other ≠ name → first.resolve other = second.resolve other

theorem agreeOff_holding (name first second : Text) :
    AgreeOff name (holding name first) (holding name second) := by
  intro other different
  rw [resolve_holding, resolve_holding, if_neg different, if_neg different]

theorem AgreeOff.assign {name : Text} {first second : Store} (agree : AgreeOff name first second)
    (other value : Text) :
    AgreeOff name (first.assign other value) (second.assign other value) := by
  intro asked different
  rw [resolve_assign, resolve_assign, agree asked different]

end Store

namespace Reference

open Escape Store

theorem prefix_of_ofBody? {body : Text} {reference : Reference}
    (read : ofBody? body = some reference) : reference.name <+: body := by
  cases reference with
  | plain name =>
      rw [ofBody?_of_bare (bare_of_ofBody? read)] at read
      cases read
      exact List.prefix_refl body
  | withDefault name default keeps =>
      obtain ⟨-, rfl⟩ := ofBody?_eq_withDefault read
      exact List.prefix_append name _

theorem eq_of_take? {text after : Text} {reference : Reference}
    (taken : take? text = some (reference, after)) (long : text.length ≤ reference.name.length) :
    text = reference.name ∧ Text.isName text = true := by
  rcases take?_cases taken with ⟨body, rfl, -, read⟩ | ⟨name, named, rfl⟩
  · have short := (prefix_of_ofBody? read).length_le
    simp only [List.length_cons, List.length_append] at long
    omega
  · obtain ⟨rebuilt, -⟩ := Text.takeName?_append named
    rw [rebuilt, List.length_append] at long
    have nothing : after = [] := by
      change name.length + after.length ≤ name.length at long
      exact List.eq_nil_of_length_eq_zero (by omega)
    subst nothing
    rw [List.append_nil] at rebuilt
    subst rebuilt
    exact ⟨rfl, Text.isName_of_takeName? named⟩

theorem brace_notMem_of_take? {text after : Text} {reference : Reference}
    (taken : take? text = some (reference, after)) : .char '}' ∉ reference.name := by
  rcases take?_cases taken with ⟨body, -, absent, read⟩ | ⟨name, named, rfl⟩
  · exact fun member => absent ((prefix_of_ofBody? read).mem member)
  · intro member
    have inside := Text.isWordCharacter_of_takeName? named '}' member
    exact absurd inside (by decide +kernel)

def Unnamed (name text : Text) : Prop :=
  ∀ rest reference after, .char '$' :: rest <:+ text → take? rest = some (reference, after) →
    reference.name ≠ name

theorem Unnamed.of_suffix {name text rest : Text} (unnamed : Unnamed name text)
    (behind : rest <:+ text) : Unnamed name rest :=
  fun inside reference after opened => unnamed inside reference after (opened.trans behind)

variable {name text : Text} {first second : Store}

theorem follow?_agree {reference : Reference} (other : reference.name ≠ name)
    (agree : AgreeOff name first second) :
    (reference.follow? first = none ∧ reference.follow? second = none) ∨
      ∃ value next next', reference.follow? first = some (value, next) ∧
        reference.follow? second = some (value, next') ∧ AgreeOff name next next' := by
  cases reference with
  | plain asked =>
      have same := agree asked other
      cases resolved : second.resolve asked with
      | none => exact Or.inl ⟨by rw [follow?, same, resolved]; rfl, by rw [follow?, resolved]; rfl⟩
      | some value =>
          exact Or.inr ⟨value, first, second, by rw [follow?, same, resolved]; rfl,
            by rw [follow?, resolved]; rfl, agree⟩
  | withDefault asked default keeps =>
      have same := agree asked other
      refine Or.inr ?_
      cases resolved : second.resolve asked with
      | some value =>
          exact ⟨value, first, second, by rw [follow?, same, resolved], by rw [follow?, resolved],
            agree⟩
      | none =>
          refine ⟨default, _, _, by rw [follow?, same, resolved], by rw [follow?, resolved], ?_⟩
          cases keeps with
          | true => exact agree.assign asked default
          | false => exact agree

theorem valueAt?_agree (unnamed : Unnamed name (.char '$' :: text))
    (agree : AgreeOff name first second) :
    (valueAt? text first = none ∧ valueAt? text second = none) ∨
      ∃ value after next next', valueAt? text first = some (value, after, next) ∧
        valueAt? text second = some (value, after, next') ∧ AgreeOff name next next' := by
  unfold valueAt?
  cases taken : take? text with
  | none => exact Or.inl ⟨rfl, rfl⟩
  | some found =>
      obtain ⟨reference, after⟩ := found
      have other := unnamed text reference after (List.suffix_refl _) taken
      dsimp only
      rcases follow?_agree other agree with ⟨absent, absent'⟩ |
        ⟨value, next, next', followed, followed', agreeBehind⟩
      · rw [absent, absent']
        exact Or.inl ⟨rfl, rfl⟩
      · rw [followed, followed']
        exact Or.inr ⟨value, after, next, next', rfl, rfl, agreeBehind⟩

theorem replaceAfter_agree (run : Nat) (unnamed : Unnamed name text)
    (agree : AgreeOff name first second) :
    (replaceAfter run text first).1 = (replaceAfter run text second).1 := by
  -- Both runs cut the text alike, and the stores that they reach agree off the name again.
  fun_induction replaceAfter run text first generalizing second with
  | case1 run first => rw [replaceAfter]
  | case2 run first rest ih =>
      rw [replaceAfter_backslash]
      exact ih (unnamed.of_suffix (List.suffix_cons _ rest)) agree
  | case3 run first c rest plain dollar value after next found ih =>
      obtain ⟨rfl, unescaped⟩ : c = '$' ∧ escapes run = false := by simpa using dollar
      have behind : after <:+ .char '$' :: rest :=
        (suffix_of_valueAt? found).trans (List.suffix_cons _ rest)
      rcases valueAt?_agree unnamed agree with ⟨absent, -⟩ |
        ⟨value', after', next', reached, foundFirst, foundSecond, agreeBehind⟩
      · rw [found] at absent
        cases absent
      · rw [found] at foundFirst
        cases foundFirst
        rw [replaceAfter_dollar unescaped foundSecond]
        exact congrArg (backslashes (run / 2) ++ value ++ ·)
          (ih (unnamed.of_suffix behind) agreeBehind)
  | case4 run first c rest plain dollar absent ih =>
      obtain ⟨rfl, unescaped⟩ : c = '$' ∧ escapes run = false := by simpa using dollar
      rcases valueAt?_agree unnamed agree with ⟨-, absentSecond⟩ |
        ⟨value, after, next, reached, found, -, -⟩
      · rw [replaceAfter_cons plain fun _ => Or.inr absentSecond]
        exact congrArg (backslashes run ++ [.char '$'] ++ ·)
          (ih (unnamed.of_suffix (List.suffix_cons _ rest)) agree)
      · rw [absent] at found
        cases found
  | case5 run first c rest plain other ih =>
      rw [replaceAfter_cons plain fun isDollar => Or.inl (by simpa [isDollar] using other)]
      exact congrArg (backslashes run ++ [c] ++ ·)
        (ih (unnamed.of_suffix (List.suffix_cons c rest)) agree)

/-- Holds of a text in whose place the value of a variable is put, whatever it is and with no other
variable bound. -/
def StandsFor (text name : Text) : Prop :=
  ∀ value, (replace text (holding name value)).1 = value

theorem not_standsFor_of_unnamed (unnamed : Unnamed name text) : ¬StandsFor text name := by
  intro stands
  have same := replaceAfter_agree 0 unnamed (agreeOff_holding name [] ['x'])
  change (replace text (holding name [])).1 = (replace text (holding name ['x'])).1 at same
  rw [stands, stands] at same
  cases same

theorem splitDefault?_append {name : Text} (noColon : .char ':' ∉ name) (default : Text) :
    splitDefault? (name ++ .char ':' :: .char '-' :: default) = some (name, false, default) := by
  induction name with
  | nil => rfl
  | cons c name ih =>
      have here : c ≠ ':' := (List.ne_of_not_mem_cons noColon).symm
      have behind := ih (List.not_mem_of_not_mem_cons noColon)
      cases name with
      | nil =>
          change splitDefault? (c :: .char ':' :: .char '-' :: default) = _
          rw [splitDefault?, if_neg (by simp [here]), if_neg (by simp [here])]
          rfl
      | cons d name =>
          change splitDefault? (c :: d :: (name ++ .char ':' :: .char '-' :: default)) = _
          rw [splitDefault?, if_neg (by simp [here]), if_neg (by simp [here])]
          change (splitDefault? (d :: name ++ .char ':' :: .char '-' :: default)).map _ = _
          rw [behind]
          rfl

theorem splitDefault?_ne_none (front default : Text) :
    splitDefault? (front ++ .char ':' :: .char '-' :: default) ≠ none := by
  intro bare
  have operator := splitDefault?_of_suffix bare (List.suffix_append front _)
  cases operator

theorem replace_reference {text value : Text} {reference : Reference} {store next : Store}
    (taken : take? text = some (reference, []))
    (followed : reference.follow? store = some (value, next)) :
    (replace (.char '$' :: text) store).1 = value := by
  have found : valueAt? text store = some (value, [], next) := by
    rw [valueAt?, taken]
    dsimp only
    rw [followed]
    rfl
  rw [replace, replaceAfter_dollar rfl found, replaceAfter]
  exact List.append_nil value

theorem take?_of_isName {name : Text} (named : Text.isName name = true) :
    take? name = some (.plain name, []) := by
  rw [take?_of_bare, Text.takeName?_of_isName named]
  · rfl
  · rintro rest rfl
    have opening := Text.isWordCharacter_of_isName named '{' List.mem_cons_self
    exact absurd opening (by decide +kernel)

theorem bare_standsFor_iff (name : Text) :
    StandsFor (.char '$' :: name) name ↔ Text.isName name = true := by
  constructor
  · intro stands
    by_contra unnamed
    refine not_standsFor_of_unnamed ?_ stands
    rintro rest reference after opened taken rfl
    have long := opened.length_le
    simp only [List.length_cons] at long
    obtain ⟨rfl, named⟩ := eq_of_take? taken (by omega)
    exact unnamed named
  · intro named value
    have followed : (Reference.plain name).follow? (holding name value) =
        some (value, holding name value) := by
      rw [follow?, resolve_holding, if_pos rfl]
      rfl
    exact replace_reference (take?_of_isName named) followed

theorem notMem_of_isIdentifier {name : Text} (identifier : Text.isIdentifier name = true)
    {c : CodePoint}
    (outside : Text.continuesIdentifier c = false) : c ∉ name := by
  intro member
  cases name with
  | nil => cases member
  | cons d rest =>
      rw [Text.isIdentifier, Bool.and_eq_true] at identifier
      have inside : Text.continuesIdentifier c = true := by
        rcases List.mem_cons.mp member with rfl | later
        · rw [Text.continuesIdentifier, identifier.1]
          rfl
        · exact List.all_eq_true.mp identifier.2 c later
      rw [inside] at outside
      cases outside

theorem take?_default {name default : Text} (noBrace : .char '}' ∉ name)
    (noBrace' : .char '}' ∉ default) :
    take? (.char '{' :: (name ++ .char ':' :: .char '-' :: default ++ [.char '}'])) =
      (ofBody? (name ++ .char ':' :: .char '-' :: default)).map (·, []) := by
  have absent : .char '}' ∉ name ++ .char ':' :: .char '-' :: default := by simp [noBrace, noBrace']
  rw [take?, Text.cutAt_append absent]

theorem exists_follow?_default {name : Text} {store : Store}
    (unresolved : store.resolve name = none)
    (default : Text) (keeps : Bool) :
    ∃ next, (Reference.withDefault name default keeps).follow? store = some (default, next) := by
  rw [follow?, unresolved]
  exact ⟨_, rfl⟩

theorem isIdentifier_of_standsFor {name default : Text} (noBrace : .char '}' ∉ name)
    (noBrace' : .char '}' ∉ default)
    (stands : StandsFor
      (.char '$' :: .char '{' :: (name ++ .char ':' :: .char '-' :: default ++ [.char '}'])) name) :
    Text.isIdentifier name = true := by
  have taken := take?_default noBrace noBrace'
  cases read : ofBody? (name ++ .char ':' :: .char '-' :: default) with
  | none =>
      rw [read] at taken
      have refused : valueAt?
          (.char '{' :: (name ++ .char ':' :: .char '-' :: default ++ [.char '}']))
          (holding name []) = none := by
        rw [valueAt?, taken]
        rfl
      have literal := stands []
      rw [replace, replaceAfter_cons (by decide) fun _ => Or.inr refused] at literal
      cases literal
  | some reference =>
      rw [read] at taken
      cases reference with
      | plain other => exact absurd (bare_of_ofBody? read) (splitDefault?_ne_none name default)
      | withDefault other written keeps =>
          obtain ⟨identifier, -⟩ := ofBody?_eq_withDefault read
          by_contra unnamed
          have different : other ≠ name := by
            rintro rfl
            exact unnamed identifier
          have constant (value : Text) : written = value := by
            have unresolved : (holding name value).resolve other = none := by
              rw [resolve_holding, if_neg different]
            obtain ⟨next, followed⟩ := exists_follow?_default unresolved written keeps
            exact (replace_reference taken followed).symm.trans (stands value)
          exact absurd ((constant []).symm.trans (constant ['x'])) (by decide)

/-- A name with a default in braces stands for its variable exactly if it is an identifier. -/
theorem braced_standsFor_iff (name : Text) {default : Text} (noBrace : .char '}' ∉ default) :
    StandsFor (.char '$' :: .char '{' ::
      (name ++ .char ':' :: .char '-' :: default ++ [.char '}'])) name ↔
      Text.isIdentifier name = true := by
  constructor
  · intro stands
    by_cases closing : .char '}' ∈ name
    · refine absurd stands (not_standsFor_of_unnamed ?_)
      rintro rest reference after - taken rfl
      exact brace_notMem_of_take? taken closing
    · exact isIdentifier_of_standsFor closing noBrace stands
  · intro identifier value
    have noColon : .char ':' ∉ name := notMem_of_isIdentifier identifier (by decide +kernel)
    have noBraceName : .char '}' ∉ name := notMem_of_isIdentifier identifier (by decide +kernel)
    have taken := take?_default noBraceName noBrace
    rw [ofBody?, splitDefault?_append noColon] at taken
    dsimp only at taken
    rw [if_pos identifier] at taken
    have followed : (Reference.withDefault name default false).follow? (holding name value) =
        some (value, holding name value) := by
      rw [follow?, resolve_holding, if_pos rfl]
    exact replace_reference taken followed

end Reference

end LineShell
