import Mathlib.Data.List.Basic
import Mathlib.Data.List.TakeWhile
import LineShell.Proofs.BackslashRun
import LineShell.Proofs.Text.Name
import LineShell.Proofs.Variables

/-!
The defaults that a line stores. Which `:=` references are reached does not depend on the variables:
a reference with a default always has a value, and one without, read from its inside instead, hides
no other default. So a text determines a list of names and defaults, and its expansion binds each
of them, in order, whose name has no value by then.
-/

namespace LineShell

namespace Store

def assignDefault (store : Store) (name default : Text) : Store :=
  match store.resolve name with
  | some _ => store
  | none => store.assign name default

def assignDefaults (store : Store) (defaults : List (Text × Text)) : Store :=
  defaults.foldl (fun reached pair => reached.assignDefault pair.1 pair.2) store

theorem assignDefaults_append (store : Store) (first second : List (Text × Text)) :
    store.assignDefaults (first ++ second) =
      (store.assignDefaults first).assignDefaults second :=
  List.foldl_append

theorem resolve_assign (store : Store) (name value other : Text) :
    (store.assign name value).resolve other =
      if other = name then some value else store.resolve other := by
  rw [resolve, own_get?_assign]
  by_cases same : other = name
  · rw [if_pos same, if_pos same]
  · rw [if_neg same, if_neg same]
    rfl

theorem resolve_assignDefault (store : Store) (name default other : Text) :
    (store.assignDefault name default).resolve other =
      (store.resolve other).or (if other = name then some default else none) := by
  unfold assignDefault
  by_cases same : other = name
  · subst same
    cases resolved : store.resolve other with
    | some value => exact resolved
    | none =>
        dsimp only
        rw [resolve_assign, if_pos rfl, if_pos rfl]
        rfl
  · rw [if_neg same, Option.or_none]
    split
    · rfl
    · rw [resolve_assign, if_neg same]

theorem own_get?_assignDefault_of_resolved {store : Store} {name value : Text}
    (resolved : store.resolve name = some value) (other default : Text) :
    (store.assignDefault other default).own.get? name = store.own.get? name := by
  unfold assignDefault
  split
  · rfl
  · next unresolved =>
      have different : name ≠ other := by
        rintro rfl
        rw [resolved] at unresolved
        cases unresolved
      rw [own_get?_assign, if_neg different]

theorem inherited_assignDefaults (store : Store) (defaults : List (Text × Text)) :
    (store.assignDefaults defaults).inherited = store.inherited := by
  induction defaults generalizing store with
  | nil => rfl
  | cons pair rest ih =>
      refine (ih (store.assignDefault pair.1 pair.2)).trans ?_
      unfold assignDefault
      split <;> rfl

/-- Of several defaults for a name the first counts, and none for a name that has a value. -/
theorem resolve_assignDefaults (store : Store) (defaults : List (Text × Text)) (name : Text) :
    (store.assignDefaults defaults).resolve name =
      (store.resolve name).or (defaults.lookup name) := by
  induction defaults generalizing store with
  | nil => exact (Option.or_none).symm
  | cons pair rest ih =>
      refine (ih (store.assignDefault pair.1 pair.2)).trans ?_
      rw [resolve_assignDefault, Option.or_assoc, Bindings.lookup_cons_eq]
      by_cases same : name = pair.1
      · rw [if_pos same, if_pos same]
        rfl
      · rw [if_neg same, if_neg same]
        rfl

theorem own_get?_assignDefaults (store : Store) (defaults : List (Text × Text)) (name : Text) :
    (store.assignDefaults defaults).own.get? name =
      match store.resolve name with
      | some _ => store.own.get? name
      | none => defaults.lookup name := by
  cases resolved : store.resolve name with
  | some value =>
      induction defaults generalizing store with
      | nil => rfl
      | cons pair rest ih =>
          have kept : (store.assignDefault pair.1 pair.2).resolve name = some value := by
            rw [resolve_assignDefault, resolved]
            rfl
          exact (ih _ kept).trans (own_get?_assignDefault_of_resolved resolved pair.1 pair.2)
  | none =>
      have reached := resolve_assignDefaults store defaults name
      have outside : (store.assignDefaults defaults).inherited.getBytes? name = none := by
        rw [inherited_assignDefaults]
        unfold resolve at resolved
        split at resolved
        · cases resolved
        · exact resolved
      rw [resolved, Option.none_or, resolve, outside] at reached
      rw [← reached]
      cases (store.assignDefaults defaults).own.get? name <;> rfl

theorem assignDefaults_of_resolved {store : Store} {defaults : List (Text × Text)}
    (resolved : ∀ pair ∈ defaults, (store.resolve pair.1).isSome = true) :
    store.assignDefaults defaults = store := by
  induction defaults with
  | nil => rfl
  | cons pair rest ih =>
      obtain ⟨here, others⟩ := List.forall_mem_cons.mp resolved
      obtain ⟨value, found⟩ := Option.isSome_iff_exists.mp here
      have unchanged : store.assignDefault pair.1 pair.2 = store := by rw [assignDefault, found]
      refine Eq.trans ?_ (ih others)
      exact congrArg (assignDefaults · rest) unchanged

theorem isSome_resolve_of_assignDefaults {before settled : Store} {defaults : List (Text × Text)}
    (grown : ∀ name, (before.resolve name).isSome = true → (settled.resolve name).isSome = true)
    (stored : ∀ pair ∈ defaults, (settled.resolve pair.1).isSome = true) (name : Text)
    (resolved : ((before.assignDefaults defaults).resolve name).isSome = true) :
    (settled.resolve name).isSome = true := by
  rw [resolve_assignDefaults, Option.isSome_or, Bool.or_eq_true] at resolved
  rcases resolved with there | listed
  · exact grown name there
  · obtain ⟨pair, member, same⟩ := List.lookup_isSome_iff.mp listed
    rw [eq_of_beq same]
    exact stored pair member

theorem assignDefaults_self (store : Store) (defaults : List (Text × Text)) :
    (store.assignDefaults defaults).assignDefaults defaults = store.assignDefaults defaults := by
  refine assignDefaults_of_resolved fun pair member => ?_
  rw [resolve_assignDefaults, Option.isSome_or]
  have listed : (defaults.lookup pair.1).isSome = true :=
    List.lookup_isSome_iff.mpr ⟨pair, member, beq_self_eq_true pair.1⟩
  rw [listed, Bool.or_true]

end Store

namespace Reference

theorem splitDefault?_eq_some {body name default : Text} {keeps : Bool}
    (split : splitDefault? body = some (name, keeps, default)) :
    body = name ++ .char ':' :: (if keeps then .char '=' else .char '-') :: default := by
  fun_induction splitDefault? body generalizing name with
  | case1 => cases split
  | case2 => cases split
  | case3 c d rest operator =>
      cases split
      simp_all
  | case4 c d rest _ operator =>
      cases split
      simp_all
  | case5 c d rest _ _ ih =>
      simp only [Option.map_eq_some_iff, Prod.exists, Prod.mk.injEq] at split
      obtain ⟨lead, _, _, found, rfl, rfl, rfl⟩ := split
      rw [ih found]
      rfl

theorem splitDefault?_cons {c : CodePoint} {rest : Text} (bare : splitDefault? (c :: rest) = none) :
    splitDefault? rest = none := by
  cases rest with
  | nil => rfl
  | cons d rest =>
      rw [splitDefault?] at bare
      split at bare
      · cases bare
      · split at bare
        · cases bare
        · exact Option.map_eq_none_iff.mp bare

theorem splitDefault?_of_suffix {body rest : Text} (bare : splitDefault? body = none)
    (behind : rest <:+ body) : splitDefault? rest = none := by
  induction body with
  | nil =>
      rw [List.suffix_nil.mp behind]
      rfl
  | cons c body ih =>
      rcases List.suffix_cons_iff.mp behind with rfl | later
      · exact bare
      · exact ih (splitDefault?_cons bare) later

theorem ofBody?_of_bare {body : Text} (bare : splitDefault? body = none) :
    ofBody? body = some (.plain body) := by
  rw [ofBody?, bare]

theorem bare_of_ofBody? {body name : Text} (found : ofBody? body = some (.plain name)) :
    splitDefault? body = none := by
  unfold ofBody? at found
  split at found
  · next bare => exact bare
  · split at found
    · cases found
    · cases found

theorem ofBody?_eq_withDefault {body name default : Text} {keeps : Bool}
    (found : ofBody? body = some (.withDefault name default keeps)) :
    Text.isIdentifier name = true ∧
      body = name ++ .char ':' :: (if keeps then .char '=' else .char '-') :: default := by
  unfold ofBody? at found
  split at found
  · cases found
  · next split =>
      split at found
      · next identifier =>
          cases found
          exact ⟨identifier, splitDefault?_eq_some split⟩
      · cases found

theorem take?_cases {text after : Text} {reference : Reference}
    (taken : take? text = some (reference, after)) :
    (∃ body, text = .char '{' :: body ++ .char '}' :: after ∧ .char '}' ∉ body ∧
      ofBody? body = some reference) ∨
      ∃ name, Text.takeName? text = some (name, after) ∧ reference = .plain name := by
  unfold take? at taken
  split at taken
  · next rest =>
      split at taken
      · next body behind cut =>
          obtain ⟨found, read, same⟩ := Option.map_eq_some_iff.mp taken
          cases same
          obtain ⟨rfl, absent⟩ := Text.cutAt_eq_some cut
          exact Or.inl ⟨body, rfl, absent, read⟩
      · cases taken
  · obtain ⟨⟨name, behind⟩, named, same⟩ := Option.map_eq_some_iff.mp taken
    cases same
    exact Or.inr ⟨name, named, rfl⟩

theorem suffix_of_take? {text after : Text} {reference : Reference}
    (taken : take? text = some (reference, after)) : after <:+ text := by
  rcases take?_cases taken with ⟨body, rfl, -, -⟩ | ⟨name, named, -⟩
  · exact (List.suffix_cons (.char '}') after).trans (List.suffix_append _ _)
  · rw [(Text.takeName?_append named).1]
    exact List.suffix_append name after

/-- Between the braces of a reference without a default every other reference is plain and ends
there, too. -/
theorem take?_inside {body after : Text} {reference : Reference} {behind : Text}
    (absent : .char '}' ∉ body) (bare : splitDefault? body = none)
    (taken : take? (body ++ .char '}' :: after) = some (reference, behind)) :
    (∃ name, reference = .plain name) ∧
      (behind = after ∨ ∃ left, behind = left ++ .char '}' :: after ∧ left <:+ body) := by
  rcases take?_cases taken with ⟨inner, spelled, absentInner, read⟩ | ⟨name, named, rfl⟩
  · cases body with
    | nil => cases spelled
    | cons c body =>
        obtain ⟨rfl, tails⟩ := List.cons.inj spelled
        have cut := Text.cutAt_append (List.not_mem_of_not_mem_cons absent) after
        have cutInner := Text.cutAt_append absentInner behind
        change body ++ .char '}' :: after = inner ++ .char '}' :: behind at tails
        rw [tails, cutInner] at cut
        cases cut
        rw [ofBody?_of_bare (splitDefault?_cons bare)] at read
        cases read
        exact ⟨⟨_, rfl⟩, Or.inl rfl⟩
  · have outside : Text.isWordCharacter '}' = false := by decide +kernel
    exact ⟨⟨name, rfl⟩, Or.inr (Text.takeName?_append_cons outside named)⟩

/-! ### The defaults of a text -/

def stored? : Reference → Option (Text × Text)
  | .withDefault name default true => some (name, default)
  | _ => none

/-- The defaults that the references of a text may store, in order, if `run` backslashes precede it.
Every reference is taken whole, whether or not it will have a value. -/
def defaultsAfter (run : Nat) (text : Text) : List (Text × Text) :=
  match text with
  | [] => []
  | c :: rest =>
      if c = '\\' then defaultsAfter (run + 1) rest
      else if c = '$' && !Escape.escapes run then
        match _found : take? rest with
        | some (reference, after) => reference.stored?.toList ++ defaultsAfter 0 after
        | none => defaultsAfter 0 rest
      else defaultsAfter 0 rest
termination_by text.length
decreasing_by
  all_goals simp only [List.length_cons]
  all_goals first
    | omega
    | (have shorter := length_of_take? _found; omega)

def defaults (text : Text) : List (Text × Text) :=
  defaultsAfter 0 text

theorem defaultsAfter_backslash (run : Nat) (rest : Text) :
    defaultsAfter run (.char '\\' :: rest) = defaultsAfter (run + 1) rest := by
  rw [defaultsAfter, if_pos rfl]

theorem defaultsAfter_dollar {run : Nat} {rest after : Text} {reference : Reference}
    (unescaped : Escape.escapes run = false) (taken : take? rest = some (reference, after)) :
    defaultsAfter run (.char '$' :: rest) = reference.stored?.toList ++ defaultsAfter 0 after := by
  rw [defaultsAfter, if_neg (by decide), if_pos (by simp [unescaped])]
  split
  · next found =>
      rw [taken] at found
      cases found
      rfl
  · next absent =>
      rw [taken] at absent
      cases absent

theorem defaultsAfter_cons {c : CodePoint} {run : Nat} {rest : Text} (plain : c ≠ '\\')
    (stays : c = '$' → Escape.escapes run = true ∨ take? rest = none) :
    defaultsAfter run (c :: rest) = defaultsAfter 0 rest := by
  rw [defaultsAfter, if_neg plain]
  by_cases dollar : c = '$'
  · rcases stays dollar with escaped | absent
    · rw [if_neg (by simp [escaped])]
    · split
      · split
        · next found =>
            rw [absent] at found
            cases found
        · rfl
      · rfl
  · rw [if_neg (by simp [dollar])]

theorem defaultsAfter_name {name : Text} (word : ∀ c ∈ name, Text.isWordCharacter c = true)
    (after : Text) : defaultsAfter 0 (name ++ after) = defaultsAfter 0 after := by
  have backslash : Text.isWordCharacter '\\' = false := by decide +kernel
  have dollar : Text.isWordCharacter '$' = false := by decide +kernel
  induction name with
  | nil => rfl
  | cons c rest ih =>
      obtain ⟨here, others⟩ := List.forall_mem_cons.mp word
      have plain : c ≠ '\\' := by
        rintro rfl
        rw [backslash] at here
        cases here
      have noDollar : c ≠ '$' := by
        rintro rfl
        rw [dollar] at here
        cases here
      rw [List.cons_append, defaultsAfter_cons plain fun isDollar => absurd isDollar noDollar,
        ih others]

/-- The inside of a reference without a default is read up to its closing brace: what is read there
is again without a default, and ends inside it or with it. -/
theorem body_induction (after : Text) {motive : Nat → Text → Prop}
    (closing : ∀ run, motive run [])
    (backslash : ∀ run rest, motive (run + 1) rest → motive run (.char '\\' :: rest))
    (idle : ∀ run (c : CodePoint) rest, c ≠ '\\' →
      (c = '$' → Escape.escapes run = true ∨ take? (rest ++ .char '}' :: after) = none) →
      motive 0 rest → motive run (c :: rest))
    (reference : ∀ run name rest behind, Escape.escapes run = false →
      take? (rest ++ .char '}' :: after) = some (.plain name, behind) →
      (behind = after ∨ ∃ left, behind = left ++ .char '}' :: after ∧ motive 0 left) →
      motive 0 rest → motive run (.char '$' :: rest))
    {body : Text} (absent : .char '}' ∉ body) (bare : splitDefault? body = none) (run : Nat) :
    motive run body := by
  induction size : body.length using Nat.strong_induction_on generalizing run body with
  | _ size ih =>
      cases body with
      | nil => exact closing run
      | cons c rest =>
          subst size
          have inside {left : Text} (behind : left <:+ rest) (run : Nat) : motive run left := by
            refine ih left.length (Nat.lt_succ_of_le behind.length_le) ?_ ?_ run rfl
            · exact fun member => absent (List.mem_cons_of_mem c (behind.mem member))
            · exact splitDefault?_of_suffix (splitDefault?_cons bare) behind
          by_cases plain : c = '\\'
          · subst plain
            exact backslash run rest (inside (List.suffix_refl rest) (run + 1))
          · by_cases opens : c = '$' ∧ Escape.escapes run = false
            · obtain ⟨rfl, unescaped⟩ := opens
              cases taken : take? (rest ++ .char '}' :: after) with
              | none =>
                  exact idle run _ rest plain (fun _ => Or.inr taken)
                    (inside (List.suffix_refl rest) 0)
              | some found =>
                  obtain ⟨⟨name, same⟩, there⟩ := take?_inside
                    (List.not_mem_of_not_mem_cons absent) (splitDefault?_cons bare) taken
                  rw [show found = (.plain name, found.2) from Prod.ext same rfl] at taken
                  refine reference run name rest found.2 unescaped taken ?_
                    (inside (List.suffix_refl rest) 0)
                  exact there.imp_right fun ⟨left, cut, shorter⟩ => ⟨left, cut, inside shorter 0⟩
            · refine idle run c rest plain (fun dollar => Or.inl ?_)
                (inside (List.suffix_refl rest) 0)
              simpa [dollar] using opens

/-- The body of a reference without a default stores none: what is read inside it ends with it. -/
theorem defaultsAfter_body (run : Nat) {body : Text} (absent : .char '}' ∉ body)
    (bare : splitDefault? body = none) (after : Text) :
    defaultsAfter run (body ++ .char '}' :: after) = defaultsAfter 0 after := by
  refine body_induction after
    (motive := fun run left =>
      defaultsAfter run (left ++ .char '}' :: after) = defaultsAfter 0 after)
    (fun run => ?_) (fun run rest ih => ?_) (fun run c rest plain idle ih => ?_)
    (fun run name rest behind unescaped taken there _ => ?_) absent bare run
  · exact defaultsAfter_cons (by decide) fun dollar => absurd dollar (by decide)
  · rw [List.cons_append, defaultsAfter_backslash, ih]
  · rw [List.cons_append, defaultsAfter_cons plain idle, ih]
  · rw [List.cons_append, defaultsAfter_dollar unescaped taken]
    rcases there with rfl | ⟨left, rfl, ih⟩
    · rfl
    · exact ih

/-- Where a plain reference is not replaced, what is read from its inside on is what would have been
read behind it. -/
theorem defaultsAfter_of_plain {text name after : Text}
    (taken : take? text = some (.plain name, after)) :
    defaultsAfter 0 text = defaultsAfter 0 after := by
  rcases take?_cases taken with ⟨body, rfl, absent, read⟩ | ⟨word, named, -⟩
  · rw [List.cons_append,
      defaultsAfter_cons (by decide) fun isDollar => absurd isDollar (by decide)]
    exact defaultsAfter_body 0 absent (bare_of_ofBody? read) after
  · rw [(Text.takeName?_append named).1]
    exact defaultsAfter_name (Text.isWordCharacter_of_takeName? named) after

/-! ### What replacement stores -/

theorem store_of_follow? {reference : Reference} {store next : Store} {value : Text}
    (followed : reference.follow? store = some (value, next)) :
    next = store.assignDefaults reference.stored?.toList := by
  cases reference with
  | plain name =>
      simp only [follow?, Option.map_eq_some_iff, Prod.mk.injEq] at followed
      obtain ⟨_, _, _, rfl⟩ := followed
      rfl
  | withDefault name default keeps =>
      have stored : store.assignDefaults (stored? (.withDefault name default keeps)).toList =
          if keeps then store.assignDefault name default else store := by
        cases keeps <;> rfl
      rw [stored, Store.assignDefault]
      rw [follow?] at followed
      cases resolved : store.resolve name with
      | some found =>
          rw [resolved] at followed
          cases followed
          exact (ite_self _).symm
      | none =>
          rw [resolved] at followed
          exact (Prod.mk.inj (Option.some.inj followed)).2.symm

theorem exists_plain_of_follow? {reference : Reference} {store : Store}
    (unfollowed : reference.follow? store = none) : ∃ name, reference = .plain name := by
  cases reference with
  | plain name => exact ⟨name, rfl⟩
  | withDefault name default keeps =>
      rw [follow?] at unfollowed
      split at unfollowed <;> cases unfollowed

theorem exists_plain_of_valueAt? {text after : Text} {reference : Reference} {store : Store}
    (taken : take? text = some (reference, after)) (absent : valueAt? text store = none) :
    ∃ name, reference = .plain name := by
  rw [valueAt?, taken] at absent
  exact exists_plain_of_follow? (Option.map_eq_none_iff.mp absent)

theorem defaultsAfter_dollar_of_none {run : Nat} {rest : Text} {store : Store}
    (unescaped : Escape.escapes run = false) (absent : valueAt? rest store = none) :
    defaultsAfter run (.char '$' :: rest) = defaultsAfter 0 rest := by
  cases taken : take? rest with
  | none => exact defaultsAfter_cons (by decide) fun _ => Or.inr taken
  | some found =>
      obtain ⟨name, same⟩ := exists_plain_of_valueAt? taken absent
      rw [show found = (.plain name, found.2) from Prod.ext same rfl] at taken
      rw [defaultsAfter_dollar unescaped taken, defaultsAfter_of_plain taken]
      rfl

/-- Replacement stores the defaults of the text, each under its name if that has no value then. -/
theorem store_replaceAfter (run : Nat) (text : Text) (store : Store) :
    (replaceAfter run text store).2 = store.assignDefaults (defaultsAfter run text) := by
  fun_induction replaceAfter run text store with
  | case1 run store =>
      rw [defaultsAfter]
      rfl
  | case2 run store rest ih => rw [ih, defaultsAfter_backslash]
  | case3 run store c rest plain dollar value after next found ih =>
      obtain ⟨rfl, unescaped⟩ : c = '$' ∧ Escape.escapes run = false := by simpa using dollar
      obtain ⟨reference, taken, followed⟩ := exists_of_valueAt? found
      rw [defaultsAfter_dollar unescaped taken, Store.assignDefaults_append,
        ← store_of_follow? followed]
      exact ih
  | case4 run store c rest plain dollar absent ih =>
      obtain ⟨rfl, unescaped⟩ : c = '$' ∧ Escape.escapes run = false := by simpa using dollar
      rw [defaultsAfter_dollar_of_none unescaped absent]
      exact ih
  | case5 run store c rest plain other ih =>
      refine ih.trans ?_
      rw [defaultsAfter_cons plain fun isDollar => Or.inl ?_]
      simpa [isDollar] using other

theorem store_replace (text : Text) (store : Store) :
    (replace text store).2 = store.assignDefaults (defaults text) :=
  store_replaceAfter 0 text store

/-- Each name is looked up when a beginning of the defaults is stored. -/
theorem store_of_mem_lookupsAfter {run : Nat} {text : Text} {store : Store} {asked : Text × Store}
    (member : asked ∈ lookupsAfter run text store) :
    ∃ first, first <+: defaultsAfter run text ∧ asked.2 = store.assignDefaults first := by
  fun_induction lookupsAfter run text store with
  | case1 run store => cases member
  | case2 run store rest ih =>
      rw [defaultsAfter_backslash]
      exact ih member
  | case3 run store c rest plain dollar value after next found ih =>
      obtain ⟨rfl, unescaped⟩ : c = '$' ∧ Escape.escapes run = false := by simpa using dollar
      obtain ⟨reference, taken, followed⟩ := exists_of_valueAt? found
      rcases List.mem_append.mp member with here | later
      · exact ⟨[], List.nil_prefix, eq_of_mem_askedAt here⟩
      · obtain ⟨first, begins, reached⟩ := ih later
        refine ⟨reference.stored?.toList ++ first, ?_, ?_⟩
        · rw [defaultsAfter_dollar unescaped taken]
          exact (List.prefix_append_right_inj _).mpr begins
        · rw [reached, Store.assignDefaults_append, ← store_of_follow? followed]
  | case4 run store c rest plain dollar absent ih =>
      obtain ⟨rfl, unescaped⟩ : c = '$' ∧ Escape.escapes run = false := by simpa using dollar
      rcases List.mem_append.mp member with here | later
      · exact ⟨[], List.nil_prefix, eq_of_mem_askedAt here⟩
      · rw [defaultsAfter_dollar_of_none unescaped absent]
        exact ih later
  | case5 run store c rest plain other ih =>
      rw [defaultsAfter_cons plain fun isDollar => Or.inl (by simpa [isDollar] using other)]
      exact ih member

theorem name_subset_of_take? {text after : Text} {reference : Reference}
    (taken : take? text = some (reference, after)) : reference.name ⊆ text := by
  rcases take?_cases taken with ⟨body, rfl, -, read⟩ | ⟨name, named, rfl⟩
  · have within : reference.name ⊆ body := by
      cases reference with
      | plain name =>
          rw [ofBody?_of_bare (bare_of_ofBody? read)] at read
          cases read
          exact List.Subset.refl _
      | withDefault name default keeps =>
          rw [(ofBody?_eq_withDefault read).2]
          exact List.subset_append_left _ _
    refine List.subset_cons_of_subset _ (List.Subset.trans within ?_)
    exact List.subset_append_left _ _
  · rw [(Text.takeName?_append named).1]
    exact List.subset_append_left _ _

theorem subset_of_mem_lookupsAfter {run : Nat} {text : Text} {store : Store} {asked : Text × Store}
    (member : asked ∈ lookupsAfter run text store) : asked.1 ⊆ text := by
  have here {c : CodePoint} {rest : Text} {store : Store} (member : asked ∈ askedAt rest store) :
      asked.1 ⊆ c :: rest := by
    obtain ⟨reference, after, taken, rfl⟩ := mem_askedAt_iff.mp member
    exact List.subset_cons_of_subset c (name_subset_of_take? taken)
  fun_induction lookupsAfter run text store with
  | case1 run store => cases member
  | case2 run store rest ih => exact List.subset_cons_of_subset _ (ih member)
  | case3 run store c rest plain dollar value after next found ih =>
      obtain ⟨reference, taken, -⟩ := exists_of_valueAt? found
      rcases List.mem_append.mp member with inside | later
      · exact here inside
      · exact List.subset_cons_of_subset c
          (List.Subset.trans (ih later) (suffix_of_take? taken).subset)
  | case4 run store c rest plain dollar absent ih =>
      rcases List.mem_append.mp member with inside | later
      · exact here inside
      · exact List.subset_cons_of_subset c (ih later)
  | case5 run store c rest plain other ih => exact List.subset_cons_of_subset c (ih member)

/-- Nothing is refused in a text without surrogates. -/
theorem substitute_of_scalar {text : Text} (scalar : text.Scalar) (store : Store) :
    substitute text store = .ok (replace text store) := by
  refine substitute_of_granted fun asked member => ?_
  rw [← Bool.not_eq_true]
  intro refused
  obtain ⟨offset, inside, -⟩ := Text.exists_surrogate_of_bytes? (Store.bytes?_of_refuses refused)
  exact scalar offset (subset_of_mem_lookupsAfter member inside)

/-! ### Lookups where the defaults are stored -/

theorem valueAt?_of_plain {text name after : Text} (taken : take? text = some (.plain name, after))
    (store : Store) :
    valueAt? text store = (store.resolve name).map fun value => (value, after, store) := by
  rw [valueAt?, taken]
  dsimp only [follow?]
  rw [Option.map_map]
  rfl

theorem lookupsAfter_of_word {name : Text} (word : ∀ c ∈ name, Text.isWordCharacter c = true)
    (after : Text) (store : Store) :
    lookupsAfter 0 (name ++ after) store = lookupsAfter 0 after store := by
  have backslash : Text.isWordCharacter '\\' = false := by decide +kernel
  have dollar : Text.isWordCharacter '$' = false := by decide +kernel
  induction name with
  | nil => rfl
  | cons c rest ih =>
      obtain ⟨here, others⟩ := List.forall_mem_cons.mp word
      have plain : c ≠ '\\' := by
        rintro rfl
        rw [backslash] at here
        cases here
      have noDollar : c ≠ '$' := by
        rintro rfl
        rw [dollar] at here
        cases here
      rw [List.cons_append, lookupsAfter_cons plain (fun isDollar => absurd isDollar noDollar),
        ih others]

theorem lookupsAfter_of_plain {text name after : Text}
    (taken : take? text = some (.plain name, after)) (store : Store) :
    lookupsAfter 0 after store ⊆ lookupsAfter 0 text store := by
  rcases take?_cases taken with ⟨body, rfl, absent, read⟩ | ⟨word, named, -⟩
  · rw [List.cons_append,
      lookupsAfter_cons (by decide) fun isDollar => absurd isDollar (by decide)]
    refine body_induction after
      (motive := fun run left =>
        lookupsAfter 0 after store ⊆ lookupsAfter run (left ++ .char '}' :: after) store)
      (fun run => ?_) (fun run rest ih => ?_) (fun run c rest plain idle ih => ?_)
      (fun run name rest behind unescaped taken there ih => ?_) absent (bare_of_ofBody? read) 0
    · rw [List.nil_append,
        lookupsAfter_cons (by decide) fun isDollar => absurd isDollar (by decide)]
      exact List.Subset.refl _
    · rw [List.cons_append, lookupsAfter_backslash]
      exact ih
    · rw [List.cons_append, lookupsAfter_cons plain idle]
      exact ih
    · rw [List.cons_append]
      have value := valueAt?_of_plain taken store
      cases resolved : store.resolve name with
      | none =>
          rw [resolved] at value
          rw [lookupsAfter_dollar_of_none unescaped value]
          exact List.subset_append_of_subset_right _ ih
      | some found =>
          rw [resolved] at value
          rw [lookupsAfter_dollar unescaped value]
          rcases there with rfl | ⟨left, rfl, within⟩
          · exact List.subset_append_right _ _
          · exact List.subset_append_of_subset_right _ within
  · rw [(Text.takeName?_append named).1,
      lookupsAfter_of_word (Text.isWordCharacter_of_takeName? named)]
    exact List.Subset.refl _

theorem exists_follow?_of_settled {reference : Reference} {before settled next : Store}
    {value : Text}
    (followed : reference.follow? before = some (value, next))
    (grown : ∀ name, (before.resolve name).isSome = true → (settled.resolve name).isSome = true)
    (stored : ∀ pair ∈ reference.stored?, (settled.resolve pair.1).isSome = true) :
    ∃ other, reference.follow? settled = some (other, settled) := by
  cases reference with
  | plain name =>
      obtain ⟨found, resolved, -⟩ := Option.map_eq_some_iff.mp followed
      obtain ⟨other, there⟩ := Option.isSome_iff_exists.mp
        (grown name (Option.isSome_iff_exists.mpr ⟨found, resolved⟩))
      exact ⟨other, by rw [follow?, there]; rfl⟩
  | withDefault name default keeps =>
      rw [follow?]
      cases resolved : settled.resolve name with
      | some found => exact ⟨found, rfl⟩
      | none =>
          cases keeps with
          | false => exact ⟨default, rfl⟩
          | true =>
              have found := stored (name, default) rfl
              rw [resolved] at found
              cases found

/-- Where every default of a text is stored, its references look up no name that they did not look
up before. -/
theorem mem_lookupsAfter_of_settled {run : Nat} {text : Text} {before settled : Store}
    {asked : Text × Store}
    (grown : ∀ name, (before.resolve name).isSome = true → (settled.resolve name).isSome = true)
    (stored : ∀ pair ∈ defaultsAfter run text, (settled.resolve pair.1).isSome = true)
    (member : asked ∈ lookupsAfter run text settled) :
    asked.2 = settled ∧ ∃ earlier, (asked.1, earlier) ∈ lookupsAfter run text before := by
  fun_induction lookupsAfter run text before with
  | case1 run before =>
      rw [lookupsAfter_nil] at member
      cases member
  | case2 run before rest ih =>
      rw [lookupsAfter_backslash] at member
      rw [defaultsAfter_backslash] at stored
      exact ih grown stored member
  | case3 run before c rest plain dollar value after next found ih =>
      obtain ⟨rfl, unescaped⟩ : c = '$' ∧ Escape.escapes run = false := by simpa using dollar
      obtain ⟨reference, taken, followed⟩ := exists_of_valueAt? found
      rw [defaultsAfter_dollar unescaped taken, List.forall_mem_append] at stored
      obtain ⟨storedHere, storedBehind⟩ := stored
      obtain ⟨other, there⟩ := exists_follow?_of_settled followed grown
        fun pair stores => storedHere pair (Option.mem_toList.mpr stores)
      have again : valueAt? rest settled = some (other, after, settled) := by
        rw [valueAt?, taken]
        dsimp only
        rw [there]
        rfl
      rw [lookupsAfter_dollar unescaped again] at member
      rcases List.mem_append.mp member with here | later
      · obtain ⟨_, _, same, rfl⟩ := mem_askedAt_iff.mp here
        exact ⟨rfl, before, List.mem_append_left _ (mem_askedAt_iff.mpr ⟨_, _, same, rfl⟩)⟩
      · obtain ⟨same, earlier, asks⟩ := ih (store_of_follow? followed ▸
          Store.isSome_resolve_of_assignDefaults grown storedHere) storedBehind later
        exact ⟨same, earlier, List.mem_append_right _ asks⟩
  | case4 run before c rest plain dollar absent ih =>
      obtain ⟨rfl, unescaped⟩ : c = '$' ∧ Escape.escapes run = false := by simpa using dollar
      rw [defaultsAfter_dollar_of_none unescaped absent] at stored
      have among : asked ∈ askedAt rest settled ∨ asked ∈ lookupsAfter 0 rest settled := by
        cases found : valueAt? rest settled with
        | none =>
            rw [lookupsAfter_dollar_of_none unescaped found] at member
            exact List.mem_append.mp member
        | some value =>
            -- The reference is skipped now, but what was looked up inside it includes the rest.
            obtain ⟨reference, taken, followed⟩ := exists_of_valueAt? found
            obtain ⟨name, rfl⟩ := exists_plain_of_valueAt? taken absent
            obtain ⟨_, -, same⟩ := Option.map_eq_some_iff.mp followed
            rw [lookupsAfter_dollar unescaped found, ← (Prod.mk.inj same).2] at member
            exact (List.mem_append.mp member).imp_right
              fun later => lookupsAfter_of_plain taken settled later
      rcases among with here | later
      · obtain ⟨_, _, same, rfl⟩ := mem_askedAt_iff.mp here
        exact ⟨rfl, before, List.mem_append_left _ (mem_askedAt_iff.mpr ⟨_, _, same, rfl⟩)⟩
      · obtain ⟨same, earlier, asks⟩ := ih grown stored later
        exact ⟨same, earlier, List.mem_append_right _ asks⟩
  | case5 run before c rest plain other ih =>
      have idle : c = '$' → Escape.escapes run = true ∨ take? rest = none :=
        fun isDollar => Or.inl (by simpa [isDollar] using other)
      rw [lookupsAfter_cons plain idle] at member
      rw [defaultsAfter_cons plain idle] at stored
      exact ih grown stored member

def spelled (name default : Text) : Text :=
  .char '$' :: .char '{' :: name ++ .char ':' :: .char '=' :: default ++ [.char '}']

theorem spelled_of_stored? {text after : Text} {reference : Reference} {pair : Text × Text}
    (taken : take? text = some (reference, after)) (stored : reference.stored? = some pair) :
    Text.isIdentifier pair.1 = true ∧ .char '$' :: text = spelled pair.1 pair.2 ++ after := by
  cases reference with
  | plain name => cases stored
  | withDefault name default keeps =>
      cases keeps with
      | false => cases stored
      | true =>
          cases stored
          rcases take?_cases taken with ⟨body, rfl, -, read⟩ | ⟨word, -, impossible⟩
          · obtain ⟨identifier, rfl⟩ := ofBody?_eq_withDefault read
            refine ⟨identifier, ?_⟩
            simp [spelled]
          · cases impossible

theorem spelled_of_mem_defaultsAfter {run : Nat} {text : Text} {pair : Text × Text}
    (member : pair ∈ defaultsAfter run text) :
    Text.isIdentifier pair.1 = true ∧ spelled pair.1 pair.2 <:+: text := by
  fun_induction defaultsAfter run text with
  | case1 run => cases member
  | case2 run rest ih =>
      obtain ⟨identifier, inside⟩ := ih member
      exact ⟨identifier, List.infix_cons inside⟩
  | case3 run c rest plain dollar reference after taken ih =>
      obtain ⟨rfl, -⟩ : c = '$' ∧ Escape.escapes run = false := by simpa using dollar
      rcases List.mem_append.mp member with here | later
      · obtain ⟨identifier, rebuilt⟩ := spelled_of_stored? taken (Option.mem_toList.mp here)
        rw [rebuilt]
        exact ⟨identifier, (List.prefix_append _ _).isInfix⟩
      · obtain ⟨identifier, inside⟩ := ih later
        exact ⟨identifier, List.infix_cons (inside.trans (suffix_of_take? taken).isInfix)⟩
  | case4 run c rest plain dollar absent ih =>
      obtain ⟨identifier, inside⟩ := ih member
      exact ⟨identifier, List.infix_cons inside⟩
  | case5 run c rest plain other ih =>
      obtain ⟨identifier, inside⟩ := ih member
      exact ⟨identifier, List.infix_cons inside⟩

end Reference

namespace Expansion

def defaults (history : List Text) (lines : List Text) : List (Text × Text) :=
  lines.flatMap fun line => Reference.defaults (History.resolve history line)

theorem store_expandEach (history : List Text) (store : Store) (lines : List Text) :
    (expandEach history store lines).2 = store.assignDefaults (defaults history lines) := by
  induction lines generalizing store with
  | nil => rfl
  | cons line rest ih =>
      have first : (expandOne history store line).2 =
          store.assignDefaults (Reference.defaults (History.resolve history line)) :=
        Reference.store_replace _ store
      rw [defaults, List.flatMap_cons, Store.assignDefaults_append, ← first]
      exact ih (expandOne history store line).2

theorem snd_expandOne (history : List Text) (store : Store) (line : Text) :
    (expandOne history store line).2 =
      store.assignDefaults (Reference.defaults (History.resolve history line)) :=
  Reference.store_replace _ store

theorem mem_lookupsEach_of_settled {history lines : List Text} {before settled : Store}
    {asked : Text × Store}
    (grown : ∀ name, (before.resolve name).isSome = true → (settled.resolve name).isSome = true)
    (stored : ∀ pair ∈ defaults history lines, (settled.resolve pair.1).isSome = true)
    (member : asked ∈ lookupsEach history settled lines) :
    asked.2 = settled ∧ ∃ earlier, (asked.1, earlier) ∈ lookupsEach history before lines := by
  induction lines generalizing before with
  | nil => cases member
  | cons line rest ih =>
      obtain ⟨storedHere, storedBehind⟩ := List.forall_mem_append.mp stored
      have unchanged : (expandOne history settled line).2 = settled := by
        rw [snd_expandOne]
        exact Store.assignDefaults_of_resolved storedHere
      rw [lookupsEach, unchanged] at member
      rcases List.mem_append.mp member with here | later
      · obtain ⟨same, earlier, asks⟩ := Reference.mem_lookupsAfter_of_settled grown storedHere here
        exact ⟨same, earlier, List.mem_append_left _ asks⟩
      · have grownLine := Store.isSome_resolve_of_assignDefaults grown storedHere
        rw [← snd_expandOne history before line] at grownLine
        obtain ⟨same, earlier, asks⟩ := ih grownLine storedBehind later
        exact ⟨same, earlier, List.mem_append_right _ asks⟩

theorem refused?_settled {history lines : List Text} {store : Store}
    (granted : refused? history store lines = none) :
    refused? history (expandEach history store lines).2 lines = none := by
  rw [refused?, List.find?_eq_none] at granted ⊢
  intro asked member
  have grown : ∀ name, (store.resolve name).isSome = true →
      ((expandEach history store lines).2.resolve name).isSome = true := by
    intro name resolved
    obtain ⟨value, found⟩ := Option.isSome_iff_exists.mp resolved
    rw [(keeps_expandEach history store lines).resolve found]
    rfl
  have stored : ∀ pair ∈ defaults history lines,
      ((expandEach history store lines).2.resolve pair.1).isSome = true := by
    intro pair listed
    rw [store_expandEach, Store.resolve_assignDefaults, Option.isSome_or, Bool.or_eq_true]
    exact Or.inr (List.lookup_isSome_iff.mpr ⟨pair, listed, beq_self_eq_true pair.1⟩)
  obtain ⟨same, earlier, asks⟩ := mem_lookupsEach_of_settled grown stored member
  have grantedEarlier := Bool.eq_false_iff.mpr (granted _ asks)
  rw [same, (keeps_of_mem_lookupsEach asks).2.refuses grantedEarlier]
  decide

theorem expand_expanded {state next : State} {line : Text} {texts : List Text}
    (expanded : expand state line = .ok (texts, next)) :
    ∃ again, expand next line = .ok (again, next) := by
  obtain ⟨lines, fanned, granted, all, framed⟩ := expand_eq_ok_iff.mp expanded
  have left : next.store = (expandEach state.history state.store lines).2 := by rw [all]
  have history : next.history = state.history := by rw [framed]
  refine ⟨(expandEach state.history next.store lines).1, expand_eq_ok_iff.mpr
    ⟨lines, fanned, ?_, Prod.ext ?_ ?_, rfl⟩⟩
  · rw [history, left]
    exact refused?_settled granted
  · rw [history]
  · rw [history, left, store_expandEach, store_expandEach, Store.assignDefaults_self]

/-- The variables behind the replacement of references are determined by the text alone: it has a
list of defaults, each spelled by a `:=` reference of the text, which are stored in order under
those names that have no value then. So a name with a value keeps it, every other gets the first
default that the text has for it, if any, and a line that is expanded again stores nothing. Of a
text without surrogates no reference is refused; a refused one leaves a beginning of the list
stored. -/
theorem defaults_determine_store (text : Text) :
    (∀ pair ∈ Reference.defaults text,
        Text.isIdentifier pair.1 = true ∧ Reference.spelled pair.1 pair.2 <:+: text) ∧
      (∀ store, (Reference.replace text store).2 =
        store.assignDefaults (Reference.defaults text)) ∧
      (text.Scalar → ∀ store,
        Reference.substitute text store = .ok (Reference.replace text store)) ∧
      (∀ store name left, Reference.substitute text store = .error (name, left) →
        ∃ first, first <+: Reference.defaults text ∧ left = store.assignDefaults first) ∧
      (∀ store name, (Reference.replace text store).2.own.get? name =
        match store.resolve name with
        | some _ => store.own.get? name
        | none => (Reference.defaults text).lookup name) ∧
      ∀ (state next : State) (line : Text) (texts : List Text),
        expand state line = .ok (texts, next) → ∃ again, expand next line = .ok (again, next) := by
  refine ⟨fun pair member => Reference.spelled_of_mem_defaultsAfter member,
    Reference.store_replace text, Reference.substitute_of_scalar,
    fun store name left refused => ?_, fun store name => ?_,
    fun state next line texts expanded => expand_expanded expanded⟩
  · exact Reference.store_of_mem_lookupsAfter (Reference.substitute_eq_error refused).1
  · rw [Reference.store_replace, Store.own_get?_assignDefaults]

/-- Two defaults for one name, the first inside a reference without a value, on two lines; and a
default behind a reference that is refused. -/
theorem defaults_determine_store_at_overlap :
    let state := State.start ⟨Bindings.empty, Bindings.empty⟩ [] ['/'] 0 Symbols.standard
    let next : State := { state with store := state.store.assign ['x'] ['1'] }
    let line : Text :=
      ['{', ',', 'a', '}', '$', '{', 'a', '$', 'b', '$', '{', 'x', ':', '=', '1', '}',
        '$', '{', 'x', ':', '=', '2', '}']
    let texts : List Text :=
      [['$', '{', 'a', '$', 'b', '1', '1'], ['a', '$', '{', 'a', '$', 'b', '1', '1']]
    let refused : Text :=
      "$\x7bx:=1\x7d$\x7b".text ++ .surrogate 0 :: "\x7d$\x7by:=2\x7d".text
    ([.char 'x'], [.char '1']) ∈ Reference.defaults line ∧ Text.isIdentifier [.char 'x'] = true ∧
      expand state line = .ok (texts, next) ∧
      (∃ again, expand next line = .ok (again, next)) ∧
      line.Scalar ∧
      Reference.substitute line state.store = .ok (Reference.replace line state.store) ∧
      Reference.substitute refused state.store = .error ([.surrogate 0], next.store) ∧
      ∃ first, first <+: Reference.defaults refused ∧
        next.store = state.store.assignDefaults first := by
  intro state next line texts refused
  have member : ([.char 'x'], [.char '1']) ∈ Reference.defaults line := by decide +kernel
  have expanded : expand state line = .ok (texts, next) := by decide +kernel
  have scalar : line.Scalar := fun offset => by simp [line]
  have stopped : Reference.substitute refused state.store =
      .error ([.surrogate 0], next.store) := by
    decide +kernel
  obtain ⟨spelled, -, granted, -, -, again⟩ := defaults_determine_store line
  obtain ⟨-, -, -, begun, -⟩ := defaults_determine_store refused
  exact ⟨member, (spelled _ member).1, expanded, again state next line texts expanded, scalar,
    granted scalar state.store, stopped, begun state.store _ _ stopped⟩

end Expansion

end LineShell
