import LineShell.Session
import LineShell.Proofs.PlainLine
import LineShell.Proofs.Quoting

/-!
What `echo` writes. Its option words are taken off the front of the argument, with all the blanks
behind each, and decide the ending alone; the text behind them is written as it is. So a quoted text
reaches the output unchanged, whatever characters it holds.
-/

namespace LineShell

namespace Utility

def echoOptionWords : List Text :=
  ["-n".text, "-s".text, "-ns".text, "-sn".text]

theorem echoOption?_of_mem {word : Text} (isOption : word ∈ echoOptionWords) :
    echoOption? word = some ⟨'n' ∈ word, 's' ∈ word⟩ := by
  simp only [echoOptionWords, List.mem_cons, List.not_mem_nil, or_false] at isOption
  rcases isOption with rfl | rfl | rfl | rfl <;> decide

theorem echoOption?_of_not_mem {word : Text} (noOption : word ∉ echoOptionWords) :
    echoOption? word = none := by
  simp only [echoOptionWords, List.mem_cons, List.not_mem_nil, or_false, not_or] at noOption
  obtain ⟨notN, notS, notNS, notSN⟩ := noOption
  simp only [echoOption?, notN, notS, notNS, notSN, decide_false, Bool.or_self,
    Bool.false_eq_true, if_false]

/-- An option word and the number of spaces behind it, at least one. -/
structure EchoOption where
  word : Text
  spaces : Nat
  isOption : word ∈ echoOptionWords
  apart : 0 < spaces

namespace EchoOption

def text (option : EchoOption) : Text :=
  option.word ++ List.replicate option.spaces (.char ' ')

def asks (letter : CodePoint) (options : List EchoOption) : Bool :=
  options.any fun option => letter ∈ option.word

def ending (options : List EchoOption) : Text :=
  if asks 's' options then [' '] else if asks 'n' options then [] else ['\n']

theorem solid_word (option : EchoOption) : Text.Solid option.word := by
  have solid : ∀ word ∈ echoOptionWords, Text.Solid word := by decide
  exact solid option.word option.isOption

theorem word_ne_nil (option : EchoOption) : option.word ≠ [] := by
  have nonempty : ∀ word ∈ echoOptionWords, word ≠ [] := by decide
  exact nonempty option.word option.isOption

theorem takeEchoWord_text_append (option : EchoOption) {rest : Text}
    (visible : ∀ c, rest.head? = some c → Text.isBlank c = false) :
    takeEchoWord (option.text ++ rest) = (option.word, rest) := by
  obtain ⟨more, spaces⟩ := Nat.exists_eq_succ_of_ne_zero option.apart.ne'
  have noSpace : .char ' ' ∉ option.word := by
    intro member
    have solid := option.solid_word ' ' member
    contradiction
  have blank : Text.allBlank (List.replicate more (.char ' ')) = true := by
    rw [Text.allBlank_eq_true_iff]
    intro c member
    rw [List.eq_of_mem_replicate member]
    rfl
  rw [takeEchoWord, text, spaces, List.replicate_succ, List.append_assoc, List.cons_append,
    Text.cutAt_append noSpace]
  dsimp only
  rw [Text.trimLeft_append blank, Text.trimLeft_eq_self visible]

theorem visible_append (options : List EchoOption) {rest : Text}
    (visible : ∀ c, rest.head? = some c → Text.isBlank c = false) :
    ∀ c, (options.flatMap text ++ rest).head? = some c → Text.isBlank c = false := by
  cases options with
  | nil => exact visible
  | cons option others =>
      intro c first
      rw [List.flatMap_cons, text, List.append_assoc, List.append_assoc,
        List.head?_append_of_ne_nil _ option.word_ne_nil] at first
      exact option.solid_word c (List.mem_of_head? first)

end EchoOption

theorem takeEchoWord_fst (text : Text) :
    (takeEchoWord text).1 = text.takeWhile (· ≠ .char ' ') := by
  rw [takeEchoWord]
  split
  · next word rest cut =>
      obtain ⟨rfl, noSpace⟩ := Text.cutAt_eq_some cut
      rw [List.takeWhile_append_of_pos, List.takeWhile_cons_of_neg (by simp), List.append_nil]
      rintro c member
      have different : c ≠ ' ' := fun same => noSpace (same ▸ member)
      simpa using different
  · next uncut =>
      rw [Text.cutAt_eq_none_iff] at uncut
      refine (List.takeWhile_eq_self_iff.mpr fun c member => ?_).symm
      have different : c ≠ ' ' := fun same => uncut (same ▸ member)
      simpa using different

theorem takeEchoOptions_of_not_mem (ending : EchoEnding) {text : Text}
    (noOption : text.takeWhile (· ≠ .char ' ') ∉ echoOptionWords) :
    takeEchoOptions ending text = (ending, text) := by
  rw [takeEchoOptions]
  split
  · rfl
  · rw [takeEchoWord_fst, echoOption?_of_not_mem noOption]

theorem takeEchoOptions_append (ending : EchoEnding) (options : List EchoOption) {text : Text}
    (visible : ∀ c, text.head? = some c → Text.isBlank c = false)
    (noOption : text.takeWhile (· ≠ .char ' ') ∉ echoOptionWords) :
    takeEchoOptions ending (options.flatMap EchoOption.text ++ text) =
      (⟨ending.withoutNewline || EchoOption.asks 'n' options,
        ending.withSpace || EchoOption.asks 's' options⟩, text) := by
  induction options generalizing ending with
  | nil =>
      have stopped := takeEchoOptions_of_not_mem ending noOption
      simpa [EchoOption.asks] using stopped
  | cons option others ih =>
      have taken := option.takeEchoWord_text_append (EchoOption.visible_append others visible)
      rw [List.flatMap_cons, List.append_assoc, takeEchoOptions, dif_neg, taken]
      · dsimp only
        rw [echoOption?_of_mem option.isOption]
        dsimp only
        rw [ih]
        simp only [EchoOption.asks, List.any_cons, Bool.or_assoc]
      · simp [EchoOption.text, option.word_ne_nil]

theorem writeText_options {line : CommandLine} (options : List EchoOption) {text : Text}
    (argument : line.argument = some (options.flatMap EchoOption.text ++ text))
    (visible : ∀ c, text.head? = some c → Text.isBlank c = false)
    (noOption : text.takeWhile (· ≠ .char ' ') ∉ echoOptionWords) :
    writeText line = .success (text ++ EchoOption.ending options) := by
  rw [writeText, CommandLine.text, argument, Option.getD_some,
    takeEchoOptions_append _ options visible noOption]
  rfl

end Utility

def echoLine (options : List Utility.EchoOption) (text : Text) : Text :=
  "echo".text ++ .char ' ' :: (options.flatMap Utility.EchoOption.text ++ text)

theorem effectOf_echo (state : State) {line : Text} {cut : CommandLine}
    (read : CommandLine.read? line = some cut) (named : cut.name = "echo".text) :
    effectOf Registry.standard state line = .returning (Utility.writeText cut) := by
  have noBuiltin : Builtin.ofName? (Text.lower "echo".text) = none := by decide +kernel
  have registered : Registry.standard.lookup (Text.lower "echo".text) = some .echo := by
    decide +kernel
  rw [effectOf, read]
  dsimp only
  rw [Recognized.of, named, noBuiltin]
  dsimp only
  rw [registered]
  rfl

section

variable (options : List Utility.EchoOption) {text : Text} (occupied : text ≠ [])
  (last : ∀ c ∈ text.getLast?, Text.isBlank c = false)

include occupied last

theorem getLast?_arguments :
    ∀ c, (options.flatMap Utility.EchoOption.text ++ text).getLast? = some c →
      Text.isBlank c = false := by
  intro c found
  rw [List.getLast?_append_of_ne_nil _ occupied] at found
  exact last c found

theorem trim_echoLine : Text.trim (echoLine options text) = echoLine options text := by
  have solid : Text.Solid "echo".text := by decide
  exact solid.trim_append (by decide) (List.append_ne_nil_of_right_ne_nil _ occupied)
    (getLast?_arguments options occupied last)

theorem effectOf_echoLine (state : State) (first : ∀ c ∈ text.head?, Text.isBlank c = false)
    (noOption : text.takeWhile (· ≠ .char ' ') ∉ Utility.echoOptionWords) :
    effectOf Registry.standard state (echoLine options text) =
      .returning (.success (text ++ Utility.EchoOption.ending options)) := by
  have solid : Text.Solid "echo".text := by decide
  have trimmed := Text.trim_eq_self (Utility.EchoOption.visible_append options first)
    (getLast?_arguments options occupied last)
  have read := CommandLine.read?_of_argument solid (by decide)
    (List.append_ne_nil_of_right_ne_nil _ occupied) trimmed
  rw [echoLine, effectOf_echo state read rfl, Utility.writeText_options options rfl first noOption]

end

namespace Escape

theorem quote_append_of_plain {front : Text} (plain : Plain front) (text : Text) :
    quote (front ++ text) = front ++ quote text := by
  unfold quote
  induction front with
  | nil => rfl
  | cons c rest ih =>
      obtain ⟨⟨noBackslash, noBrace, noDollar, noMark⟩, plainRest⟩ := List.forall_mem_cons.mp plain
      rw [List.cons_append, quoteAfter, if_neg noBackslash, if_neg (by simp [noBrace, noDollar]),
        if_neg noMark, ih plainRest]
      rfl

end Escape

theorem Utility.EchoOption.plain_text (option : EchoOption) : Escape.Plain option.text := by
  have plainWord : ∀ word ∈ echoOptionWords, Escape.Plain word := by decide
  refine List.forall_mem_append.mpr ⟨plainWord option.word option.isOption, fun c member => ?_⟩
  rw [List.eq_of_mem_replicate member]
  decide

theorem quote_echoLine (options : List Utility.EchoOption) (text : Text) :
    Escape.quote (echoLine options text) = echoLine options (Escape.quote text) := by
  have plain : Escape.Plain ("echo ".text ++ options.flatMap Utility.EchoOption.text) := by
    have plainName : Escape.Plain "echo ".text := by decide
    refine List.forall_mem_append.mpr ⟨plainName, fun c member => ?_⟩
    obtain ⟨option, -, inside⟩ := List.mem_flatMap.mp member
    exact option.plain_text c inside
  have shape (behind : Text) : echoLine options behind =
      ("echo ".text ++ options.flatMap Utility.EchoOption.text) ++ behind := by
    rw [List.append_assoc]
    rfl
  rw [shape, shape, Escape.quote_append_of_plain plain]

namespace Session

theorem run_of_single {session : Session} {line command : Text} {result : Result}
    (expanded : Expansion.expand session.state line = .ok ([command], session.state))
    (trimmed : Text.trim command = command) (nonempty : command ≠ [])
    (effect : effectOf session.settings.registry session.state command = .returning result) :
    session.run line =
      (.ok result,
        { session with
          state := { session.state with lastExitCode := result.exitCode }.rememberLine line }) := by
  have taken : (Step.take session.settings.registry session.state command).after =
      { session.state with lastExitCode := result.exitCode } := by
    simp only [Step.take, execute, effect]
    rfl
  unfold run
  rw [runLine_of_single _ expanded trimmed nonempty, effect, taken]
  rfl

/-- Quoted behind option words, a text is written by `echo` as it is, with the ending that the
options ask for; nothing else happens but that the line is remembered. -/
theorem run_echo_quote {session : Session} (standard : session.settings.registry = .standard)
    (options : List Utility.EchoOption) {text : Text} (occupied : text ≠ [])
    (first : ∀ c ∈ text.head?, Text.isBlank c = false)
    (last : ∀ c ∈ text.getLast?, Text.isBlank c = false)
    (noOption : text.takeWhile (· ≠ .char ' ') ∉ Utility.echoOptionWords) :
    let line := echoLine options (Escape.quote text)
    session.run line =
      (.ok ⟨text ++ Utility.EchoOption.ending options, [], 0⟩,
        { session with
          state := { session.state with
            history := session.state.history ++ [line]
            lastExitCode := 0 } }) := by
  intro line
  have quoted : line = Escape.quote (echoLine options text) := (quote_echoLine options text).symm
  have safe : Escape.Protected line := quoted ▸ Escape.protectedAfter_quoteAfter 0 _
  have restored : Escape.strip line = echoLine options text :=
    quoted ▸ Escape.stripAfter_quoteAfter 0 _
  have expanded : Expansion.expand session.state line =
      .ok ([echoLine options text], session.state) := by
    rw [Expansion.expand_of_protected safe, restored]
  have effect : effectOf session.settings.registry session.state (echoLine options text) = _ :=
    standard ▸ effectOf_echoLine options occupied last session.state first noOption
  have ran := run_of_single expanded (trim_echoLine options occupied last)
    (List.cons_ne_nil _ _) effect
  have visible : Text.allBlank line = false := rfl
  rw [State.rememberLine, visible, if_neg Bool.false_ne_true, State.remember, History.add,
    History.resolve_of_protected safe] at ran
  exact ran

/-- A text with every kind of trigger, a tab and what looks like an option. -/
theorem run_echo_quote_with_triggers :
    let session := start Settings.standard ⟨Bindings.empty, ['/']⟩
    let options : List Utility.EchoOption :=
      [⟨"-n".text, 2, by decide, by decide⟩, ⟨"-s".text, 1, by decide, by decide⟩]
    let text : Text := "-n\t$x \\{a,b}  !!!\\".text
    text ≠ [] ∧ text.takeWhile (· ≠ .char ' ') ∉ Utility.echoOptionWords ∧
      echoLine options (Escape.quote text) =
        "echo -n  -s -n\t\\$x \\\\\\{a,b}  !\\!!\\".text ∧
      (session.run (echoLine options (Escape.quote text))).1 =
        .ok ⟨text ++ [.char ' '], [], 0⟩ := by
  intro session options text
  have occupied : text ≠ [] := by decide
  have noOption : text.takeWhile (· ≠ .char ' ') ∉ Utility.echoOptionWords := by decide
  have first : ∀ c ∈ text.head?, Text.isBlank c = false := by
    rintro c ⟨⟩
    rfl
  have last : ∀ c ∈ text.getLast?, Text.isBlank c = false := by
    rintro c ⟨⟩
    rfl
  have written : (session.run (echoLine options (Escape.quote text))).1 =
      .ok ⟨text ++ Utility.EchoOption.ending options, [], 0⟩ := by
    rw [run_echo_quote rfl options occupied first last noOption]
  exact ⟨occupied, noOption, by decide +kernel, written⟩

end Session

end LineShell
