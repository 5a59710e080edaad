import Launcher.Options.Command
import Launcher.Proofs.Options.Reading
/-!
The command lines that resolve or launch a chain. A line is read exactly if it has different options
in front of at least one word; the options say how, and the words are the chain. -/
namespace Launcher

variable {raw : String} {c : Char} {s : List Char}

/-- White space is taken from behind the first two characters, when these are none. -/
theorem Text.trimChars_cons_cons {a b : Char} (ha : isBlank a = false) (hb : isBlank b = false)
    (s : List Char) : ∃ s', trimChars (a :: b :: s) = a :: b :: s' := by
  have behind : trimChars (a :: b :: s) = ((s.reverse ++ [b, a]).dropWhile isBlank).reverse := by
    simp [trimChars, ha]
  rw [behind, List.dropWhile_append]
  split
  next => exact ⟨[], by simp [hb]⟩
  next => exact ⟨((s.reverse).dropWhile isBlank).reverse, by simp⟩

theorem Text.numeral?_of_no_digit (no_digit : baseDigit? 10 c = none) (s : List Char) :
    numeral? 10 (c :: s) = none := by
  simp [numeral?, numeralFrom, no_digit]

/-- No name of a signal has a dash. -/
theorem Signal.stem_no_dash (sig : Signal) : sig.stem.toList.head? ≠ some '-' := by
  cases sig <;> decide

theorem Signal.parse_ne_ok (text : raw.toList = '-' :: c :: s) (visible : Text.isBlank c = false)
    (no_digit : Text.baseDigit? 10 c = none) (sig : Signal) : Signal.parse raw ≠ .ok sig := by
  obtain ⟨s', trimmed⟩ := Text.trimChars_cons_cons (a := '-') (by decide) visible s
  have no_number : Number.integer? 32 ('-' :: c :: s') = none := by
    simp [Number.integer?, Number.signed?, Text.numeral?_of_no_digit no_digit]
  have upper : Text.upperChars ('-' :: c :: s') = '-' :: Text.upperChars (c :: s') := rfl
  have no_name : Signal.ofName? (withCommonLetters (Text.upperChars ('-' :: c :: s'))) = none := by
    refine List.find?_eq_none.2 fun sig _ same => sig.stem_no_dash ?_
    rw [beq_iff_eq, upper] at same
    have stem : sig.stem.toList = '-' :: Text.upperChars (c :: s') := by
      simpa [nameChars, withCommonLetters] using same
    rw [stem, List.head?_cons]
  simp [Signal.parse, text, trimmed, no_number, no_name]

theorem Number.unsigned?_negative (no_digit : Text.isDigit c = false) (no_point : c ≠ '.')
    {x : Binary64} (read : unsigned? true (c :: s) = some x) : x = .infinite true ∨ x = .nan := by
  have no_digits : scientific? (c :: s) = none := by
    simp [scientific?, no_digit, no_point, Text.numeral?]
  rw [unsigned?, no_digits] at read
  split at read
  next => exact .inl (Option.some.inj read).symm
  next =>
    split at read
    next => exact .inr (Option.some.inj read).symm
    next => cases read

theorem Duration.parse_ne_ok (text : raw.toList = '-' :: c :: s) (visible : Text.isBlank c = false)
    (no_digit : Text.isDigit c = false) (no_point : c ≠ '.') (d : Duration) :
    Duration.parse raw ≠ .ok d := by
  obtain ⟨s', trimmed⟩ := Text.trimChars_cons_cons (a := '-') (by decide) visible s
  rw [Duration.parse, text, trimmed, Number.real?]
  cases read : Number.unsigned? true (c :: s') with
  | none => simp
  | some x =>
    rcases Number.unsigned?_negative no_digit no_point read with rfl | rfl
    · simp [ofSeconds]
    · simp [ofSeconds]

namespace Options

/-- The options say what they are given for. -/
structure ResolveOptions.Follows (o : ResolveOptions) (settings : List Setting)
    (words : List String) : Prop where
  json : o.json = true ↔ ("json", none) ∈ settings
  interactive : o.interactive = true ↔ ("interactive", none) ∈ settings
  chain : o.chain = words

/-- Without a timeout there is none, and without a signal it is the one that asks to end. -/
structure LaunchOptions.Follows (o : LaunchOptions) (settings : List Setting)
    (words : List String) : Prop where
  json : o.json = true ↔ ("json", none) ∈ settings
  interactive : o.interactive = true ↔ ("interactive", none) ∈ settings
  timeout : ∀ value, ("timeout", some value) ∈ settings →
    ∃ d, Duration.parse value = .ok d ∧ o.timeout = some d
  no_timeout : (∀ value, ("timeout", some value) ∉ settings) → o.timeout = none
  signal : ∀ value, ("signal", some value) ∈ settings → Signal.parse value = .ok o.signal
  no_signal : (∀ value, ("signal", some value) ∉ settings) → o.signal = .term
  chain : o.chain = words

theorem resolveGrammar_leadsWords : resolveGrammar.LeadsWords where
  names_differ := by decide
  letters_differ := by decide
  named := by decide
  lettered := by decide
  letter_alone := by decide
  verbatim := rfl
  values_ordinary o mem kind := by
    have no_value : ∀ o ∈ resolveGrammar.options, o.kind ≠ .valued := by decide
    exact absurd kind (no_value o mem)

section Launching

variable {value : String}

theorem launchFault_timeout_iff :
    launchFault "timeout" value = none ↔ ∃ d, Duration.parse value = .ok d := by
  cases read : Duration.parse value <;> simp [launchFault, read]

theorem launchFault_signal_iff :
    launchFault "signal" value = none ↔ ∃ sig, Signal.parse value = .ok sig := by
  cases read : Signal.parse value <;> simp [launchFault, read]

theorem launchGrammar_valued : ∀ o ∈ launchGrammar.options, o.kind = .valued →
    o.long = "timeout" ∨ o.long = "signal" := by
  decide

theorem launchGrammar_letters : ∀ o ∈ launchGrammar.options,
    o.short = none ∨ o.short = some 'i' ∨ o.short = some 'h' := by
  decide

/-- A value may have a dash in front, but not as an option has it. -/
theorem launchGrammar_values_ordinary {long : String} (named : long = "timeout" ∨ long = "signal")
    (good : launchFault long value = none) : launchGrammar.IsOrdinary value := by
  by_contra option
  obtain ⟨c, s, text, mark⟩ := Grammar.marked_of_not_ordinary option
  have marks : c = '-' ∨ c = 'i' ∨ c = 'h' := by
    refine mark.imp_right ?_
    rintro ⟨o, mem, letter⟩
    simpa [letter] using launchGrammar_letters o mem
  -- The dash and the letters can stand neither in a number nor before one.
  have plain : Text.isBlank c = false ∧ Text.baseDigit? 10 c = none ∧ Text.isDigit c = false ∧
      c ≠ '.' := by
    rcases marks with rfl | rfl | rfl <;> decide
  obtain ⟨visible, no_digit, no_decimal, no_point⟩ := plain
  rcases named with rfl | rfl
  · obtain ⟨d, read⟩ := launchFault_timeout_iff.1 good
    exact Duration.parse_ne_ok text visible no_decimal no_point d read
  · obtain ⟨sig, read⟩ := launchFault_signal_iff.1 good
    exact Signal.parse_ne_ok text visible no_digit sig read

theorem launchGrammar_leadsWords : launchGrammar.LeadsWords where
  names_differ := by decide
  letters_differ := by decide
  named := by decide
  lettered := by decide
  letter_alone := by decide
  verbatim := rfl
  values_ordinary o mem kind _ good :=
    launchGrammar_values_ordinary (launchGrammar_valued o mem kind) good

variable {s : Given}

theorem LaunchOptions.ofGiven_follows (distinct : (s.settings.map (·.1)).Nodup)
    (settings : ∀ e ∈ s.settings, launchGrammar.IsSetting e.1 e.2) :
    (LaunchOptions.ofGiven s).Follows s.settings s.words := by
  have regular := launchGrammar_leadsWords.toIsRegular
  have fault {long value : String} (set : (long, some value) ∈ s.settings) :
      launchFault long value = none := by
    obtain ⟨_, _, _, _, good⟩ := settings _ set
    exact good
  constructor
  case json => exact Grammar.has_flag_iff (o := jsonForm) regular settings (by decide) rfl
  case interactive =>
    exact Grammar.has_flag_iff (o := interactiveForm) regular settings (by decide) rfl
  case timeout =>
    intro value set
    obtain ⟨d, read⟩ := launchFault_timeout_iff.1 (fault set)
    refine ⟨d, read, ?_⟩
    simp [ofGiven, (Grammar.value?_eq_some_iff distinct).2 set, read, Except.toOption]
  case no_timeout =>
    intro absent
    simp [ofGiven, Grammar.value?_eq_none distinct absent]
  case signal =>
    intro value set
    obtain ⟨sig, read⟩ := launchFault_signal_iff.1 (fault set)
    simp [ofGiven, (Grammar.value?_eq_some_iff distinct).2 set, read, Except.toOption]
  case no_signal =>
    intro absent
    simp [ofGiven, Grammar.value?_eq_none distinct absent]
  case chain => rfl

end Launching

/-- Both commands that take a chain read the options before it, whatever stands in it, and lose no
word of it. -/
theorem chain_read_verbatim :
    resolveGrammar.ReadsVerbatim ResolveOptions.read ResolveOptions.Follows ∧
      launchGrammar.ReadsVerbatim LaunchOptions.read LaunchOptions.Follows := by
  constructor
  · refine resolveGrammar_leadsWords.readsVerbatim rfl fun s _ settings => ?_
    have regular := resolveGrammar_leadsWords.toIsRegular
    exact {
      json := Grammar.has_flag_iff (o := jsonForm) regular settings (by decide) rfl
      interactive := Grammar.has_flag_iff (o := interactiveForm) regular settings (by decide) rfl
      chain := rfl }
  · exact launchGrammar_leadsWords.readsVerbatim rfl fun s distinct settings =>
      LaunchOptions.ofGiven_follows distinct settings

/-- A value may start with a dash, and a word of the chain may look like an option. -/
theorem chain_read_sample : ∃ o, LaunchOptions.read
      ["--timeout", "-0", "-i", "--", "--json", "+", "--", "-i"] = .ok o ∧
    o.json = false ∧ o.interactive = true ∧ o.timeout = some (.ofNanos 0) ∧ o.signal = .term ∧
      o.chain = ["--json", "+", "--", "-i"] := by
  have timed : launchGrammar.Gives [("timeout", some "-0")] ["--timeout", "-0"] :=
    .separate (o := ⟨"timeout", none, .valued⟩) (by decide) rfl (by decide +kernel)
  have letter : launchGrammar.Letters ['i'] [interactiveForm] := .cons ⟨by decide, rfl⟩ .nil
  have asked : launchGrammar.Gives [("interactive", none)] ["-i"] :=
    .cluster (List.cons_ne_nil _ _) letter (by decide)
  have options := Grammar.Spells.cons timed (.cons asked .nil)
  obtain ⟨o, read, follows⟩ := chain_read_verbatim.2.accepts _ ["--json", "+", "--", "-i"] _
    ⟨_, options, .inr rfl⟩ (by decide) (by decide)
  obtain ⟨d, parsed, timeout⟩ := follows.timeout "-0" (by decide)
  have zero : Duration.parse "-0" = .ok (.ofNanos 0) := by decide +kernel
  obtain rfl := Except.ok.inj (zero.symm.trans parsed)
  refine ⟨o, read, ?_, follows.interactive.2 (by decide), timeout, ?_, follows.chain⟩
  · exact Bool.eq_false_iff.2 fun json => absurd (follows.json.1 json) (by decide)
  · exact follows.no_signal (by simp)

end Options
end Launcher
