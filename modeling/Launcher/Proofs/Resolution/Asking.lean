import Launcher.Proofs.Resolution.Stages
/-!
Asking for what is missing. An answer is one more override, and the mode is resolved again from the
start. Where discovery is stable, the new pass comes to the parameter that failed with this answer
left for it, so every resolution gets further than the one before. -/
namespace Launcher

/-- Asking is one resolution after another, each with one more answer. It ends with a launch, or
when there is no answer left. -/
structure Asking.Unrolls (asking : Asking)
    (result : List String → σ → Except ResolutionFailure Launch) (overrides answers : List String) :
    Prop where
  answered_le : asking.answered.length ≤ answers.length
  left_eq : asking.left = answers.drop asking.answered.length
  failure_eq : ∀ (n : Nat) failure, asking.answered[n]? = some failure →
    ∀ w, result (overrides ++ answers.take n) w = .error failure
  result_eq : ∀ w, result (overrides ++ answers.take asking.answered.length) w = asking.result
  used_up : ∀ failure, asking.result = .error failure → asking.left = []

theorem take_eq_split {xs : List α} {n m : Nat} (before : n < m) (inside : n < xs.length) :
    xs.take m = xs.take n ++ xs[n] :: (xs.take m).drop (n + 1) := by
  have there : n < (xs.take m).length := by
    rw [List.length_take]
    omega
  calc xs.take m
      _ = (xs.take m).take n ++ (xs.take m).drop n := (List.take_append_drop n _).symm
      _ = xs.take n ++ xs[n] :: (xs.take m).drop (n + 1) := by
        rw [List.take_take, Nat.min_eq_left (Nat.le_of_lt before),
          List.drop_eq_getElem_cons there, List.getElem_take]

namespace Resolution

section Answers

variable {d : Discovery σ} {program : Program} {mode : Mode} {matched : Option Launch}
variable {overrides : List String} {world : σ} {failure : ResolutionFailure} {launch : Launch}
variable (stable : d.IsStable)
include stable

theorem result_anywhere (program : Program) (overrides : List String) (w world : σ) :
    (resolve d program mode matched overrides w).1.result =
      (resolve d program mode matched overrides world).1.result :=
  congrArg Resolution.result
    (resolve_alike ((stable_agrees stable).anywhere w world) (.refl mode matched) program
      overrides).result

theorem resolve_ok_append (more : List String) (w : σ)
    (h : (resolve d program mode matched overrides world).1.result = .ok launch) :
    (resolve d program mode matched (overrides ++ more) w).1.result = .ok launch := by
  obtain ⟨values, leftover, complete, rfl⟩ := resolve_ok h
  rw [result_anywhere stable program _ w world]
  exact resolve_of_complete (choose_append stable more complete)

/-- Only fewer overrides than parameters leave a parameter without a value. -/
theorem length_lt_of_error
    (h : (resolve d program mode matched overrides world).1.result = .error failure) :
    overrides.length < mode.parameters.length := by
  by_contra enough
  have free : mode.parameters.countP (IsFree d mode matched world) ≤ overrides.length :=
    Nat.le_trans List.countP_le_length (Nat.le_of_not_lt enough)
  obtain ⟨launch, launched, -⟩ := resolve_enough stable program free
  cases h.symm.trans launched

/-- The next answer is the text of the parameter that failed, and the texts before it stay. -/
theorem answer_fills
    (h : (resolve d program mode matched overrides world).1.result = .error failure) :
    failure.index < mode.parameters.length ∧ ∃ texts, texts.length = failure.index ∧
      (∀ w, GetsPast d mode matched overrides w failure.index texts []) ∧
      ∀ answer more w, GetsPast d mode matched (overrides ++ answer :: more) w
        (failure.index + 1) (texts ++ [answer]) more := by
  obtain ⟨p, texts, w', hp, free, past⟩ := getsPast_of_error h
  have inside := (List.getElem?_eq_some_iff.1 hp).1
  refine ⟨inside, texts, past.length_eq (Nat.le_of_lt inside), fun w => ?_, ?_⟩
  · simpa using past.append stable [] w
  · intro answer more w
    exact (past.append stable (answer :: more) w).next_free stable hp free

theorem arguments_of_answer {texts more : List String} {answer : String} {i : Nat} {w : σ}
    (past : GetsPast d mode matched overrides w (i + 1) (texts ++ [answer]) more)
    (inside : i < mode.parameters.length)
    (h : (resolve d program mode matched overrides world).1.result = .ok launch) :
    launch.arguments.take (i + 1) = texts ++ [answer] := by
  rw [result_anywhere stable program overrides world w] at h
  obtain ⟨left, taken⟩ := getsPast_of_ok inside h
  exact (taken.unique past).1

/-- One more answer leads to a launch with the answer in its place, or to a later failure. -/
theorem answer_progress (answer : String) (w : σ)
    (h : (resolve d program mode matched overrides world).1.result = .error failure) :
    (∃ launch, (resolve d program mode matched (overrides ++ [answer]) w).1.result = .ok launch ∧
      launch.arguments[failure.index]? = some answer) ∨
    ∃ later, (resolve d program mode matched (overrides ++ [answer]) w).1.result = .error later ∧
      failure.index < later.index := by
  obtain ⟨inside, texts, length, -, fills⟩ := answer_fills stable h
  cases again : (resolve d program mode matched (overrides ++ [answer]) w).1.result with
  | ok launch =>
    have taken := arguments_of_answer stable (fills answer [] w) inside again
    refine .inl ⟨launch, rfl, ?_⟩
    rw [← List.getElem?_take_of_lt (Nat.lt_succ_self _), taken, ← length,
      List.getElem?_concat_length]
  | error later => exact .inr ⟨later, rfl, (fills answer [] w).le_index inside again⟩

/-- The rounds of asking, one by one. -/
theorem resolveAsking_unrolls (program : Program) (overrides answers : List String) (world : σ) :
    (resolveAsking d program mode matched overrides answers world).1.Unrolls
      (fun overrides w => (resolve d program mode matched overrides w).1.result) overrides
      answers := by
  induction answers generalizing overrides world with
  | nil =>
    constructor
    · exact Nat.le_refl _
    · rfl
    · intro n failure answered
      cases answered
    · intro w
      rw [List.take_nil, List.append_nil]
      exact result_anywhere stable program overrides w world
    · exact fun _ _ => rfl
  | cons answer rest ih =>
    simp only [resolveAsking]
    split
    next launch launched =>
      constructor
      · exact Nat.zero_le _
      · rfl
      · intro n failure answered
        cases answered
      · intro w
        rw [List.length_nil, List.take_zero, List.append_nil]
        exact (result_anywhere stable program overrides w world).trans launched
      · intro failure failed
        cases failed
    next failure failed =>
      have later := ih (overrides ++ [answer]) (resolve d program mode matched overrides world).2
      have shift (n : Nat) : overrides ++ (answer :: rest).take (n + 1) =
          overrides ++ [answer] ++ rest.take n := by simp
      constructor
      · exact Nat.succ_le_succ later.answered_le
      · exact later.left_eq
      · intro n found hn w
        cases n with
        | zero =>
          obtain rfl : failure = found := by simpa using hn
          rw [List.take_zero, List.append_nil]
          exact (result_anywhere stable program overrides w world).trans failed
        | succ n =>
          rw [shift]
          exact later.failure_eq n found (by simpa using hn) w
      · intro w
        rw [List.length_cons, shift]
        exact later.result_eq w
      · exact later.used_up

section Rounds

variable {answers : List String} {asking : Asking}
variable (rounds : asking.Unrolls
  (fun overrides w => (resolve d program mode matched overrides w).1.result) overrides answers)
include rounds

/-- No round fails without a parameter that has no override yet. -/
theorem answered_le_parameters (world : σ) :
    asking.answered.length ≤ mode.parameters.length := by
  by_contra many
  have last : asking.answered.length - 1 < asking.answered.length := by omega
  have failed := rounds.failure_eq _ _ (List.getElem?_eq_getElem last) world
  have few := length_lt_of_error stable failed
  have used := rounds.answered_le
  rw [List.length_append, List.length_take] at few
  omega

theorem launch_of_enough (world : σ) (enough : mode.parameters.length ≤ answers.length) :
    ∃ launch, asking.result = .ok launch := by
  cases ending : asking.result with
  | ok launch => exact ⟨launch, rfl⟩
  | error failure =>
    have failed := (rounds.result_eq world).trans ending
    have few := length_lt_of_error stable failed
    have none_left := rounds.used_up failure ending
    rw [rounds.left_eq, List.drop_eq_nil_iff] at none_left
    rw [List.length_append, List.length_take] at few
    omega

end Rounds

end Answers

/-- Overrides behind those of a launch do not change it. One more override after a failure leads to
a launch with this text at the parameter that failed, or to a failure at a later one. So the answers
of a user go to the parameters at which the failures before them were, every text that was decided
stays in all later resolutions, and there are no more rounds than parameters. -/
theorem answers_fill_in (registry : Registry σ) (h : registry.IsStable) (program : Program)
    (mode : Mode) (matched : Option Launch) (overrides : List String) (world : σ) :
    let result := fun overrides w =>
      (resolve registry.discovery program mode matched overrides w).1.result
    (∀ launch, result overrides world = .ok launch →
      ∀ more w, result (overrides ++ more) w = .ok launch) ∧
    (∀ failure, result overrides world = .error failure → ∀ answer w,
      (∃ launch, result (overrides ++ [answer]) w = .ok launch ∧
        launch.arguments[failure.index]? = some answer) ∨
      ∃ later, result (overrides ++ [answer]) w = .error later ∧ failure.index < later.index) ∧
    ∀ answers,
      let asking :=
        (resolveAsking registry.discovery program mode matched overrides answers world).1
      asking.Unrolls result overrides answers ∧
      asking.answered.length ≤ mode.parameters.length ∧
      (mode.parameters.length ≤ answers.length → ∃ launch, asking.result = .ok launch) ∧
      ∀ (n : Nat) failure, asking.answered[n]? = some failure →
        ∃ answer texts, answers[n]? = some answer ∧ texts.length = failure.index ∧
          (∀ w, GetsPast registry.discovery mode matched (overrides ++ answers.take n) w
            failure.index texts []) ∧
          (∀ m, n < m → ∀ w, ∃ left, GetsPast registry.discovery mode matched
            (overrides ++ answers.take m) w (failure.index + 1) (texts ++ [answer]) left) ∧
          ∀ launch, asking.result = .ok launch →
            launch.arguments.take (failure.index + 1) = texts ++ [answer] := by
  intro result
  have stable := h.discovery
  refine ⟨?_, ?_, ?_⟩
  · intro launch launched more w
    exact resolve_ok_append stable more w launched
  · intro failure failed answer w
    exact answer_progress stable answer w failed
  · intro answers asking
    have rounds : asking.Unrolls result overrides answers :=
      resolveAsking_unrolls stable program overrides answers world
    refine ⟨rounds, answered_le_parameters stable rounds world,
      launch_of_enough stable rounds world, ?_⟩
    intro n failure hn
    have before : n < asking.answered.length := (List.getElem?_eq_some_iff.1 hn).1
    have given : n < answers.length := Nat.lt_of_lt_of_le before rounds.answered_le
    obtain ⟨inside, texts, length, past, fills⟩ :=
      answer_fills stable (rounds.failure_eq n failure hn world)
    have stays (m : Nat) (later : n < m) (w : σ) :
        GetsPast registry.discovery mode matched (overrides ++ answers.take m) w
          (failure.index + 1) (texts ++ [answers[n]]) ((answers.take m).drop (n + 1)) := by
      have filled := fills answers[n] ((answers.take m).drop (n + 1)) w
      rwa [List.append_assoc, ← take_eq_split later given] at filled
    refine ⟨answers[n], texts, List.getElem?_eq_getElem given, length, past,
      fun m later w => ⟨_, stays m later w⟩, ?_⟩
    intro launch launched
    exact arguments_of_answer stable (stays _ before world) inside
      ((rounds.result_eq world).trans launched)

/-- The peer and the host are asked for; the third answer is not needed. -/
theorem answers_fill_in_sample :
    let asking := (resolveAsking Sample.registry.discovery Sample.program Sample.connect none
      ["hello"] ["me", "west", "spare"] 0).1
    Sample.registry.IsStable ∧ ∃ failure launch texts,
      asking.answered[1]? = some failure ∧ failure.index = 5 ∧ asking.left = ["spare"] ∧
      asking.result = .ok launch ∧ launch.arguments.take 6 = texts ++ ["west"] := by
  intro asking
  obtain ⟨-, -, -, filled⟩ := (answers_fill_in Sample.registry Sample.registry_stable
    Sample.program Sample.connect none ["hello"] 0).2.2 ["me", "west", "spare"]
  obtain ⟨answer, texts, given, -, -, -, taken⟩ := filled 1 _ rfl
  obtain rfl : "west" = answer := Option.some.inj given
  exact ⟨Sample.registry_stable, _, _, texts, rfl, rfl, rfl, rfl, taken _ rfl⟩

end Resolution
end Launcher
