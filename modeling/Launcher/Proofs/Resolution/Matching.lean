import Launcher.Proofs.Resolution.Assignment
/-!
What a mode takes from an earlier launch. The launch is chosen by the name of the matched mode, and
its values come before everything else that could decide a parameter. -/
namespace Launcher

/-- The launch to take values from: the latest one of a mode with the name, else the one right
before. -/
inductive IsChosen (earlier : List Launch) (name : String) : Launch → Prop
  | named {before launch after} : earlier = before ++ launch :: after → launch.mode.name = name →
      (∀ l ∈ after, l.mode.name ≠ name) → IsChosen earlier name launch
  | last {before launch} : earlier = before ++ [launch] → (∀ l ∈ earlier, l.mode.name ≠ name) →
      IsChosen earlier name launch

section Choice

variable {earlier : List Launch} {mode : Mode} {wanted : MatchedMode} {launch : Launch}

theorem matchedLaunch_of_unmatched (h : mode.matched = none) :
    matchedLaunch earlier mode = none := by
  simp [matchedLaunch, h]

@[simp] theorem matchedLaunch_nil : matchedLaunch [] mode = none := by
  simp [matchedLaunch]

theorem find?_reverse_eq_some_iff {name : String} :
    earlier.reverse.find? (fun l => l.mode.name == name) = some launch ↔
      ∃ before after, earlier = before ++ launch :: after ∧ launch.mode.name = name ∧
        ∀ l ∈ after, l.mode.name ≠ name := by
  rw [List.find?_eq_some_iff_append]
  constructor
  · rintro ⟨found, after, before, split, after_differ⟩
    refine ⟨before.reverse, after.reverse, ?_, by simpa using found, fun l hl => ?_⟩
    · rw [← List.reverse_reverse earlier, split]
      simp
    · simpa using after_differ l (List.mem_reverse.1 hl)
  · rintro ⟨before, after, rfl, found, after_differ⟩
    refine ⟨by simpa using found, after.reverse, before.reverse, by simp, fun l hl => ?_⟩
    simpa using after_differ l (List.mem_reverse.1 hl)

theorem matchedLaunch_eq_some_iff (h : mode.matched = some wanted) :
    matchedLaunch earlier mode = some launch ↔ IsChosen earlier wanted.name launch := by
  simp only [matchedLaunch, h, Option.bind_some, Option.or_eq_some_iff, find?_reverse_eq_some_iff]
  constructor
  · rintro (⟨before, after, split, found, after_differ⟩ | ⟨unnamed, last⟩)
    · exact .named split found after_differ
    · obtain ⟨before, split⟩ := List.getLast?_eq_some_iff.1 last
      refine .last split fun l hl => ?_
      simpa using List.find?_eq_none.1 unnamed l (List.mem_reverse.2 hl)
  · rintro (⟨split, found, after_differ⟩ | ⟨split, all_differ⟩)
    · exact .inl ⟨_, _, split, found, after_differ⟩
    · refine .inr ⟨List.find?_eq_none.2 fun l hl => ?_, List.getLast?_eq_some_iff.2 ⟨_, split⟩⟩
      simpa using all_differ l (List.mem_reverse.1 hl)

/-- A mode with a matched mode finds a launch wherever there is an earlier one. -/
theorem exists_chosen (h : mode.matched = some wanted) (some_earlier : earlier ≠ []) :
    ∃ launch, IsChosen earlier wanted.name launch := by
  have found : (matchedLaunch earlier mode).isSome = true := by
    simp [matchedLaunch, h, Option.isSome_or, some_earlier]
  obtain ⟨launch, hl⟩ := Option.isSome_iff_exists.1 found
  exact ⟨launch, (matchedLaunch_eq_some_iff h).1 hl⟩

end Choice

namespace Resolution

variable {mode : Mode} {wanted : MatchedMode} {matched : Option Launch} {p : Parameter}
variable {text : String}

/-- What is taken from a launch, for the names that both modes declare. -/
theorem matchedValue_some (h : mode.matched = some wanted) (launch : Launch) (p : Parameter) :
    matchedValue mode (some launch) p =
      if p.name ∈ wanted.parameterNames then launch.parameter? p.name else none := by
  simp [matchedValue, Mode.isUnmatched, Mode.isMatched, h]

/-- Launches that agree on the names that both modes declare are the same to match against. -/
theorem sameMatch_of_agree (h : mode.matched = some wanted) {launch other : Launch}
    (agree : ∀ p ∈ mode.parameters, p.name ∈ wanted.parameterNames →
      launch.parameter? p.name = other.parameter? p.name) :
    SameMatch mode (some launch) (some other) := by
  refine ⟨rfl, fun p hp => ?_⟩
  rw [matchedValue_some h, matchedValue_some h]
  split
  next declared => exact agree p hp declared
  next => rfl

variable {d : Discovery σ} {ps : List Parameter} {overrides leftover : List String} {world : σ}
variable {values : List Value}

/-- The value that a parameter has before its candidates are looked at. -/
def ownValue (mode : Mode) (matched : Option Launch) (p : Parameter) : Option Value :=
  ((matchedValue mode matched p).map .text).or p.default

theorem choose_of_own {own : Value} (h : ownValue mode matched p = some own) :
    (choose d mode matched (p :: ps) overrides world).1 =
      (choose d mode matched ps overrides world).1.after own := by
  unfold ownValue at h
  simp only [choose]
  cases hm : matchedValue mode matched p with
  | some text =>
    obtain rfl : Value.text text = own := by simpa [hm] using h
    rfl
  | none =>
    obtain hd : p.default = some own := by simpa [hm] using h
    simp only [hd]

/-- A complete pass begins with a value for the first parameter, its own if it has one. -/
theorem choose_cons_complete
    (h : (choose d mode matched (p :: ps) overrides world).1 = .complete values leftover) :
    ∃ value rest overrides' world', values = value :: rest ∧
      (choose d mode matched ps overrides' world').1 = .complete rest leftover ∧
      ∀ own, ownValue mode matched p = some own → value = own := by
  cases held : ownValue mode matched p with
  | some own =>
    rw [choose_of_own held] at h
    obtain ⟨rest, split, later⟩ := after_eq_complete h
    exact ⟨_, _, _, _, split, later, fun _ same => Option.some.inj same⟩
  | none =>
    -- A candidate or an override decides the parameter, and the pass goes on behind it.
    have goes_on {value : Value} {overrides' : List String} {world' : σ}
        (h : (choose d mode matched ps overrides' world').1.after value =
          .complete values leftover) :
        ∃ value rest overrides' world', values = value :: rest ∧
          (choose d mode matched ps overrides' world').1 = .complete rest leftover ∧
          ∀ own, none = some own → value = own := by
      obtain ⟨rest, split, later⟩ := after_eq_complete h
      exact ⟨_, _, _, _, split, later, nofun⟩
    obtain ⟨unmatched, no_default⟩ := Option.or_eq_none_iff.1 held
    simp only [choose, Option.map_eq_none_iff.1 unmatched, no_default] at h
    split at h
    · exact goes_on h
    · split at h
      · exact goes_on h
      · cases h

/-- Whatever the candidates and the overrides are, the own values are taken. -/
theorem choose_own
    (h : (choose d mode matched ps overrides world).1 = .complete values leftover) {i : Nat}
    (hp : ps[i]? = some p) {own : Value} (held : ownValue mode matched p = some own) :
    values[i]? = some own := by
  induction ps generalizing overrides world values i with
  | nil => simp at hp
  | cons q ps ih =>
    obtain ⟨value, rest, overrides', world', rfl, later, first⟩ := choose_cons_complete h
    cases i with
    | zero =>
      obtain rfl := Option.some.inj hp
      rw [first own held]
      rfl
    | succ i => exact ih later hp

theorem resolve_ok {program : Program} {launch : Launch}
    (h : (resolve d program mode matched overrides world).1.result = .ok launch) :
    ∃ values leftover,
      (choose d mode matched mode.parameters overrides world).1 = .complete values leftover ∧
      launch = .ofArguments program mode (values.map Value.render) := by
  simp only [resolve] at h
  cases hc : (choose d mode matched mode.parameters overrides world).1 with
  | complete values leftover =>
    rw [hc] at h
    exact ⟨values, leftover, rfl, (Except.ok.inj h).symm⟩
  | stopped decided q candidates later =>
    rw [hc] at h
    cases h

/-- A launch after some answers is the launch of one resolution, with more overrides. -/
theorem resolveAsking_ok {program : Program} {answers : List String} {launch : Launch}
    (h : (resolveAsking d program mode matched overrides answers world).1.result = .ok launch) :
    ∃ overrides' world',
      (resolve d program mode matched overrides' world').1.result = .ok launch := by
  induction answers generalizing overrides world with
  | nil => exact ⟨_, _, h⟩
  | cons answer rest ih =>
    simp only [resolveAsking] at h
    split at h
    next done => exact ⟨_, _, done.trans h⟩
    next => exact ih h

theorem resolveAsking_matched {program : Program} {answers : List String} {launch : Launch}
    (h : (resolveAsking d program mode matched overrides answers world).1.result = .ok launch)
    {i : Nat} (hp : mode.parameters[i]? = some p) (hm : matchedValue mode matched p = some text) :
    launch.arguments[i]? = some text := by
  obtain ⟨overrides', world', once⟩ := resolveAsking_ok h
  obtain ⟨values, leftover, complete, rfl⟩ := resolve_ok once
  have taken := choose_own complete hp (by rw [ownValue, hm]; rfl)
  simp [Launch.ofArguments, taken, Value.render]

end Resolution
end Launcher
