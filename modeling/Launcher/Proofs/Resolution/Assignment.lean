import Launcher.Proofs.Candidates
import Launcher.Proofs.Resolution.Discovery
/-!
Where each parameter of a resolved mode has its text from. A parameter that neither a matched launch
nor a default nor an only candidate decides is free; the free parameters take the overrides in
order, and there is a launch exactly when there are enough of them. -/
namespace Launcher

namespace Resolution

/-- The matched launch has no value for the parameter, or none that the mode may take. -/
def NothingMatched (mode : Mode) (matched : Option Launch) (p : Parameter) : Prop :=
  matched = none ∨ (∃ launch, matched = some launch ∧ launch.parameter? p.name = none) ∨
    ∃ other, mode.matched = some other ∧ p.name ∉ other.parameterNames

/-- Nothing but an override decides the parameter. -/
structure IsFree (discovery : Discovery σ) (mode : Mode) (matched : Option Launch) (world : σ)
    (p : Parameter) : Prop where
  nothing_matched : NothingMatched mode matched p
  no_default : p.default = none
  no_single : ∀ c, (p.candidates discovery world).1 = some c → c.count ≠ 1

/-- The text that belongs to a parameter with `k` free parameters before it. -/
inductive Gets (discovery : Discovery σ) (mode : Mode) (matched : Option Launch)
    (overrides : List String) (world : σ) (k : Nat) (p : Parameter) : String → Prop where
  | matched {launch text} : ¬ NothingMatched mode matched p → matched = some launch →
      launch.parameter? p.name = some text → Gets discovery mode matched overrides world k p text
  | default {value} : NothingMatched mode matched p → p.default = some value →
      Gets discovery mode matched overrides world k p value.render
  | candidate {c value} : NothingMatched mode matched p → p.default = none →
      (p.candidates discovery world).1 = some c → c.values = [value] →
      Gets discovery mode matched overrides world k p value.render
  | override {text} : IsFree discovery mode matched world p → overrides[k]? = some text →
      Gets discovery mode matched overrides world k p text

theorem matchedValue_eq_none_iff {mode : Mode} {matched : Option Launch} {p : Parameter} :
    matchedValue mode matched p = none ↔ NothingMatched mode matched p := by
  unfold matchedValue NothingMatched Mode.isUnmatched Mode.isMatched
  cases mode.matched with
  | none => cases matched <;> simp
  | some other =>
    cases matched with
    | none => simp
    | some launch => by_cases hn : p.name ∈ other.parameterNames <;> simp [hn]

theorem matchedValue_eq_some {mode : Mode} {matched : Option Launch} {p : Parameter}
    {text : String} (h : matchedValue mode matched p = some text) :
    ∃ launch, matched = some launch ∧ launch.parameter? p.name = some text := by
  unfold matchedValue at h
  split at h
  · cases h
  · exact Option.bind_eq_some_iff.1 h

/-- The value that a parameter has without overrides. -/
def decided (discovery : Discovery σ) (mode : Mode) (matched : Option Launch) (world : σ)
    (p : Parameter) : Option Value :=
  ((matchedValue mode matched p).map .text).or
    (p.default.or ((p.candidates discovery world).1.bind Candidates.single))

section Stable

variable {discovery : Discovery σ} {mode : Mode} {matched : Option Launch} {world : σ}
  {p : Parameter} {ps : List Parameter} {overrides : List String}

theorem decided_eq_none_iff :
    decided discovery mode matched world p = none ↔ IsFree discovery mode matched world p := by
  simp only [decided, Option.or_eq_none_iff, Option.map_eq_none_iff, matchedValue_eq_none_iff,
    Option.bind_eq_none_iff, Candidates.single_eq_none_iff]
  exact ⟨fun ⟨hm, hd, hs⟩ => ⟨hm, hd, hs⟩, fun ⟨hm, hd, hs⟩ => ⟨hm, hd, hs⟩⟩

instance : DecidablePred (IsFree discovery mode matched world) :=
  fun _ => decidable_of_iff _ decided_eq_none_iff

theorem choose_of_decided (h : discovery.IsStable) {value : Value}
    (hv : decided discovery mode matched world p = some value) :
    (choose discovery mode matched (p :: ps) overrides world).1 =
      (choose discovery mode matched ps overrides world).1.after value := by
  have same : ∀ other, (choose discovery mode matched ps overrides other).1 =
      (choose discovery mode matched ps overrides world).1 :=
    fun other => choose_agree h mode matched ps overrides other world
  unfold decided at hv
  simp only [choose]
  cases hm : matchedValue mode matched p with
  | some text =>
    obtain rfl : Value.text text = value := by simpa [hm] using hv
    rfl
  | none =>
    cases hd : p.default with
    | some default =>
      obtain rfl : default = value := by simpa [hm, hd] using hv
      rfl
    | none =>
      have hs : (p.candidates discovery world).1.bind Candidates.single = some value := by
        simpa [hm, hd] using hv
      simp only [hs, same]

theorem choose_of_free (hf : IsFree discovery mode matched world p) :
    choose discovery mode matched (p :: ps) overrides world =
      match overrides with
      | [] => (.stopped 0 p (p.candidates discovery world).1 ps, (p.candidates discovery world).2)
      | text :: rest =>
        let later := choose discovery mode matched ps rest (p.candidates discovery world).2
        (later.1.after (.text text), later.2) := by
  have hm : matchedValue mode matched p = none := matchedValue_eq_none_iff.2 hf.nothing_matched
  have hs : (p.candidates discovery world).1.bind Candidates.single = none :=
    Option.bind_eq_none_iff.2 fun c hc => Candidates.single_eq_none_iff.2 (hf.no_single c hc)
  simp only [choose, hm, hf.no_default, hs]
  cases overrides <;> rfl

/-- With enough overrides the pass is complete, and each free parameter has the override whose
position is the number of free parameters before it. -/
theorem choose_complete (h : discovery.IsStable) (ps : List Parameter) (overrides : List String)
    (enough : ps.countP (IsFree discovery mode matched world) ≤ overrides.length) :
    ∃ values, (choose discovery mode matched ps overrides world).1 =
        .complete values (overrides.drop (ps.countP (IsFree discovery mode matched world))) ∧
      values.length = ps.length ∧ ∀ i p, ps[i]? = some p →
        values[i]? = (decided discovery mode matched world p).or
          (overrides[(ps.take i).countP (IsFree discovery mode matched world)]?.map .text) := by
  induction ps generalizing overrides with
  | nil => exact ⟨[], rfl, rfl, fun i p hp => by simp at hp⟩
  | cons p rest ih =>
    by_cases hf : IsFree discovery mode matched world p
    · rw [List.countP_cons_of_pos (by simpa using hf)] at enough ⊢
      cases overrides with
      | nil => simp at enough
      | cons text overrides =>
        obtain ⟨values, hc, hl, hv⟩ := ih overrides (by simpa using enough)
        refine ⟨.text text :: values, ?_, by simpa using hl, ?_⟩
        · rw [choose_of_free hf]
          dsimp only
          rw [choose_agree h mode matched rest overrides _ world, hc]
          rfl
        · intro i q hq
          cases i with
          | zero =>
            obtain rfl : p = q := by simpa using hq
            simp [decided_eq_none_iff.2 hf]
          | succ i => simpa [List.countP_cons_of_pos, hf] using hv i q (by simpa using hq)
    · rw [List.countP_cons_of_neg (by simpa using hf)] at enough ⊢
      obtain ⟨value, hd⟩ := Option.ne_none_iff_exists'.1 (mt decided_eq_none_iff.1 hf)
      obtain ⟨values, hc, hl, hv⟩ := ih overrides enough
      refine ⟨value :: values, ?_, by simpa using hl, ?_⟩
      · rw [choose_of_decided h hd, hc]
        rfl
      · intro i q hq
        cases i with
        | zero =>
          obtain rfl : p = q := by simpa using hq
          simp [hd]
        | succ i => simpa [List.countP_cons_of_neg, hf] using hv i q (by simpa using hq)

/-- Without enough overrides the pass stops at the first free parameter that has none. -/
theorem choose_stopped (h : discovery.IsStable) (ps : List Parameter) (overrides : List String)
    (few : overrides.length < ps.countP (IsFree discovery mode matched world)) :
    ∃ i p later, (choose discovery mode matched ps overrides world).1 =
        .stopped i p (p.candidates discovery world).1 later ∧
      ps[i]? = some p ∧ IsFree discovery mode matched world p ∧
      (ps.take i).countP (IsFree discovery mode matched world) = overrides.length := by
  induction ps generalizing overrides with
  | nil => simp at few
  | cons p rest ih =>
    by_cases hf : IsFree discovery mode matched world p
    · rw [List.countP_cons_of_pos (by simpa using hf)] at few
      cases overrides with
      | nil => exact ⟨0, p, rest, by rw [choose_of_free hf], rfl, hf, rfl⟩
      | cons text overrides =>
        obtain ⟨i, q, later, hc, hq, hfree, hk⟩ := ih overrides (by simpa using few)
        refine ⟨i + 1, q, later, ?_, by simpa using hq, hfree, ?_⟩
        · rw [choose_of_free hf]
          dsimp only
          rw [choose_agree h mode matched rest overrides _ world, hc]
          rfl
        · simpa [List.countP_cons_of_pos, hf] using hk
    · rw [List.countP_cons_of_neg (by simpa using hf)] at few
      obtain ⟨value, hd⟩ := Option.ne_none_iff_exists'.1 (mt decided_eq_none_iff.1 hf)
      obtain ⟨i, q, later, hc, hq, hfree, hk⟩ := ih overrides few
      refine ⟨i + 1, q, later, ?_, by simpa using hq, hfree, ?_⟩
      · rw [choose_of_decided h hd, hc]
        rfl
      · simpa [List.countP_cons_of_neg, hf] using hk

theorem decided_gets {k : Nat} {value : Value}
    (hv : decided discovery mode matched world p = some value) :
    Gets discovery mode matched overrides world k p value.render := by
  unfold decided at hv
  cases hm : matchedValue mode matched p with
  | some text =>
    obtain rfl : Value.text text = value := by simpa [hm] using hv
    have some_matched : ¬ NothingMatched mode matched p := by
      rw [← matchedValue_eq_none_iff, hm]
      simp
    obtain ⟨launch, hl, ht⟩ := matchedValue_eq_some hm
    exact .matched some_matched hl ht
  | none =>
    have nothing : NothingMatched mode matched p := matchedValue_eq_none_iff.1 hm
    cases hd : p.default with
    | some default =>
      obtain rfl : default = value := by simpa [hm, hd] using hv
      exact .default nothing hd
    | none =>
      have hs : (p.candidates discovery world).1.bind Candidates.single = some value := by
        simpa [hm, hd] using hv
      obtain ⟨c, hc, hs⟩ := Option.bind_eq_some_iff.1 hs
      exact .candidate nothing hd hc (Candidates.values_of_single hs)

theorem after_eq_complete {progress : Progress} {value : Value} {values : List Value}
    {leftover : List String} (h : progress.after value = .complete values leftover) :
    ∃ rest, values = value :: rest ∧ progress = .complete rest leftover := by
  cases progress with
  | complete rest others =>
    obtain ⟨rfl, rfl⟩ := Progress.complete.inj h
    exact ⟨rest, rfl, rfl⟩
  | stopped => cases h

/-- A complete pass is not changed by more overrides; they are all left over. -/
theorem choose_append (h : discovery.IsStable) {values : List Value}
    {leftover : List String} (surplus : List String)
    (hc : (choose discovery mode matched ps overrides world).1 = .complete values leftover) :
    (choose discovery mode matched ps (overrides ++ surplus) world).1 =
      .complete values (leftover ++ surplus) := by
  induction ps generalizing overrides values with
  | nil =>
    obtain ⟨rfl, rfl⟩ := Progress.complete.inj hc
    rfl
  | cons p rest ih =>
    by_cases hf : IsFree discovery mode matched world p
    · rw [choose_of_free hf] at hc ⊢
      cases overrides with
      | nil => cases hc
      | cons text overrides =>
        dsimp only [List.cons_append] at hc ⊢
        rw [choose_agree h mode matched rest _ _ world] at hc ⊢
        obtain ⟨others, rfl, hrest⟩ := after_eq_complete hc
        rw [ih hrest]
        rfl
    · obtain ⟨value, hd⟩ := Option.ne_none_iff_exists'.1 (mt decided_eq_none_iff.1 hf)
      rw [choose_of_decided h hd] at hc ⊢
      obtain ⟨others, rfl, hrest⟩ := after_eq_complete hc
      rw [ih hrest]
      rfl

theorem resolve_of_complete {program : Program} {values : List Value} {leftover : List String}
    (hc : (choose discovery mode matched mode.parameters overrides world).1 =
      .complete values leftover) :
    (resolve discovery program mode matched overrides world).1.result =
      .ok (.ofArguments program mode (values.map Value.render)) := by
  simp only [resolve, hc, conclude]

theorem resolve_of_stopped (program : Program) {i : Nat} {candidates : Option Candidates}
    {later : List Parameter}
    (hc : (choose discovery mode matched mode.parameters overrides world).1 =
      .stopped i p candidates later) :
    ∃ failure, (resolve discovery program mode matched overrides world).1.result =
      .error failure ∧ failure.index = i := by
  simp only [resolve, hc, conclude]
  exact ⟨_, rfl, rfl⟩

/-- With enough overrides there is a launch, which gives every parameter what belongs to it. -/
theorem resolve_enough (h : discovery.IsStable) (program : Program)
    (enough : mode.parameters.countP (IsFree discovery mode matched world) ≤ overrides.length) :
    ∃ launch, (resolve discovery program mode matched overrides world).1.result = .ok launch ∧
      launch.arguments.length = mode.parameters.length ∧
      ∀ i p, mode.parameters[i]? = some p → ∃ text, launch.arguments[i]? = some text ∧
        Gets discovery mode matched overrides world
          ((mode.parameters.take i).countP (IsFree discovery mode matched world)) p text := by
  obtain ⟨values, hc, hl, hv⟩ := choose_complete h _ _ enough
  refine ⟨_, resolve_of_complete hc, by simpa [Launch.ofArguments] using hl, ?_⟩
  intro i p hp
  have hi : i < values.length := hl ▸ (List.getElem?_eq_some_iff.1 hp).1
  have hvalue : values[i]? = some values[i] := List.getElem?_eq_getElem hi
  refine ⟨values[i].render, by simp [Launch.ofArguments, hvalue], ?_⟩
  rw [hv i p hp] at hvalue
  cases hd : decided discovery mode matched world p with
  | some value =>
    obtain rfl : value = values[i] := by simpa [hd] using hvalue
    exact decided_gets hd
  | none =>
    obtain ⟨text, ht, hr⟩ : ∃ text, overrides[(mode.parameters.take i).countP
        (IsFree discovery mode matched world)]? = some text ∧ Value.text text = values[i] := by
      simpa [hd] using hvalue
    rw [← hr]
    exact .override (decided_eq_none_iff.1 hd) ht

/-- Without enough overrides the failure is at the first free parameter that has none. -/
theorem resolve_few (h : discovery.IsStable) (program : Program)
    (few : overrides.length < mode.parameters.countP (IsFree discovery mode matched world)) :
    ∃ failure, (resolve discovery program mode matched overrides world).1.result =
        .error failure ∧
      ∃ p, mode.parameters[failure.index]? = some p ∧ IsFree discovery mode matched world p ∧
        (mode.parameters.take failure.index).countP (IsFree discovery mode matched world) =
          overrides.length := by
  obtain ⟨i, p, later, hc, hp, hf, hk⟩ := choose_stopped h _ _ few
  obtain ⟨failure, hr, rfl⟩ := resolve_of_stopped program hc
  exact ⟨failure, hr, p, hp, hf, hk⟩

/-- Overrides past the number of free parameters do not count. -/
theorem resolve_take (h : discovery.IsStable) (program : Program) (overrides : List String) :
    (resolve discovery program mode matched
        (overrides.take (mode.parameters.countP (IsFree discovery mode matched world)))
        world).1.result =
      (resolve discovery program mode matched overrides world).1.result := by
  rcases Nat.lt_or_ge overrides.length
      (mode.parameters.countP (IsFree discovery mode matched world)) with few | enough
  · rw [List.take_of_length_le (Nat.le_of_lt few)]
  · have taken : mode.parameters.countP (IsFree discovery mode matched world) ≤
        (overrides.take
          (mode.parameters.countP (IsFree discovery mode matched world))).length := by
      rw [List.length_take]
      omega
    obtain ⟨values, hc, -⟩ := choose_complete h _ _ taken
    have whole := choose_append h (overrides.drop
      (mode.parameters.countP (IsFree discovery mode matched world))) hc
    rw [List.take_append_drop] at whole
    rw [resolve_of_complete hc, resolve_of_complete whole]

end Stable

/-- A mode has a launch exactly when no more parameters are free than there are overrides. The
launch has a text for every parameter in order: the override at the number of free parameters
before it, or what decides it. A failure is at the first free parameter without an override. -/
theorem overrides_fill_free_parameters (registry : Registry σ) (h : registry.IsStable)
    (program : Program) (mode : Mode) (matched : Option Launch) (overrides : List String)
    (world : σ) :
    let free := fun p => decide (IsFree registry.discovery mode matched world p)
    let result := fun overrides =>
      (resolve registry.discovery program mode matched overrides world).1.result
    ((∃ launch, result overrides = .ok launch) ↔
      mode.parameters.countP free ≤ overrides.length) ∧
    (∀ launch, result overrides = .ok launch →
      launch.arguments.length = mode.parameters.length ∧
      ∀ i p, mode.parameters[i]? = some p → ∃ text, launch.arguments[i]? = some text ∧
        Gets registry.discovery mode matched overrides world
          ((mode.parameters.take i).countP free) p text) ∧
    result (overrides.take (mode.parameters.countP free)) = result overrides ∧
    (∀ failure, result overrides = .error failure →
      ∃ p, mode.parameters[failure.index]? = some p ∧
        IsFree registry.discovery mode matched world p ∧
        (mode.parameters.take failure.index).countP free = overrides.length) := by
  intro free result
  have hs := h.discovery
  refine ⟨⟨?_, ?_⟩, ?_, resolve_take hs program overrides, ?_⟩
  · rintro ⟨launch, hl⟩
    rcases Nat.lt_or_ge overrides.length (mode.parameters.countP free) with few | enough
    · obtain ⟨failure, hf, -⟩ := resolve_few hs program few
      cases hf.symm.trans hl
    · exact enough
  · intro enough
    obtain ⟨launch, hl, -⟩ := resolve_enough hs program enough
    exact ⟨launch, hl⟩
  · intro launch hl
    rcases Nat.lt_or_ge overrides.length (mode.parameters.countP free) with few | enough
    · obtain ⟨failure, hf, -⟩ := resolve_few hs program few
      cases hf.symm.trans hl
    · obtain ⟨other, ho, hlength, hgets⟩ := resolve_enough hs program enough
      cases ho.symm.trans hl
      exact ⟨hlength, hgets⟩
  · intro failure hf
    rcases Nat.lt_or_ge overrides.length (mode.parameters.countP free) with few | enough
    · obtain ⟨other, ho, hindex⟩ := resolve_few hs program few
      cases ho.symm.trans hf
      exact hindex
    · obtain ⟨launch, hl, -⟩ := resolve_enough hs program enough
      cases hl.symm.trans hf

namespace Sample

/-- Two hosts and one port are known; every call is counted. -/
def registry : Registry Nat :=
  (Registry.empty.register "host" none fun calls =>
    (.list [.text "east", .text "west"], calls + 1)).register "port" none fun calls =>
    (.range 8080 8080, calls + 1)

def listen : Mode :=
  ⟨⟨1⟩, "echo", "listen", [⟨"peer", "text", none, none, false⟩], none⟩

/-- The peer can be matched, the size has a default, the flag and the port are single, and host and
note are free. -/
def connect : Mode :=
  ⟨⟨1⟩, "echo", "connect",
    [⟨"note", "text", none, none, false⟩, ⟨"peer", "text", none, none, false⟩,
      ⟨"size", "text", none, some (.integer 4), false⟩, .literal "-v",
      ⟨"port", "port", none, none, false⟩, ⟨"host", "host", none, none, false⟩],
    some ⟨"listen", ["peer"]⟩⟩

def program : Program := ⟨"echo", ⟨1⟩, "/bin/echo", .ofList [("connect", connect)], none⟩

def listening : Launch := .ofArguments program listen ["me"]

theorem registry_stable : registry.IsStable := by
  intro e he world other
  rcases List.mem_cons.1 he with rfl | he
  · rfl
  · rcases List.mem_cons.1 he with rfl | he
    · rfl
    · cases he

end Sample

example : (resolve Sample.registry.discovery Sample.program Sample.connect
    (some Sample.listening) ["hello", "west", "spare"] 0).1.result.toOption.map (·.arguments) =
      some ["hello", "me", "4", "-v", "8080", "west"] := by decide

theorem overrides_fill_sample : Sample.registry.IsStable ∧
    (∃ launch, (resolve Sample.registry.discovery Sample.program Sample.connect
      (some Sample.listening) ["hello", "west", "spare"] 0).1.result = .ok launch) ∧
    ¬ ∃ launch, (resolve Sample.registry.discovery Sample.program Sample.connect
      (some Sample.listening) ["hello"] 0).1.result = .ok launch :=
  ⟨Sample.registry_stable,
    (overrides_fill_free_parameters _ Sample.registry_stable Sample.program Sample.connect
      (some Sample.listening) ["hello", "west", "spare"] 0).1.2 (by decide),
    fun launched => absurd ((overrides_fill_free_parameters _ Sample.registry_stable
      Sample.program Sample.connect (some Sample.listening) ["hello"] 0).1.1 launched) (by decide)⟩

end Resolution
end Launcher
