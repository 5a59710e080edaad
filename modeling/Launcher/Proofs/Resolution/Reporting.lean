import Launcher.Proofs.Resolution.Assignment
/-!
What a failed resolution reports. The pass stops at the first parameter that nothing decides; from
there on discovery is asked once more about each parameter, and each entry says what was found on
that occasion. Nothing is assumed about what discovery answers from call to call. -/
namespace Launcher

/-- What is found for a parameter in a world: a literal is its own candidate, and otherwise the
selector of its type is run, if there is one. -/
inductive Registry.Finds (registry : Registry σ) (p : Parameter) (w : σ) :
    Option Candidates → σ → Prop
  | literal : p.isLiteral = true → Finds registry p w (some (.list [.text p.name])) w
  | absent : p.isLiteral = false → registry.selector? p.kind p.subtype = none →
      Finds registry p w none w
  | selected {selector} : p.isLiteral = false →
      registry.selector? p.kind p.subtype = some selector →
      Finds registry p w (some (selector w).1) (selector w).2

theorem Registry.finds_candidates (registry : Registry σ) (p : Parameter) (w : σ) :
    registry.Finds p w (p.candidates registry.discovery w).1
      (p.candidates registry.discovery w).2 := by
  unfold Parameter.candidates
  split
  next literal => exact .literal literal
  next other =>
    have other : p.isLiteral = false := by simpa using other
    simp only [discovery, candidatesFor]
    cases found : registry.selector? p.kind p.subtype with
    | none => exact .absent other found
    | some selector => exact .selected other found

namespace Resolution

/-- The entry for a parameter says what was found. -/
structure Tells (p : Parameter) (found : Option Candidates) (u : Unresolved) : Prop where
  name_eq : u.name = p.name
  none_iff : u.candidates = none ↔ found = none ∨ ∃ c, found = some c ∧ c.values = []
  found_eq : ∀ c, u.candidates = some c → found = some c

/-- The parameters are asked about one after another, and each entry tells what was found. -/
inductive Reports (registry : Registry σ) : List Parameter → σ → List Unresolved → σ → Prop
  | none (w) : Reports registry [] w [] w
  | next {p found u ps us w w' w''} : registry.Finds p w found w' → Tells p found u →
      Reports registry ps w' us w'' → Reports registry (p :: ps) w (u :: us) w''

theorem unresolved_tells (p : Parameter) (found : Option Candidates) :
    Tells p found (unresolved p found) := by
  refine ⟨rfl, ?_, ?_⟩
  · cases found with
    | none => simp [unresolved]
    | some c => simp [unresolved, Candidates.isEmpty_iff_values]
  · intro c told
    exact (Option.filter_eq_some_iff.1 told).1

theorem survey_reports (registry : Registry σ) (ps : List Parameter) (w : σ) :
    Reports registry ps w (survey registry.discovery ps w).1
      (survey registry.discovery ps w).2 := by
  induction ps generalizing w with
  | nil => exact .none w
  | cons p rest ih => exact .next (registry.finds_candidates p w) (unresolved_tells _ _) (ih _)

theorem Reports.names {registry : Registry σ} {ps : List Parameter} {us : List Unresolved}
    {w w' : σ} (h : Reports registry ps w us w') : us.map (·.name) = ps.map (·.name) := by
  induction h with
  | none => rfl
  | next _ tells _ ih => rw [List.map_cons, List.map_cons, tells.name_eq, ih]

section Stopping

variable {d : Discovery σ} {mode : Mode} {matched : Option Launch} {p q : Parameter}
variable {ps later : List Parameter} {overrides : List String} {world w' : σ} {i : Nat}
variable {candidates : Option Candidates}

/-- What the pass does with one parameter, whatever follows it. -/
theorem choose_step (d : Discovery σ) (mode : Mode) (matched : Option Launch) (p : Parameter)
    (overrides : List String) (world : σ) :
    (∃ value left w, ∀ ps, choose d mode matched (p :: ps) overrides world =
      ((choose d mode matched ps left w).1.after value, (choose d mode matched ps left w).2)) ∨
    overrides = [] ∧ IsFree d mode matched world p ∧
      ∀ ps, choose d mode matched (p :: ps) overrides world =
        (.stopped 0 p (p.candidates d world).1 ps, (p.candidates d world).2) := by
  simp only [choose]
  cases unmatched : matchedValue mode matched p with
  | some text => exact .inl ⟨_, _, _, fun _ => rfl⟩
  | none =>
    cases no_default : p.default with
    | some value => exact .inl ⟨_, _, _, fun _ => rfl⟩
    | none =>
      cases no_single : (p.candidates d world).1.bind Candidates.single with
      | some value => exact .inl ⟨_, _, _, fun _ => rfl⟩
      | none =>
        cases overrides with
        | cons text left => exact .inl ⟨_, _, _, fun _ => rfl⟩
        | nil =>
          refine .inr ⟨rfl, ⟨matchedValue_eq_none_iff.1 unmatched, no_default, ?_⟩, fun _ => rfl⟩
          exact fun c found =>
            Candidates.single_eq_none_iff.1 (Option.bind_eq_none_iff.1 no_single c found)

theorem after_eq_stopped {progress : Progress} {value : Value}
    (h : progress.after value = .stopped i p candidates later) :
    ∃ j, i = j + 1 ∧ progress = .stopped j p candidates later := by
  cases progress with
  | complete => cases h
  | stopped j =>
    cases h
    exact ⟨j, rfl, rfl⟩

theorem choose_eq_stopped
    (h : choose d mode matched ps overrides world = (.stopped i p candidates later, w')) :
    ∃ before values w, ps = before ++ p :: later ∧ before.length = i ∧
      choose d mode matched before overrides world = (.complete values [], w) ∧
      p.candidates d w = (candidates, w') ∧ IsFree d mode matched w p := by
  -- A step goes on whatever follows it, so the decided parameters are a pass of their own.
  induction ps generalizing overrides world i with
  | nil => cases h
  | cons q rest ih =>
    rcases choose_step d mode matched q overrides world with
      ⟨value, left, w₁, goes_on⟩ | ⟨rfl, free, stops⟩
    · rw [goes_on, Prod.mk.injEq] at h
      obtain ⟨j, rfl, stopped⟩ := after_eq_stopped h.1
      obtain ⟨before, values, w, rfl, rfl, complete, asked, free⟩ :=
        ih (Prod.ext stopped h.2)
      refine ⟨q :: before, value :: values, w, rfl, rfl, ?_, asked, free⟩
      rw [goes_on, complete]
      rfl
    · rw [stops] at h
      cases h
      exact ⟨[], [], world, rfl, rfl, rfl, rfl, free⟩

theorem resolve_error {program : Program} {failure : ResolutionFailure}
    (h : (resolve d program mode matched overrides world).1.result = .error failure) :
    ∃ before p later values w, mode.parameters = before ++ p :: later ∧
      choose d mode matched before overrides world = (.complete values [], w) ∧
      IsFree d mode matched w p ∧
      failure = ⟨mode.name, before.length, reason (p.candidates d w).1,
        unresolved p (p.candidates d w).1 :: (survey d later (p.candidates d w).2).1⟩ ∧
      (resolve d program mode matched overrides world).2 =
        (survey d later (p.candidates d w).2).2 := by
  simp only [resolve] at h ⊢
  cases pass : choose d mode matched mode.parameters overrides world with
  | mk progress w' =>
    rw [pass] at h
    cases progress with
    | complete values leftover => cases h
    | stopped i p candidates later =>
      obtain ⟨before, values, w, split, rfl, complete, asked, free⟩ := choose_eq_stopped pass
      cases h
      refine ⟨before, p, later, values, w, split, complete, ?_⟩
      rw [asked]
      exact ⟨free, rfl, rfl⟩

theorem reason_ambiguous_iff (p : Parameter) (found : Option Candidates) :
    reason found = .ambiguousCandidates ↔
      ∃ c, (unresolved p found).candidates = some c ∧ 2 ≤ c.values.length := by
  cases found with
  | none => simp [reason, unresolved]
  | some c =>
    have several : reason (some c) = .ambiguousCandidates ↔ 1 < c.count := by
      simp only [reason, Option.map_some, Option.getD_some]
      split <;> simp [*]
    rw [several, Candidates.one_lt_count_iff]
    constructor
    · intro many
      have filled : c.isEmpty = false := by
        rw [← Bool.not_eq_true, Candidates.isEmpty_iff_values]
        rintro none
        simp [none] at many
      exact ⟨c, by simp [unresolved, filled], many⟩
    · rintro ⟨_, told, many⟩
      obtain rfl := Option.some.inj ((unresolved_tells p (some c)).found_eq _ told)
      exact many

theorem reason_none_iff {found : Option Candidates} (p : Parameter)
    (no_single : ∀ c, found = some c → c.count ≠ 1) :
    reason found = .noCandidates ↔ (unresolved p found).candidates = none := by
  have either : reason found = .noCandidates ↔ ¬ reason found = .ambiguousCandidates := by
    cases reason found <;> simp
  rw [either, reason_ambiguous_iff p, Option.eq_none_iff_forall_ne_some]
  constructor
  · intro few c told
    have found_eq := (unresolved_tells p found).found_eq c told
    have filled : c.values ≠ [] := by
      intro none
      have absent := (unresolved_tells p found).none_iff.2 (.inr ⟨c, found_eq, none⟩)
      cases absent.symm.trans told
    have length : c.values.length ≠ 1 := mt Candidates.count_eq_one_iff.2 (no_single c found_eq)
    have positive := List.length_pos_iff.2 filled
    exact few ⟨c, told, by omega⟩
  · rintro none ⟨c, told, -⟩
    exact none c told

end Stopping

/-- A failed resolution reports the parameters from the failing one on, in declared order. Those
before it are decided and no override is left for it; it is found to have none or several
candidates, and the reason says which. For it and for each later parameter the entry tells what
discovery finds on being asked about it, nothing where there is no selector or no candidate,
whatever it answered before and however the parameter would have been decided. -/
theorem failure_reports_rest {registry : Registry σ} {program : Program} {mode : Mode}
    {matched : Option Launch} {overrides : List String} {world : σ} {failure : ResolutionFailure}
    (h : (resolve registry.discovery program mode matched overrides world).1.result =
      .error failure) :
    failure.index < mode.parameters.length ∧
    failure.remaining.map (·.name) = (mode.parameters.drop failure.index).map (·.name) ∧
    (∃ values w,
      choose registry.discovery mode matched (mode.parameters.take failure.index) overrides world =
        (.complete values [], w) ∧
      (∀ p, mode.parameters[failure.index]? = some p →
        IsFree registry.discovery mode matched w p) ∧
      Reports registry (mode.parameters.drop failure.index) w failure.remaining
        (resolve registry.discovery program mode matched overrides world).2) ∧
    ∃ first rest, failure.remaining = first :: rest ∧
      (failure.reason = .ambiguousCandidates ↔
        ∃ c, first.candidates = some c ∧ 2 ≤ c.values.length) ∧
      (failure.reason = .noCandidates ↔ first.candidates = none) ∧
      ∀ c, first.candidates = some c → c.values.length ≠ 1 := by
  obtain ⟨before, p, later, values, w, split, complete, free, rfl, final⟩ := resolve_error h
  have reports : Reports registry (p :: later) w _ _ :=
    .next (registry.finds_candidates p w) (unresolved_tells p _) (survey_reports registry later _)
  have taken : mode.parameters.take before.length = before := by simp [split]
  have left : mode.parameters.drop before.length = p :: later := by simp [split]
  dsimp only
  rw [taken, left, final]
  refine ⟨by simp [split], reports.names, ⟨values, w, complete, ?_, reports⟩, _, _, rfl,
    reason_ambiguous_iff p _, reason_none_iff p free.no_single, ?_⟩
  · intro q hq
    obtain rfl : p = q := by simpa [split] using hq
    exact free
  · intro c told one
    have found := (unresolved_tells p _).found_eq c told
    exact free.no_single c found (Candidates.count_eq_one_iff.2 one)

namespace Sample

/-- The number of ports grows with every call; no host is ever found. -/
def moody : Registry Nat :=
  (Registry.empty.register "port" none fun (calls : Nat) =>
    (.range 8080 (8080 + calls), calls + 1)).register "host" none fun calls =>
    (.list [], calls + 1)

/-- The first port is found alone. -/
def forward : Mode :=
  ⟨⟨1⟩, "echo", "forward",
    [⟨"from", "port", none, none, false⟩, ⟨"to", "port", none, none, false⟩, .literal "-v",
      ⟨"limit", "port", none, some (.integer 4), false⟩, ⟨"host", "host", none, none, false⟩,
      ⟨"note", "text", none, none, false⟩], none⟩

def undecided : ResolutionFailure :=
  ⟨"forward", 1, .ambiguousCandidates,
    [⟨"to", some (.range 8080 8081)⟩, ⟨"-v", some (.list [.text "-v"])⟩,
      ⟨"limit", some (.range 8080 8082)⟩, ⟨"host", none⟩, ⟨"note", none⟩]⟩

end Sample

theorem failure_reports_sample :
    (resolve Sample.moody.discovery Sample.program Sample.forward none [] 0).1.result =
      .error Sample.undecided ∧
    ∃ w,
      Reports Sample.moody (Sample.forward.parameters.drop 1) w Sample.undecided.remaining 4 := by
  have failed : (resolve Sample.moody.discovery Sample.program Sample.forward none [] 0).1.result =
      .error Sample.undecided := rfl
  obtain ⟨-, -, ⟨values, w, -, -, reports⟩, -⟩ := failure_reports_rest failed
  exact ⟨failed, w, reports⟩

end Resolution
end Launcher
