import Launcher.Proofs.Resolution.Stages
/-!
What discovery is asked about. A pass asks once about each parameter that has no fixed value, as far
as it comes; the report of a failure asks once about each later parameter that is not a literal. The
account of the questions has no part in the resolution, so discovery may answer as it likes. -/
namespace Launcher.Resolution

/-- Only discovery or an override can tell the value. -/
structure IsAsked (mode : Mode) (matched : Option Launch) (p : Parameter) : Prop where
  not_literal : p.isLiteral = false
  nothing_matched : NothingMatched mode matched p
  no_default : p.default = none

section Account

variable {d : Discovery σ} {program : Program} {mode : Mode} {matched : Option Launch}
variable {p : Parameter} {ps : List Parameter} {overrides : List String}

theorem fixedValue_eq_none_iff : fixedValue mode matched p = none ↔ IsAsked mode matched p := by
  have literal : (if p.isLiteral then some (Value.text p.name) else none) = none ↔
      p.isLiteral = false := by
    cases p.isLiteral <;> simp
  simp only [fixedValue, ownValue, Option.or_eq_none_iff, Option.map_eq_none_iff,
    matchedValue_eq_none_iff, literal]
  constructor
  · rintro ⟨⟨unmatched, no_default⟩, other⟩
    exact ⟨other, unmatched, no_default⟩
  · rintro ⟨other, unmatched, no_default⟩
    exact ⟨⟨unmatched, no_default⟩, other⟩

instance : DecidablePred (IsAsked mode matched) :=
  fun _ => decidable_of_iff _ fixedValue_eq_none_iff

/-- The parameters that a pass looks at: all of them, or those up to the one that stops it. -/
def Progress.reached (ps : List Parameter) : Progress → List Parameter
  | .complete _ _ => ps
  | .stopped i _ _ _ => ps.take (i + 1)

theorem reached_after (progress : Progress) (value : Value) :
    (progress.after value).reached (p :: ps) = p :: progress.reached ps := by
  cases progress <;> rfl

theorem choose_of_asked (h : IsAsked mode matched p) (d : Discovery σ) (ps : List Parameter)
    (overrides : List String) (world : σ) :
    choose d mode matched (p :: ps) overrides world =
      match (d p world).1.bind Candidates.single, overrides with
      | some value, overrides =>
        ((choose d mode matched ps overrides (d p world).2).1.after value,
          (choose d mode matched ps overrides (d p world).2).2)
      | none, text :: overrides =>
        ((choose d mode matched ps overrides (d p world).2).1.after (.text text),
          (choose d mode matched ps overrides (d p world).2).2)
      | none, [] => (.stopped 0 p (d p world).1 ps, (d p world).2) := by
  have asked : p.candidates d world = d p world := by
    simp [Parameter.candidates, h.not_literal]
  simp only [choose, matchedValue_eq_none_iff.2 h.nothing_matched, h.no_default, asked]
  cases (d p world).1.bind Candidates.single with
  | some value => rfl
  | none => cases overrides <;> rfl

theorem choose_accounted (d : Discovery σ) (mode : Mode) (matched : Option Launch)
    (ps : List Parameter) (overrides : List String) (world : σ) (asked : List Parameter) :
    choose d.accounted mode matched ps overrides (world, asked) =
      ((choose d mode matched ps overrides world).1,
        (choose d mode matched ps overrides world).2,
        asked ++ ((choose d mode matched ps overrides world).1.reached ps).filter
          (IsAsked mode matched)) := by
  induction ps generalizing overrides world asked with
  | nil => simp [choose, Progress.reached]
  | cons p rest ih =>
    cases fixed : fixedValue mode matched p with
    | some value =>
      have unasked : ¬ IsAsked mode matched p := by
        rw [← fixedValue_eq_none_iff, fixed]
        exact Option.some_ne_none value
      rw [choose_of_fixed fixed, choose_of_fixed fixed, ih]
      simp [reached_after, unasked]
    | none =>
      have needed : IsAsked mode matched p := fixedValue_eq_none_iff.1 fixed
      have noted : d.accounted p (world, asked) =
          ((d p world).1, (d p world).2, asked ++ [p]) := rfl
      rw [choose_of_asked needed, choose_of_asked needed, noted]
      dsimp only
      cases (d p world).1.bind Candidates.single with
      | some value =>
        simp [ih, reached_after, needed]
      | none =>
        cases overrides with
        | nil => simp [Progress.reached, needed]
        | cons text overrides => simp [ih, reached_after, needed]

theorem survey_accounted (d : Discovery σ) (ps : List Parameter) (world : σ)
    (asked : List Parameter) :
    survey d.accounted ps (world, asked) =
      ((survey d ps world).1, (survey d ps world).2,
        asked ++ ps.filter fun p => !p.isLiteral) := by
  induction ps generalizing world asked with
  | nil => simp [survey]
  | cons p rest ih =>
    cases literal : p.isLiteral with
    | true => simp [survey, Parameter.candidates, literal, ih]
    | false =>
      have noted : d.accounted p (world, asked) =
          ((d p world).1, (d p world).2, asked ++ [p]) := rfl
      simp [survey, Parameter.candidates, literal, noted, ih]

/-- In every order the same parameters are surveyed. -/
theorem survey_any_order (d : Discovery σ) {order : List Parameter} (same : order.Perm ps)
    (w : σ) (noted : List Parameter) :
    ∃ surveyed, (survey d.accounted order (w, noted)).2.2 = noted ++ surveyed ∧
      surveyed.Perm (ps.filter fun p => !p.isLiteral) := by
  refine ⟨order.filter fun p => !p.isLiteral, ?_, same.filter _⟩
  rw [survey_accounted]

end Account

/-- Discovery is asked at most once about each parameter. A launch has asked, in declared order,
about the parameters that are no literals, have nothing from the matched launch and no default. A
failure has asked about those up to the parameter that failed, and about every later one that is not
a literal, in whatever order these are surveyed. -/
theorem discovery_asked_once (registry : Registry σ) (program : Program) (mode : Mode)
    (matched : Option Launch) (overrides : List String) (world : σ) (asked : List Parameter) :
    let plain := resolve registry.discovery program mode matched overrides world
    ∃ questions,
      resolve registry.discovery.accounted program mode matched overrides (world, asked) =
        (plain.1, plain.2, asked ++ questions) ∧
      questions.Sublist mode.parameters ∧
      (∀ launch, plain.1.result = .ok launch →
        questions = mode.parameters.filter (IsAsked mode matched)) ∧
      ∀ failure, plain.1.result = .error failure →
        questions = (mode.parameters.take (failure.index + 1)).filter (IsAsked mode matched) ++
          (mode.parameters.drop (failure.index + 1)).filter (fun p => !p.isLiteral) ∧
        ∀ order, order.Perm (mode.parameters.drop (failure.index + 1)) → ∀ w noted, ∃ surveyed,
          (survey registry.discovery.accounted order (w, noted)).2.2 = noted ++ surveyed ∧
          surveyed.Perm
            ((mode.parameters.drop (failure.index + 1)).filter fun p => !p.isLiteral) := by
  intro plain
  have noted := choose_accounted registry.discovery mode matched mode.parameters overrides world
    asked
  cases pass : choose registry.discovery mode matched mode.parameters overrides world with
  | mk progress w =>
    rw [pass] at noted
    cases progress with
    | complete values leftover =>
      have launched : plain.1.result =
          .ok (.ofArguments program mode (values.map Value.render)) :=
        resolve_of_complete (congrArg Prod.fst pass)
      refine ⟨mode.parameters.filter (IsAsked mode matched), ?_, List.filter_sublist,
        fun _ _ => rfl, fun failure failed => ?_⟩
      · simp only [plain, resolve, noted, pass, conclude, Progress.reached]
      · cases launched.symm.trans failed
    | stopped i p candidates later =>
      obtain ⟨before, values', w', split, rfl, -, -, -⟩ := choose_eq_stopped pass
      have index : ∃ failure, plain.1.result = .error failure ∧ failure.index = before.length :=
        resolve_of_stopped program (congrArg Prod.fst pass)
      obtain ⟨failure, failed, index⟩ := index
      have later_eq : mode.parameters.drop (before.length + 1) = later := by simp [split]
      refine ⟨(mode.parameters.take (before.length + 1)).filter (IsAsked mode matched) ++
        (mode.parameters.drop (before.length + 1)).filter (fun p => !p.isLiteral), ?_, ?_, ?_, ?_⟩
      · simp only [plain, resolve, noted, pass, conclude, Progress.reached, survey_accounted,
          later_eq, List.append_assoc]
      · conv => right; rw [← List.take_append_drop (before.length + 1) mode.parameters]
        exact List.filter_sublist.append List.filter_sublist
      · intro launch launched
        cases failed.symm.trans launched
      · intro other failed'
        obtain rfl := Except.error.inj (failed.symm.trans failed')
        rw [index]
        exact ⟨rfl, fun order same w noted => survey_any_order registry.discovery same w noted⟩

/-- With enough overrides the limit keeps its default and is not asked about; the report of a
failure asks about it. -/
theorem discovery_asked_sample :
    (∃ launch, (resolve Sample.moody.discovery Sample.program Sample.forward none
      ["a", "b", "c"] 0).1.result = .ok launch) ∧
    (resolve Sample.moody.discovery.accounted Sample.program Sample.forward none
      ["a", "b", "c"] (0, [])).2.2.map (·.name) = ["from", "to", "host", "note"] ∧
    (resolve Sample.moody.discovery Sample.program Sample.forward none [] 0).1.result =
      .error Sample.undecided ∧
    (resolve Sample.moody.discovery.accounted Sample.program Sample.forward none
      [] (0, [])).2.2.map (·.name) = ["from", "to", "limit", "host", "note"] := by
  obtain ⟨given, given_run, -, on_launch, -⟩ := discovery_asked_once Sample.moody Sample.program
    Sample.forward none ["a", "b", "c"] 0 []
  obtain ⟨bare, bare_run, -, -, on_failure⟩ := discovery_asked_once Sample.moody Sample.program
    Sample.forward none [] 0 []
  obtain rfl := on_launch _ rfl
  obtain ⟨rfl, -⟩ := on_failure Sample.undecided rfl
  rw [given_run, bare_run]
  exact ⟨⟨_, rfl⟩, by decide, rfl, by decide⟩

end Launcher.Resolution
