import Launcher.Proofs.Catalog.Consistency
import Launcher.Proofs.Resolution.Stages
/-!
Replaying a launch. What a launch recorded under the names of its parameters is what its mode takes
back from it, so discovery and overrides have no part in the second resolution. -/
namespace Launcher

/-- The mode may take each of its parameters from a launch. -/
def Mode.TakesAll (m : Mode) : Prop :=
  ∀ other, m.matched = some other → ∀ q ∈ m.parameters, q.name ∈ other.parameterNames

instance (m : Mode) : Decidable m.TakesAll :=
  inferInstanceAs (Decidable (∀ other, m.matched = some other →
    ∀ q ∈ m.parameters, q.name ∈ other.parameterNames))

namespace Resolution

section Replay

variable {program : Program} {mode : Mode} {matched : Option Launch} {launch : Launch}
variable {ps : List Parameter} {texts : List String}

theorem matchedValue_of_takesAll {q : Parameter} (h : mode.TakesAll) (hq : q ∈ mode.parameters)
    (launch : Launch) : matchedValue mode (some launch) q = launch.parameter? q.name := by
  have taken : mode.isUnmatched q.name = false := by
    cases target : mode.matched with
    | none => simp [Mode.isUnmatched, target]
    | some other => simp [Mode.isUnmatched, Mode.isMatched, target, h other target q hq]
  simp [matchedValue, taken]

theorem choose_of_matched
    (h : List.Forall₂ (fun q text => matchedValue mode matched q = some text) ps texts)
    (d : Discovery σ) (overrides : List String) (world : σ) :
    choose d mode matched ps overrides world =
      (.complete (texts.map .text) overrides, world) := by
  induction h with
  | nil => rfl
  | cons taken _ ih =>
    rw [choose_of_fixed (fixedValue_of_matched taken), ih]
    rfl

theorem resolve_of_matched
    (h : List.Forall₂ (fun q text => matchedValue mode (some launch) q = some text)
      mode.parameters texts)
    (d : Discovery σ) (program : Program) (overrides : List String) (world : σ) :
    resolve d program mode (some launch) overrides world =
      (⟨.ok (.ofArguments program mode texts), leftoverWarnings mode overrides⟩, world) := by
  have texts_eq : (texts.map Value.text).map Value.render = texts := by
    simp [Function.comp_def, Value.render]
  have expected : matchWarnings mode (some launch) = [] := by
    simp [matchWarnings]
  simp only [resolve, choose_of_matched h, conclude, texts_eq, expected, List.nil_append]

theorem matchedValues_of_record (recorded : launch.IsRecord) (own : launch.mode = mode)
    (h : mode.TakesAll) :
    List.Forall₂ (fun q text => matchedValue mode (some launch) q = some text)
      mode.parameters launch.arguments := by
  subst own
  refine List.forall₂_iff_get.2 ⟨recorded.length_eq.symm, fun i hp ha => ?_⟩
  obtain ⟨text, argument, named⟩ :=
    recorded.agree i launch.mode.parameters[i] (List.getElem?_eq_getElem hp)
  obtain rfl : launch.arguments[i] = text :=
    Option.some.inj ((List.getElem?_eq_getElem ha).symm.trans argument)
  exact (matchedValue_of_takesAll h (List.getElem_mem hp) launch).trans named

theorem resolve_ok_arguments {d : Discovery σ} {overrides : List String} {world : σ}
    (h : (resolve d program mode matched overrides world).1.result = .ok launch) :
    Launch.ofArguments program mode launch.arguments = launch := by
  obtain ⟨values, leftover, -, rfl⟩ := resolve_ok h
  rfl

end Replay

/-- In a catalog that was built, a launch of a mode that may take all its parameters is the result
of resolving the mode again with this launch, whatever is registered then. Discovery is not run, and
all overrides are left over. -/
theorem launch_replays {ds : List ProgramDefinition} {c : Catalog} (h : Catalog.build ds = .ok c) :
    ∀ p ∈ c.programs, ∀ m ∈ p.modes, m.TakesAll →
      ∀ {σ : Type} (registry : Registry σ) matched overrides world launch,
        (resolve registry.discovery p m matched overrides world).1.result = .ok launch →
        ∀ {τ : Type} (other : Registry τ) overrides' world',
          resolve other.discovery p m (some launch) overrides' world' =
            (⟨.ok launch, leftoverWarnings m overrides'⟩, world') := by
  intro p mem m mode_mem takes σ registry matched overrides world launch launched τ other
    overrides' world'
  obtain ⟨ps, linked, held⟩ := Catalog.build_holds h
  have differ : (m.parameters.map (·.name)).Nodup :=
    (held.isConsistent linked).parameters_differ mem mode_mem
  obtain ⟨-, own, recorded⟩ := resolve_isRecord differ launched
  have taken := matchedValues_of_record recorded own takes
  rw [resolve_of_matched taken, resolve_ok_arguments launched]

namespace Sample

/-- One port is known. -/
def onePort : Registry Nat :=
  Registry.empty.register "ip-port" none fun calls => (.range 9000 9000, calls + 1)

end Sample

/-- Neither the port that is known by then nor an override replaces the port of the launch. -/
theorem launch_replays_sample :
    Catalog.build Catalog.Sample.definitions = .ok Catalog.Sample.catalog ∧
    ∃ p ∈ Catalog.Sample.catalog.programs, ∃ m ∈ p.modes, m.TakesAll ∧
      m.matched.isSome = true ∧ ∃ launch,
        (resolve Registry.empty.discovery p m none ["80"] ()).1.result = .ok launch ∧
        launch.arguments = ["80"] ∧
        resolve Sample.onePort.discovery p m (some launch) ["90"] 0 =
          (⟨.ok launch, [.unusedArguments "net:dial" ["90"]]⟩, 0) := by
  refine ⟨Catalog.Sample.definitions_built, _, List.mem_cons_self, _, List.mem_cons_self,
    by decide, rfl, _, rfl, rfl, ?_⟩
  exact launch_replays Catalog.Sample.definitions_built _ List.mem_cons_self _
    List.mem_cons_self (by decide) Registry.empty none ["80"] () _ rfl Sample.onePort ["90"] 0

end Resolution
end Launcher
