import Launcher.Proofs.Index
import Launcher.Proofs.Resolution.Matching
/-!
What a launch says about its arguments. The texts are recorded twice, in the order of the parameters
and under their names. The two agree where no name is used twice in a mode; otherwise a later text
would replace an earlier one. -/
namespace Launcher

/-- The launch has one text for every parameter of its mode, at its position and under its name, and
no other. -/
structure Launch.IsRecord (l : Launch) : Prop where
  length_eq : l.arguments.length = l.mode.parameters.length
  names_perm : l.parameters.keys.Perm (l.mode.parameters.map (·.name))
  agree : ∀ (i : Nat) q, l.mode.parameters[i]? = some q →
    ∃ text, l.arguments[i]? = some text ∧ l.parameter? q.name = some text

theorem Launch.ofArguments_isRecord {program : Program} {mode : Mode} {arguments : List String}
    (differ : (mode.parameters.map (·.name)).Nodup)
    (length : arguments.length = mode.parameters.length) :
    (Launch.ofArguments program mode arguments).IsRecord := by
  have names : ((mode.parameters.map (·.name)).zip arguments).map (·.1) =
      mode.parameters.map (·.name) := by
    apply List.map_fst_zip
    rw [List.length_map]
    exact Nat.le_of_eq length.symm
  have entries := Index.ofList_perm (names.symm ▸ differ)
  constructor
  · exact length
  · have keys := entries.map (·.1)
    rw [names] at keys
    exact keys
  · intro i q hq
    have inside : i < arguments.length := by
      have := (List.getElem?_eq_some_iff.1 hq).1
      exact length ▸ this
    have name : (mode.parameters.map (·.name))[i]? = some q.name := by
      rw [List.getElem?_map]
      exact congrArg (Option.map (·.name)) hq
    have here : ((mode.parameters.map (·.name)).zip arguments)[i]? =
        some (q.name, arguments[i]) :=
      List.getElem?_zip_eq_some.2 ⟨name, List.getElem?_eq_getElem inside⟩
    refine ⟨arguments[i], List.getElem?_eq_getElem inside, Index.get?_of_mem ?_⟩
    exact entries.mem_iff.2 (List.mem_of_getElem? here)

/-- What a launch has under a name is the text of a parameter of this name. -/
theorem Launch.IsRecord.of_parameter? {launch : Launch} {name text : String}
    (recorded : launch.IsRecord) (named : launch.parameter? name = some text) :
    ∃ (i : Nat) (q : Parameter), launch.mode.parameters[i]? = some q ∧ q.name = name ∧
      launch.arguments[i]? = some text := by
  have key : name ∈ launch.parameters.keys :=
    List.mem_map.2 ⟨(name, text), Index.mem_of_get? named, rfl⟩
  obtain ⟨q, mem, rfl⟩ := List.mem_map.1 (recorded.names_perm.mem_iff.1 key)
  obtain ⟨i, hq⟩ := List.getElem?_of_mem mem
  obtain ⟨text', argument, same⟩ := recorded.agree i q hq
  obtain rfl := Option.some.inj (same.symm.trans named)
  exact ⟨i, q, hq, rfl, argument⟩

section Resolving

variable {d : Discovery σ} {program : Program} {mode : Mode} {matched : Option Launch}
variable {overrides : List String} {world : σ} {l : Launch}

/-- A complete pass has a value for each parameter, one that is decided by any of the rules. -/
theorem Resolution.choose_length {ps : List Parameter} {values : List Value}
    {leftover : List String}
    (h : (choose d mode matched ps overrides world).1 = .complete values leftover) :
    values.length = ps.length := by
  induction ps generalizing overrides world values with
  | nil =>
    obtain ⟨rfl, -⟩ := Progress.complete.inj h
    rfl
  | cons p rest ih =>
    obtain ⟨value, others, overrides', world', rfl, later, -⟩ := choose_cons_complete h
    rw [List.length_cons, List.length_cons, ih later]

theorem resolve_isRecord (differ : (mode.parameters.map (·.name)).Nodup)
    (h : (resolve d program mode matched overrides world).1.result = .ok l) :
    l.program = program ∧ l.mode = mode ∧ l.IsRecord := by
  obtain ⟨values, leftover, complete, rfl⟩ := Resolution.resolve_ok h
  refine ⟨rfl, rfl, Launch.ofArguments_isRecord differ ?_⟩
  rw [List.length_map, Resolution.choose_length complete]

end Resolving

end Launcher
