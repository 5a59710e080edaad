import Launcher.Catalog.Basic
import Launcher.Proofs.Catalog.Modes
/-!
What a linked program is, in terms of its definition: every mode under its name, with its parameters
as they are declared; and which programs a catalog takes in. -/
namespace Launcher

/-- What only linking finds: in the modes of a program, or in programs beside each other. -/
def CatalogError.isOfLinking : CatalogError → Bool
  | .duplicateId .. | .duplicateProgramName .. | .noModes .. | .duplicateMode ..
  | .emptyParameterType .. | .duplicateParameter .. | .unknownMatchedMode ..
  | .unknownDefaultMode .. => true
  | .emptyProgramName | .missingField .. | .invalidId .. | .omitUnknown ..
  | .omitRequired .. => false

/-- The program that an error is about. -/
def CatalogError.program? : CatalogError → Option String
  | .emptyProgramName => none
  | .duplicateId _ _ second => some second
  | .missingField program _ | .invalidId program _ | .duplicateProgramName program
  | .noModes program | .duplicateMode program _ | .emptyParameterType program _ _
  | .duplicateParameter program _ _ | .unknownMatchedMode program _ _
  | .unknownDefaultMode program _ | .omitUnknown program _ _
  | .omitRequired program _ _ => some program

namespace Program

variable {d : ProgramDefinition} {known : Index ModeDefinition} {p : Program}

/-- The program that a definition is linked to, and the checks that it passes. -/
structure Linked (d : ProgramDefinition) (known : Index ModeDefinition) (p : Program) :
    Prop where
  header : checkHeader d = .ok ()
  collected : collectModes d.name .empty d.modes = .ok known
  matched : checkMatched d.name known known.entries = .ok ()
  default : chooseDefault d.name d.defaultMode p.modeIndex = .ok p.defaultName
  name : p.name = d.name
  id : p.id = d.id
  binary : p.binary = d.binary
  modes : p.modeIndex = known.mapValues (linkMode d known)

theorem link_eq_ok_iff : link d = .ok p ↔ ∃ known, Linked d known p := by
  simp only [link, bind_eq_ok_iff]
  constructor
  · rintro ⟨_, header, known, collected, _, matched, defaultName, default, h⟩
    obtain rfl := Except.ok.inj h
    exact ⟨known, header, collected, matched, default, rfl, rfl, rfl, rfl⟩
  · rintro ⟨known, h⟩
    refine ⟨(), h.header, known, h.collected, (), h.matched, p.defaultName, ?_, ?_⟩
    · exact h.modes ▸ h.default
    · obtain ⟨name, id, binary, modeIndex, defaultName⟩ := p
      obtain ⟨-, -, -, -, rfl, rfl, rfl, rfl⟩ := h
      rfl

theorem Linked.checked (h : Linked d known p) {m : ModeDefinition} (hm : m ∈ d.modes) :
    (∀ q ∈ m.parameters, Text.isBlankText q.kind = false) ∧ (m.parameters.map (·.name)).Nodup :=
  (parameters_flawless_iff _ _ _).1
    (((modes_flawless_iff _ _).1 (collectModes_ok h.collected).2).1 m hm)

theorem Linked.mode? (h : Linked d known p) (k : String) :
    p.mode? k = (d.modes.find? fun m => m.name == k).map (linkMode d known k) := by
  rw [Program.mode?, h.modes, Index.get?_mapValues, (collectModes_ok h.collected).1.get?_eq_find?]

theorem Linked.distinct (h : Linked d known p) {m : ModeDefinition} (hm : m ∈ d.modes) :
    (m.parameters.map (·.name)).Nodup :=
  (h.checked hm).2

end Program

namespace Catalog

variable {c c' : Catalog} {p : Program}

theorem add_eq_ok_iff : c.add p = .ok c' ↔ c.program? p.id = none ∧
    c.idsByName.get? p.name = none ∧
    c' = ⟨(p.id, p) :: c.programsById, c.idsByName.insert p.name p.id⟩ := by
  unfold add
  cases hp : c.program? p.id with
  | some holder => simp
  | none =>
    cases hn : c.idsByName.get? p.name with
    | some id => simp [Index.contains, hn]
    | none => simp [Index.contains, hn, eq_comm]

end Catalog
end Launcher
