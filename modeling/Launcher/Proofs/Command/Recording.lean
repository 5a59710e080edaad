import Launcher.Proofs.Catalog.Targets
import Launcher.Proofs.Command.Visits
import Launcher.Proofs.Resolution.Recording
/-!
The launches of a chain as records of their arguments. In a catalog that was built no name is used
twice in a mode, so the texts in the order of the parameters and those under their names agree, for
the launches of every chain and for all that its links are matched against. -/
namespace Launcher

namespace Command

variable {ds : List ProgramDefinition} {c : Catalog}

theorem resolveLink_isRecord {d : Discovery σ} {palette : Text.Palette} {v : Visit σ} {l : Launch}
    (h : Catalog.IsConsistent ds c) (result : (v.outcome palette c d).1.result = .ok l) :
    l.IsRecord := by
  unfold Visit.outcome at result
  cases target : c.target v.link.target with
  | error e =>
    simp only [resolveLink, target] at result
    cases result
  | ok found =>
    obtain ⟨p, m⟩ := found
    obtain ⟨mem, mode_mem⟩ := h.target_mem target
    rw [resolveLink_of_target target] at result
    obtain ⟨overrides, world, once⟩ :=
      Resolution.resolveAsking_ok (mapError_eq_ok_iff.1 result)
    exact (resolve_isRecord (h.parameters_differ mem mode_mem) once).2.2

/-- In a catalog that was built, every launch of a mode has one text for each parameter, at its
position and under its name, and no other. So have all launches of a chain, in a dry run and in a
launch, and all that its links are matched against, also when a later link fails. -/
theorem launches_record_arguments (h : Catalog.build ds = .ok c) :
    (∀ {σ : Type} (d : Discovery σ), ∀ p ∈ c.programs, ∀ m ∈ p.modes,
      ∀ matched overrides world l,
        (resolve d p m matched overrides world).1.result = .ok l →
          l.program = p ∧ l.mode = m ∧ l.IsRecord) ∧
    (∀ {σ : Type} palette (d : Discovery σ) links answers world, ∃ vs launches failure world',
      InTurn (Visit.resolve palette c d) id [] links answers world vs launches failure world' ∧
      (resolveChain palette c d [] links answers world).1.result =
        failure.elim (.ok launches) .error ∧
      (∀ v ∈ vs, ∀ l ∈ v.earlier, l.IsRecord) ∧ ∀ l ∈ launches, l.IsRecord) ∧
    (∀ {σ : Type} (host : Host σ) palette json (d : Discovery σ) links answers world,
      ∃ vs started failure world',
        InTurn (Visit.start host palette json c d) Started.launch [] links answers world vs started
          failure world' ∧
        startLinks host palette json c d [] links answers world = ((started, failure), world') ∧
        (∀ v ∈ vs, ∀ l ∈ v.earlier, l.IsRecord) ∧ ∀ s ∈ started, s.launch.IsRecord) := by
  obtain ⟨ps, linked, held⟩ := Catalog.build_holds h
  have consistent := held.isConsistent linked
  refine ⟨?_, ?_, ?_⟩
  · intro σ d p mem m mode_mem matched overrides world l result
    exact resolve_isRecord (consistent.parameters_differ mem mode_mem) result
  · intro σ palette d links answers world
    obtain ⟨vs, launches, failure, world', turns⟩ :=
      inTurn_exists (Visit.resolve palette c d) id [] links answers world
    have each (v : Visit σ) (l : Launch) (result : (v.resolve palette c d).1 = .ok l) :
        (id l).IsRecord :=
      resolveLink_isRecord consistent (resolve_own v l result)
    exact ⟨vs, launches, failure, world', turns, turns.resolveChain_eq,
      turns.holds_of_launches each nofun⟩
  · intro σ host palette json d links answers world
    obtain ⟨vs, started, failure, world', turns⟩ :=
      inTurn_exists (Visit.start host palette json c d) Started.launch [] links answers world
    have each (v : Visit σ) (s : Started) (result : (v.start host palette json c d).1 = .ok s) :
        s.launch.IsRecord :=
      resolveLink_isRecord consistent (start_own v s result)
    exact ⟨vs, started, failure, world', turns, turns.startLinks_eq [],
      turns.holds_of_launches each nofun⟩

namespace Sample

def dialMode : Mode :=
  ⟨⟨8⟩, "net", "dial", [⟨"port", "ip-port", none, none, false⟩], some ⟨"serve", ["host", "port"]⟩⟩

def serveMode : Mode :=
  ⟨⟨8⟩, "net", "serve",
    [⟨"host", "text", none, none, false⟩, ⟨"port", "ip-port", none, none, false⟩], none⟩

def netProgram : Program :=
  ⟨"net", ⟨8⟩, "/bin/net", .ofList [("dial", dialMode), ("serve", serveMode)], some "dial"⟩

def served : Launch := .ofArguments netProgram serveMode ["east", "80"]

end Sample

/-- The server's port is recorded for the mode that is matched with it, too. -/
theorem launches_record_sample :
    Catalog.build Catalog.Sample.definitions = .ok Catalog.Sample.catalog ∧
    ∃ l : Launch,
      (resolve (Registry.empty.discovery : Discovery Unit) Sample.netProgram Sample.dialMode
        (some Sample.served) ["90"] ()).1.result = .ok l ∧ l.arguments = ["80"] ∧ l.IsRecord := by
  have records := (launches_record_arguments Catalog.Sample.definitions_built).1
    (Registry.empty.discovery : Discovery Unit) Sample.netProgram List.mem_cons_self Sample.dialMode
    List.mem_cons_self (some Sample.served) ["90"] ()
  exact ⟨Catalog.Sample.definitions_built, _, rfl, rfl, (records _ rfl).2.2⟩

end Command
end Launcher
