import Launcher.Proofs.Command.Visits
import Launcher.Proofs.Except
import Launcher.Proofs.Resolution.Matching
/-!
What a link takes over from the links before it. Only a link whose mode has a matched mode does, and
of all earlier launches only the chosen one counts, with the names that both modes declare. -/
namespace Launcher.Command

/-- The link comes to what it comes to without earlier links. -/
def StandsAlone (p : Text.Palette) (catalog : Catalog) (d : Discovery σ) (v : Visit σ) : Prop :=
  ∀ (τ : Type) (e : Discovery τ) (other : τ), d.AgreesFrom v.world e other →
    (v.outcome p catalog d).1 = (resolveLink p catalog e [] v.link v.answers other).1

/-- The link takes values of the chosen launch, and nothing else of the launches before it. -/
structure TakesFrom (p : Text.Palette) (catalog : Catalog) (d : Discovery σ) (v : Visit σ)
    (program : Program) (mode : Mode) (wanted : MatchedMode) (chosen : Launch) : Prop where
  texts : ∀ launch, (v.outcome p catalog d).1.result = .ok launch →
    ∀ (i : Nat) (q : Parameter) text, mode.parameters[i]? = some q →
      q.name ∈ wanted.parameterNames → chosen.parameter? q.name = some text →
        launch.arguments[i]? = some text
  /-- In another chain, and behind other links, only the chosen launch makes a difference. -/
  confined : ∀ (τ : Type) (e : Discovery τ) (u : Visit τ) (other : Launch),
    catalog.target u.link.target = .ok (program, mode) →
    u.link.overrides = v.link.overrides → u.answers = v.answers →
    d.AgreesFrom v.world e u.world → IsChosen u.earlier wanted.name other →
    (∀ q ∈ mode.parameters, q.name ∈ wanted.parameterNames →
      chosen.parameter? q.name = other.parameter? q.name) →
    (v.outcome p catalog d).1 = (u.outcome p catalog e).1

section Links

variable {p : Text.Palette} {catalog : Catalog} {d : Discovery σ} {v : Visit σ}
variable {vs : List (Visit σ)} {k : Nat}

/-- The number of launches that a link is matched against is its place in the chain. -/
theorem LinkByLink.length_earlier (h : LinkByLink p catalog d vs) (hv : vs[k]? = some v) :
    v.earlier.length = k := by
  have inside := (List.getElem?_eq_some_iff.1 hv).1
  have lengths := (h k v hv).length_eq
  rw [List.length_take] at lengths
  omega

theorem standsAlone_of_no_match
    (unmatched : ∀ program mode, catalog.target v.link.target = .ok (program, mode) →
      matchedLaunch v.earlier mode = none) : StandsAlone p catalog d v := by
  intro τ e other agrees
  unfold Visit.outcome
  cases target : catalog.target v.link.target with
  | error e => simp only [resolveLink, target]
  | ok found =>
    obtain ⟨program, mode⟩ := found
    rw [resolveLink_of_target target, resolveLink_of_target target, unmatched _ _ target,
      matchedLaunch_nil]
    exact (resolveMode_alike agrees (.refl mode _) p program _ _).result

theorem takesFrom_chosen {program : Program} {mode : Mode} {wanted : MatchedMode}
    {chosen : Launch} (target : catalog.target v.link.target = .ok (program, mode))
    (matched : mode.matched = some wanted) (choice : IsChosen v.earlier wanted.name chosen) :
    TakesFrom p catalog d v program mode wanted chosen := by
  have found := (matchedLaunch_eq_some_iff matched).2 choice
  constructor
  · intro launch result i q text hq declared has
    have value : Resolution.matchedValue mode (some chosen) q = some text := by
      rw [Resolution.matchedValue_some matched, if_pos declared, has]
    rw [Visit.outcome, resolveLink_of_target target, found] at result
    exact Resolution.resolveAsking_matched (mapError_eq_ok_iff.1 result) hq value
  · intro τ e u other target' overrides answers agrees choice' same
    have found' := (matchedLaunch_eq_some_iff matched).2 choice'
    have match_same := Resolution.sameMatch_of_agree matched same
    unfold Visit.outcome
    rw [resolveLink_of_target target, resolveLink_of_target target', found, found', overrides,
      answers]
    exact (resolveMode_alike agrees match_same p program _ _).result

end Links

/-- Along every chain, as a dry run and a launch go through it, a link without a matched mode and
the first link come to what they come to alone. Any other link takes the values of the chosen launch
for the names that both modes declare, and nothing else of the links before it makes a
difference. -/
theorem links_take_from_chosen (p : Text.Palette) (catalog : Catalog) :
    (∀ {σ : Type} (d : Discovery σ) links answers world, ∃ vs launches failure world',
      InTurn (Visit.resolve p catalog d) id [] links answers world vs launches failure world' ∧
      (resolveChain p catalog d [] links answers world).1.result =
        failure.elim (.ok launches) .error ∧ LinkByLink p catalog d vs) ∧
    (∀ {σ : Type} (host : Host σ) json (d : Discovery σ) links answers world,
      ∃ vs started failure world',
        InTurn (Visit.start host p json catalog d) Started.launch [] links answers world vs started
          failure world' ∧
        startLinks host p json catalog d [] links answers world = ((started, failure), world') ∧
        LinkByLink p catalog d vs) ∧
    (∀ {σ : Type} (d : Discovery σ) vs, LinkByLink p catalog d vs → ∀ k v, vs[k]? = some v →
      (k = 0 ∨ (∀ program mode, catalog.target v.link.target = .ok (program, mode) →
        mode.matched = none) → StandsAlone p catalog d v) ∧
      (∀ program mode wanted, catalog.target v.link.target = .ok (program, mode) →
        mode.matched = some wanted → 0 < k →
          (∃ chosen, IsChosen v.earlier wanted.name chosen) ∧
          ∀ chosen, IsChosen v.earlier wanted.name chosen →
            TakesFrom p catalog d v program mode wanted chosen)) := by
  refine ⟨?_, ?_, ?_⟩
  · intro σ d links answers world
    obtain ⟨vs, launches, failure, world', turns⟩ :=
      inTurn_exists (Visit.resolve p catalog d) id [] links answers world
    exact ⟨vs, launches, failure, world', turns, turns.resolveChain_eq,
      turns.linkByLink resolve_own⟩
  · intro σ host json d links answers world
    obtain ⟨vs, started, failure, world', turns⟩ :=
      inTurn_exists (Visit.start host p json catalog d) Started.launch [] links answers world
    exact ⟨vs, started, failure, world', turns, turns.startLinks_eq [],
      turns.linkByLink start_own⟩
  · intro σ d vs chain k v hv
    have place := chain.length_earlier hv
    constructor
    · rintro (rfl | unmatched)
      · have first := List.length_eq_zero_iff.1 place
        exact standsAlone_of_no_match fun _ _ _ => by rw [first, matchedLaunch_nil]
      · exact standsAlone_of_no_match fun program mode target =>
          matchedLaunch_of_unmatched (unmatched program mode target)
    · intro program mode wanted target matched later
      have some_earlier : v.earlier ≠ [] := List.ne_nil_of_length_pos (by omega)
      exact ⟨exists_chosen matched some_earlier, fun chosen => takesFrom_chosen target matched⟩

namespace Sample

def serving : Mode :=
  ⟨⟨1⟩, "net", "serve", [⟨"host", "text", none, none, false⟩, ⟨"port", "text", none, none, false⟩],
    none⟩

/-- The port has a default, but a server's port comes before it. -/
def dialling : Mode :=
  ⟨⟨1⟩, "net", "dial",
    [⟨"port", "text", none, some (.integer 9), false⟩, ⟨"note", "text", none, none, false⟩],
    some ⟨"serve", ["host", "port"]⟩⟩

def net : Program :=
  ⟨"net", ⟨1⟩, "/bin/net", .ofList [("dial", dialling), ("serve", serving)], none⟩

def nets : Catalog := ⟨[(⟨1⟩, net)], .ofList [("net", ⟨1⟩)]⟩

def silent : Discovery Unit := Registry.empty.discovery

def dialled : ChainLink := ⟨"net:dial", ["hello"]⟩

def server (host : String) : Launch := .ofArguments net serving [host, "80"]

def visits : List (Visit Unit) :=
  [⟨⟨"net:serve", ["east", "80"]⟩, [], [], ()⟩, ⟨dialled, [server "east"], [], ()⟩]

/-- The same link in another chain, where the server is not the link right before. -/
def elsewhere : Visit Unit :=
  ⟨dialled, [server "west", .ofArguments net dialling ["7", "hi"]], [], ()⟩

theorem visits_linked : LinkByLink ⟨false⟩ nets silent visits := by
  intro k v hv
  match k with
  | 0 =>
    obtain rfl := Option.some.inj hv
    exact .nil
  | 1 =>
    obtain rfl := Option.some.inj hv
    exact .cons rfl .nil
  | k + 2 => simp [visits] at hv

end Sample

theorem links_take_from_sample :
    LinkByLink ⟨false⟩ Sample.nets Sample.silent Sample.visits ∧
    ∃ v launch, Sample.visits[1]? = some v ∧
      (v.outcome ⟨false⟩ Sample.nets Sample.silent).1.result = .ok launch ∧
      launch.arguments[0]? = some "80" ∧
      (v.outcome ⟨false⟩ Sample.nets Sample.silent).1 =
        (Sample.elsewhere.outcome ⟨false⟩ Sample.nets Sample.silent).1 := by
  have links := (links_take_from_chosen ⟨false⟩ Sample.nets).2.2 Sample.silent Sample.visits
    Sample.visits_linked 1 _ rfl
  have east : IsChosen [Sample.server "east"] "serve" (Sample.server "east") :=
    .named (List.nil_append _).symm rfl nofun
  have west : IsChosen Sample.elsewhere.earlier "serve" (Sample.server "west") :=
    .named (List.nil_append _).symm rfl (by decide)
  have takes := (links.2 Sample.net Sample.dialling ⟨"serve", ["host", "port"]⟩ rfl rfl
    Nat.one_pos).2 (Sample.server "east") east
  refine ⟨Sample.visits_linked, _, _, rfl, rfl, ?_, ?_⟩
  · exact takes.texts _ rfl 0 _ "80" rfl (by decide) rfl
  · exact takes.confined Unit Sample.silent Sample.elsewhere (Sample.server "west") rfl rfl rfl
      (.refl _ _) west (by decide)

end Launcher.Command
