import Launcher.Command.Launching
import Launcher.Proofs.Command.Link
import Mathlib.Data.List.Forall2
/-!
How the commands go through a chain. Both visit one link after another until a link comes to
nothing, and each link sees the launches of those before it; `InTurn` tells all visits of a whole
chain, for any way of working on a link. -/
namespace Launcher.Command

/-- A link of a chain at its turn: what it is resolved against, and in which world. -/
structure Visit (σ : Type) where
  link : ChainLink
  earlier : List Launch
  answers : List String
  world : σ

namespace Visit

/-- What the link is resolved to. -/
def outcome (p : Text.Palette) (catalog : Catalog) (d : Discovery σ) (v : Visit σ) :
    LinkOutcome × σ :=
  resolveLink p catalog d v.earlier v.link v.answers v.world

/-- The work of a dry run on a link, with the answers that are left. -/
def resolve (p : Text.Palette) (catalog : Catalog) (d : Discovery σ) (v : Visit σ) :
    Except LinkError Launch × List String × σ :=
  let (outcome, world) := v.outcome p catalog d
  (outcome.result, outcome.answers, world)

/-- The work of a launch on a link, with the answers that are left. -/
def start (host : Host σ) (p : Text.Palette) (json : Bool) (catalog : Catalog) (d : Discovery σ)
    (v : Visit σ) : Except CommandError Started × List String × σ :=
  let (outcome, world) := v.outcome p catalog d
  let world := host.write .stderr outcome.notice world
  match outcome.result with
  | .error e => (.error (.link e), outcome.answers, world)
  | .ok launch =>
    match host.start launch world with
    | (.error cause, world) => (.error (.spawn v.link.target cause), outcome.answers, world)
    | (.ok pid, world) =>
      let (stream, text) := announcement p json ⟨pid, launch⟩
      (.ok ⟨pid, launch⟩, outcome.answers, host.write stream text world)

end Visit

/-- The links are worked on in turn: `InTurn attempt launchOf earlier links answers world vs results
failure world'` tells the visits, what they came to, and the failure that ended the work early. -/
inductive InTurn {σ ε α : Type} (attempt : Visit σ → Except ε α × List String × σ)
    (launchOf : α → Launch) : List Launch → List ChainLink → List String → σ →
      List (Visit σ) → List α → Option ε → σ → Prop
  | finished {earlier answers world} :
      InTurn attempt launchOf earlier [] answers world [] [] none world
  | failed {earlier link rest answers world e left world'} :
      attempt ⟨link, earlier, answers, world⟩ = (.error e, left, world') →
      InTurn attempt launchOf earlier (link :: rest) answers world
        [⟨link, earlier, answers, world⟩] [] (some e) world'
  | went {earlier link rest answers world a left world' vs results failure world''} :
      attempt ⟨link, earlier, answers, world⟩ = (.ok a, left, world') →
      InTurn attempt launchOf (earlier ++ [launchOf a]) rest left world' vs results failure
        world'' →
      InTurn attempt launchOf earlier (link :: rest) answers world
        (⟨link, earlier, answers, world⟩ :: vs) (a :: results) failure world''

/-- Each link is visited with the launches that the visits before it come to. -/
def LinkByLink (p : Text.Palette) (catalog : Catalog) (d : Discovery σ) (vs : List (Visit σ)) :
    Prop :=
  ∀ k v, vs[k]? = some v →
    List.Forall₂ (fun u launch => (u.outcome p catalog d).1.result = .ok launch) (vs.take k)
      v.earlier

section InTurn

variable {σ ε α : Type} {attempt : Visit σ → Except ε α × List String × σ}
variable {launchOf : α → Launch} {earlier : List Launch} {links : List ChainLink}
variable {answers : List String} {world world' : σ} {vs : List (Visit σ)} {results : List α}
variable {failure : Option ε}

theorem inTurn_exists (attempt : Visit σ → Except ε α × List String × σ) (launchOf : α → Launch)
    (earlier : List Launch) (links : List ChainLink) (answers : List String) (world : σ) :
    ∃ vs results failure world',
      InTurn attempt launchOf earlier links answers world vs results failure world' := by
  induction links generalizing earlier answers world with
  | nil => exact ⟨_, _, _, _, .finished⟩
  | cons link rest ih =>
    rcases h : attempt ⟨link, earlier, answers, world⟩ with ⟨e | a, left, world'⟩
    · exact ⟨_, _, _, _, .failed h⟩
    · obtain ⟨vs, results, failure, world'', later⟩ := ih (earlier ++ [launchOf a]) left world'
      exact ⟨_, _, _, _, .went h later⟩

namespace InTurn

section Visits

variable (h : InTurn attempt launchOf earlier links answers world vs results failure world')
include h

/-- No link is passed over: the visits are to the first links of the chain. -/
theorem links_eq : vs.map (·.link) = links.take vs.length := by
  induction h with
  | finished => rfl
  | failed _ => rfl
  | went _ _ ih => simp [ih]

theorem came_to :
    List.Forall₂ (fun v a => (attempt v).1 = .ok a) (vs.take results.length) results := by
  induction h with
  | finished => exact .nil
  | failed _ => exact .nil
  | went first _ ih => exact .cons (by rw [first]) ih

/-- All links are visited and none fails, or the last visit is the one that fails. -/
theorem ending :
    (failure = none ∧ vs.length = results.length ∧ vs.map (·.link) = links) ∨
    (∃ v e, failure = some e ∧ vs.length = results.length + 1 ∧ vs[results.length]? = some v ∧
      (attempt v).1 = .error e) := by
  induction h with
  | finished => exact .inl ⟨rfl, rfl, rfl⟩
  | failed first => exact .inr ⟨_, _, rfl, rfl, rfl, by rw [first]⟩
  | went _ _ ih =>
    rcases ih with ⟨unfailed, same, whole⟩ | ⟨v, e, failed, last, there, fails⟩
    · exact .inl ⟨unfailed, by simp [same], by simp [whole]⟩
    · exact .inr ⟨v, e, failed, by simp [last], by simpa using there, fails⟩

theorem earlier_eq {k : Nat} {v : Visit σ} (hv : vs[k]? = some v) :
    v.earlier = earlier ++ (results.take k).map launchOf := by
  induction h generalizing k with
  | finished => simp at hv
  | failed _ =>
    obtain ⟨rfl, rfl⟩ : k = 0 ∧ _ = v := by simpa [List.getElem?_cons] using hv
    simp
  | went _ _ ih =>
    cases k with
    | zero =>
      obtain rfl := Option.some.inj hv
      simp
    | succ k => simpa using ih hv

/-- A visit that fails is the last one, and its failure is that of the whole work. -/
theorem of_fails {k : Nat} {v : Visit σ} {e : ε} (hv : vs[k]? = some v)
    (fails : (attempt v).1 = .error e) : k = results.length ∧ failure = some e := by
  induction h generalizing k with
  | finished => simp at hv
  | failed first =>
    obtain ⟨rfl, rfl⟩ : k = 0 ∧ _ = v := by simpa [List.getElem?_cons] using hv
    rw [first] at fails
    obtain rfl := Except.error.inj fails
    exact ⟨rfl, rfl⟩
  | went first _ ih =>
    cases k with
    | zero =>
      obtain rfl := Option.some.inj hv
      rw [first] at fails
      cases fails
    | succ k =>
      obtain ⟨rfl, failed⟩ := ih hv
      exact ⟨rfl, failed⟩

/-- What stands behind the link that fails has no part in the work. -/
theorem cut (failed : failure ≠ none) (rest : List ChainLink) :
    InTurn attempt launchOf earlier (links.take vs.length ++ rest) answers world vs results failure
      world' := by
  induction h with
  | finished => exact absurd rfl failed
  | failed first => exact .failed first
  | went first _ ih => exact .went first (ih failed)

end Visits

/-- The launches of the visits before a link are those that the link is matched against. -/
theorem linkByLink {p : Text.Palette} {catalog : Catalog} {d : Discovery σ}
    (h : InTurn attempt launchOf [] links answers world vs results failure world')
    (own : ∀ v a, (attempt v).1 = .ok a →
      (v.outcome p catalog d).1.result = .ok (launchOf a)) : LinkByLink p catalog d vs := by
  intro k v hv
  -- Even the link that fails stands right behind the last result.
  have inside : k ≤ results.length := by
    have bound := (List.getElem?_eq_some_iff.1 hv).1
    rcases h.ending with ⟨-, same, -⟩ | ⟨-, -, -, last, -⟩ <;> omega
  have before := List.forall₂_take k h.came_to
  rw [List.take_take, Nat.min_eq_left inside] at before
  rw [h.earlier_eq hv, List.nil_append, List.forall₂_map_right_iff]
  exact before.imp fun u a => own u a

/-- What holds of the launch of every link holds of all launches that a link is matched against. -/
theorem holds_of_launches {P : Launch → Prop}
    (h : InTurn attempt launchOf earlier links answers world vs results failure world')
    (each : ∀ v a, (attempt v).1 = .ok a → P (launchOf a)) (before : ∀ l ∈ earlier, P l) :
    (∀ v ∈ vs, ∀ l ∈ v.earlier, P l) ∧ ∀ a ∈ results, P (launchOf a) := by
  induction h with
  | finished => exact ⟨nofun, nofun⟩
  | failed _ => exact ⟨List.forall_mem_singleton.2 before, nofun⟩
  | went first _ ih =>
    have here := each _ _ (congrArg Prod.fst first)
    have grown := List.forall_mem_append.2 ⟨before, List.forall_mem_singleton.2 here⟩
    obtain ⟨visits, launches⟩ := ih grown
    exact ⟨List.forall_mem_cons.2 ⟨before, visits⟩, List.forall_mem_cons.2 ⟨here, launches⟩⟩

end InTurn
end InTurn

section Commands

variable {p : Text.Palette} {catalog : Catalog} {d : Discovery σ}

theorem resolveChain_cons (resolved : List Launch) (link : ChainLink) (rest : List ChainLink)
    (answers : List String) (world : σ) :
    (resolveChain p catalog d resolved (link :: rest) answers world).1.result =
      match Visit.resolve p catalog d ⟨link, resolved, answers, world⟩ with
      | (.error e, _, _) => .error e
      | (.ok launch, left, world) =>
        (resolveChain p catalog d (resolved ++ [launch]) rest left world).1.result := by
  simp only [resolveChain, Visit.resolve, Visit.outcome]
  cases (resolveLink p catalog d resolved link answers world).1.result <;> rfl

theorem startLinks_cons (host : Host σ) (json : Bool) (started : List Started) (link : ChainLink)
    (rest : List ChainLink) (answers : List String) (world : σ) :
    startLinks host p json catalog d started (link :: rest) answers world =
      match Visit.start host p json catalog d ⟨link, started.map (·.launch), answers, world⟩ with
      | (.error e, _, world) => ((started, some e), world)
      | (.ok s, left, world) =>
        startLinks host p json catalog d (started ++ [s]) rest left world := by
  simp only [startLinks, Visit.start, Visit.outcome]
  cases (resolveLink p catalog d (started.map (·.launch)) link answers world).1.result with
  | error e => rfl
  | ok launch =>
    dsimp only
    cases host.start launch _ with
    | mk answer after => cases answer <;> rfl

/-- A dry run is made of its visits. -/
theorem InTurn.resolveChain_eq {resolved : List Launch} {links : List ChainLink}
    {answers : List String} {world world' : σ} {vs : List (Visit σ)} {launches : List Launch}
    {failure : Option LinkError}
    (h : InTurn (Visit.resolve p catalog d) id resolved links answers world vs launches failure
      world') :
    (resolveChain p catalog d resolved links answers world).1.result =
      failure.elim (.ok (resolved ++ launches)) .error := by
  induction h with
  | finished => simp [resolveChain]
  | failed first =>
    rw [resolveChain_cons, first]
    rfl
  | went first _ ih =>
    rw [resolveChain_cons, first]
    simpa using ih

/-- A launch starts its links by visits. -/
theorem InTurn.startLinks_eq {host : Host σ} {json : Bool} (started : List Started)
    {links : List ChainLink} {answers : List String} {world world' : σ} {vs : List (Visit σ)}
    {new : List Started} {failure : Option CommandError}
    (h : InTurn (Visit.start host p json catalog d) Started.launch (started.map (·.launch)) links
      answers world vs new failure world') :
    startLinks host p json catalog d started links answers world =
      ((started ++ new, failure), world') := by
  -- Later links see the launches of what was started; the induction is over both lists at once.
  generalize hm : started.map (·.launch) = earlier at h
  induction h generalizing started with
  | finished => simp [startLinks]
  | failed first =>
    rw [startLinks_cons, hm, first]
    simp
  | @went earlier _ _ _ _ s _ _ _ _ _ _ first _ ih =>
    have grown : (started ++ [s]).map (·.launch) = earlier ++ [s.launch] := by simp [hm]
    rw [startLinks_cons, hm, first]
    simpa using ih (started ++ [s]) grown

theorem resolve_own (v : Visit σ) (launch : Launch)
    (h : (v.resolve p catalog d).1 = .ok launch) :
    (v.outcome p catalog d).1.result = .ok launch := h

/-- The process that is started for a link runs what the link is resolved to. -/
theorem start_own {host : Host σ} {json : Bool} (v : Visit σ) (s : Started)
    (h : (v.start host p json catalog d).1 = .ok s) :
    (v.outcome p catalog d).1.result = .ok s.launch := by
  unfold Visit.start at h
  dsimp only at h
  cases hresult : (v.outcome p catalog d).1.result with
  | error e => simp [hresult] at h
  | ok launch =>
    simp only [hresult] at h
    split at h
    · cases h
    · obtain rfl := Except.ok.inj h
      rfl

/-- What a launch does for a link: it tells the notice, and there is no launch; or it starts the
launch, which fails or is announced. -/
theorem start_split {host : Host σ} {json : Bool} {v : Visit σ}
    {answer : Except CommandError Started} {left : List String} {w' : σ}
    (h : v.start host p json catalog d = (answer, left, w')) :
    let told := host.write .stderr (v.outcome p catalog d).1.notice (v.outcome p catalog d).2
    (∃ e, answer = .error (.link e) ∧ w' = told) ∨
    ∃ launch,
      (∃ cause, host.start launch told = (.error cause, w') ∧
        answer = .error (.spawn v.link.target cause)) ∨
      ∃ pid w stream text, host.start launch told = (.ok pid, w) ∧
        answer = .ok ⟨pid, launch⟩ ∧ w' = host.write stream text w := by
  intro told
  unfold Visit.start at h
  dsimp only at h
  cases result : (v.outcome p catalog d).1.result with
  | error e =>
    simp only [result] at h
    obtain ⟨rfl, -, rfl⟩ := h
    exact .inl ⟨e, rfl, rfl⟩
  | ok launch =>
    refine .inr ⟨launch, ?_⟩
    simp only [result] at h
    rcases made : host.start launch told with ⟨cause | pid, w⟩
    · rw [show host.start launch _ = _ from made] at h
      obtain ⟨rfl, -, rfl⟩ := h
      exact .inl ⟨cause, rfl, rfl⟩
    · rw [show host.start launch _ = _ from made] at h
      obtain ⟨rfl, -, rfl⟩ := h
      exact .inr ⟨pid, w, _, _, rfl, rfl, rfl⟩

end Commands
end Launcher.Command
