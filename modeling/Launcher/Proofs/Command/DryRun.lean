import Launcher.Proofs.Command.Starting
import Launcher.Proofs.Except
import Mathlib.Control.Monad.Basic
/-!
The `resolve` command as the dry run of `launch`. Both commands work through a chain link by link;
one keeps the launches it has resolved, the other those of the processes it has started. As long as
discovery answers the same, every link comes to the same for both. -/
namespace Launcher.Command

/-- Whether a link of the chain is to blame. -/
def CommandError.isOfLink : CommandError → Bool
  | .link _ => true
  | .spawn _ _ => true
  | _ => false

/-- A launch of the links kept to their dry run: what was launched, which launches could not be
started, and how it ended. -/
structure KeepsTo (dry : List ChainLink → Except LinkError (List Launch)) (links : List ChainLink)
    (launched : List Launch) (refused : List (Launch × SpawnError))
    (result : Except CommandError Unit) : Prop where
  /-- What was launched is what the dry run of as many links comes to. -/
  ahead : launched.length ≤ links.length ∧ dry (links.take launched.length) = .ok launched
  firsts : ∀ all, dry links = .ok all → launched <+: all
  complete : refused = [] → ∀ all, dry links = .ok all →
    launched = all ∧ ∀ e, result = .error e → e.isOfLink = false
  /-- The link after those that were launched fails for both in the same way. -/
  unresolved : refused = [] → ∀ e, dry links = .error e →
    result = .error (.link e) ∧ launched.length < links.length ∧
      dry (links.take (launched.length + 1)) = .error e
  unstarted : ∀ launch cause, (launch, cause) ∈ refused → refused = [(launch, cause)] ∧
    ∃ link, links[launched.length]? = some link ∧ result = .error (.spawn link.target cause) ∧
      dry (links.take (launched.length + 1)) = .ok (launched ++ [launch])

/-- The report tells all launches of the dry run, or none of them and the error. -/
structure Shows (dry : Except LinkError (List Launch)) (json : Bool) (r : Report) : Prop where
  launches : ∀ all, dry = .ok all → r.stdout = launchesText json all ∧ r.result = .ok ()
  nothing : ∀ e, dry = .error e → r.stdout = "" ∧ r.result = .error (.link e)

section Plan

variable {resolves : List Launch → ChainLink → Except LinkError Launch}
variable {earlier all launched : List Launch} {links : List ChainLink}
variable {refused : List (Launch × SpawnError)} {failure : Option CommandError}
variable {result : Except CommandError Unit}

theorem plan_extends (h : plan resolves earlier links = .ok all) : earlier <+: all := by
  induction links generalizing earlier with
  | nil =>
    obtain rfl := Except.ok.inj h
    exact List.prefix_rfl
  | cons link rest ih =>
    simp only [plan] at h
    split at h
    · cases h
    · exact (List.prefix_append _ _).trans (ih h)

/-- Whoever starts links by the plan keeps to it, if the work ends with the failure of a link or
with no such failure. -/
theorem Follows.keepsTo (h : Follows resolves [] links launched refused failure)
    (failed : ∀ e, failure = some e → result = .error e)
    (ended : failure = none → ∀ e, result = .error e → e.isOfLink = false) :
    KeepsTo (plan resolves []) links launched refused result := by
  obtain ⟨short, planned⟩ := h.planned
  simp only [List.nil_append] at planned
  have firsts : ∀ all, plan resolves [] links = .ok all → launched <+: all := by
    intro all hall
    rw [← List.take_append_drop launched.length links, plan_append, planned] at hall
    exact plan_extends hall
  rcases h.ending with ⟨hf, clean, whole⟩ | ⟨e, hf, clean, before, hnext⟩ |
    ⟨link, launch, cause, hf, once, there, hnext⟩
  · rw [whole, List.take_length] at planned
    refine ⟨⟨short, by rw [whole, List.take_length, planned]⟩, firsts, ?_, ?_, ?_⟩
    · intro _ all hall
      exact ⟨Except.ok.inj (planned.symm.trans hall), ended hf⟩
    · intro _ e he
      cases planned.symm.trans he
    · intro launch cause hr
      simp [clean] at hr
  · have fails := plan_error_of_take hnext
    refine ⟨⟨short, planned⟩, firsts, ?_, ?_, ?_⟩
    · intro _ all hall
      cases fails.symm.trans hall
    · intro _ e' he
      obtain rfl := Except.error.inj (fails.symm.trans he)
      exact ⟨failed _ hf, before, hnext⟩
    · intro launch cause hr
      simp [clean] at hr
  · refine ⟨⟨short, planned⟩, firsts, ?_, ?_, ?_⟩
    · intro clean
      simp [once] at clean
    · intro clean
      simp [once] at clean
    · intro launch' cause' hr
      obtain ⟨rfl, rfl⟩ : launch' = launch ∧ cause' = cause := by simpa [once] using hr
      exact ⟨once, link, there, failed _ hf, by simpa using hnext⟩

end Plan

section Launching

variable (host : Host σ) (p : Text.Palette)

theorem verdictResult_not_of_link {verdict : Supervision.Verdict} {e : CommandError}
    (h : verdictResult verdict = .error e) : e.isOfLink = false := by
  cases verdict with
  | success => cases h
  | interrupted =>
    cases h
    rfl
  | unsuccessful failed total =>
    cases h
    rfl

theorem supervise_not_of_link {timeout : Option Duration} {chosen : Signal}
    {started : List Started} {world : σ} {e : CommandError}
    (h : (supervise host p timeout chosen started world).1 = .error e) : e.isOfLink = false := by
  unfold supervise at h
  split at h
  · obtain rfl := Except.error.inj h
    rfl
  · exact verdictResult_not_of_link h

/-- What a launch of the chain did is told by its account: processes are started while the links are
worked through, and neither stopping nor supervising them starts another one. -/
theorem launchChain_follows {resolves : List Launch → ChainLink → Except LinkError Launch}
    {catalog : Catalog} {d : Discovery (σ × List Deed)} (keeps : d.Keeps Prod.snd)
    (same : ∀ earlier link w,
      (resolveLink p catalog d earlier link [] w).1.result = resolves earlier link)
    (options : Options.LaunchOptions) (links : List ChainLink) (world : σ) :
    let run := launchChain host.accounted p options catalog d links [] (world, [])
    ∃ failure, Follows resolves [] links (Deed.launches run.2.2) (Deed.refusals run.2.2) failure ∧
      (∀ e, failure = some e → run.1 = .error e) ∧
        (failure = none → ∀ e, run.1 = .error e → e.isOfLink = false) := by
  intro run
  have starting := startLinks_follows host options.json keeps same [] links (world, [])
  have hrun : run = launchChain host.accounted p options catalog d links [] (world, []) := rfl
  unfold launchChain at hrun
  generalize startLinks host.accounted p options.json catalog d [] links [] (world, []) = r
    at starting hrun
  obtain ⟨⟨started, failure⟩, w⟩ := r
  obtain ⟨launched, refused, follows, launches, refusals⟩ := starting
  simp only [List.map_nil, Deed.launches_nil, Deed.refusals_nil, List.nil_append]
    at follows launches refusals
  cases failure with
  | none =>
    have after := supervise_no_attempt host p options.timeout options.signal started w
    refine ⟨none, ?_, nofun, fun _ e he => supervise_not_of_link _ p (hrun ▸ he)⟩
    rw [hrun, after.launches_eq, after.refusals_eq, launches, refusals]
    exact follows
  | some e =>
    have after := stopAll_no_attempt host p started w
    refine ⟨some e, ?_, ?_, nofun⟩
    · rw [hrun, after.launches_eq, after.refusals_eq, launches, refusals]
      exact follows
    · rintro e' ⟨⟩
      rw [hrun]

theorem dryRun_shows {d : Discovery σ} {c : Context} {words : List String}
    {o : Options.ResolveOptions} {links : List ChainLink} {catalog : Catalog} (other : σ)
    (read : Options.ResolveOptions.read words = .ok o) (chain : readChain o.chain = .ok links)
    (loaded : c.loadCatalog = .ok catalog) (unasked : c.answersFor o.interactive = []) :
    Shows (resolveChain c.palette catalog d [] links [] other).1.result o.json
      (dryRun c d words other) := by
  simp only [dryRun, read, chain, loaded, unasked, Except.mapError, bind, Except.bind]
  cases h : (resolveChain c.palette catalog d [] links [] other).1.result with
  | error e =>
    refine ⟨nofun, fun e' he => ?_⟩
    obtain rfl := Except.error.inj he
    exact ⟨rfl, rfl⟩
  | ok all =>
    refine ⟨fun all' hall => ?_, nofun⟩
    obtain rfl := Except.ok.inj hall
    exact ⟨rfl, rfl⟩

end Launching

namespace Sample

/-- A program whose only mode takes a port. -/
def text : String := "[programs.a]
id = \"7d2b5c4e2f434c559a530b6f1b1d2e10\"
binary = \"/a\"
[programs.a.modes.m]
parameters = [ \x7b name = \"p\", type = \"port\" \x7d ]
"

def context : Context := ⟨⟨⟨[], "/", none⟩, fun _ => .ok text⟩, ⟨false⟩, some "/c", [], []⟩

/-- Every start succeeds; processes are numbered. -/
def host : Host Nat where
  start _ pids := (.ok pids, pids + 1)
  isRecorded _ _ := false
  kill _ _ pids := (none, pids)
  write _ _ pids := pids
  watch _ _ pids := (.ok (), pids)
  next _ pids := (none, pids)

def registry : Registry Nat :=
  Registry.empty.register "port" none fun pids => (.range 8080 8080, pids)

theorem registry_stable : registry.IsStable := by
  intro e he world other
  obtain rfl := List.mem_singleton.1 he
  rfl

def catalog : Catalog := context.loadCatalog.toOption.getD .empty

/-- The program of the second link is unknown. -/
def words : List String := ["a", "+", "b"]

def links : List ChainLink := [⟨"a", []⟩, ⟨"b", []⟩]

def attempt : Except CommandError Unit × Nat × List Deed :=
  launch host.accounted context registry.discovery.beside words (7, [])

/-- The catalog can be loaded, the second link fails in the dry run, and nothing is refused. -/
theorem evaluated : context.loadCatalog.toOption.isSome ∧
    (resolveChain ⟨false⟩ catalog registry.discovery [] links [] 0).1.result.map (·.length) =
      .error (.lookup (.unknownProgram "b")) ∧
    (Deed.refusals attempt.2.2).length = 0 := by
  decide +kernel

theorem loaded : context.loadCatalog = .ok catalog := by
  have accepted := evaluated.1
  rw [catalog, ← eq_ok_of_isSome .empty accepted]

end Sample
end Launcher.Command
