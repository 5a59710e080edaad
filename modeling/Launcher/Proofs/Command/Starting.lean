import Launcher.Proofs.Command.Visits
import Launcher.Proofs.Host.Deeds
/-!
How the links of a chain are started: what one link does to the host, and what all of them come to
when every link is resolved against the launches that were started before it. -/
namespace Launcher.Command

/-- How the links of a chain are started after the earlier launches: what is launched, what could
not be started, and why the work ended early. -/
inductive Follows (resolves : List Launch → ChainLink → Except LinkError Launch) :
    List Launch → List ChainLink → List Launch → List (Launch × SpawnError) →
      Option CommandError → Prop
  | finished {earlier} : Follows resolves earlier [] [] [] none
  | unresolved {earlier link rest e} : resolves earlier link = .error e →
      Follows resolves earlier (link :: rest) [] [] (some (.link e))
  | refused {earlier link rest launch cause} : resolves earlier link = .ok launch →
      Follows resolves earlier (link :: rest) [] [(launch, cause)]
        (some (.spawn link.target cause))
  | started {earlier link rest launch launched refused failure} :
      resolves earlier link = .ok launch →
      Follows resolves (earlier ++ [launch]) rest launched refused failure →
      Follows resolves earlier (link :: rest) (launch :: launched) refused failure

section Follows

variable {resolves : List Launch → ChainLink → Except LinkError Launch}
variable {earlier launched : List Launch} {links : List ChainLink}
variable {refused : List (Launch × SpawnError)} {failure : Option CommandError}

/-- What is launched is what is planned for as many links. -/
theorem Follows.planned (h : Follows resolves earlier links launched refused failure) :
    launched.length ≤ links.length ∧
      plan resolves earlier (links.take launched.length) = .ok (earlier ++ launched) := by
  induction h with
  | finished => simp [plan]
  | unresolved hlink => simp [plan]
  | refused hlink => simp [plan]
  | started hlink hrest ih =>
    obtain ⟨short, planned⟩ := ih
    exact ⟨Nat.succ_le_succ short, by simpa [plan, hlink] using planned⟩

/-- The work ends at the link after those that were launched, or there is no such link. -/
theorem Follows.ending (h : Follows resolves earlier links launched refused failure) :
    (failure = none ∧ refused = [] ∧ launched.length = links.length) ∨
    (∃ e, failure = some (.link e) ∧ refused = [] ∧ launched.length < links.length ∧
      plan resolves earlier (links.take (launched.length + 1)) = .error e) ∨
    (∃ link launch cause, failure = some (.spawn link.target cause) ∧
      refused = [(launch, cause)] ∧ links[launched.length]? = some link ∧
      plan resolves earlier (links.take (launched.length + 1)) =
        .ok (earlier ++ launched ++ [launch])) := by
  induction h with
  | finished => exact .inl ⟨rfl, rfl, rfl⟩
  | unresolved hlink => exact .inr (.inl ⟨_, rfl, rfl, by simp, by simp [plan, hlink]⟩)
  | refused hlink => exact .inr (.inr ⟨_, _, _, rfl, rfl, rfl, by simp [plan, hlink]⟩)
  | started hlink hrest ih =>
    rcases ih with ⟨none, clean, all⟩ | ⟨e, failed, clean, short, planned⟩ |
      ⟨link, launch, cause, failed, once, there, planned⟩
    · exact .inl ⟨none, clean, by simp [all]⟩
    · refine .inr (.inl ⟨e, failed, clean, by simpa using short, ?_⟩)
      simpa [plan, hlink] using planned
    · refine .inr (.inr ⟨link, launch, cause, failed, once, by simpa using there, ?_⟩)
      simpa [plan, hlink] using planned

end Follows

section Starting

variable (host : Host σ) (json : Bool) {p : Text.Palette} {catalog : Catalog}
variable {d : Discovery (σ × List Deed)}

/-- What is done for a link: it has no launch, or its launch cannot be started, or a process is
started. Nothing else is written into the account. -/
theorem start_cases (keeps : d.Keeps Prod.snd) (v : Visit (σ × List Deed)) :
    let outcome := (v.outcome p catalog d).1
    let notice := Deed.wrote .stderr outcome.notice
    ∃ w', (∃ e, outcome.result = .error e ∧
      v.start host.accounted p json catalog d = (.error (.link e), outcome.answers, w') ∧
      w'.2 = v.world.2 ++ [notice]) ∨
    (∃ launch cause, outcome.result = .ok launch ∧
      v.start host.accounted p json catalog d =
        (.error (.spawn v.link.target cause), outcome.answers, w') ∧
      w'.2 = v.world.2 ++ [notice, .failedToStart launch cause]) ∨
    (∃ launch pid stream text, outcome.result = .ok launch ∧
      v.start host.accounted p json catalog d = (.ok ⟨pid, launch⟩, outcome.answers, w') ∧
      w'.2 = v.world.2 ++ [notice, .started launch pid, .wrote stream text]) := by
  have kept : (v.outcome p catalog d).2.2 = v.world.2 :=
    resolveLink_keeps keeps p catalog v.earlier v.link v.answers v.world
  unfold Visit.start
  generalize v.outcome p catalog d = resolved at kept ⊢
  obtain ⟨outcome, world, deeds⟩ := resolved
  obtain rfl : deeds = v.world.2 := kept
  dsimp only
  let notice := Deed.wrote .stderr outcome.notice
  cases hresult : outcome.result with
  | error e => exact ⟨_, .inl ⟨e, rfl, rfl, rfl⟩⟩
  | ok launch =>
    cases hstart : host.start launch (host.write .stderr outcome.notice world) with
    | mk answer after =>
      cases answer with
      | error cause =>
        refine ⟨(after, v.world.2 ++ [notice, .failedToStart launch cause]),
          .inr (.inl ⟨launch, cause, rfl, ?_, rfl⟩)⟩
        simp [Host.accounted, hstart, notice]
      | ok pid =>
        cases htold : announcement p json ⟨pid, launch⟩ with
        | mk stream text =>
          refine ⟨(host.write stream text after,
            v.world.2 ++ [notice, .started launch pid, .wrote stream text]),
            .inr (.inr ⟨launch, pid, stream, text, rfl, ?_, rfl⟩)⟩
          simp [Host.accounted, hstart, htold, notice]

/-- Starting links follows the plan, and the account tells what was launched and what could not be
started. -/
theorem startLinks_follows {resolves : List Launch → ChainLink → Except LinkError Launch}
    (keeps : d.Keeps Prod.snd)
    (same : ∀ earlier link w,
      (resolveLink p catalog d earlier link [] w).1.result = resolves earlier link)
    (started : List Started) (links : List ChainLink) (w : σ × List Deed) :
    ∃ launched refused,
      Follows resolves (started.map (·.launch)) links launched refused
        (startLinks host.accounted p json catalog d started links [] w).1.2 ∧
      Deed.launches (startLinks host.accounted p json catalog d started links [] w).2.2 =
        Deed.launches w.2 ++ launched ∧
      Deed.refusals (startLinks host.accounted p json catalog d started links [] w).2.2 =
        Deed.refusals w.2 ++ refused := by
  induction links generalizing started w with
  | nil => exact ⟨[], [], .finished, by simp [startLinks], by simp [startLinks]⟩
  | cons link rest ih =>
    have result := same (started.map (·.launch)) link w
    obtain ⟨w', cases⟩ := start_cases host json keeps ⟨link, started.map (·.launch), [], w⟩
    rw [startLinks_cons]
    rcases cases with ⟨e, hlink, hstart, deeds⟩ | ⟨launch, cause, hlink, hstart, deeds⟩ |
      ⟨launch, pid, stream, text, hlink, hstart, deeds⟩
    · rw [hstart]
      exact ⟨[], [], .unresolved (result ▸ hlink), by simp [deeds], by simp [deeds]⟩
    · rw [hstart]
      exact ⟨[], [(launch, cause)], .refused (result ▸ hlink), by simp [deeds], by simp [deeds]⟩
    · rw [hstart, Visit.outcome, resolveLink_no_answers]
      obtain ⟨launched, refused, follows, launches, refusals⟩ := ih (started ++ [⟨pid, launch⟩]) w'
      refine ⟨launch :: launched, refused, .started (result ▸ hlink) ?_, ?_, ?_⟩
      · simpa using follows
      · simp only [launches, deeds]
        simp
      · simp only [refusals, deeds]
        simp

end Starting
end Launcher.Command
