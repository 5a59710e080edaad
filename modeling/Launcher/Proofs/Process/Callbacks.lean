import Launcher.Process.Interleaving
import Mathlib.Data.List.Perm.Subperm
/-!
Exit callbacks over all interleavings of one handle's threads. What is registered is in exactly one
of three places: pending, with a thread on its way, or delivered. Recording the exit empties the
first, so nothing is lost between the two sides of the exit and nothing is delivered twice. -/
namespace Launcher.Interleaving

variable {κ : Type} {s t u : State κ} {e : Event κ}

/-- Callbacks that threads have taken and not run yet. -/
def inFlight (couriers : List (Courier κ)) : List κ := couriers.flatMap (·.callbacks)

def deliveredCallbacks (s : State κ) : List κ := s.delivered.map (·.1)

theorem inFlight_append (a b : List (Courier κ)) : inFlight (a ++ b) = inFlight a ++ inFlight b :=
  List.flatMap_append

theorem inFlight_cons (c : Courier κ) (a : List (Courier κ)) :
    inFlight (c :: a) = c.callbacks ++ inFlight a := rfl

theorem inFlight_delivered (before after : List (Courier κ)) (status : ExitStatus) (c : κ)
    (rest : List κ) : (inFlight (before ++ ⟨status, c :: rest⟩ :: after)).Perm
      (inFlight (before ++ ⟨status, rest⟩ :: after) ++ [c]) := by
  simp only [inFlight_append, inFlight_cons, List.cons_append]
  exact List.perm_middle.trans (List.perm_append_singleton c _).symm

/-- Events that only tell something or send a signal. -/
def Event.isQuery : Event κ → Bool
  | .settle _ | .onExit _ | .deliver _ => false
  | .wait | .tryStatus | .isRunning _ | .signal _ _ | .release => true

/-- Everything that an event can change, one case for each side of the exit. -/
inductive Change (s : State κ) : Event κ → State κ → Prop where
  | recorded (status : ExitStatus) : s.exit.status = none →
      Change s (.settle status)
        { s with exit := ⟨some status, []⟩
                 couriers := s.couriers ++ [⟨status, s.exit.pending⟩] }
  | repeated (status old : ExitStatus) : s.exit.status = some old →
      Change s (.settle status) { s with couriers := s.couriers ++ [⟨status, []⟩] }
  | kept (c : κ) : s.exit.status = none →
      Change s (.onExit c)
        { s with exit := ⟨none, s.exit.pending ++ [c]⟩, registered := s.registered ++ [c] }
  | handed (c : κ) (status : ExitStatus) : s.exit.status = some status →
      Change s (.onExit c)
        { s with couriers := s.couriers ++ [⟨status, [c]⟩], registered := s.registered ++ [c] }
  | delivered (before after : List (Courier κ)) (status : ExitStatus) (c : κ) (rest : List κ) :
      s.couriers = before ++ ⟨status, c :: rest⟩ :: after →
      Change s (.deliver before.length)
        { s with couriers := before ++ ⟨status, rest⟩ :: after
                 delivered := s.delivered ++ [(c, status)] }
  | observed (e : Event κ) (o : Observation) : e.isQuery → Change s e (s.observe o)

theorem advance_split {couriers others : List (Courier κ)} {thread : Nat}
    {delivery : κ × ExitStatus} (h : State.advance couriers thread = some (delivery, others)) :
    ∃ before status c rest after, couriers = before ++ ⟨status, c :: rest⟩ :: after ∧
      before.length = thread ∧ delivery = (c, status) ∧
      others = before ++ ⟨status, rest⟩ :: after := by
  induction couriers generalizing thread delivery others with
  | nil => cases h
  | cons courier couriers ih =>
    obtain ⟨status, callbacks⟩ := courier
    cases thread with
    | zero =>
      cases callbacks with
      | nil => cases h
      | cons c rest =>
        obtain ⟨rfl, rfl⟩ := Prod.mk.inj (Option.some.inj h)
        exact ⟨[], status, c, rest, couriers, rfl, rfl, rfl, rfl⟩
    | succ thread =>
      rw [State.advance] at h
      obtain ⟨⟨delivery', others'⟩, ha, heq⟩ := Option.map_eq_some_iff.1 h
      obtain ⟨rfl, rfl⟩ := Prod.mk.inj heq
      obtain ⟨before, status', c, rest, after, rfl, rfl, rfl, rfl⟩ := ih ha
      exact ⟨⟨status, callbacks⟩ :: before, status', c, rest, after, rfl, rfl, rfl, rfl⟩

theorem step_change (h : Step s e t) : Change s e t := by
  obtain ⟨h⟩ := h
  cases e with
  | settle status =>
    cases hs : s.exit.status with
    | none =>
      obtain rfl : _ = t := by simpa [State.next, ExitState.settle, hs] using h
      exact .recorded status hs
    | some old =>
      obtain rfl : _ = t := by simpa [State.next, ExitState.settle, hs] using h
      exact .repeated status old hs
  | onExit c =>
    cases hs : s.exit.status with
    | none =>
      obtain rfl : _ = t := by simpa [State.next, ExitState.register, hs] using h
      exact .kept c hs
    | some status =>
      obtain rfl : _ = t := by simpa [State.next, ExitState.register, hs] using h
      exact .handed c status hs
  | deliver thread =>
    obtain ⟨⟨delivery, others⟩, ha, rfl⟩ := Option.map_eq_some_iff.1 h
    obtain ⟨before, status, c, rest, after, hc, rfl, rfl, rfl⟩ := advance_split ha
    exact .delivered before after status c rest hc
  | wait =>
    simp only [State.next] at h
    split at h
    · exact Option.some.inj h ▸ .observed _ _ rfl
    · exact Option.some.inj h ▸ .observed _ _ rfl
  | tryStatus => exact Option.some.inj h ▸ .observed _ _ rfl
  | isRunning probe =>
    simp only [State.next] at h
    split at h
    · exact Option.some.inj h ▸ .observed _ _ rfl
    · exact Option.some.inj h ▸ .observed _ _ rfl
  | signal signal refusal =>
    simp only [State.next] at h
    split at h
    · exact Option.some.inj h ▸ .observed _ _ rfl
    · exact Option.some.inj h ▸ .observed _ _ rfl
  | release => exact Option.some.inj h ▸ .observed _ _ rfl

structure Invariant (s : State κ) : Prop where
  /-- Before the exit everything waits in the order of registration. -/
  waiting : s.exit.status = none → s.exit.pending = s.registered ∧ s.couriers = [] ∧
    s.delivered = []
  drained : ∀ status, s.exit.status = some status → s.exit.pending = []
  carried : ∀ courier ∈ s.couriers, courier.callbacks ≠ [] →
    s.exit.status = some courier.status
  told : ∀ d ∈ s.delivered, s.exit.status = some d.2
  conserved : s.registered.Perm (s.exit.pending ++ inFlight s.couriers ++ deliveredCallbacks s)

theorem initial_invariant (pid : Nat) : Invariant (State.initial pid : State κ) := by
  constructor <;> simp [State.initial, ExitState.initial, inFlight, deliveredCallbacks]

theorem change_preserves_invariant (h : Invariant s) (hc : Change s e t) : Invariant t := by
  cases hc with
  | recorded status hs =>
    obtain ⟨hp, hcouriers, hdelivered⟩ := h.waiting hs
    refine ⟨?_, ?_, ?_, ?_, ?_⟩
    · intro none
      cases none
    · intro _ _
      rfl
    · intro courier hm _
      rw [hcouriers] at hm
      obtain rfl : courier = ⟨status, s.exit.pending⟩ := by simpa using hm
      rfl
    · simp [hdelivered]
    · simp [inFlight, deliveredCallbacks, hp, hcouriers, hdelivered]
  | repeated status old hs =>
    refine ⟨?_, h.drained, ?_, h.told, ?_⟩
    · intro none
      cases hs.symm.trans none
    · intro courier hm hne
      rcases List.mem_append.1 hm with hm | hm
      · exact h.carried courier hm hne
      · obtain rfl : courier = ⟨status, []⟩ := by simpa using hm
        exact absurd rfl hne
    · simpa [inFlight_append, inFlight, deliveredCallbacks] using h.conserved
  | kept c hs =>
    obtain ⟨hp, hcouriers, hdelivered⟩ := h.waiting hs
    refine ⟨?_, ?_, ?_, ?_, ?_⟩
    · intro _
      exact ⟨congrArg (· ++ [c]) hp, hcouriers, hdelivered⟩
    · intro status some
      cases some
    · simp [hcouriers]
    · simp [hdelivered]
    · simp [inFlight, deliveredCallbacks, hp, hcouriers, hdelivered]
  | handed c status hs =>
    refine ⟨?_, h.drained, ?_, h.told, ?_⟩
    · intro none
      cases hs.symm.trans none
    · intro courier hm hne
      rcases List.mem_append.1 hm with hm | hm
      · exact h.carried courier hm hne
      · obtain rfl : courier = ⟨status, [c]⟩ := by simpa using hm
        exact hs
    · have hperm := h.conserved.append_right [c]
      rw [inFlight_append]
      refine hperm.trans ?_
      simp only [inFlight, deliveredCallbacks, List.flatMap_cons, List.flatMap_nil,
        List.append_nil, List.append_assoc]
      exact (List.perm_append_comm.append_left _).append_left _
  | delivered before after status c rest hsplit =>
    have carried : s.exit.status = some status :=
      h.carried ⟨status, c :: rest⟩ (by simp [hsplit]) (by simp)
    refine ⟨?_, h.drained, ?_, ?_, ?_⟩
    · intro none
      cases carried.symm.trans none
    · intro courier hm hne
      rcases List.mem_append.1 hm with hm | hm
      · exact h.carried courier (by simp [hsplit, hm]) hne
      · rcases List.mem_cons.1 hm with rfl | hm
        · exact carried
        · exact h.carried courier (by simp [hsplit, hm]) hne
    · intro d hd
      rcases List.mem_append.1 hd with hd | hd
      · exact h.told d hd
      · obtain rfl : d = (c, status) := by simpa using hd
        exact carried
    · have hperm := h.conserved
      rw [hsplit] at hperm
      refine hperm.trans ?_
      have moved := inFlight_delivered before after status c rest
      refine ((moved.append_left _).append_right _).trans ?_
      simp only [deliveredCallbacks, List.map_append, List.map_cons, List.map_nil,
        List.append_assoc]
      exact (List.perm_append_comm.append_left _).append_left _
  | observed o _ => exact ⟨h.waiting, h.drained, h.carried, h.told, h.conserved⟩

theorem execution_preserves_invariant (h : Execution s t) (hs : Invariant s) : Invariant t := by
  induction h with
  | refl => exact hs
  | tail _ step ih => exact change_preserves_invariant ih (step_change step)

theorem reachable_invariant (h : Reachable s) : Invariant s :=
  execution_preserves_invariant h (initial_invariant s.pid)

/-- The thread that recorded the exit has run `done` and not yet `left`, in the order of what was
waiting then. The `others` that were delivered were registered later. -/
structure Drain (waiting : List κ) (status : ExitStatus) (s : State κ)
    (done left later others : List κ) (couriers : List (Courier κ)) : Prop where
  recorded : s.exit.status = some status
  split : waiting = done ++ left
  courier : s.couriers = ⟨status, left⟩ :: couriers
  registered : s.registered = waiting ++ later
  in_order : done.Sublist (deliveredCallbacks s)
  delivered : (deliveredCallbacks s).Perm (done ++ others)
  conserved : later.Perm (inFlight couriers ++ others)

def DrainedInOrder (waiting : List κ) (status : ExitStatus) (s : State κ) : Prop :=
  ∃ done left later others couriers, Drain waiting status s done left later others couriers

theorem change_preserves_order {waiting : List κ} {status : ExitStatus}
    (h : DrainedInOrder waiting status s) (hc : Change s e t) :
    DrainedInOrder waiting status t := by
  obtain ⟨done, left, later, others, couriers, h⟩ := h
  cases hc with
  | recorded _ hs => cases hs.symm.trans h.recorded
  | repeated new old hs =>
    refine ⟨done, left, later, others, couriers ++ [⟨new, []⟩], h.recorded, h.split, ?_,
      h.registered, h.in_order, h.delivered, ?_⟩
    · simp [h.courier]
    · simpa [inFlight_append, inFlight] using h.conserved
  | kept c hs => cases hs.symm.trans h.recorded
  | handed c new hs =>
    refine ⟨done, left, later ++ [c], others, couriers ++ [⟨new, [c]⟩], h.recorded, h.split, ?_,
      ?_, h.in_order, h.delivered, ?_⟩
    · simp [h.courier]
    · simp [h.registered]
    · refine (h.conserved.append_right [c]).trans ?_
      rw [inFlight_append]
      simp only [inFlight, List.flatMap_cons, List.flatMap_nil, List.append_nil,
        List.append_assoc]
      exact List.perm_append_comm.append_left _
  | delivered before after new c rest hsplit =>
    rw [h.courier] at hsplit
    cases before with
    -- the thread that recorded the exit goes on with its own list
    | nil =>
      obtain ⟨hcourier, rfl⟩ := List.cons.inj hsplit
      obtain ⟨rfl, rfl⟩ := Courier.mk.inj hcourier
      refine ⟨done ++ [c], rest, later, others, couriers, h.recorded, ?_, rfl, h.registered,
        ?_, ?_, h.conserved⟩
      · simp [h.split]
      · simpa [deliveredCallbacks] using h.in_order.append (List.Sublist.refl [c])
      · have hperm := h.delivered.append_right [c]
        simp only [deliveredCallbacks, List.map_append, List.map_cons, List.map_nil,
          List.append_assoc] at hperm ⊢
        exact hperm.trans (List.perm_append_comm.append_left _)
    -- another thread delivers what it registered after the exit
    | cons first before =>
      obtain ⟨rfl, rfl⟩ := List.cons.inj hsplit
      refine ⟨done, left, later, others ++ [c], before ++ ⟨new, rest⟩ :: after, h.recorded,
        h.split, rfl, h.registered, ?_, ?_, ?_⟩
      · simpa [deliveredCallbacks] using h.in_order.trans (List.sublist_append_left _ [c])
      · simpa [deliveredCallbacks] using h.delivered.append_right [c]
      · refine h.conserved.trans ?_
        refine ((inFlight_delivered before after new c rest).append_right _).trans ?_
        rw [List.append_assoc]
        exact List.perm_append_comm.append_left _
  | observed o _ =>
    exact ⟨done, left, later, others, couriers, h.recorded, h.split, h.courier, h.registered,
      h.in_order, h.delivered, h.conserved⟩

theorem execution_preserves_order {waiting : List κ} {status : ExitStatus}
    (h : DrainedInOrder waiting status s) (k : Execution s t) :
    DrainedInOrder waiting status t := by
  induction k with
  | refl => exact h
  | tail _ step ih => exact change_preserves_order ih (step_change step)

/-- Recording the exit hands all that waits, in the order of registration, to one thread. -/
theorem recording_drains {status : ExitStatus} (h : Invariant s) (hs : s.exit.status = none)
    (step : Step s (.settle status) t) : DrainedInOrder s.registered status t := by
  obtain ⟨hp, hcouriers, hdelivered⟩ := h.waiting hs
  refine ⟨[], s.registered, [], [], [], ?_⟩
  cases step_change step with
  | recorded _ _ => constructor <;> simp [hp, hcouriers, hdelivered, deliveredCallbacks, inFlight]
  | repeated _ old hold => cases hs.symm.trans hold
  | observed _ o query => cases query

/-- Each registration is delivered at most once, with the recorded status and never before it, and
exactly once when all threads are back. What the exit found waiting is delivered in order. -/
theorem callbacks_delivered_once (h : Reachable s) :
    (s.exit.status.isSome → s.exit.pending = []) ∧
    (s.exit.status = none → s.delivered = []) ∧
    (deliveredCallbacks s).Subperm s.registered ∧
    (∀ d ∈ s.delivered, s.exit.status = some d.2) ∧
    (s.exit.status.isSome → Quiet s → (deliveredCallbacks s).Perm s.registered) ∧
    (∀ (before recorded : State κ) status, Reachable before → before.exit.status = none →
      Step before (.settle status) recorded → Execution recorded s →
      ∃ done left later others, before.registered = done ++ left ∧
        s.registered = before.registered ++ later ∧ others.Subperm later ∧
        done.Sublist (deliveredCallbacks s) ∧ (deliveredCallbacks s).Perm (done ++ others)) := by
  have hi := reachable_invariant h
  refine ⟨?_, fun none => (hi.waiting none).2.2, ?_, hi.told, ?_, ?_⟩
  · intro some
    obtain ⟨status, hs⟩ := Option.isSome_iff_exists.1 some
    exact hi.drained status hs
  · exact (List.sublist_append_right _ _).subperm.trans hi.conserved.symm.subperm
  · intro some quiet
    obtain ⟨status, hs⟩ := Option.isSome_iff_exists.1 some
    have landed : inFlight s.couriers = [] := List.flatMap_eq_nil_iff.2 quiet
    have hperm := hi.conserved
    rw [hi.drained status hs, landed] at hperm
    exact hperm.symm
  · intro before recorded status hb hnone step run
    obtain ⟨done, left, later, others, couriers, hd⟩ :=
      execution_preserves_order (recording_drains (reachable_invariant hb) hnone step) run
    exact ⟨done, left, later, others, hd.split, hd.registered,
      (List.sublist_append_right _ _).subperm.trans hd.conserved.symm.subperm, hd.in_order,
      hd.delivered⟩

def runTrace (s : State κ) : List (Event κ) → Option (State κ)
  | [] => some s
  | e :: es => (s.next e).bind fun t => runTrace t es

theorem runTrace_execution (es : List (Event κ)) (h : runTrace s es = some t)
    (k : Execution u s) : Execution u t := by
  induction es generalizing s with
  | nil =>
    obtain rfl := Option.some.inj h
    exact k
  | cons e es ih =>
    obtain ⟨v, hv, hrest⟩ := Option.bind_eq_some_iff.1 h
    exact ih hrest (k.tail (.of hv))

namespace Sample

/-- Two callbacks wait for the exit. -/
def before : State Nat :=
  { pid := 7, exit := ⟨none, [1, 2]⟩, couriers := [], delivered := [], registered := [1, 2]
    observations := [] }

def recorded : State Nat :=
  { before with exit := ⟨some (.code 3), []⟩, couriers := [⟨.code 3, [1, 2]⟩] }

/-- A third callback is registered after the exit and delivered before the other two; somebody
records the exit once more. -/
def settled : State Nat :=
  { recorded with
    couriers := [⟨.code 3, []⟩, ⟨.code 3, []⟩, ⟨.unknown, []⟩]
    delivered := [(3, .code 3), (1, .code 3), (2, .code 3)]
    registered := [1, 2, 3] }

theorem before_reachable : Reachable before :=
  runTrace_execution [.onExit 1, .onExit 2] rfl (.refl _)

theorem recorded_settled : Execution recorded settled :=
  runTrace_execution [.onExit 3, .deliver 1, .settle .unknown, .deliver 0, .deliver 0] rfl
    (.refl _)

theorem settled_reachable : Reachable settled :=
  runTrace_execution
    [.settle (.code 3), .onExit 3, .deliver 1, .settle .unknown, .deliver 0, .deliver 0] rfl
    before_reachable

end Sample

theorem delivered_once_across_exit : Reachable Sample.settled ∧ Quiet Sample.settled ∧
    (deliveredCallbacks Sample.settled).Perm Sample.settled.registered ∧
    ∃ done left later others, Sample.before.registered = done ++ left ∧
      Sample.settled.registered = Sample.before.registered ++ later ∧ others.Subperm later ∧
      done.Sublist (deliveredCallbacks Sample.settled) ∧
      (deliveredCallbacks Sample.settled).Perm (done ++ others) :=
  have quiet : Quiet Sample.settled := by simp [Quiet, Sample.settled]
  have all := callbacks_delivered_once Sample.settled_reachable
  ⟨Sample.settled_reachable, quiet, all.2.2.2.2.1 rfl quiet,
    all.2.2.2.2.2 Sample.before Sample.recorded (.code 3) Sample.before_reachable rfl (.of rfl)
      Sample.recorded_settled⟩

end Launcher.Interleaving
