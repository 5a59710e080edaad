import Launcher.Host.Account
import Launcher.Proofs.Host.Moves
/-!
What is added to the account of a host. Stopping and supervising processes never start one, so the
launches in an account are those that the links of a chain have started. -/
namespace Launcher

namespace Deed

/-- Whether a process was to be started, with success or without. -/
def isAttempt : Deed → Bool
  | .started _ _ => true
  | .failedToStart _ _ => true
  | .signalled _ _ _ => false
  | .wrote _ _ => false

@[simp] def launch? : Deed → Option Launch
  | .started launch _ => some launch
  | _ => none

@[simp] def refusal? : Deed → Option (Launch × SpawnError)
  | .failedToStart launch cause => some (launch, cause)
  | _ => none

@[simp] def spawn? : Deed → Option Command.Started
  | .started launch pid => some ⟨pid, launch⟩
  | _ => none

@[simp] def signal? : Deed → Option (Nat × Signal)
  | .signalled pid signal _ => some (pid, signal)
  | _ => none

/-- The processes that were started, in order. -/
abbrev spawned (deeds : List Deed) : List Command.Started := deeds.filterMap spawn?

/-- The signals that were sent, in order. -/
abbrev signals (deeds : List Deed) : List (Nat × Signal) := deeds.filterMap signal?

/-- The launches that were started, in order. -/
def launches (deeds : List Deed) : List Launch := deeds.filterMap launch?

/-- The launches that could not be started, in order. -/
def refusals (deeds : List Deed) : List (Launch × SpawnError) := deeds.filterMap refusal?

@[simp] theorem launches_nil : launches [] = [] := rfl

@[simp] theorem launches_cons (deed : Deed) (deeds : List Deed) :
    launches (deed :: deeds) = deed.launch?.toList ++ launches deeds := by
  cases deed <;> rfl

@[simp] theorem launches_append (before after : List Deed) :
    launches (before ++ after) = launches before ++ launches after := List.filterMap_append

@[simp] theorem refusals_nil : refusals [] = [] := rfl

@[simp] theorem refusals_cons (deed : Deed) (deeds : List Deed) :
    refusals (deed :: deeds) = deed.refusal?.toList ++ refusals deeds := by
  cases deed <;> rfl

@[simp] theorem refusals_append (before after : List Deed) :
    refusals (before ++ after) = refusals before ++ refusals after := List.filterMap_append

end Deed

/-- The account of the later world is that of the earlier one and more, all of it allowed. -/
def Adds (allowed : Deed → Prop) (w w' : σ × List Deed) : Prop :=
  ∃ new, w'.2 = w.2 ++ new ∧ ∀ deed ∈ new, allowed deed

namespace Adds

variable {allowed : Deed → Prop} {w w' w'' : σ × List Deed}

theorem refl (w : σ × List Deed) : Adds allowed w w := ⟨[], by simp, nofun⟩

theorem same (h : w'.2 = w.2) : Adds allowed w w' := ⟨[], by simp [h], nofun⟩

theorem single {deed : Deed} (h : w'.2 = w.2 ++ [deed]) (hd : allowed deed) : Adds allowed w w' :=
  ⟨[deed], h, by simpa using hd⟩

theorem trans (h : Adds allowed w w') (h' : Adds allowed w' w'') : Adds allowed w w'' := by
  obtain ⟨new, hnew, hallowed⟩ := h
  obtain ⟨more, hmore, hallowed'⟩ := h'
  refine ⟨new ++ more, by rw [hmore, hnew, List.append_assoc], fun deed hd => ?_⟩
  rcases List.mem_append.1 hd with hd | hd
  · exact hallowed deed hd
  · exact hallowed' deed hd

/-- What the additions do not show is the same in both accounts. -/
theorem filterMap_eq {f : Deed → Option α} (h : Adds allowed w w')
    (hidden : ∀ deed, allowed deed → f deed = none) :
    w'.2.filterMap f = w.2.filterMap f := by
  obtain ⟨new, hnew, hallowed⟩ := h
  have nothing : new.filterMap f = [] :=
    List.filterMap_eq_nil_iff.2 fun deed hd => hidden deed (hallowed deed hd)
  rw [hnew, List.filterMap_append, nothing, List.append_nil]

end Adds

/-- What was done from one world to the next starts no process. -/
abbrev AddsNoAttempt (w w' : σ × List Deed) : Prop := Adds (fun deed => deed.isAttempt = false) w w'

namespace AddsNoAttempt

variable {w w' : σ × List Deed}

theorem spawned_eq (h : AddsNoAttempt w w') : Deed.spawned w'.2 = Deed.spawned w.2 :=
  h.filterMap_eq fun deed => by cases deed <;> simp [Deed.isAttempt]

theorem launches_eq (h : AddsNoAttempt w w') : Deed.launches w'.2 = Deed.launches w.2 :=
  h.filterMap_eq fun deed => by cases deed <;> simp [Deed.isAttempt]

theorem refusals_eq (h : AddsNoAttempt w w') : Deed.refusals w'.2 = Deed.refusals w.2 :=
  h.filterMap_eq fun deed => by cases deed <;> simp [Deed.isAttempt]

end AddsNoAttempt

theorem accounted_moves (host : Host σ) : host.accounted.Moves AddsNoAttempt where
  refl := .refl
  trans := .trans
  write _ _ _ := .single rfl rfl
  kill _ _ _ := .single rfl rfl

namespace Command

variable (host : Host σ) (p : Text.Palette)

theorem supervise_no_attempt (timeout : Option Duration) (chosen : Signal)
    (started : List Started) (w : σ × List Deed) :
    AddsNoAttempt w (supervise host.accounted p timeout chosen started w).2 :=
  (accounted_moves host).supervise (fun _ _ => .same rfl) (fun _ _ _ => .same rfl) p timeout chosen
    started w

theorem stopAll_no_attempt (started : List Started) (w : σ × List Deed) :
    AddsNoAttempt w (stopAll host.accounted p started w) :=
  (accounted_moves host).stopAll p started w

end Command
end Launcher
