import Launcher.Host.Account
import Launcher.Resolution.Asking
/-!
Resolution depends on discovery only through what is answered for each parameter: two discoveries
that agree, in worlds of any kind, lead to the same resolutions. And only discovery moves the world:
what discovery keeps of it, resolution keeps. -/
namespace Launcher

/-- Every registered function answers the same on every call. -/
def Registry.IsStable (registry : Registry σ) : Prop :=
  ∀ e ∈ registry.selectors, ∀ world other, (e.2 world).1 = (e.2 other).1

/-- Both answer the same for every parameter, each in any of its worlds. -/
def Discovery.Agrees (d : Discovery σ) (e : Discovery τ) : Prop :=
  ∀ p world other, (d p world).1 = (e p other).1

theorem stable_agrees {d : Discovery σ} (h : d.IsStable) : d.Agrees d := h

theorem stable_agrees_beside {d : Discovery σ} (h : d.IsStable) :
    d.Agrees (d.beside : Discovery (σ × α)) :=
  fun p world other => h p world other.1

theorem own_selector_mem {registry : Registry σ} {kind subtype selector}
    (h : registry.own? kind subtype = some selector) :
    ((kind, subtype), selector) ∈ registry.selectors := by
  obtain ⟨before, after, split, _⟩ := List.lookup_eq_some_iff.1 h
  rw [split]
  exact List.mem_append_right _ List.mem_cons_self

theorem Registry.IsStable.discovery {registry : Registry σ} (h : registry.IsStable) :
    registry.discovery.IsStable := by
  intro p world other
  simp only [Registry.discovery, Registry.candidatesFor]
  cases hs : registry.selector? p.kind p.subtype with
  | none => rfl
  | some selector =>
    have hm : ∃ key, (key, selector) ∈ registry.selectors := by
      rcases Option.or_eq_some_iff.1 hs with hs | ⟨_, hs⟩
      · exact ⟨_, own_selector_mem hs⟩
      · exact ⟨_, own_selector_mem hs⟩
    obtain ⟨key, hm⟩ := hm
    exact congrArg some (h _ hm world other)

/-- What is answered to questions that are asked one after another. -/
def Discovery.answers (d : Discovery σ) : List Parameter → σ → List (Option Candidates)
  | [], _ => []
  | p :: rest, world => (d p world).1 :: d.answers rest (d p world).2

/-- From the two worlds on, both answer the same to any questions. -/
def Discovery.AgreesFrom (d : Discovery σ) (world : σ) (e : Discovery τ) (other : τ) : Prop :=
  ∀ ps, d.answers ps world = e.answers ps other

namespace Discovery

variable {d : Discovery σ} {e : Discovery τ} {world : σ} {other : τ}

theorem AgreesFrom.refl (d : Discovery σ) (world : σ) : d.AgreesFrom world d world := fun _ => rfl

theorem AgreesFrom.answer (h : d.AgreesFrom world e other) (p : Parameter) :
    (d p world).1 = (e p other).1 := (List.cons.inj (h [p])).1

theorem AgreesFrom.next (h : d.AgreesFrom world e other) (p : Parameter) :
    d.AgreesFrom (d p world).2 e (e p other).2 := fun ps => (List.cons.inj (h (p :: ps))).2

theorem Agrees.anywhere (h : d.Agrees e) (world : σ) (other : τ) :
    d.AgreesFrom world e other := by
  intro ps
  induction ps generalizing world other with
  | nil => rfl
  | cons p rest ih =>
    simp only [answers]
    rw [h p world other, ih]

end Discovery

/-- Neither launch or both are there, and the mode takes the same values from both. -/
structure Resolution.SameMatch (mode : Mode) (matched matched' : Option Launch) : Prop where
  presence : matched.isSome = matched'.isSome
  values : ∀ p ∈ mode.parameters, matchedValue mode matched p = matchedValue mode matched' p

theorem Resolution.SameMatch.refl (mode : Mode) (matched : Option Launch) :
    SameMatch mode matched matched := ⟨rfl, fun _ _ => rfl⟩

/-- Both give the same result, and discovery answers the same from there on. -/
structure Discovery.Alike (d : Discovery σ) (e : Discovery τ) (x : α × σ) (y : α × τ) : Prop where
  result : x.1 = y.1
  agrees : d.AgreesFrom x.2 e y.2

section Agreement

variable {d : Discovery σ} {e : Discovery τ} {world : σ} {other : τ}
variable {mode : Mode} {matched matched' : Option Launch}

theorem candidates_alike (h : d.AgreesFrom world e other) (p : Parameter) :
    d.Alike e (p.candidates d world) (p.candidates e other) := by
  unfold Parameter.candidates
  split
  · exact ⟨rfl, h⟩
  · exact ⟨h.answer p, h.next p⟩

namespace Resolution

theorem choose_alike (h : d.AgreesFrom world e other) {ps : List Parameter}
    (same : ∀ p ∈ ps, matchedValue mode matched p = matchedValue mode matched' p)
    (overrides : List String) :
    d.Alike e (choose d mode matched ps overrides world)
      (choose e mode matched' ps overrides other) := by
  induction ps generalizing overrides world other with
  | nil => exact ⟨rfl, h⟩
  | cons p rest ih =>
    have later : ∀ q ∈ rest, matchedValue mode matched q = matchedValue mode matched' q :=
      fun q hq => same q (List.mem_cons_of_mem _ hq)
    have goes_on {w : σ} {o : τ} (k : d.AgreesFrom w e o) (value : Value)
        (overrides : List String) : d.Alike e
          ((choose d mode matched rest overrides w).1.after value,
            (choose d mode matched rest overrides w).2)
          ((choose e mode matched' rest overrides o).1.after value,
            (choose e mode matched' rest overrides o).2) :=
      ⟨congrArg (Progress.after value) (ih k later overrides).result, (ih k later overrides).agrees⟩
    simp only [choose, same p List.mem_cons_self]
    cases matchedValue mode matched' p with
    | some text => exact goes_on h (.text text) overrides
    | none =>
      cases p.default with
      | some value => exact goes_on h value overrides
      | none =>
        obtain ⟨answer, agrees⟩ := candidates_alike h p
        dsimp only
        rw [answer]
        cases (p.candidates e other).1.bind Candidates.single with
        | some value => exact goes_on agrees value overrides
        | none =>
          cases overrides with
          | nil => exact ⟨rfl, agrees⟩
          | cons text overrides => exact goes_on agrees (.text text) overrides

theorem survey_alike (h : d.AgreesFrom world e other) (ps : List Parameter) :
    d.Alike e (survey d ps world) (survey e ps other) := by
  induction ps generalizing world other with
  | nil => exact ⟨rfl, h⟩
  | cons p rest ih =>
    obtain ⟨answer, agrees⟩ := candidates_alike h p
    simp only [survey]
    exact ⟨by rw [answer, (ih agrees).result], (ih agrees).agrees⟩

theorem matchWarnings_eq (h : matched.isSome = matched'.isSome) :
    matchWarnings mode matched = matchWarnings mode matched' := by
  cases matched with
  | none =>
    obtain rfl : matched' = none := by simpa using h
    rfl
  | some launch =>
    obtain ⟨other, rfl⟩ := Option.isSome_iff_exists.1 h.symm
    rfl

theorem conclude_alike (h : d.AgreesFrom world e other)
    (presence : matched.isSome = matched'.isSome) (program : Program) (progress : Progress) :
    d.Alike e (conclude d program mode matched progress world)
      (conclude e program mode matched' progress other) := by
  have warnings : matchWarnings mode matched = matchWarnings mode matched' :=
    matchWarnings_eq presence
  cases progress with
  | complete values leftover => exact ⟨by simp only [conclude, warnings], h⟩
  | stopped decided p candidates later =>
    obtain ⟨others, agrees⟩ := survey_alike h later
    exact ⟨by simp only [conclude, warnings, others], agrees⟩

end Resolution

open Resolution

theorem resolve_alike (h : d.AgreesFrom world e other) (same : SameMatch mode matched matched')
    (program : Program) (overrides : List String) :
    d.Alike e (resolve d program mode matched overrides world)
      (resolve e program mode matched' overrides other) := by
  obtain ⟨progress, agrees⟩ := choose_alike h same.values overrides
  simp only [resolve]
  rw [progress]
  exact conclude_alike agrees same.presence program _

theorem resolveAsking_alike (h : d.AgreesFrom world e other)
    (same : SameMatch mode matched matched') (program : Program)
    (overrides answers : List String) :
    d.Alike e (resolveAsking d program mode matched overrides answers world)
      (resolveAsking e program mode matched' overrides answers other) := by
  induction answers generalizing overrides world other with
  | nil =>
    obtain ⟨result, agrees⟩ := resolve_alike h same program overrides
    exact ⟨by simp only [resolveAsking, result], agrees⟩
  | cons answer rest ih =>
    obtain ⟨result, agrees⟩ := resolve_alike h same program overrides
    simp only [resolveAsking]
    rw [result]
    cases (resolve e program mode matched' overrides other).1.result with
    | ok launch => exact ⟨rfl, agrees⟩
    | error failure =>
      obtain ⟨later, after⟩ := ih agrees (overrides ++ [answer])
      exact ⟨by simp only [later], after⟩

theorem choose_agree (h : d.Agrees e) (mode : Mode) (matched : Option Launch)
    (ps : List Parameter) (overrides : List String) (world : σ) (other : τ) :
    (choose d mode matched ps overrides world).1 =
      (choose e mode matched ps overrides other).1 :=
  (choose_alike (h.anywhere world other) (fun _ _ => rfl) overrides).result

theorem resolveAsking_agree (h : d.Agrees e) (program : Program) (mode : Mode)
    (matched : Option Launch) (overrides answers : List String) (world : σ) (other : τ) :
    (resolveAsking d program mode matched overrides answers world).1 =
      (resolveAsking e program mode matched overrides answers other).1 :=
  (resolveAsking_alike (h.anywhere world other) (.refl mode matched) program overrides
    answers).result

end Agreement

/-- No question to the discovery changes what `f` sees of the world. -/
def Discovery.Keeps (f : σ → α) (d : Discovery σ) : Prop := ∀ p world, f (d p world).2 = f world

theorem beside_keeps (d : Discovery σ) :
    (d.beside : Discovery (σ × α)).Keeps Prod.snd := fun _ _ => rfl

section Keeping

variable {d : Discovery σ} {f : σ → α}

theorem candidates_keeps (h : d.Keeps f) (p : Parameter) (world : σ) :
    f (p.candidates d world).2 = f world := by
  unfold Parameter.candidates
  split
  · rfl
  · exact h p world

namespace Resolution

theorem choose_keeps (h : d.Keeps f) (mode : Mode) (matched : Option Launch)
    (ps : List Parameter) (overrides : List String) (world : σ) :
    f (choose d mode matched ps overrides world).2 = f world := by
  induction ps generalizing overrides world with
  | nil => rfl
  | cons p rest ih =>
    simp only [choose]
    cases matchedValue mode matched p with
    | some text => exact ih overrides world
    | none =>
      cases p.default with
      | some value => exact ih overrides world
      | none =>
        have asked := candidates_keeps h p world
        dsimp only
        split
        · exact (ih overrides _).trans asked
        · cases overrides with
          | nil => exact asked
          | cons text overrides => exact (ih overrides _).trans asked

theorem survey_keeps (h : d.Keeps f) (ps : List Parameter) (world : σ) :
    f (survey d ps world).2 = f world := by
  induction ps generalizing world with
  | nil => rfl
  | cons p rest ih => exact (ih _).trans (candidates_keeps h p world)

theorem conclude_keeps (h : d.Keeps f) (program : Program) (mode : Mode)
    (matched : Option Launch) (progress : Progress) (world : σ) :
    f (conclude d program mode matched progress world).2 = f world := by
  cases progress with
  | complete values leftover => rfl
  | stopped decided p candidates later => exact survey_keeps h later world

end Resolution

theorem resolve_keeps (h : d.Keeps f) (program : Program) (mode : Mode)
    (matched : Option Launch) (overrides : List String) (world : σ) :
    f (resolve d program mode matched overrides world).2 = f world :=
  (Resolution.conclude_keeps h program mode matched _ _).trans
    (Resolution.choose_keeps h mode matched mode.parameters overrides world)

theorem resolveAsking_keeps (h : d.Keeps f) (program : Program) (mode : Mode)
    (matched : Option Launch) (overrides answers : List String) (world : σ) :
    f (resolveAsking d program mode matched overrides answers world).2 = f world := by
  induction answers generalizing overrides world with
  | nil => exact resolve_keeps h program mode matched overrides world
  | cons answer rest ih =>
    have once := resolve_keeps h program mode matched overrides world
    simp only [resolveAsking]
    split
    · exact once
    · exact (ih _ _).trans once

end Keeping
end Launcher
