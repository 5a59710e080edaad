import Launcher.Proofs.Resolution.Recording
import Launcher.Proofs.Resolution.Reporting
/-!
How far a pass has come. The first parameters are gone through before the others, so a pass is the
pass over the first ones, and then over the rest with the overrides that are left. Parameters with a
fixed value leave overrides and world alone. -/
namespace Launcher.Resolution

/-- The progress of a pass that had these values before. -/
def Progress.behind (values : List Value) (progress : Progress) : Progress :=
  values.foldr Progress.after progress

section Parts

variable {d : Discovery σ} {mode : Mode} {matched : Option Launch} {p : Parameter}
variable {before rest later : List Parameter} {overrides left : List String} {world w : σ}
variable {values others all : List Value} {candidates : Option Candidates} {i : Nat}

@[simp] theorem behind_complete :
    (Progress.complete others left).behind values = .complete (values ++ others) left := by
  induction values with
  | nil => rfl
  | cons value values ih =>
    rw [Progress.behind, List.foldr_cons, ← Progress.behind, ih]
    rfl

@[simp] theorem behind_stopped : (Progress.stopped i p candidates later).behind values =
    .stopped (values.length + i) p candidates later := by
  induction values with
  | nil => simp [Progress.behind]
  | cons value values ih =>
    rw [Progress.behind, List.foldr_cons, ← Progress.behind, ih, List.length_cons, Progress.after]
    congr 1
    omega

/-- A pass that is complete for the first parameters goes on with the rest. -/
theorem choose_in_parts
    (h : choose d mode matched before overrides world = (.complete values left, w))
    (rest : List Parameter) :
    choose d mode matched (before ++ rest) overrides world =
      ((choose d mode matched rest left w).1.behind values,
        (choose d mode matched rest left w).2) := by
  induction before generalizing overrides world values with
  | nil =>
    cases h
    rfl
  | cons q before ih =>
    rcases choose_step d mode matched q overrides world with
      ⟨value, left', w', goes_on⟩ | ⟨rfl, -, stops⟩
    · rw [goes_on, Prod.mk.injEq] at h
      obtain ⟨others, rfl, complete⟩ := after_eq_complete h.1
      rw [List.cons_append, goes_on, ih (Prod.ext complete h.2)]
      rfl
    · rw [stops] at h
      cases h

/-- A complete pass was complete after the first parameters, too. -/
theorem complete_in_parts
    (h : choose d mode matched (before ++ rest) overrides world = (.complete all left, w)) :
    ∃ values others middle w',
      choose d mode matched before overrides world = (.complete values middle, w') ∧
      choose d mode matched rest middle w' = (.complete others left, w) ∧
      all = values ++ others := by
  cases first : choose d mode matched before overrides world with
  | mk progress w' =>
    cases progress with
    | complete values middle =>
      rw [choose_in_parts first, Prod.mk.injEq] at h
      cases second : choose d mode matched rest middle w' with
      | mk progress w'' =>
        rw [second] at h
        cases progress with
        | complete others left' =>
          rw [behind_complete] at h
          obtain ⟨rfl, rfl⟩ := Progress.complete.inj h.1
          obtain rfl := h.2
          exact ⟨values, others, middle, w', rfl, second, rfl⟩
        | stopped => simp at h
    | stopped i p candidates later =>
      -- The parameter at which the first ones stop has more behind it here, and stops the whole.
      obtain ⟨ahead, values, w₁, rfl, -, complete, asked, free⟩ := choose_eq_stopped first
      rw [List.append_assoc, choose_in_parts complete, List.cons_append, choose_of_free free] at h
      simp at h

end Parts

section Fixed

variable {mode : Mode} {matched : Option Launch} {p : Parameter} {value : Value}

/-- The value that a parameter has whatever is discovered and whatever the overrides are. -/
def fixedValue (mode : Mode) (matched : Option Launch) (p : Parameter) : Option Value :=
  (ownValue mode matched p).or (if p.isLiteral then some (.text p.name) else none)

theorem fixedValue_of_matched {text : String} (h : matchedValue mode matched p = some text) :
    fixedValue mode matched p = some (.text text) := by
  simp [fixedValue, ownValue, h]

/-- Neither the overrides nor the world see a parameter with a fixed value. -/
theorem choose_of_fixed (h : fixedValue mode matched p = some value) (d : Discovery σ)
    (ps : List Parameter) (overrides : List String) (world : σ) :
    choose d mode matched (p :: ps) overrides world =
      ((choose d mode matched ps overrides world).1.after value,
        (choose d mode matched ps overrides world).2) := by
  simp only [choose]
  cases taken : matchedValue mode matched p with
  | some text =>
    obtain rfl : Value.text text = value := by simpa [fixedValue, ownValue, taken] using h
    rfl
  | none =>
    cases default : p.default with
    | some own =>
      obtain rfl : own = value := by simpa [fixedValue, ownValue, taken, default] using h
      rfl
    | none =>
      have fixed : p.isLiteral = true ∧ Value.text p.name = value := by
        simpa [fixedValue, ownValue, taken, default] using h
      obtain ⟨literal, rfl⟩ := fixed
      have known : p.candidates d world = (some (.list [.text p.name]), world) := by
        simp [Parameter.candidates, literal]
      rw [known]
      rfl

end Fixed

/-- A pass gets past the first `k` parameters: it gives them these texts, and these overrides are
left for the others. -/
def GetsPast (d : Discovery σ) (mode : Mode) (matched : Option Launch) (overrides : List String)
    (world : σ) (k : Nat) (texts left : List String) : Prop :=
  ∃ values w, choose d mode matched (mode.parameters.take k) overrides world =
    (.complete values left, w) ∧ values.map Value.render = texts

section Past

variable {d : Discovery σ} {program : Program} {mode : Mode} {matched : Option Launch}
variable {p : Parameter} {overrides left left' texts texts' : List String} {world w : σ}
variable {k i : Nat} {value : Value}

theorem GetsPast.unique (h : GetsPast d mode matched overrides world k texts left)
    (h' : GetsPast d mode matched overrides world k texts' left') :
    texts = texts' ∧ left = left' := by
  obtain ⟨values, w, complete, rfl⟩ := h
  obtain ⟨values', w', complete', rfl⟩ := h'
  cases complete.symm.trans complete'
  exact ⟨rfl, rfl⟩

theorem GetsPast.length_eq (h : GetsPast d mode matched overrides world k texts left)
    (inside : k ≤ mode.parameters.length) : texts.length = k := by
  obtain ⟨values, w, complete, rfl⟩ := h
  rw [List.length_map, choose_length (congrArg Prod.fst complete), List.length_take]
  omega

/-- A parameter with a fixed value is passed without an override. -/
theorem GetsPast.next_fixed (h : GetsPast d mode matched overrides world k texts left)
    (hp : mode.parameters[k]? = some p) (fixed : fixedValue mode matched p = some value) :
    GetsPast d mode matched overrides world (k + 1) (texts ++ [value.render]) left := by
  obtain ⟨values, w, complete, rfl⟩ := h
  refine ⟨values ++ [value], w, ?_, by simp⟩
  rw [List.take_add_one, hp, Option.toList_some, choose_in_parts complete, choose_of_fixed fixed]
  simp [choose, Progress.after]

/-- A launch tells how far the pass came with its first texts. -/
theorem getsPast_of_ok {launch : Launch} (inside : k ≤ mode.parameters.length)
    (h : (resolve d program mode matched overrides world).1.result = .ok launch) :
    ∃ left, GetsPast d mode matched overrides world k (launch.arguments.take k) left := by
  obtain ⟨all, leftover, complete, rfl⟩ := resolve_ok h
  rw [← List.take_append_drop k mode.parameters] at complete
  obtain ⟨values, others, middle, w, first, -, rfl⟩ := complete_in_parts (Prod.ext complete rfl)
  refine ⟨middle, values, w, first, ?_⟩
  have length : values.length = k := by
    rw [choose_length (congrArg Prod.fst first), List.length_take]
    omega
  simp [Launch.ofArguments, length]

/-- Up to the parameter that fails, the pass came with all overrides taken. -/
theorem getsPast_of_error {failure : ResolutionFailure}
    (h : (resolve d program mode matched overrides world).1.result = .error failure) :
    ∃ p texts w, mode.parameters[failure.index]? = some p ∧ IsFree d mode matched w p ∧
      GetsPast d mode matched overrides world failure.index texts [] := by
  obtain ⟨before, p, later, values, w, split, complete, free, rfl, -⟩ := resolve_error h
  refine ⟨p, values.map Value.render, w, by simp [split], free, values, w, ?_, rfl⟩
  simpa [split] using complete

/-- A resolution does not fail at a parameter that its pass gets past. -/
theorem GetsPast.le_index {failure : ResolutionFailure}
    (past : GetsPast d mode matched overrides world k texts left)
    (inside : k ≤ mode.parameters.length)
    (h : (resolve d program mode matched overrides world).1.result = .error failure) :
    k ≤ failure.index := by
  obtain ⟨values, w, complete, -⟩ := past
  have whole := choose_in_parts complete (mode.parameters.drop k)
  rw [List.take_append_drop] at whole
  cases behind : (choose d mode matched (mode.parameters.drop k) left w).1 with
  | complete others leftover =>
    rw [behind, behind_complete] at whole
    rw [resolve_of_complete (congrArg Prod.fst whole)] at h
    cases h
  | stopped i p candidates later =>
    rw [behind, behind_stopped] at whole
    obtain ⟨stopped, same, index⟩ := resolve_of_stopped program (congrArg Prod.fst whole)
    obtain rfl := Except.error.inj (same.symm.trans h)
    rw [index, choose_length (congrArg Prod.fst complete), List.length_take]
    omega

section Stable

variable (stable : d.IsStable)
include stable

theorem IsFree.anywhere (free : IsFree d mode matched world p) (w : σ) :
    IsFree d mode matched w p := by
  refine ⟨free.nothing_matched, free.no_default, fun c found => ?_⟩
  have same := candidates_alike ((stable_agrees stable).anywhere w world) p
  exact free.no_single c (same.result.symm.trans found)

/-- More overrides change nothing of what was decided without them; they are left over. -/
theorem GetsPast.append (past : GetsPast d mode matched overrides world k texts left)
    (more : List String) (w : σ) :
    GetsPast d mode matched (overrides ++ more) w k texts (left ++ more) := by
  obtain ⟨values, w', complete, rfl⟩ := past
  have longer := choose_append stable more (congrArg Prod.fst complete)
  rw [choose_agree (stable_agrees stable) mode matched _ _ world w] at longer
  exact ⟨values, _, Prod.ext longer rfl, rfl⟩

/-- A free parameter takes the first override that is left. -/
theorem GetsPast.next_free {text : String}
    (past : GetsPast d mode matched overrides world k texts (text :: left))
    (hp : mode.parameters[k]? = some p) (free : IsFree d mode matched w p) :
    GetsPast d mode matched overrides world (k + 1) (texts ++ [text]) left := by
  obtain ⟨values, w', complete, rfl⟩ := past
  refine ⟨values ++ [.text text], (p.candidates d w').2, ?_, by simp [Value.render]⟩
  rw [List.take_add_one, hp, Option.toList_some, choose_in_parts complete,
    choose_of_free (free.anywhere stable w')]
  simp [choose, Progress.after]

end Stable

end Past

end Launcher.Resolution
