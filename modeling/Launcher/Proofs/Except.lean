import Mathlib.Data.List.Induction
/-!
Checks that are made one after another: when all of them pass, each of them does, and the error is
that of the first that fails. -/
namespace Launcher

theorem bind_eq_ok_iff {x : Except ε α} {f : α → Except ε β} {b : β} :
    (x >>= f) = .ok b ↔ ∃ a, x = .ok a ∧ f a = .ok b := by
  constructor
  · intro h
    cases x with
    | error e => cases h
    | ok a => exact ⟨a, rfl, h⟩
  · rintro ⟨a, rfl, h⟩
    exact h

theorem mapError_eq_ok_iff {x : Except ε α} {f : ε → ε'} {a : α} :
    x.mapError f = .ok a ↔ x = .ok a := by
  constructor
  · intro h
    cases x with
    | error e => cases h
    | ok b => exact congrArg _ (Except.ok.inj h)
  · rintro rfl
    rfl

/-- The first check that fails gives the error. -/
theorem bind_eq_error_iff {x : Except ε α} {f : α → Except ε β} {e : ε} :
    (x >>= f) = .error e ↔ x = .error e ∨ ∃ a, x = .ok a ∧ f a = .error e := by
  cases x with
  | error e' => simp [bind, Except.bind]
  | ok a => simp [bind, Except.bind]

theorem mapError_eq_error_iff {x : Except ε α} {f : ε → ε'} {e : ε'} :
    x.mapError f = .error e ↔ ∃ cause, x = .error cause ∧ f cause = e := by
  cases x with
  | error cause => simp [Except.mapError]
  | ok a => simp [Except.mapError]

theorem toOption_eq_some_iff {x : Except ε α} {a : α} : x.toOption = some a ↔ x = .ok a := by
  cases x <;> simp [Except.toOption]

theorem eq_ok_of_isSome {x : Except ε α} (default : α) (h : x.toOption.isSome) :
    x = .ok (x.toOption.getD default) := by
  cases x with
  | error e => cases h
  | ok a => rfl

theorem eq_ok_of_getD_ne {x : Except ε α} {default : α}
    (h : x.toOption.getD default ≠ default) : x = .ok (x.toOption.getD default) := by
  cases x with
  | error e => exact absurd rfl h
  | ok a => rfl

/-- No item has a flaw beside those before it. -/
def IsFlawless (Flaw : List α → α → ε → Prop) (xs : List α) : Prop :=
  ∀ before x after, xs = before ++ x :: after → ∀ e, ¬ Flaw before x e

/-- A flaw of the first item that has one. -/
def IsFirstFlaw (Flaw : List α → α → ε → Prop) (xs : List α) (e : ε) : Prop :=
  ∃ before x after, xs = before ++ x :: after ∧ IsFlawless Flaw before ∧ Flaw before x e

section Inspection

variable {Flaw : List α → α → ε → Prop} {xs before after : List α} {x y : α} {e : ε}

theorem isFlawless_nil : IsFlawless Flaw [] := by
  intro before x after split
  cases before <;> cases split

theorem concat_eq_split_iff : xs ++ [x] = before ++ y :: after ↔
    (xs = before ∧ x = y ∧ after = []) ∨
      ∃ rest, xs = before ++ y :: rest ∧ after = rest ++ [x] := by
  constructor
  · intro split
    rcases after.eq_nil_or_concat with rfl | ⟨rest, z, rfl⟩
    · obtain ⟨rfl, same⟩ := List.append_inj' split rfl
      obtain ⟨rfl, -⟩ := List.cons.inj same
      exact .inl ⟨rfl, rfl, rfl⟩
    · rw [List.concat_eq_append, ← List.cons_append, ← List.append_assoc] at split
      obtain ⟨rfl, same⟩ := List.append_inj' split rfl
      obtain ⟨rfl, -⟩ := List.cons.inj same
      exact .inr ⟨rest, rfl, List.concat_eq_append⟩
  · rintro (⟨rfl, rfl, rfl⟩ | ⟨rest, rfl, rfl⟩)
    · rfl
    · simp

theorem isFlawless_concat : IsFlawless Flaw (xs ++ [x]) ↔
    IsFlawless Flaw xs ∧ ∀ e, ¬ Flaw xs x e := by
  constructor
  · intro flawless
    refine ⟨fun before y after split => ?_, flawless xs x [] rfl⟩
    exact flawless before y (after ++ [x]) (by simp [split])
  · rintro ⟨flawless, last⟩ before y after split
    rcases concat_eq_split_iff.1 split with ⟨rfl, rfl, -⟩ | ⟨rest, inside, -⟩
    · exact last
    · exact flawless before y rest inside

theorem isFirstFlaw_concat : IsFirstFlaw Flaw (xs ++ [x]) e ↔
    IsFirstFlaw Flaw xs e ∨ IsFlawless Flaw xs ∧ Flaw xs x e := by
  constructor
  · rintro ⟨before, y, after, split, flawless, flaw⟩
    rcases concat_eq_split_iff.1 split with ⟨rfl, rfl, -⟩ | ⟨rest, inside, -⟩
    · exact .inr ⟨flawless, flaw⟩
    · exact .inl ⟨before, y, rest, inside, flawless, flaw⟩
  · rintro (⟨before, y, rest, rfl, flawless, flaw⟩ | ⟨flawless, flaw⟩)
    · exact ⟨before, y, rest ++ [x], by simp, flawless, flaw⟩
    · exact ⟨xs, x, [], rfl, flawless, flaw⟩

theorem not_isFirstFlaw_nil : ¬ IsFirstFlaw Flaw [] e := by
  rintro ⟨before, x, after, split, -⟩
  cases before <;> cases split

/-- Where there are flaws, there is a first one. -/
theorem isFlawless_iff_no_first : IsFlawless Flaw xs ↔ ∀ e, ¬ IsFirstFlaw Flaw xs e := by
  induction xs using List.reverseRecOn with
  | nil => exact ⟨fun _ _ => not_isFirstFlaw_nil, fun _ => isFlawless_nil⟩
  | append_singleton xs x ih =>
    simp only [isFlawless_concat, isFirstFlaw_concat, not_or, not_and, forall_and, ← ih]
    constructor
    · rintro ⟨flawless, last⟩
      exact ⟨flawless, fun e _ => last e⟩
    · rintro ⟨flawless, last⟩
      exact ⟨flawless, fun e => last e flawless⟩

/-- A property that an item keeps exactly when it has no flaw says that there is none. -/
theorem isFlawless_iff (Sound : List α → Prop) (none : Sound [])
    (concat : ∀ xs x, Sound (xs ++ [x]) ↔ Sound xs ∧ ∀ e, ¬ Flaw xs x e) (xs : List α) :
    IsFlawless Flaw xs ↔ Sound xs := by
  induction xs using List.reverseRecOn with
  | nil => exact ⟨fun _ => none, fun _ => isFlawless_nil⟩
  | append_singleton xs x ih => rw [isFlawless_concat, concat, ih]

/-- One step looks at one item, in the state that the items before it have come to. It passes items
without a flaw, and its error is a flaw otherwise. -/
structure Inspects (step : σ → α → Except ε σ) (Reached : List α → σ → Prop)
    (Flaw : List α → α → ε → Prop) : Prop where
  passes : ∀ {xs s x t}, Reached xs s → step s x = .ok t → Reached (xs ++ [x]) t
  fails : ∀ {xs s x e}, Reached xs s → (step s x = .error e ↔ Flaw xs x e)

variable {step : σ → α → Except ε σ} {Reached : List α → σ → Prop} {s t : σ}

theorem Inspects.foldlM (h : Inspects step Reached Flaw) (start : Reached [] s) (xs : List α) :
    (∀ t, xs.foldlM step s = .ok t → Reached xs t ∧ IsFlawless Flaw xs) ∧
      ∀ e, xs.foldlM step s = .error e ↔ IsFirstFlaw Flaw xs e := by
  -- The last item is taken off, because an item is judged beside all those before it.
  induction xs using List.reverseRecOn with
  | nil =>
    refine ⟨?_, fun e => ⟨nofun, fun first => absurd first not_isFirstFlaw_nil⟩⟩
    intro t passed
    obtain rfl := Except.ok.inj passed
    exact ⟨start, isFlawless_nil⟩
  | append_singleton xs x ih =>
    obtain ⟨passing, failing⟩ := ih
    simp only [List.foldlM_append, List.foldlM_cons, List.foldlM_nil, bind_pure]
    constructor
    · intro t passed
      obtain ⟨s', before, last⟩ := bind_eq_ok_iff.1 passed
      obtain ⟨reached, flawless⟩ := passing s' before
      refine ⟨h.passes reached last, isFlawless_concat.2 ⟨flawless, fun e flaw => ?_⟩⟩
      cases last.symm.trans ((h.fails reached).2 flaw)
    · intro e
      rw [bind_eq_error_iff, isFirstFlaw_concat, failing]
      refine or_congr_right ⟨?_, ?_⟩
      · rintro ⟨s', before, last⟩
        obtain ⟨reached, flawless⟩ := passing s' before
        exact ⟨flawless, (h.fails reached).1 last⟩
      · rintro ⟨flawless, flaw⟩
        cases before : xs.foldlM step s with
        | ok s' => exact ⟨s', rfl, (h.fails (passing s' before).1).2 flaw⟩
        | error e' =>
          exact absurd ((failing e').1 before) (isFlawless_iff_no_first.1 flawless e')

theorem Inspects.exists_ok_iff (h : Inspects step Reached Flaw) (start : Reached [] s)
    (xs : List α) : (∃ t, xs.foldlM step s = .ok t) ↔ IsFlawless Flaw xs := by
  obtain ⟨passing, failing⟩ := h.foldlM start xs
  constructor
  · rintro ⟨t, passed⟩
    exact (passing t passed).2
  · intro flawless
    cases passed : xs.foldlM step s with
    | ok t => exact ⟨t, rfl⟩
    | error e => exact absurd ((failing e).1 passed) (isFlawless_iff_no_first.1 flawless e)

end Inspection

end Launcher
