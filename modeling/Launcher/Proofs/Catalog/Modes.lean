import Launcher.Catalog.Program
import Launcher.Proofs.Except
import Launcher.Proofs.Index
/-!
The loops of linking: over the parameters of a mode, over the modes as they are collected, and over
the collected modes by name. Each passes what has no flaw and ends at the first item that has one. -/
namespace Launcher

theorem nodup_map_concat {f : α → β} {xs : List α} {x : α} :
    ((xs ++ [x]).map f).Nodup ↔ (xs.map f).Nodup ∧ f x ∉ xs.map f := by
  rw [List.map_append, List.map_singleton, ← List.concat_eq_append, List.nodup_concat, and_comm]

namespace Program

/-- What is wrong with a parameter beside those before it. -/
inductive ParameterFlaw (program mode : String) (before : List Parameter) (p : Parameter) :
    CatalogError → Prop
  | blank_type : Text.isBlankText p.kind = true →
      ParameterFlaw program mode before p (.emptyParameterType program mode p.name)
  | repeated_name : Text.isBlankText p.kind = false → p.name ∈ before.map (·.name) →
      ParameterFlaw program mode before p (.duplicateParameter program mode p.name)

/-- What is wrong with a mode beside those before it. -/
inductive ModeFlaw (program : String) (before : List ModeDefinition) (m : ModeDefinition) :
    CatalogError → Prop
  | parameter {e} : IsFirstFlaw (ParameterFlaw program m.name) m.parameters e →
      ModeFlaw program before m e
  | repeated_name : IsFlawless (ParameterFlaw program m.name) m.parameters →
      m.name ∈ before.map (·.name) → ModeFlaw program before m (.duplicateMode program m.name)

/-- What is wrong with an entry of the collected modes, whatever stands before it. -/
inductive MatchFlaw (program : String) (known : Index ModeDefinition)
    (entry : String × ModeDefinition) : CatalogError → Prop
  | unknown {k} : entry.2.matched = some k → ¬ known.contains k = true →
      MatchFlaw program known entry (.unknownMatchedMode program entry.1 k)

def checkParameter (program mode : String) (seen : List String) (p : Parameter) :
    Except CatalogError (List String) :=
  if Text.isBlankText p.kind then .error (.emptyParameterType program mode p.name)
  else if seen.contains p.name then .error (.duplicateParameter program mode p.name)
  else .ok (p.name :: seen)

def collectMode (program : String) (known : Index ModeDefinition) (m : ModeDefinition) :
    Except CatalogError (Index ModeDefinition) :=
  match checkParameters program m.name [] m.parameters with
  | .error e => .error e
  | .ok () =>
    if known.contains m.name then .error (.duplicateMode program m.name)
    else .ok (known.insert m.name m)

def followMatch (program : String) (known : Index ModeDefinition)
    (entry : String × ModeDefinition) : Except CatalogError Unit :=
  match entry.2.matched with
  | none => .ok ()
  | some other =>
    if known.contains other then .ok ()
    else .error (.unknownMatchedMode program entry.1 other)

section Parameters

variable {program mode : String} {ps : List Parameter} {p : Parameter} {e : CatalogError}

theorem no_parameterFlaw_iff : (∀ e, ¬ ParameterFlaw program mode ps p e) ↔
    Text.isBlankText p.kind = false ∧ p.name ∉ ps.map (·.name) := by
  constructor
  · intro none
    have typed : Text.isBlankText p.kind = false :=
      Bool.eq_false_iff.2 fun blank => none _ (.blank_type blank)
    exact ⟨typed, fun taken => none _ (.repeated_name typed taken)⟩
  · rintro ⟨typed, fresh⟩ e flaw
    cases flaw with
    | blank_type blank => exact absurd blank (by simp [typed])
    | repeated_name _ taken => exact fresh taken

theorem parameters_flawless_iff (program mode : String) (ps : List Parameter) :
    IsFlawless (ParameterFlaw program mode) ps ↔
      (∀ p ∈ ps, Text.isBlankText p.kind = false) ∧ (ps.map (·.name)).Nodup := by
  refine isFlawless_iff (fun ps => (∀ p ∈ ps, Text.isBlankText p.kind = false) ∧
    (ps.map (·.name)).Nodup) (by simp) ?_ ps
  intro ps p
  rw [nodup_map_concat, no_parameterFlaw_iff, List.forall_mem_append, List.forall_mem_singleton]
  exact and_and_and_comm

theorem checkParameters_eq_foldlM (seen : List String) : checkParameters program mode seen ps =
    (ps.foldlM (checkParameter program mode) seen).map fun _ => () := by
  induction ps generalizing seen with
  | nil => rfl
  | cons p rest ih =>
    rw [checkParameters, List.foldlM_cons, checkParameter]
    split
    · rfl
    · split
      · rfl
      · exact ih _

theorem checkParameter_inspects : Inspects (checkParameter program mode)
    (fun ps seen => ∀ k, k ∈ seen ↔ k ∈ ps.map (·.name)) (ParameterFlaw program mode) where
  passes := by
    intro ps seen p seen' reached passed
    unfold checkParameter at passed
    split at passed
    · cases passed
    · split at passed
      · cases passed
      · obtain rfl := Except.ok.inj passed
        intro k
        simp [reached k, or_comm]
  fails := by
    intro ps seen p e reached
    unfold checkParameter
    split
    next blank =>
      constructor
      · rintro ⟨⟩
        exact .blank_type blank
      · rintro (_ | ⟨typed, -⟩)
        · rfl
        · exact absurd blank (by simp [typed])
    next typed =>
      split
      next taken =>
        constructor
        · rintro ⟨⟩
          exact .repeated_name (by simpa using typed) ((reached _).1 (by simpa using taken))
        · rintro (blank | ⟨-, -⟩)
          · exact absurd blank typed
          · rfl
      next fresh =>
        constructor
        · nofun
        · rintro (blank | ⟨-, taken⟩)
          · exact absurd blank typed
          · exact absurd (by simpa using (reached _).2 taken) fresh

theorem checkParameters_eq_error_iff : checkParameters program mode [] ps = .error e ↔
    IsFirstFlaw (ParameterFlaw program mode) ps e := by
  have start : ∀ k, k ∈ ([] : List String) ↔ k ∈ ([] : List Parameter).map (·.name) := by simp
  rw [checkParameters_eq_foldlM, ← (checkParameter_inspects.foldlM start ps).2]
  cases ps.foldlM (checkParameter program mode) [] <;> simp [Except.map]

end Parameters

section Modes

variable {program : String} {ms : List ModeDefinition} {m : ModeDefinition}
variable {known : Index ModeDefinition} {e : CatalogError}

/-- The modes are kept under their names. -/
def Collected (ms : List ModeDefinition) (known : Index ModeDefinition) : Prop :=
  known.entries.Perm (ms.map fun m => (m.name, m))

theorem Collected.contains_iff (h : Collected ms known) {k : String} :
    known.contains k = true ↔ k ∈ ms.map (·.name) := by
  have keys := (h.map (·.1)).mem_iff (a := k)
  rwa [← Index.contains_iff, List.map_map] at keys

theorem Collected.mem_entries (h : Collected ms known) {k : String} {m : ModeDefinition} :
    (k, m) ∈ known.entries ↔ m ∈ ms ∧ m.name = k := by
  rw [List.Perm.mem_iff h, List.mem_map]
  simp

theorem Collected.get?_eq_find? (h : Collected ms known) (k : String) :
    known.get? k = ms.find? fun m => m.name == k := by
  cases found : ms.find? fun m => m.name == k with
  | some m =>
    have own : m.name = k := by simpa using List.find?_some found
    exact Index.get?_of_mem (h.mem_entries.2 ⟨List.mem_of_find?_eq_some found, own⟩)
  | none =>
    refine Option.eq_none_iff_forall_ne_some.2 fun m got => ?_
    obtain ⟨mem, own⟩ := h.mem_entries.1 (Index.mem_of_get? got)
    exact List.find?_eq_none.1 found m mem (by simpa using own)

theorem Collected.concat (h : Collected ms known) (fresh : ¬ known.contains m.name = true) :
    Collected (ms ++ [m]) (known.insert m.name m) := by
  have new : known.get? m.name = none := by simpa [Index.contains] using fresh
  have added := (Index.insert_perm m new).trans (h.cons (m.name, m))
  rw [Collected, List.map_append]
  exact added.trans (List.perm_append_singleton _ _).symm

theorem no_modeFlaw_iff : (∀ e, ¬ ModeFlaw program ms m e) ↔
    IsFlawless (ParameterFlaw program m.name) m.parameters ∧ m.name ∉ ms.map (·.name) := by
  constructor
  · intro none
    have flawless : IsFlawless (ParameterFlaw program m.name) m.parameters :=
      isFlawless_iff_no_first.2 fun e first => none e (.parameter first)
    exact ⟨flawless, fun taken => none _ (.repeated_name flawless taken)⟩
  · rintro ⟨flawless, fresh⟩ e flaw
    cases flaw with
    | parameter first => exact isFlawless_iff_no_first.1 flawless e first
    | repeated_name _ taken => exact fresh taken

theorem modes_flawless_iff (program : String) (ms : List ModeDefinition) :
    IsFlawless (ModeFlaw program) ms ↔
      (∀ m ∈ ms, IsFlawless (ParameterFlaw program m.name) m.parameters) ∧
        (ms.map (·.name)).Nodup := by
  refine isFlawless_iff (fun ms =>
    (∀ m ∈ ms, IsFlawless (ParameterFlaw program m.name) m.parameters) ∧
      (ms.map (·.name)).Nodup) (by simp) ?_ ms
  intro ms m
  rw [nodup_map_concat, no_modeFlaw_iff, List.forall_mem_append, List.forall_mem_singleton]
  exact and_and_and_comm

theorem collectModes_eq_foldlM (known : Index ModeDefinition) :
    collectModes program known ms = ms.foldlM (collectMode program) known := by
  induction ms generalizing known with
  | nil => rfl
  | cons m rest ih =>
    rw [collectModes, List.foldlM_cons, collectMode]
    cases checkParameters program m.name [] m.parameters with
    | error e => rfl
    | ok _ =>
      dsimp only
      split
      · rfl
      · exact ih _

theorem collectMode_inspects : Inspects (collectMode program) Collected (ModeFlaw program) where
  passes := by
    intro ms known m known' collected passed
    unfold collectMode at passed
    split at passed
    · cases passed
    · split at passed
      · cases passed
      next fresh =>
        obtain rfl := Except.ok.inj passed
        exact collected.concat fresh
  fails := by
    intro ms known m e collected
    unfold collectMode
    split
    next e' failed =>
      have first := checkParameters_eq_error_iff.1 failed
      constructor
      · rintro ⟨⟩
        exact .parameter first
      · rintro (other | ⟨flawless, -⟩)
        · have same := failed.symm.trans (checkParameters_eq_error_iff.2 other)
          rw [Except.error.inj same]
        · exact absurd first (isFlawless_iff_no_first.1 flawless _)
    next passed =>
      have flawless : IsFlawless (ParameterFlaw program m.name) m.parameters := by
        refine isFlawless_iff_no_first.2 fun e first => ?_
        cases passed.symm.trans (checkParameters_eq_error_iff.2 first)
      split
      next taken =>
        constructor
        · rintro ⟨⟩
          exact .repeated_name flawless (collected.contains_iff.1 taken)
        · rintro (first | ⟨-, -⟩)
          · exact absurd first (isFlawless_iff_no_first.1 flawless _)
          · rfl
      next fresh =>
        constructor
        · nofun
        · rintro (first | ⟨-, taken⟩)
          · exact absurd first (isFlawless_iff_no_first.1 flawless _)
          · exact absurd (collected.contains_iff.2 taken) fresh

theorem collected_nil : Collected [] .empty := .refl []

theorem collectModes_ok (kept : collectModes program .empty ms = .ok known) :
    Collected ms known ∧ IsFlawless (ModeFlaw program) ms := by
  rw [collectModes_eq_foldlM] at kept
  exact (collectMode_inspects.foldlM collected_nil ms).1 known kept

theorem exists_collectModes (flawless : IsFlawless (ModeFlaw program) ms) :
    ∃ known, collectModes program .empty ms = .ok known := by
  rw [collectModes_eq_foldlM]
  exact (collectMode_inspects.exists_ok_iff collected_nil ms).2 flawless

theorem collectModes_eq_error_iff :
    collectModes program .empty ms = .error e ↔ IsFirstFlaw (ModeFlaw program) ms e := by
  rw [collectModes_eq_foldlM]
  exact (collectMode_inspects.foldlM collected_nil ms).2 e

end Modes

section Matches

variable {program : String} {known : Index ModeDefinition}
variable {entries : List (String × ModeDefinition)} {entry : String × ModeDefinition}
variable {e : CatalogError}

theorem no_matchFlaw_iff : (∀ e, ¬ MatchFlaw program known entry e) ↔
    ∀ other, entry.2.matched = some other → known.contains other = true := by
  constructor
  · intro none other matched
    by_contra unknown
    exact none _ (.unknown matched unknown)
  · rintro followed e ⟨matched, unknown⟩
    exact unknown (followed _ matched)

theorem matches_flawless_iff (program : String) (known : Index ModeDefinition)
    (entries : List (String × ModeDefinition)) :
    IsFlawless (fun _ => MatchFlaw program known) entries ↔
      ∀ e ∈ entries, ∀ other, e.2.matched = some other → known.contains other = true := by
  refine isFlawless_iff (fun entries => ∀ e ∈ entries, ∀ other, e.2.matched = some other →
    known.contains other = true) nofun ?_ entries
  intro entries entry
  rw [no_matchFlaw_iff, List.forall_mem_append, List.forall_mem_singleton]

theorem checkMatched_eq_foldlM : checkMatched program known entries =
    entries.foldlM (fun _ entry => followMatch program known entry) () := by
  induction entries with
  | nil => rfl
  | cons entry rest ih =>
    obtain ⟨name, m⟩ := entry
    rw [checkMatched, List.foldlM_cons, followMatch]
    cases m.matched with
    | none => exact ih
    | some other =>
      dsimp only
      split
      · exact ih
      · rfl

theorem followMatch_inspects :
    Inspects (fun _ entry => followMatch program known entry) (fun _ _ => True)
      fun _ => MatchFlaw program known where
  passes _ _ := trivial
  fails := by
    intro entries _ entry e _
    unfold followMatch
    split
    next unmatched =>
      constructor
      · nofun
      · rintro ⟨matched, -⟩
        cases unmatched.symm.trans matched
    next other wanted =>
      split
      next there =>
        constructor
        · nofun
        · rintro ⟨matched, unknown⟩
          rw [Option.some.inj (matched.symm.trans wanted)] at unknown
          exact absurd there unknown
      next unknown =>
        constructor
        · rintro ⟨⟩
          exact .unknown wanted unknown
        · rintro ⟨matched, -⟩
          rw [Option.some.inj (matched.symm.trans wanted)]

theorem checkMatched_eq_ok_iff : checkMatched program known entries = .ok () ↔
    ∀ e ∈ entries, ∀ other, e.2.matched = some other → known.contains other = true := by
  rw [← matches_flawless_iff program, ← followMatch_inspects.exists_ok_iff (s := ()) trivial,
    checkMatched_eq_foldlM]
  exact ⟨fun passed => ⟨(), passed⟩, fun ⟨_, passed⟩ => passed⟩

theorem checkMatched_eq_error_iff : checkMatched program known entries = .error e ↔
    IsFirstFlaw (fun _ => MatchFlaw program known) entries e := by
  rw [checkMatched_eq_foldlM]
  exact (followMatch_inspects.foldlM trivial entries).2 e

end Matches

end Program
end Launcher
