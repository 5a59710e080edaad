import Launcher.Proofs.Catalog.Consistency
/-!
Which texts find a mode of a catalog. A target text is cut at its first colon, so the name of the
program in front has none, and a program whose own name has one is found by no text at all. -/
namespace Launcher

namespace Catalog

section Reading

variable {s before after : List Char} {spec name mode : String}

theorem cutColon_eq_none_iff : cutColon s = none ↔ ':' ∉ s := by
  induction s with
  | nil => simp [cutColon]
  | cons c rest ih =>
    rw [cutColon, List.mem_cons, not_or]
    by_cases colon : c = ':'
    · simp [colon]
    · rw [if_neg colon, Option.map_eq_none_iff, ih]
      constructor
      · intro none
        exact ⟨Ne.symm colon, none⟩
      · exact And.right

/-- Nothing in front of the cut is a colon. -/
theorem cutColon_eq_some_iff :
    cutColon s = some (before, after) ↔ s = before ++ ':' :: after ∧ ':' ∉ before := by
  induction s generalizing before with
  | nil => simp [cutColon]
  | cons c rest ih =>
    rw [cutColon]
    by_cases colon : c = ':'
    · subst colon
      rw [if_pos rfl]
      constructor
      · intro h
        obtain ⟨rfl, rfl⟩ := Prod.mk.inj (Option.some.inj h)
        exact ⟨rfl, List.not_mem_nil⟩
      · rintro ⟨split, none⟩
        cases before with
        | nil => simpa using split
        | cons b before =>
          obtain ⟨rfl, -⟩ := List.cons.inj split
          exact absurd List.mem_cons_self none
    · rw [if_neg colon, Option.map_eq_some_iff]
      constructor
      · rintro ⟨⟨front, back⟩, cut, same⟩
        obtain ⟨rfl, rfl⟩ := Prod.mk.inj same
        obtain ⟨rfl, none⟩ := ih.1 cut
        exact ⟨rfl, by simp [Ne.symm colon, none]⟩
      · rintro ⟨split, none⟩
        cases before with
        | nil => exact absurd (List.cons.inj split).1 colon
        | cons b before =>
          obtain ⟨rfl, same⟩ := List.cons.inj split
          exact ⟨(before, after), ih.2 ⟨same, fun mem => none (List.mem_cons_of_mem _ mem)⟩, rfl⟩

theorem readTarget_eq_none_iff : readTarget spec = (name, none) ↔
    spec = name ∧ ':' ∉ name.toList := by
  unfold readTarget
  cases cut : cutColon spec.toList with
  | none =>
    have plain := cutColon_eq_none_iff.1 cut
    simp only [Prod.mk.injEq, and_true]
    constructor
    · rintro rfl
      exact ⟨rfl, plain⟩
    · exact And.left
  | some parts =>
    obtain ⟨split, -⟩ := cutColon_eq_some_iff.1 cut
    constructor
    · intro h
      cases (Prod.mk.inj h).2
    · rintro ⟨rfl, none⟩
      exact absurd (by simp [split]) none

theorem readTarget_eq_some_iff : readTarget spec = (name, some mode) ↔
    spec = name ++ ":" ++ mode ∧ ':' ∉ name.toList := by
  have joined : spec = name ++ ":" ++ mode ↔
      spec.toList = name.toList ++ ':' :: mode.toList := by
    rw [← String.toList_inj]
    simp
  rw [joined, ← cutColon_eq_some_iff]
  unfold readTarget
  cases cut : cutColon spec.toList with
  | none => simp
  | some parts =>
    obtain ⟨front, back⟩ := parts
    simp only [Prod.mk.injEq, Option.some.injEq]
    constructor
    · rintro ⟨rfl, rfl⟩
      simp
    · rintro ⟨rfl, rfl⟩
      simp

end Reading

variable {ds : List ProgramDefinition} {c : Catalog} {p : Program} {m : Mode} {spec : String}

theorem target_eq_ok_iff : c.target spec = .ok (p, m) ↔
    (∃ name mode, readTarget spec = (name, some mode) ∧ c.find? name = some p ∧
      p.mode? mode = some m) ∨
    (∃ name, readTarget spec = (name, none) ∧ c.find? name = some p ∧ p.defaultMode = some m) := by
  unfold target
  rcases readTarget spec with ⟨name, _ | mode⟩
  · cases found : c.find? name with
    | none => simp [found]
    | some q => cases default : q.defaultMode <;> grind
  · cases found : c.find? name with
    | none => simp [found]
    | some q => cases stored : q.mode? mode <;> grind

/-- A mode is found by its qualified name, and the default mode by the name of the program too. No
other text finds it, and none at all does when the program's name has a colon. -/
theorem IsConsistent.target_iff (h : IsConsistent ds c) : c.target spec = .ok (p, m) ↔
    p ∈ c.programs ∧ ':' ∉ p.name.toList ∧
      (m ∈ p.modes ∧ spec = m.qualifiedName ∨ p.defaultMode = some m ∧ spec = p.name) := by
  rw [target_eq_ok_iff]
  simp only [readTarget_eq_some_iff, readTarget_eq_none_iff, h.by_name]
  constructor
  · rintro (⟨name, mode, ⟨rfl, plain⟩, ⟨mem, rfl⟩, stored⟩ |
      ⟨name, ⟨rfl, plain⟩, ⟨mem, rfl⟩, default⟩)
    · obtain ⟨d, -, form⟩ := h.form mem
      obtain ⟨mode_mem, rfl⟩ := (form.mode_stored _ _).1 stored
      refine ⟨mem, plain, .inl ⟨mode_mem, ?_⟩⟩
      rw [Mode.qualifiedName, (form.mode_owned m mode_mem).2]
    · exact ⟨mem, plain, .inr ⟨default, rfl⟩⟩
  · rintro ⟨mem, plain, ⟨mode_mem, rfl⟩ | ⟨default, rfl⟩⟩
    · obtain ⟨d, -, form⟩ := h.form mem
      have owned := (form.mode_owned m mode_mem).2
      refine .inl ⟨p.name, m.name, ⟨by rw [Mode.qualifiedName, owned], plain⟩, ⟨mem, rfl⟩, ?_⟩
      exact (form.mode_stored _ _).2 ⟨mode_mem, rfl⟩
    · exact .inr ⟨p.name, ⟨rfl, plain⟩, ⟨mem, rfl⟩, default⟩

theorem IsConsistent.target_mem (h : IsConsistent ds c) (found : c.target spec = .ok (p, m)) :
    p ∈ c.programs ∧ m ∈ p.modes := by
  obtain ⟨mem, -, ⟨mode_mem, -⟩ | ⟨default, -⟩⟩ := h.target_iff.1 found
  · exact ⟨mem, mode_mem⟩
  · obtain ⟨d, -, form⟩ := h.form mem
    exact ⟨mem, form.default_is_mode m default⟩

/-- The modes of a program are found by their qualified names exactly when the program's name has no
colon. -/
theorem IsConsistent.all_found_iff (h : IsConsistent ds c) (mem : p ∈ c.programs) :
    (∀ m ∈ p.modes, c.target m.qualifiedName = .ok (p, m)) ↔ ':' ∉ p.name.toList := by
  constructor
  · intro found
    obtain ⟨d, -, form⟩ := h.form mem
    obtain ⟨m, rest, modes⟩ := List.exists_cons_of_ne_nil form.some_mode
    have first : m ∈ p.modes := modes ▸ List.mem_cons_self
    exact (h.target_iff.1 (found m first)).2.1
  · intro plain m mode_mem
    exact h.target_iff.2 ⟨mem, plain, .inl ⟨mode_mem, rfl⟩⟩

/-- In a catalog that was built, the targets of a program are the qualified names of its modes and
its own name, provided that it has no colon in its name; otherwise the program has no target. -/
theorem targets_of_built (h : build ds = .ok c) :
    (∀ spec p m, c.target spec = .ok (p, m) ↔ p ∈ c.programs ∧ ':' ∉ p.name.toList ∧
      (m ∈ p.modes ∧ spec = m.qualifiedName ∨ p.defaultMode = some m ∧ spec = p.name)) ∧
    ∀ p ∈ c.programs, (∀ m ∈ p.modes, c.target m.qualifiedName = .ok (p, m)) ↔
      ':' ∉ p.name.toList := by
  obtain ⟨ps, linked, held⟩ := build_holds h
  have consistent := held.isConsistent linked
  constructor
  · intro spec p m
    exact consistent.target_iff
  · intro p mem
    exact consistent.all_found_iff mem

namespace Sample

def colonDefinition : ProgramDefinition :=
  ⟨"a:b", ⟨7⟩, "/opt/bin/tool", [⟨"run", [], none⟩], none⟩

/-- The mode of this program has the qualified name of the other program's mode. -/
def plainDefinition : ProgramDefinition :=
  ⟨"a", ⟨8⟩, "/opt/bin/a", [⟨"b:run", [], none⟩], none⟩

def colonCatalog : Catalog := (build [colonDefinition]).toOption.getD .empty

def bothCatalog : Catalog := (build [colonDefinition, plainDefinition]).toOption.getD .empty

theorem colon_built : build [colonDefinition] = .ok colonCatalog :=
  eq_ok_of_isSome .empty (by decide)

theorem both_built : build [colonDefinition, plainDefinition] = .ok bothCatalog :=
  eq_ok_of_isSome .empty (by decide)

def colonMode : Mode := ⟨⟨7⟩, "a:b", "run", [], none⟩

def colonProgram : Program :=
  ⟨"a:b", ⟨7⟩, "/opt/bin/tool", .ofList [("run", colonMode)], some "run"⟩

def plainMode : Mode := ⟨⟨8⟩, "a", "b:run", [], none⟩

def plainProgram : Program :=
  ⟨"a", ⟨8⟩, "/opt/bin/a", .ofList [("b:run", plainMode)], some "b:run"⟩

end Sample

/-- A program with a colon in its name is accepted, but not found, neither by its own name nor by
the qualified name of its mode. -/
theorem counterexample_colon_in_name : build [Sample.colonDefinition] = .ok Sample.colonCatalog ∧
    Sample.colonCatalog.programs = [Sample.colonProgram] ∧
      Sample.colonProgram.modes = [Sample.colonMode] ∧
        Sample.colonProgram.defaultMode = some Sample.colonMode ∧
          Sample.colonCatalog.target Sample.colonMode.qualifiedName = .error (.unknownProgram "a") ∧
            Sample.colonCatalog.target Sample.colonProgram.name = .error (.unknownProgram "a") :=
  ⟨Sample.colon_built, rfl, rfl, rfl, rfl, rfl⟩

/-- Beside a program without a colon, the same text finds a mode of that one. -/
theorem targets_of_built_sample :
    build [Sample.colonDefinition, Sample.plainDefinition] = .ok Sample.bothCatalog ∧
      Sample.bothCatalog.target Sample.colonMode.qualifiedName =
        .ok (Sample.plainProgram, Sample.plainMode) ∧
      Sample.bothCatalog.target "a" = .ok (Sample.plainProgram, Sample.plainMode) ∧
      ∀ spec m, Sample.bothCatalog.target spec ≠ .ok (Sample.colonProgram, m) := by
  have targets := (targets_of_built Sample.both_built).1
  refine ⟨Sample.both_built, ?_, ?_, ?_⟩
  · exact (targets _ _ _).2 ⟨List.mem_cons_self, by decide, .inl ⟨List.mem_cons_self, rfl⟩⟩
  · exact (targets _ _ _).2 ⟨List.mem_cons_self, by decide, .inr ⟨rfl, rfl⟩⟩
  · intro spec m found
    exact ((targets _ _ _).1 found).2.1 (by decide)

end Catalog
end Launcher
