import Launcher.Proofs.Catalog.Checking
/-!
Which definitions make a catalog. They are looked at one after another, each beside those before it,
and the first that has no place gives the error. The order matters only for that error: a catalog
answers by its programs, and these are the same in any order. -/
namespace Launcher.Catalog

/-- Each definition can be linked, and no two share an identifier or a name. -/
structure IsBuildable (ds : List ProgramDefinition) : Prop where
  linked : ∀ d ∈ ds, ∃ p, Program.link d = .ok p
  ids_differ : (ds.map (·.id)).Nodup
  names_differ : (ds.map (·.name)).Nodup

/-- Why a definition has no place beside those before it. -/
inductive Refuses (before : List ProgramDefinition) (d : ProgramDefinition) : CatalogError → Prop
  | unlinked {e} : Program.link d = .error e → Refuses before d e
  | repeated_id {p q} : Program.link d = .ok p → q ∈ before → q.id = d.id →
      Refuses before d (.duplicateId d.id q.name d.name)
  | repeated_name {p} : Program.link d = .ok p → d.id ∉ before.map (·.id) →
      d.name ∈ before.map (·.name) → Refuses before d (.duplicateProgramName d.name)

variable {ds ds' before : List ProgramDefinition} {d : ProgramDefinition}
variable {ps qs : List Program} {p : Program} {c c' : Catalog} {e : CatalogError}

theorem no_refusal_iff : (∀ e, ¬ Refuses before d e) ↔ (∃ p, Program.link d = .ok p) ∧
    d.id ∉ before.map (·.id) ∧ d.name ∉ before.map (·.name) := by
  constructor
  · intro none
    cases linked : Program.link d with
    | error e => exact absurd (.unlinked linked) (none e)
    | ok p =>
      have fresh : d.id ∉ before.map (·.id) := by
        intro taken
        obtain ⟨q, hq, same⟩ := List.mem_map.1 taken
        exact none _ (.repeated_id linked hq same)
      exact ⟨⟨p, rfl⟩, fresh, fun taken => none _ (.repeated_name linked fresh taken)⟩
  · rintro ⟨⟨p, linked⟩, id, name⟩ e refusal
    cases refusal with
    | unlinked failed => cases linked.symm.trans failed
    | repeated_id _ hq same => exact id (List.mem_map.2 ⟨_, hq, same⟩)
    | repeated_name _ _ taken => exact name taken

theorem isFlawless_iff_isBuildable : IsFlawless Refuses ds ↔ IsBuildable ds := by
  refine isFlawless_iff IsBuildable ⟨nofun, .nil, .nil⟩ ?_ ds
  intro ds d
  rw [no_refusal_iff]
  constructor
  · rintro ⟨linked, ids, names⟩
    rw [List.forall_mem_append, List.forall_mem_singleton] at linked
    obtain ⟨ids, id⟩ := nodup_map_concat.1 ids
    obtain ⟨names, name⟩ := nodup_map_concat.1 names
    exact ⟨⟨linked.1, ids, names⟩, linked.2, id, name⟩
  · rintro ⟨⟨linked, ids, names⟩, last, id, name⟩
    refine ⟨List.forall_mem_append.2 ⟨linked, List.forall_mem_singleton.2 last⟩, ?_, ?_⟩
    · exact nodup_map_concat.2 ⟨ids, id⟩
    · exact nodup_map_concat.2 ⟨names, name⟩

theorem IsBuildable.of_perm (h : IsBuildable ds) (same : ds.Perm ds') : IsBuildable ds' where
  linked d hd := h.linked d (same.mem_iff.2 hd)
  ids_differ := (same.map _).nodup_iff.1 h.ids_differ
  names_differ := (same.map _).nodup_iff.1 h.names_differ

theorem LinkedTo.concat (h : LinkedTo ds ps) (linked : Program.link d = .ok p) :
    LinkedTo (ds ++ [d]) (ps ++ [p]) :=
  List.rel_append h (.cons linked .nil)

theorem LinkedTo.mem_iff (h : LinkedTo ds ps) : p ∈ ps ↔ ∃ d ∈ ds, Program.link d = .ok p := by
  induction h with
  | nil => simp
  | cons linked _ ih => simp [ih, linked, eq_comm]

theorem LinkedTo.mem_definitions (h : LinkedTo ds ps) {d : ProgramDefinition} (hd : d ∈ ds) :
    ∃ p ∈ ps, p.id = d.id ∧ p.name = d.name := by
  obtain ⟨p, hp, linked⟩ := h.exists_program hd
  have form := Program.isFormOf_of_link linked
  exact ⟨p, hp, form.id_eq, form.name_eq⟩

theorem LinkedTo.mem_program (h : LinkedTo ds ps) (hp : p ∈ ps) :
    ∃ d ∈ ds, p.id = d.id ∧ p.name = d.name := by
  obtain ⟨d, hd, linked⟩ := h.mem_iff.1 hp
  have form := Program.isFormOf_of_link linked
  exact ⟨d, hd, form.id_eq, form.name_eq⟩

theorem LinkedTo.map_id (h : LinkedTo ds ps) : ps.map (·.id) = ds.map (·.id) := by
  induction h with
  | nil => rfl
  | cons linked _ ih =>
    rw [List.map_cons, List.map_cons, (Program.isFormOf_of_link linked).id_eq, ih]

theorem Holds.add_error_iff (held : c.Holds ps) : c.add p = .error e ↔
    (∃ q ∈ ps, q.id = p.id ∧ e = .duplicateId p.id q.name p.name) ∨
      (∀ q ∈ ps, q.id ≠ p.id) ∧ (∃ q ∈ ps, q.name = p.name) ∧ e = .duplicateProgramName p.name := by
  unfold Catalog.add
  cases found : c.program? p.id with
  | some holder =>
    obtain ⟨mem, same⟩ := held.program?_eq_some_iff.1 found
    constructor
    · intro h
      exact .inl ⟨holder, mem, same, (Except.error.inj h).symm⟩
    · rintro (⟨q, hq, taken, rfl⟩ | ⟨fresh, -⟩)
      · have again := held.program?_eq_some_iff.2 ⟨hq, taken⟩
        rw [Option.some.inj (found.symm.trans again)]
      · exact absurd same (fresh holder mem)
  | none =>
    have fresh : ∀ q ∈ ps, q.id ≠ p.id := by
      intro q hq taken
      cases found.symm.trans (held.program?_eq_some_iff.2 ⟨hq, taken⟩)
    have name : c.idsByName.contains p.name = true ↔ ∃ q ∈ ps, q.name = p.name := by
      rw [Index.contains, Option.isSome_iff_exists]
      simp only [held.id_of_name]
      constructor
      · rintro ⟨_, q, hq, same, -⟩
        exact ⟨q, hq, same⟩
      · rintro ⟨q, hq, same⟩
        exact ⟨_, q, hq, same, rfl⟩
    dsimp only
    split
    next taken =>
      constructor
      · rintro ⟨⟩
        exact .inr ⟨fresh, name.1 taken, rfl⟩
      · rintro (⟨q, hq, same, -⟩ | ⟨-, -, rfl⟩)
        · exact absurd same (fresh q hq)
        · rfl
    next new =>
      constructor
      · rintro ⟨⟩
      · rintro (⟨q, hq, same, -⟩ | ⟨-, taken, -⟩)
        · exact absurd same (fresh q hq)
        · exact absurd (name.2 taken) new

def takeIn (c : Catalog) (d : ProgramDefinition) : Except CatalogError Catalog :=
  match Program.link d with
  | .error e => .error e
  | .ok p => c.add p

theorem extend_eq_foldlM (c : Catalog) : c.extend ds = ds.foldlM takeIn c := by
  induction ds generalizing c with
  | nil => rfl
  | cons d rest ih =>
    rw [extend, List.foldlM_cons, takeIn]
    cases Program.link d with
    | error e => rfl
    | ok p =>
      dsimp only
      cases c.add p with
      | error e => rfl
      | ok c' => exact ih c'

/-- The catalog has the programs of these definitions and no others. -/
def Reached (ds : List ProgramDefinition) (c : Catalog) : Prop :=
  ∃ ps, LinkedTo ds ps ∧ c.Holds ps.reverse

theorem reached_nil : Reached [] .empty := ⟨[], .nil, holds_empty⟩

theorem refuses_iff_of_linked (all : LinkedTo ds ps) (linked : Program.link d = .ok p) :
    Refuses ds d e ↔
      (∃ q ∈ ps, q.id = p.id ∧ e = .duplicateId p.id q.name p.name) ∨
        (∀ q ∈ ps, q.id ≠ p.id) ∧ (∃ q ∈ ps, q.name = p.name) ∧
          e = .duplicateProgramName p.name := by
  have form := Program.isFormOf_of_link linked
  rw [form.id_eq, form.name_eq]
  constructor
  · rintro (failed | ⟨-, hq, same⟩ | ⟨-, fresh, taken⟩)
    · cases linked.symm.trans failed
    · obtain ⟨r, hr, id, name⟩ := all.mem_definitions hq
      exact .inl ⟨r, hr, id.trans same, by rw [name]⟩
    · obtain ⟨q, hq, same⟩ := List.mem_map.1 taken
      obtain ⟨r, hr, -, name⟩ := all.mem_definitions hq
      refine .inr ⟨fun r hr same => fresh ?_, ⟨r, hr, name.trans same⟩, rfl⟩
      obtain ⟨q, hq, id, -⟩ := all.mem_program hr
      exact List.mem_map.2 ⟨q, hq, id.symm.trans same⟩
  · rintro (⟨r, hr, same, rfl⟩ | ⟨fresh, ⟨r, hr, same⟩, rfl⟩)
    · obtain ⟨q, hq, id, name⟩ := all.mem_program hr
      exact name ▸ .repeated_id linked hq (id.symm.trans same)
    · obtain ⟨q, hq, -, name⟩ := all.mem_program hr
      refine .repeated_name linked (fun taken => ?_) (List.mem_map.2 ⟨q, hq, name.symm.trans same⟩)
      obtain ⟨q, hq, same⟩ := List.mem_map.1 taken
      obtain ⟨r, hr, id, -⟩ := all.mem_definitions hq
      exact fresh r hr (id.trans same)

theorem takeIn_inspects : Inspects takeIn Reached Refuses where
  passes := by
    rintro ds c d c' ⟨ps, all, held⟩ passed
    unfold takeIn at passed
    split at passed
    · cases passed
    next p linked =>
      refine ⟨ps ++ [p], all.concat linked, ?_⟩
      rw [List.reverse_append, List.reverse_singleton, List.singleton_append]
      exact held.add passed
  fails := by
    rintro ds c d e ⟨ps, all, held⟩
    unfold takeIn
    split
    next e' failed =>
      constructor
      · rintro ⟨⟩
        exact .unlinked failed
      · rintro (again | ⟨linked, -⟩ | ⟨linked, -⟩)
        · rw [Except.error.inj (failed.symm.trans again)]
        · cases failed.symm.trans linked
        · cases failed.symm.trans linked
    next p linked =>
      rw [held.add_error_iff, refuses_iff_of_linked all linked]
      simp only [List.mem_reverse]

theorem exists_build_iff : (∃ c, build ds = .ok c) ↔ IsBuildable ds := by
  simp only [build, extend_eq_foldlM]
  rw [takeIn_inspects.exists_ok_iff reached_nil, isFlawless_iff_isBuildable]

theorem build_eq_error_iff_first : build ds = .error e ↔ IsFirstFlaw Refuses ds e := by
  rw [build, extend_eq_foldlM]
  exact (takeIn_inspects.foldlM reached_nil ds).2 e

/-- Two catalogs give the same answer to every question. -/
structure AnswersAlike (c c' : Catalog) : Prop where
  by_id : ∀ id, c.program? id = c'.program? id
  by_name : ∀ name, c.find? name = c'.find? name
  programs : c.programs = c'.programs
  size : c.size = c'.size
  is_empty : c.isEmpty = c'.isEmpty
  target : ∀ spec, c.target spec = c'.target spec

theorem Holds.answersAlike (h : c.Holds ps) (h' : c'.Holds qs) (same : ps.Perm qs) :
    AnswersAlike c c' := by
  have by_name (name : String) : c.find? name = c'.find? name := by
    ext p
    rw [h.find?_eq_some_iff, h'.find?_eq_some_iff, same.mem_iff]
  constructor
  · intro id
    ext p
    rw [h.program?_eq_some_iff, h'.program?_eq_some_iff, same.mem_iff]
  · exact by_name
  · have all := h.programs_perm.trans (same.trans h'.programs_perm.symm)
    refine all.eq_of_pairwise (fun p q _ _ below above => ?_) h.programs_ascending
      h'.programs_ascending
    exact absurd (String.lt_trans below above) (String.lt_irrefl _)
  · simp [Catalog.size, h.by_id, h'.by_id, same.length_eq]
  · simp [Catalog.isEmpty, h.by_id, h'.by_id, same.isEmpty_eq]
  · intro spec
    simp only [Catalog.target, by_name]

theorem LinkedTo.perm (all : LinkedTo ds ps) (all' : LinkedTo ds' qs) (same : ds.Perm ds')
    (differ : (ps.map (·.id)).Nodup) (differ' : (qs.map (·.id)).Nodup) : ps.Perm qs := by
  -- Linking is a function, so the programs of the same definitions are the same.
  refine (List.perm_ext_iff_of_nodup differ.of_map differ'.of_map).2 fun p => ?_
  rw [all.mem_iff, all'.mem_iff]
  simp only [same.mem_iff]

theorem answersAlike_of_perm (same : ds.Perm ds') (built : build ds = .ok c)
    (built' : build ds' = .ok c') : AnswersAlike c c' := by
  obtain ⟨ps, (all : LinkedTo ds ps), held⟩ := build_holds built
  obtain ⟨qs, (all' : LinkedTo ds' qs), held'⟩ := build_holds built'
  have differ : (ps.map (·.id)).Nodup := by
    simpa [List.map_reverse, List.nodup_reverse] using held.ids_differ
  have differ' : (qs.map (·.id)).Nodup := by
    simpa [List.map_reverse, List.nodup_reverse] using held'.ids_differ
  refine held.answersAlike held' ?_
  exact (List.reverse_perm ps).trans
    ((all.perm all' same differ differ').trans (List.reverse_perm qs).symm)

/-- A catalog is built exactly of definitions that can each be linked, with different identifiers
and different names; otherwise the error is that of the first definition that has no place beside
those before it. In another order of the definitions it is built as well, and answers alike. -/
theorem build_judges_definitions (ds : List ProgramDefinition) :
    ((∃ c, build ds = .ok c) ↔ IsBuildable ds) ∧
      (∀ e, build ds = .error e ↔ IsFirstFlaw Refuses ds e) ∧
      ∀ ds', ds.Perm ds' → ((∃ c, build ds = .ok c) ↔ ∃ c, build ds' = .ok c) ∧
        ∀ c c', build ds = .ok c → build ds' = .ok c' → AnswersAlike c c' := by
  refine ⟨exists_build_iff, fun e => build_eq_error_iff_first, fun ds' same => ⟨?_, ?_⟩⟩
  · rw [exists_build_iff, exists_build_iff]
    exact ⟨fun h => h.of_perm same, fun h => h.of_perm same.symm⟩
  · exact fun c c' built built' => answersAlike_of_perm same built built'

namespace Sample

/-- The third definition has the identifier of the first and the name of the second; the last one
cannot be linked. -/
def clashing : List ProgramDefinition :=
  definitions ++ [⟨"net", ⟨7⟩, "/bin/other", [⟨"run", [], none⟩], none⟩, ⟨" ", ⟨9⟩, "", [], none⟩]

def reversedCatalog : Catalog := (build definitions.reverse).toOption.getD .empty

theorem reversed_built : build definitions.reverse = .ok reversedCatalog :=
  eq_ok_of_isSome .empty (by decide)

end Sample

theorem build_judges_sample : AnswersAlike Sample.catalog Sample.reversedCatalog ∧
    IsFirstFlaw Refuses Sample.clashing (.duplicateId ⟨7⟩ "tool" "net") ∧
    IsFirstFlaw Refuses Sample.clashing.reverse .emptyProgramName := by
  have reversed := List.reverse_perm Sample.definitions
  refine ⟨?_, ?_, ?_⟩
  · exact ((build_judges_definitions _).2.2 _ reversed.symm).2 _ _ Sample.definitions_built
      Sample.reversed_built
  · exact ((build_judges_definitions _).2.1 _).1 rfl
  · exact ((build_judges_definitions _).2.1 _).1 rfl

end Launcher.Catalog
