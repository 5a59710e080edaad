import Launcher.Proofs.Catalog.Linking
import Launcher.Proofs.ProgramId
import Launcher.Proofs.Text.ByteOrder
import Mathlib.Data.List.Forall2
/-!
What holds of every catalog that was built. Each program is the form of one definition, with modes
that belong to it and refer to one another; the catalog has the programs by name and by identifier,
and both ways lead to the same ones. -/
namespace Launcher

namespace Program

variable {d : ProgramDefinition} {known : Index ModeDefinition} {p : Program}

theorem Linked.modes_perm (h : Linked d known p) :
    p.modes.Perm (d.modes.map fun m => linkMode d known m.name m) := by
  have linked : p.modes = known.entries.map fun e => linkMode d known e.1 e.2 := by
    simp [Program.modes, h.modes, Index.mapValues, Index.values]
  have mapped := (collectModes_ok h.collected).1.map fun e => linkMode d known e.1 e.2
  rw [List.map_map] at mapped
  rw [linked]
  exact mapped

theorem Linked.mode?_eq_some_iff (h : Linked d known p) {k : String} {m : Mode} :
    p.mode? k = some m ↔ m ∈ p.modes ∧ m.name = k := by
  have own {k m} (found : p.mode? k = some m) : m.name = k := by
    rw [h.mode?] at found
    obtain ⟨definition, -, rfl⟩ := Option.map_eq_some_iff.1 found
    rfl
  constructor
  · intro found
    exact ⟨Index.mem_values_iff.2 ⟨k, found⟩, own found⟩
  · rintro ⟨mem, rfl⟩
    obtain ⟨k, found⟩ := Index.mem_values_iff.1 mem
    rw [own found]
    exact found

/-- A mode is declared with its name, its parameters and the name of its matched mode. -/
theorem Linked.declared (h : Linked d known p) {m : Mode} (hm : m ∈ p.modes) :
    ∃ declared ∈ d.modes, declared.name = m.name ∧ declared.parameters = m.parameters ∧
      declared.matched = m.matched.map (·.name) := by
  obtain ⟨declared, mem, rfl⟩ := List.mem_map.1 (h.modes_perm.mem_iff.1 hm)
  refine ⟨declared, mem, rfl, rfl, ?_⟩
  cases matched : declared.matched with
  | none => simp [linkMode, matched]
  | some other =>
    have collected : (declared.name, declared) ∈ known.entries :=
      (collectModes_ok h.collected).1.mem_entries.2 ⟨mem, rfl⟩
    have there := checkMatched_eq_ok_iff.1 h.matched _ collected other matched
    obtain ⟨target, found⟩ := Option.isSome_iff_exists.1 there
    simp [linkMode, matched, matchedMode, found]

theorem Linked.owned (h : Linked d known p) {m : Mode} (hm : m ∈ p.modes) :
    m.programId = p.id ∧ m.programName = p.name := by
  obtain ⟨declared, -, rfl⟩ := List.mem_map.1 (h.modes_perm.mem_iff.1 hm)
  exact ⟨h.id.symm, h.name.symm⟩

theorem Linked.matched_mode (h : Linked d known p) {m : Mode} (hm : m ∈ p.modes)
    {other : MatchedMode} (matched : m.matched = some other) :
    ∃ target ∈ p.modes, target.name = other.name ∧
      other.parameterNames = target.parameters.map (·.name) := by
  obtain ⟨declared, -, rfl⟩ := List.mem_map.1 (h.modes_perm.mem_iff.1 hm)
  obtain ⟨name, -, found⟩ := Option.bind_eq_some_iff.1 matched
  obtain ⟨target, collected, rfl⟩ := Option.map_eq_some_iff.1 found
  have linked : p.mode? name = some (linkMode d known name target) := by
    rw [Program.mode?, h.modes, Index.get?_mapValues, collected]
    rfl
  obtain ⟨mem, same⟩ := h.mode?_eq_some_iff.1 linked
  exact ⟨_, mem, same, rfl⟩

/-- The default mode is the one that is named, which the program has. Without a name it is the only
mode, if there is no more than one. -/
theorem Linked.defaultMode_cases (h : Linked d known p) :
    (∃ m ∈ p.modes, d.defaultMode = some m.name ∧ p.defaultMode = some m) ∨
    (d.defaultMode = none ∧ ∃ m, p.modes = [m] ∧ p.defaultMode = some m) ∨
    (d.defaultMode = none ∧ p.modes.length ≠ 1 ∧ p.defaultMode = none) := by
  have chosen := h.default
  unfold chooseDefault at chosen
  cases named : d.defaultMode with
  | some name =>
    rw [named] at chosen
    dsimp only at chosen
    split at chosen
    next there =>
      obtain ⟨m, found⟩ := Option.isSome_iff_exists.1 there
      have default : p.defaultMode = some m := by
        rw [Program.defaultMode, ← Except.ok.inj chosen]
        exact found
      obtain ⟨mem, rfl⟩ := h.mode?_eq_some_iff.1 found
      exact .inl ⟨m, mem, rfl, default⟩
    next => cases chosen
  | none =>
    rw [named] at chosen
    dsimp only at chosen
    split at chosen
    next name only =>
      obtain ⟨⟨key, m⟩, entries, rfl⟩ := List.map_eq_singleton_iff.1 only
      have found : p.mode? key = some m := by
        apply Index.get?_of_mem
        rw [entries]
        exact List.mem_singleton.2 rfl
      have default : p.defaultMode = some m := by
        rw [Program.defaultMode, ← Except.ok.inj chosen]
        exact found
      exact .inr (.inl ⟨rfl, m, by simp [Program.modes, Index.values, entries], default⟩)
    next more =>
      have none_chosen : p.defaultMode = none := by
        rw [Program.defaultMode, ← Except.ok.inj chosen]
        rfl
      refine .inr (.inr ⟨rfl, ?_, none_chosen⟩)
      intro one
      obtain ⟨⟨key, m⟩, entries⟩ : ∃ e, p.modeIndex.entries = [e] := by
        apply List.length_eq_one_iff.1
        simpa [Program.modes, Index.values] using one
      exact more key (by simp [Index.keys, entries])

/-- What the definition says about the program as a whole. -/
structure HasHeader (d : ProgramDefinition) : Prop where
  named : Text.isBlankText d.name = false
  identified : d.id ≠ .zero
  executable : d.binary ≠ ""
  some_mode : d.modes ≠ []

theorem checkHeader_eq_ok_iff : checkHeader d = .ok () ↔ HasHeader d := by
  unfold checkHeader
  constructor
  · intro passed
    split at passed
    · cases passed
    next named =>
      split at passed
      · cases passed
      next identified =>
        split at passed
        · cases passed
        next executable =>
          split at passed
          · cases passed
          next some_mode =>
            exact ⟨by simpa using named, by simpa [ProgramId.isZero] using identified,
              by simpa using executable, by simpa using some_mode⟩
  · rintro ⟨named, identified, executable, some_mode⟩
    simp [named, ProgramId.isZero, identified, executable, some_mode]

/-- The program is the form of the definition in which every reference has been followed. -/
structure IsFormOf (d : ProgramDefinition) (p : Program) : Prop where
  name_eq : p.name = d.name
  id_eq : p.id = d.id
  binary_eq : p.binary = d.binary
  /-- No mode is added or lost. -/
  modes_declared : (p.modes.map (·.name)).Perm (d.modes.map (·.name))
  some_mode : p.modes ≠ []
  mode_declared : ∀ m ∈ p.modes, ∃ declared ∈ d.modes, declared.name = m.name ∧
    declared.parameters = m.parameters ∧ declared.matched = m.matched.map (·.name)
  /-- A mode is stored under its own name. -/
  mode_stored : ∀ k m, p.mode? k = some m ↔ m ∈ p.modes ∧ m.name = k
  mode_owned : ∀ m ∈ p.modes, m.programId = p.id ∧ m.programName = p.name
  parameters_differ : ∀ m ∈ p.modes, (m.parameters.map (·.name)).Nodup
  parameters_typed : ∀ m ∈ p.modes, ∀ q ∈ m.parameters, Text.isBlankText q.kind = false
  matched_mode : ∀ m ∈ p.modes, ∀ other, m.matched = some other →
    ∃ target ∈ p.modes, target.name = other.name ∧
      other.parameterNames = target.parameters.map (·.name)
  default_is_mode : ∀ m, p.defaultMode = some m → m ∈ p.modes
  default_named : ∀ k, d.defaultMode = some k → ∃ m, p.defaultMode = some m ∧ m.name = k
  default_only : ∀ m, p.modes = [m] → p.defaultMode = some m

theorem Linked.isFormOf (h : Linked d known p) : IsFormOf d p := by
  have declared : (p.modes.map (·.name)).Perm (d.modes.map (·.name)) := by
    have names := h.modes_perm.map (·.name)
    rwa [List.map_map] at names
  have checked {m : Mode} (hm : m ∈ p.modes) : (m.parameters.map (·.name)).Nodup ∧
      ∀ q ∈ m.parameters, Text.isBlankText q.kind = false := by
    obtain ⟨definition, mem, -, same, -⟩ := h.declared hm
    have passed := h.checked mem
    exact same ▸ ⟨passed.2, passed.1⟩
  have default := h.defaultMode_cases
  constructor
  · exact h.name
  · exact h.id
  · exact h.binary
  · exact declared
  · intro none
    have empty := declared.length_eq
    have some_declared := (checkHeader_eq_ok_iff.1 h.header).some_mode
    rw [none] at empty
    cases modes : d.modes with
    | nil => simp [modes] at some_declared
    | cons m rest => simp [modes] at empty
  · exact fun m => h.declared
  · exact fun k m => h.mode?_eq_some_iff
  · exact fun m => h.owned
  · exact fun m hm => (checked hm).1
  · exact fun m hm => (checked hm).2
  · exact fun m hm other => h.matched_mode hm
  · intro m hm
    rcases default with ⟨other, mem, -, chosen⟩ | ⟨-, other, only, chosen⟩ | ⟨-, -, chosen⟩
    · obtain rfl : other = m := Option.some.inj (chosen.symm.trans hm)
      exact mem
    · obtain rfl : other = m := Option.some.inj (chosen.symm.trans hm)
      simp [only]
    · cases chosen.symm.trans hm
  · intro k named
    rcases default with ⟨m, -, name, chosen⟩ | ⟨unnamed, -⟩ | ⟨unnamed, -⟩
    · exact ⟨m, chosen, Option.some.inj (name.symm.trans named)⟩
    · cases unnamed.symm.trans named
    · cases unnamed.symm.trans named
  · intro m only
    rcases default with ⟨other, mem, -, chosen⟩ | ⟨-, other, single, chosen⟩ | ⟨-, more, -⟩
    · obtain rfl : other = m := by simpa [only] using mem
      exact chosen
    · obtain rfl : other = m := by simpa [only, eq_comm] using single
      exact chosen
    · exact absurd (by simp [only]) more

theorem isFormOf_of_link (h : link d = .ok p) : IsFormOf d p := by
  obtain ⟨_, linked⟩ := link_eq_ok_iff.1 h
  exact linked.isFormOf

end Program

namespace Catalog

variable {c c' : Catalog} {ps : List Program} {p : Program} {k : String} {id : ProgramId}

/-- The catalog has these programs, and both of its indexes say so. -/
structure Holds (c : Catalog) (ps : List Program) : Prop where
  by_id : c.programsById = ps.map fun p => (p.id, p)
  by_name : c.idsByName.entries.Perm (ps.map fun p => (p.name, p.id))
  ids_differ : (ps.map (·.id)).Nodup

theorem holds_empty : Holds empty [] := ⟨rfl, .refl _, List.nodup_nil⟩

namespace Holds

theorem program?_eq_some_iff (h : c.Holds ps) : c.program? id = some p ↔ p ∈ ps ∧ p.id = id := by
  have differ := h.ids_differ
  rw [program?, h.by_id]
  clear h
  induction ps with
  | nil => simp
  | cons q rest ih =>
    obtain ⟨new, differ⟩ := List.nodup_cons.1 differ
    rw [List.map_cons, List.lookup_cons]
    by_cases same : id = q.id
    · subst same
      simp only [beq_self_eq_true, Option.some.injEq, List.mem_cons]
      constructor
      · rintro rfl
        exact ⟨.inl rfl, rfl⟩
      · rintro ⟨rfl | later, sameId⟩
        · rfl
        · exact absurd (List.mem_map.2 ⟨p, later, sameId⟩) new
    · simp only [beq_eq_false_iff_ne.2 same, ih differ, List.mem_cons]
      constructor
      · rintro ⟨mem, own⟩
        exact ⟨.inr mem, own⟩
      · rintro ⟨rfl | mem, own⟩
        · exact absurd own.symm same
        · exact ⟨mem, own⟩

theorem add (h : c.Holds ps) (added : c.add p = .ok c') : c'.Holds (p :: ps) := by
  obtain ⟨new_id, new_name, rfl⟩ := add_eq_ok_iff.1 added
  constructor
  · simp [h.by_id]
  · exact (Index.insert_perm _ new_name).trans (h.by_name.cons _)
  · refine List.nodup_cons.2 ⟨?_, h.ids_differ⟩
    intro taken
    obtain ⟨q, mem, same⟩ := List.mem_map.1 taken
    rw [h.program?_eq_some_iff.2 ⟨mem, same⟩] at new_id
    cases new_id

theorem extend {ds : List ProgramDefinition} (h : c.Holds ps) (extended : c.extend ds = .ok c') :
    ∃ qs, List.Forall₂ (fun d q => Program.link d = .ok q) ds qs ∧ c'.Holds (qs.reverse ++ ps) := by
  induction ds generalizing c ps with
  | nil =>
    obtain rfl := Except.ok.inj extended
    exact ⟨[], .nil, h⟩
  | cons d rest ih =>
    simp only [Catalog.extend] at extended
    split at extended
    · cases extended
    next q linked =>
      split at extended
      · cases extended
      next added =>
        obtain ⟨qs, all, held⟩ := ih (h.add added) extended
        exact ⟨q :: qs, .cons linked all, by simpa using held⟩

theorem id_of_name (h : c.Holds ps) :
    c.idsByName.get? k = some id ↔ ∃ p ∈ ps, p.name = k ∧ p.id = id := by
  rw [Index.get?_eq_some_iff, h.by_name.mem_iff]
  simp [Prod.ext_iff]

theorem find?_eq_some_iff (h : c.Holds ps) : c.find? k = some p ↔ p ∈ ps ∧ p.name = k := by
  simp only [find?, Option.bind_eq_some_iff, h.id_of_name, h.program?_eq_some_iff]
  constructor
  · rintro ⟨id, ⟨q, memq, name, idq⟩, mem, own⟩
    have found := h.program?_eq_some_iff.2 ⟨memq, idq⟩
    obtain rfl : p = q := Option.some.inj ((h.program?_eq_some_iff.2 ⟨mem, own⟩).symm.trans found)
    exact ⟨mem, name⟩
  · rintro ⟨mem, name⟩
    exact ⟨p.id, ⟨p, mem, name, rfl⟩, mem, rfl⟩

theorem programs_perm (h : c.Holds ps) : c.programs.Perm ps := by
  have found : (ps.map (·.id)).filterMap c.program? = ps := by
    rw [List.filterMap_map]
    refine (List.filterMap_congr fun p mem => ?_).trans (List.filterMap_some)
    exact h.program?_eq_some_iff.2 ⟨mem, rfl⟩
  have values := (h.by_name.map (·.2)).filterMap c.program?
  rw [List.map_map] at values
  exact values.trans (.of_eq found)

/-- Programs come in the order of their names, because the index of the names does. -/
theorem programs_ascending (h : c.Holds ps) :
    c.programs.Pairwise fun p q => p.name < q.name := by
  have own {e : String × ProgramId} (he : e ∈ c.idsByName.entries) {p : Program}
      (hp : c.program? e.2 = some p) : p.name = e.1 := by
    have found : c.find? e.1 = some p := by
      rw [find?, Index.get?_of_mem he]
      exact hp
    exact (h.find?_eq_some_iff.1 found).2
  rw [programs, Index.values, List.filterMap_map, List.pairwise_filterMap]
  refine c.idsByName.ascending.imp_of_mem ?_
  intro e f he hf below p hp q hq
  rw [own he hp, own hf hq]
  exact below

end Holds

theorem build_holds {ds : List ProgramDefinition} (h : build ds = .ok c) :
    ∃ ps, List.Forall₂ (fun d p => Program.link d = .ok p) ds ps ∧ c.Holds ps.reverse := by
  obtain ⟨ps, linked, held⟩ := holds_empty.extend h
  exact ⟨ps, linked, by simpa using held⟩

/-- The programs that the definitions are linked to, in the same order. -/
abbrev LinkedTo (ds : List ProgramDefinition) (ps : List Program) : Prop :=
  List.Forall₂ (fun d p => Program.link d = .ok p) ds ps

theorem LinkedTo.exists_program {ds : List ProgramDefinition} {d : ProgramDefinition}
    (h : LinkedTo ds ps) (hd : d ∈ ds) : ∃ p ∈ ps, Program.link d = .ok p := by
  induction h with
  | nil => cases hd
  | cons linked _ ih =>
    rcases List.mem_cons.1 hd with rfl | hd
    · exact ⟨_, List.mem_cons_self, linked⟩
    · obtain ⟨p, hp, linked⟩ := ih hd
      exact ⟨p, List.mem_cons_of_mem _ hp, linked⟩

/-- Every definition is found under its name in its linked form. -/
theorem build_finds {ds : List ProgramDefinition} (h : build ds = .ok c) {d : ProgramDefinition}
    (hd : d ∈ ds) : ∃ p, Program.link d = .ok p ∧ c.find? d.name = some p := by
  obtain ⟨ps, (all : LinkedTo ds ps), held⟩ := build_holds h
  obtain ⟨p, hp, linked⟩ := all.exists_program hd
  have name := (Program.isFormOf_of_link linked).name_eq
  exact ⟨p, linked, held.find?_eq_some_iff.2 ⟨List.mem_reverse.2 hp, name⟩⟩

/-- The programs of a catalog are the forms of its definitions. They are found by their names and by
their identifiers, and the two indexes say the same. -/
structure IsConsistent (ds : List ProgramDefinition) (c : Catalog) : Prop where
  one_each : ∃ ps, List.Forall₂ Program.IsFormOf ds ps ∧ c.programs.Perm ps
  size_eq : c.size = ds.length
  size_programs : c.size = c.programs.length
  by_name : ∀ k p, c.find? k = some p ↔ p ∈ c.programs ∧ p.name = k
  by_id : ∀ id p, c.program? id = some p ↔ p ∈ c.programs ∧ p.id = id
  indexes_agree : ∀ k id, c.idsByName.get? k = some id ↔
    ∃ p, c.program? id = some p ∧ p.name = k
  names_ascend : c.programs.Pairwise fun p q => Text.bytes p.name < Text.bytes q.name
  ids_differ : c.programs.Pairwise fun p q => p.id ≠ q.id
  /-- The texts of two programs' identifiers are never two texts of one identifier. -/
  texts_differ : ∀ p ∈ c.programs, ∀ q ∈ c.programs, ∀ (s t : List Char) (id : ProgramId),
    p.id.IsWritten s → q.id.IsWritten t → id.IsWritten s → id.IsWritten t → p = q

theorem Holds.isConsistent {ds : List ProgramDefinition} (held : c.Holds ps.reverse)
    (linked : List.Forall₂ (fun d p => Program.link d = .ok p) ds ps) : IsConsistent ds c := by
  have all : c.programs.Perm ps := held.programs_perm.trans ps.reverse_perm
  have mem {p : Program} : p ∈ ps.reverse ↔ p ∈ c.programs := held.programs_perm.mem_iff.symm
  have size : c.size = ps.length := by simp [Catalog.size, held.by_id]
  have by_id (id : ProgramId) (p : Program) :
      c.program? id = some p ↔ p ∈ c.programs ∧ p.id = id := by
    rw [held.program?_eq_some_iff, mem]
  constructor
  · exact ⟨ps, linked.imp fun d p => Program.isFormOf_of_link, all⟩
  · rw [size, linked.length_eq]
  · rw [size, all.length_eq]
  · intro k p
    rw [held.find?_eq_some_iff, mem]
  · exact by_id
  · intro k id
    simp only [held.id_of_name, held.program?_eq_some_iff]
    constructor
    · rintro ⟨p, mem, name, own⟩
      exact ⟨p, ⟨mem, own⟩, name⟩
    · rintro ⟨p, ⟨mem, own⟩, name⟩
      exact ⟨p, mem, name, own⟩
  · exact held.programs_ascending.imp fun below => (Text.lt_iff_bytes_lt _ _).1 below
  · have differ := (held.programs_perm.map (·.id)).nodup_iff.2 held.ids_differ
    exact List.pairwise_map.1 differ
  · intro p hp q hq s t id own own' shared shared'
    have same {id id' : ProgramId} {s : List Char} (h : id.IsWritten s) (h' : id'.IsWritten s) :
        id = id' :=
      Option.some.inj ((ProgramId.parse?_eq_some_iff.2 h).symm.trans
        (ProgramId.parse?_eq_some_iff.2 h'))
    have ids : q.id = p.id := (same own' shared').trans (same own shared).symm
    exact Option.some.inj (((by_id p.id p).2 ⟨hp, rfl⟩).symm.trans ((by_id p.id q).2 ⟨hq, ids⟩))

theorem IsConsistent.form {ds : List ProgramDefinition} (h : IsConsistent ds c)
    (mem : p ∈ c.programs) : ∃ d ∈ ds, Program.IsFormOf d p := by
  obtain ⟨ps, forms, all⟩ := h.one_each
  obtain ⟨i, inside, rfl⟩ := List.mem_iff_getElem.1 (all.mem_iff.1 mem)
  have declared : i < ds.length := forms.length_eq ▸ inside
  exact ⟨ds[i], List.getElem_mem declared, forms.get declared inside⟩

theorem IsConsistent.parameters_differ {ds : List ProgramDefinition} {m : Mode}
    (h : IsConsistent ds c) (mem : p ∈ c.programs) (mode_mem : m ∈ p.modes) :
    (m.parameters.map (·.name)).Nodup := by
  obtain ⟨d, -, form⟩ := h.form mem
  exact form.parameters_differ m mode_mem

namespace Sample

/-- A program with a mode that is matched with another one, and a program with a single mode. -/
def definitions : List ProgramDefinition :=
  [⟨"tool", ⟨7⟩, "/bin/tool", [⟨"run", [.literal "-v"], none⟩], none⟩,
    ⟨"net", ⟨8⟩, "/bin/net",
      [⟨"serve",
          [⟨"host", "text", none, none, false⟩, ⟨"port", "ip-port", none, none, false⟩], none⟩,
        ⟨"dial", [⟨"port", "ip-port", none, none, false⟩], some "serve"⟩], some "dial"⟩]

def catalog : Catalog := (build definitions).toOption.getD .empty

theorem definitions_built : build definitions = .ok catalog :=
  eq_ok_of_isSome .empty (by decide)

end Sample

/-- A catalog that was built is consistent with its definitions. -/
theorem build_consistent {ds : List ProgramDefinition} (h : build ds = .ok c) :
    IsConsistent ds c := by
  obtain ⟨ps, linked, held⟩ := build_holds h
  exact held.isConsistent linked

theorem build_consistent_sample : build Sample.definitions = .ok Sample.catalog ∧
    IsConsistent Sample.definitions Sample.catalog ∧
      Sample.catalog.programs.map (·.name) = ["net", "tool"] :=
  ⟨Sample.definitions_built, build_consistent Sample.definitions_built, by decide⟩

end Catalog
end Launcher
