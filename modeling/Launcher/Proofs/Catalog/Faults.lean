import Launcher.Proofs.Catalog.Building
/-!
What keeps definitions from being linked. Every error is about the program of one definition, and a
catalog that cannot be built reports the first definition that has no place beside those before
it. -/
namespace Launcher

namespace Program

variable {d : ProgramDefinition} {c : CatalogError}

/-- What linking finds wrong with a program is about that program. -/
theorem link_error (named : Text.isBlankText d.name = false) (h : link d = .error c) :
    c.program? = some d.name := by
  cases link_eq_error_iff.1 h with
  | header flaw =>
    cases flaw with
    | blank_name blank => exact absurd blank (by simp [named])
    | zero_id _ _ => rfl
    | no_binary _ _ _ => rfl
    | no_mode _ _ _ _ => rfl
  | mode _ first =>
    obtain ⟨_, m, _, -, -, flaw⟩ := first
    cases flaw with
    | repeated_name _ _ => rfl
    | parameter first =>
      obtain ⟨_, p, _, -, -, flaw⟩ := first
      cases flaw with
      | blank_type _ => rfl
      | repeated_name _ _ => rfl
  | unknown_matched _ _ _ _ _ _ => rfl
  | unknown_default _ _ _ _ _ => rfl

end Program

namespace Catalog

variable {ds : List ProgramDefinition} {cause : CatalogError}

/-- What is wrong with a definition beside the programs that are linked already: it has no linked
form, or its identifier is taken. -/
def IsFault (held : List Program) (d : ProgramDefinition) (cause : CatalogError) : Prop :=
  Program.link d = .error cause ∨ ∃ p q, Program.link d = .ok p ∧ q ∈ held ∧ q.id = p.id ∧
    cause = .duplicateId p.id q.name p.name

/-- The fault of the first definition that has one. Those before it are linked, beside the programs
that were held already, and no identifier is taken twice by all of these. -/
def IsFirstFault (held : List Program) (ds : List ProgramDefinition) (cause : CatalogError) : Prop :=
  ∃ before d after linked, ds = before ++ d :: after ∧
    List.Forall₂ (fun d p => Program.link d = .ok p) before linked ∧
    ((linked.reverse ++ held).map (·.id)).Nodup ∧ IsFault (linked.reverse ++ held) d cause

/-- Where no name is declared twice, only the identifier of a definition can be taken. -/
theorem build_eq_error_iff (names : (ds.map (·.name)).Nodup) :
    build ds = .error cause ↔ IsFirstFault [] ds cause := by
  rw [build_eq_error_iff_first]
  constructor
  · rintro ⟨before, d, after, rfl, flawless, refusal⟩
    obtain ⟨c, built⟩ := exists_build_iff.2 (isFlawless_iff_isBuildable.1 flawless)
    obtain ⟨ps, (all : LinkedTo before ps), held⟩ := build_holds built
    refine ⟨before, d, after, ps, rfl, all, by simpa using held.ids_differ, ?_⟩
    cases refusal with
    | unlinked failed => exact .inl failed
    | repeated_id linked hq same =>
      obtain ⟨r, hr, id, name⟩ := all.mem_definitions hq
      have form := Program.isFormOf_of_link linked
      have taken : r.id = _ := id.trans (same.trans form.id_eq.symm)
      exact .inr ⟨_, r, linked, by simpa using hr, taken, by rw [form.id_eq, form.name_eq, name]⟩
    | repeated_name _ _ taken =>
      rw [List.map_append] at names
      exact absurd rfl ((List.nodup_append.1 names).2.2 _ taken _ List.mem_cons_self)
  · rintro ⟨before, d, after, ps, rfl, (all : LinkedTo before ps), differ, fault⟩
    have buildable : IsBuildable before := by
      refine ⟨fun d hd => ?_, ?_, ?_⟩
      · obtain ⟨p, -, linked⟩ := all.exists_program hd
        exact ⟨p, linked⟩
      · simpa [List.nodup_reverse, all.map_id] using differ
      · rw [List.map_append] at names
        exact (List.nodup_append.1 names).1
    refine ⟨before, d, after, rfl, isFlawless_iff_isBuildable.2 buildable, ?_⟩
    rcases fault with failed | ⟨p, r, linked, hr, same, rfl⟩
    · exact .unlinked failed
    · refine (refuses_iff_of_linked all linked).2 (.inl ⟨r, by simpa using hr, same, rfl⟩)

end Catalog

end Launcher
