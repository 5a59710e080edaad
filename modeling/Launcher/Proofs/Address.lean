import Launcher.Address
import Mathlib.Data.List.Induction
import Mathlib.Data.List.Nodup
/-!
What a host offers to its servers. Every usable address that an interface reports is listed once, in
the order of the first reports; the wildcard is listed as well, where an interface reports it, and
behind all others where none does. So it ends the list unless an interface reports it before another
usable address. -/
namespace Launcher.Address

variable {reported : List (Option Address)} {usable : Address → Prop} {listed : List Address}
variable {a b : Address}

/-- The first report of the one address stands before the first of the other. What is not reported
stands behind everything that is. -/
def IsReportedBefore (reported : List (Option Address)) (a b : Address) : Prop :=
  reported.idxOf (some a) < reported.idxOf (some b)

/-- The reported addresses that are usable, in the order of their first reports. -/
structure ListsFirst (reported : List (Option Address)) (usable : Address → Prop)
    (listed : List Address) : Prop where
  mem_iff : ∀ a, a ∈ listed ↔ some a ∈ reported ∧ usable a
  in_order : listed.Pairwise (IsReportedBefore reported)

theorem not_isReportedBefore_self : ¬ IsReportedBefore reported a a := Nat.lt_irrefl _

theorem nodup_of_in_order (in_order : listed.Pairwise (IsReportedBefore reported)) :
    listed.Nodup := by
  refine in_order.imp fun {a b} before same => ?_
  subst same
  exact not_isReportedBefore_self before

theorem isReportedBefore_of_absent (mem : some a ∈ reported) (absent : some b ∉ reported) :
    IsReportedBefore reported a b := by
  rw [IsReportedBefore, List.idxOf_eq_length absent]
  exact List.idxOf_lt_length_of_mem mem

theorem IsReportedBefore.mem (before : IsReportedBefore reported a b) : some a ∈ reported :=
  List.idxOf_lt_length_iff.1 (Nat.lt_of_lt_of_le before List.idxOf_le_length)

theorem IsReportedBefore.concat (before : IsReportedBefore reported a b) (r : Option Address) :
    IsReportedBefore (reported ++ [r]) a b := by
  -- The first report of an address stays the first, whatever is reported later.
  by_cases known : some b ∈ reported
  · rwa [IsReportedBefore, List.idxOf_append_of_mem before.mem, List.idxOf_append_of_mem known]
  · rw [IsReportedBefore, List.idxOf_append_of_mem before.mem, List.idxOf_append_of_notMem known]
    exact Nat.lt_add_right _ (List.idxOf_lt_length_of_mem before.mem)

section Report

variable (h : ListsFirst reported usable listed)
include h

theorem ListsFirst.in_order_absent (absent : some a ∉ reported) :
    (listed ++ [a]).Pairwise (IsReportedBefore reported) := by
  refine List.pairwise_append.2 ⟨h.in_order, List.pairwise_singleton _ _, ?_⟩
  intro b mem c last
  obtain rfl := List.mem_singleton.1 last
  exact isReportedBefore_of_absent ((h.mem_iff b).1 mem).1 absent

theorem ListsFirst.concat_known {r : Option Address}
    (known : ∀ a, r = some a → usable a → a ∈ listed) :
    ListsFirst (reported ++ [r]) usable listed where
  mem_iff a := by
    rw [h.mem_iff, List.mem_append, List.mem_singleton]
    constructor
    · rintro ⟨mem, use⟩
      exact ⟨.inl mem, use⟩
    · rintro ⟨mem | same, use⟩
      · exact ⟨mem, use⟩
      · exact (h.mem_iff a).1 (known a same.symm use)
  in_order := h.in_order.imp fun before => before.concat r

theorem ListsFirst.concat_new (use : usable a) (new : a ∉ listed) :
    ListsFirst (reported ++ [some a]) usable (listed ++ [a]) where
  mem_iff b := by
    rw [List.mem_append, List.mem_append, h.mem_iff, List.mem_singleton, List.mem_singleton,
      Option.some.injEq]
    constructor
    · rintro (⟨mem, use⟩ | rfl)
      · exact ⟨.inl mem, use⟩
      · exact ⟨.inr rfl, use⟩
    · rintro ⟨mem | rfl, use⟩
      · exact .inl ⟨mem, use⟩
      · exact .inr rfl
  in_order := by
    have absent : some a ∉ reported := fun mem => new ((h.mem_iff a).2 ⟨mem, use⟩)
    exact (h.in_order_absent absent).imp fun before => before.concat _

end Report

theorem distinct_concat (known rest : List Address) (a : Address) :
    distinct known (rest ++ [a]) =
      if a ∈ distinct known rest then distinct known rest else distinct known rest ++ [a] := by
  induction rest generalizing known with
  | nil => by_cases mem : a ∈ known <;> simp [distinct, mem]
  | cons b rest ih =>
    simp only [List.cons_append, distinct]
    split
    next => exact ih known
    next => exact ih (known ++ [b])

/-- What is listed without regard to the wildcard. -/
def found (reported : List (Option Address)) : List Address :=
  distinct [] ((reported.filterMap id).filter isServerAddress)

theorem found_concat (reported : List (Option Address)) (r : Option Address) :
    found (reported ++ [r]) =
      match r with
      | some a =>
        if a.isServerAddress = true ∧ a ∉ found reported then found reported ++ [a]
        else found reported
      | none => found reported := by
  cases r with
  | none => simp [found]
  | some a =>
    by_cases use : a.isServerAddress = true
    · simp [found, use, distinct_concat]
    · simp [found, use]

theorem found_listsFirst (reported : List (Option Address)) :
    ListsFirst reported (fun a => a.isServerAddress = true) (found reported) := by
  induction reported using List.reverseRecOn with
  | nil => exact ⟨by simp [found, distinct], .nil⟩
  | append_singleton reported r ih =>
    rw [found_concat]
    split
    next a =>
      split
      next new => exact ih.concat_new new.1 new.2
      next known =>
        refine ih.concat_known fun b same use => ?_
        obtain rfl := Option.some.inj same
        by_contra new
        exact known ⟨use, new⟩
    next => exact ih.concat_known (by simp)

theorem serverAddresses_eq (reported : List (Option Address)) :
    serverAddresses reported =
      if wildcard ∈ found reported then found reported else found reported ++ [wildcard] := by
  simp [serverAddresses, found]

theorem mem_serverAddresses : a ∈ serverAddresses reported ↔
    a = wildcard ∨ some a ∈ reported ∧ a.isServerAddress = true := by
  rw [serverAddresses_eq, ← (found_listsFirst reported).mem_iff]
  split
  next mem =>
    constructor
    · exact .inr
    · rintro (rfl | listed)
      · exact mem
      · exact listed
  next => simp [or_comm]

theorem serverAddresses_in_order (reported : List (Option Address)) :
    (serverAddresses reported).Pairwise (IsReportedBefore reported) := by
  have first := found_listsFirst reported
  rw [serverAddresses_eq]
  split
  next => exact first.in_order
  next new =>
    exact first.in_order_absent fun mem => new ((first.mem_iff _).2 ⟨mem, rfl⟩)

/-- The usable addresses other than the wildcard in the order of their first reports, and then the
wildcard. -/
def EndsWithWildcard (reported : List (Option Address)) (listed : List Address) : Prop :=
  ∃ others, listed = others ++ [wildcard] ∧
    ListsFirst reported (fun a => a.isServerAddress = true ∧ a ≠ wildcard) others

theorem listsFirst_before_wildcard {others : List Address}
    (split : serverAddresses reported = others ++ [wildcard]) :
    ListsFirst reported (fun a => a.isServerAddress = true ∧ a ≠ wildcard) others := by
  have in_order := serverAddresses_in_order reported
  have once := nodup_of_in_order in_order
  rw [split] at in_order once
  refine ⟨fun a => ?_, (List.pairwise_append.1 in_order).1⟩
  have not_last : wildcard ∉ others := fun mem =>
    (List.pairwise_append.1 once).2.2 wildcard mem wildcard (List.mem_singleton_self _) rfl
  have mem : a ∈ others ++ [wildcard] ↔ _ := split ▸ mem_serverAddresses
  rw [List.mem_append, List.mem_singleton] at mem
  constructor
  · intro other
    have differs : a ≠ wildcard := fun same => not_last (same ▸ other)
    obtain ⟨reports, use⟩ := (mem.1 (.inl other)).resolve_left differs
    exact ⟨reports, use, differs⟩
  · rintro ⟨reports, use, differs⟩
    exact (mem.2 (.inr ⟨reports, use⟩)).resolve_right differs

/-- Whatever the interfaces report, the wildcard and every usable address that is reported are
listed, each of them once and nothing else, in the order of their first reports. The wildcard ends
the list exactly if every other usable address is reported before it, as all are if no interface
reports it. -/
theorem wildcard_last_iff (reported : List (Option Address)) :
    (serverAddresses reported).Nodup ∧
    (∀ a, a ∈ serverAddresses reported ↔
      a = wildcard ∨ some a ∈ reported ∧ a.isServerAddress = true) ∧
    (serverAddresses reported).Pairwise (IsReportedBefore reported) ∧
    (EndsWithWildcard reported (serverAddresses reported) ↔
      ∀ a, some a ∈ reported → a.isServerAddress = true → a ≠ wildcard →
        IsReportedBefore reported a wildcard) := by
  have in_order := serverAddresses_in_order reported
  refine ⟨nodup_of_in_order in_order, fun a => mem_serverAddresses, in_order, ?_, ?_⟩
  · rintro ⟨others, split, first⟩ a reports use differs
    rw [split] at in_order
    exact (List.pairwise_append.1 in_order).2.2 a ((first.mem_iff a).2 ⟨reports, use, differs⟩)
      wildcard (List.mem_singleton_self _)
  · intro ahead
    have mem : wildcard ∈ serverAddresses reported := mem_serverAddresses.2 (.inl rfl)
    obtain ⟨others, later, split⟩ := List.append_of_mem mem
    -- What stood behind the wildcard would also be reported before it.
    have none_later : later = [] := by
      refine List.eq_nil_iff_forall_not_mem.2 fun a mem => ?_
      rw [split] at in_order
      have behind := List.rel_of_pairwise_cons (List.pairwise_append.1 in_order).2.1 mem
      have differs : a ≠ wildcard := fun same => not_isReportedBefore_self (same ▸ behind)
      have listed : a ∈ serverAddresses reported := by simp [split, mem]
      obtain ⟨reports, use⟩ := (mem_serverAddresses.1 listed).resolve_left differs
      exact Nat.lt_asymm behind (ahead a reports use differs)
    subst none_later
    exact ⟨others, split, listsFirst_before_wildcard split⟩

/-- The wildcard comes first where an interface reports it before another reports its address. -/
theorem counterexample_wildcard_reported :
    serverAddresses [some wildcard, some (.v4 10 0 0 1)] = [wildcard, .v4 10 0 0 1] ∧
    ¬ EndsWithWildcard [some wildcard, some (.v4 10 0 0 1)]
      (serverAddresses [some wildcard, some (.v4 10 0 0 1)]) := by
  refine ⟨by decide, ?_⟩
  rintro ⟨others, split, -⟩
  have last := congrArg List.getLast? split
  rw [List.getLast?_concat] at last
  exact absurd last (by decide)

/-- Repeated, unusable and foreign reports leave the wildcard at the end. -/
theorem wildcard_last_sample :
    EndsWithWildcard [none, some (.v4 127 0 0 1), some (.v4 10 0 0 1), some (.v4 10 0 0 1),
      some wildcard, some (.v4 10 0 0 1)] [.v4 10 0 0 1, wildcard] := by
  have law := (wildcard_last_iff [none, some (.v4 127 0 0 1), some (.v4 10 0 0 1),
    some (.v4 10 0 0 1), some wildcard, some (.v4 10 0 0 1)]).2.2.2
  refine law.2 ?_
  intro a mem use differs
  simp only [List.mem_cons, Option.some.injEq, reduceCtorEq, List.not_mem_nil, or_false,
    false_or] at mem
  rcases mem with rfl | rfl | rfl | rfl | rfl
  · exact absurd use (by decide)
  · exact Nat.lt_of_sub_pos (by decide)
  · exact Nat.lt_of_sub_pos (by decide)
  · exact absurd rfl differs
  · exact Nat.lt_of_sub_pos (by decide)

end Launcher.Address
