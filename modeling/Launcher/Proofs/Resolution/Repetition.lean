import Launcher.Proofs.Resolution.Stages
import Mathlib.Data.Finset.Card
/-!
Values that are listed more than once. Candidates are counted as often as they are listed, so a list
of one value is decided by its length and not by the value: only a list of length one is taken, and
a longer one waits for an override, whatever is in it. Values are told apart by type and content;
zeros of different sign are different values, and so are their texts. -/
namespace Launcher

namespace Candidates

variable {c : Candidates} {listed : List Value} {v : Value}

/-- How many different values there are. -/
def distinct (c : Candidates) : Nat := c.values.toFinset.card

/-- One value and no other, which is listed at least twice. -/
def IsRepetition (c : Candidates) : Prop := ∃ v n, 2 ≤ n ∧ c = .list (List.replicate n v)

theorem count_eq_distinct_iff : (list listed).count = (list listed).distinct ↔ listed.Nodup := by
  have all : (listed : Multiset Value).toFinset.card = listed.length ↔ listed.Nodup :=
    Multiset.toFinset_card_eq_card_iff_nodup
  exact eq_comm.trans all

/-- Several candidates are several values, but for a repetition. -/
theorem two_le_distinct_iff (several : 2 ≤ c.values.length) :
    2 ≤ c.distinct ↔ ¬ c.IsRepetition := by
  constructor
  · rintro two ⟨v, n, positive, rfl⟩
    have one : (list (List.replicate n v)).distinct = 1 := by
      have nonzero : n ≠ 0 := by omega
      simp [distinct, values, List.toFinset_replicate_of_ne_zero nonzero]
    omega
  · intro varied
    by_contra few
    cases c with
    | range first last =>
      have distinct_eq : (range first last).distinct = (range first last).values.length :=
        List.toFinset_card_of_nodup (nodup_values_range first last)
      omega
    | list listed =>
      obtain ⟨v, rest, rfl⟩ := List.exists_cons_of_length_pos (Nat.zero_lt_of_lt several)
      refine varied ⟨v, (v :: rest).length, several, ?_⟩
      have alike : ∀ u ∈ v :: rest, u = v := by
        intro u mem
        have at_most_one : (v :: rest).toFinset.card ≤ 1 := by
          simp only [distinct, values] at few
          omega
        exact Finset.card_le_one.1 at_most_one u (List.mem_toFinset.2 mem) v (by simp)
      rw [← List.eq_replicate_of_mem alike]

end Candidates

namespace Resolution

section Undecided

variable {d : Discovery σ} {program : Program} {mode : Mode} {matched : Option Launch}
variable {overrides left : List String} {world w : σ} {i : Nat} {p : Parameter}
variable {values : List Value} {listed : List Value}

/-- The pass comes to a parameter that has no value from a matched launch and no default; the
overrides that are left and the candidates that it finds are these. -/
structure ComesTo (d : Discovery σ) (mode : Mode) (matched : Option Launch)
    (overrides : List String) (world : σ) (i : Nat) (p : Parameter) (values : List Value)
    (left : List String) (w : σ) (found : Option Candidates) : Prop where
  parameter : mode.parameters[i]? = some p
  before : choose d mode matched (mode.parameters.take i) overrides world =
    (.complete values left, w)
  nothing_matched : NothingMatched mode matched p
  no_default : p.default = none
  found : (p.candidates d w).1 = found

/-- The parameter is given the value, and these overrides are left behind it. -/
def Takes (d : Discovery σ) (mode : Mode) (matched : Option Launch) (overrides : List String)
    (world : σ) (i : Nat) (values : List Value) (value : Value) (left : List String) : Prop :=
  ∃ w, choose d mode matched (mode.parameters.take (i + 1)) overrides world =
    (.complete (values ++ [value]) left, w)

section Coming

variable {found : Option Candidates}
variable (h : ComesTo d mode matched overrides world i p values left w found)
include h

theorem ComesTo.take_eq : mode.parameters.take (i + 1) = mode.parameters.take i ++ [p] := by
  rw [List.take_add_one, h.parameter, Option.toList_some]

/-- What happens at the parameter, whatever follows it. -/
theorem ComesTo.choose_eq (rest : List Parameter) :
    choose d mode matched (mode.parameters.take i ++ p :: rest) overrides world =
      ((choose d mode matched (p :: rest) left w).1.behind values,
        (choose d mode matched (p :: rest) left w).2) :=
  choose_in_parts h.before (p :: rest)

theorem ComesTo.takes_single {c : Candidates} {v : Value} (known : found = some c)
    (single : c.single = some v) : Takes d mode matched overrides world i values v left := by
  have unmatched := matchedValue_eq_none_iff.2 h.nothing_matched
  have own : choose d mode matched [p] left w =
      (.complete [v] left, (p.candidates d w).2) := by
    simp [choose, unmatched, h.no_default, h.found, known, single, Progress.after]
  exact ⟨(p.candidates d w).2, by rw [h.take_eq, h.choose_eq, own, behind_complete]⟩

theorem ComesTo.isFree (several : ∀ c, found = some c → c.count ≠ 1) :
    IsFree d mode matched w p :=
  ⟨h.nothing_matched, h.no_default, fun c known => several c (h.found.symm.trans known)⟩

theorem ComesTo.takes_override {text : String} {rest : List String}
    (several : ∀ c, found = some c → c.count ≠ 1) (given : left = text :: rest) :
    Takes d mode matched overrides world i values (.text text) rest := by
  subst given
  refine ⟨(p.candidates d w).2, ?_⟩
  rw [h.take_eq, h.choose_eq, choose_of_free (h.isFree several)]
  simp [choose, Progress.after]

theorem ComesTo.index_lt : (mode.parameters.take i).length = i := by
  have inside := (List.getElem?_eq_some_iff.1 h.parameter).1
  rw [List.length_take]
  omega

theorem ComesTo.fails (program : Program) (several : ∀ c, found = some c → c.count ≠ 1)
    (none_left : left = []) :
    ∃ failure, (resolve d program mode matched overrides world).1.result = .error failure ∧
      failure.index = i ∧ failure.reason = reason found := by
  subst none_left
  have split : mode.parameters = mode.parameters.take i ++ p :: mode.parameters.drop (i + 1) := by
    rw [← List.singleton_append, ← List.append_assoc, ← h.take_eq, List.take_append_drop]
  have pass := h.choose_eq (mode.parameters.drop (i + 1))
  rw [← split, choose_of_free (h.isFree several), h.found] at pass
  have decided : values.length = i :=
    (choose_length (congrArg Prod.fst h.before)).trans h.index_lt
  simp only [resolve, pass, behind_stopped, conclude, decided]
  exact ⟨_, rfl, rfl, rfl⟩

end Coming

theorem Takes.unique {v v' : Value} {left' : List String}
    (h : Takes d mode matched overrides world i values v left)
    (h' : Takes d mode matched overrides world i values v' left') : v = v' ∧ left = left' := by
  obtain ⟨w, complete⟩ := h
  obtain ⟨w', complete'⟩ := h'
  obtain ⟨same, rfl⟩ := Progress.complete.inj (congrArg Prod.fst (complete.symm.trans complete'))
  simpa using same

theorem reason_list_iff : reason (some (.list listed)) = .ambiguousCandidates ↔
    2 ≤ listed.length := by
  simp only [reason, Option.map_some, Option.getD_some, Candidates.count]
  by_cases several : 2 ≤ listed.length
  · simp [if_pos (show listed.length > 1 from several), several]
  · simp [if_neg (show ¬ listed.length > 1 from several), several]

/-- The first value of the list is taken, without an override, only where it stands alone. -/
theorem ComesTo.takes_iff {v : Value}
    (h : ComesTo d mode matched overrides world i p values left w (some (.list listed))) :
    Takes d mode matched overrides world i values v left ↔ listed = [v] := by
  constructor
  · intro taken
    by_cases one : listed.length = 1
    · obtain ⟨u, rfl⟩ := List.length_eq_one_iff.1 one
      rw [(taken.unique (h.takes_single rfl rfl)).1]
    · have several : ∀ c, some (Candidates.list listed) = some c → c.count ≠ 1 := by
        rintro _ ⟨⟩
        exact one
      cases left with
      | nil =>
        obtain ⟨w', complete⟩ := taken
        rw [h.take_eq, h.choose_eq, choose_of_free (h.isFree several), behind_stopped] at complete
        cases complete
      | cons text rest =>
        have same := (taken.unique (h.takes_override several rfl)).2
        simp at same
  · rintro rfl
    exact h.takes_single rfl rfl

end Undecided

/-- Candidates are as many as the list is long, so they count as a set exactly in lists without
repetition. A resolution that calls a parameter ambiguous has found two different values for it,
unless it has found a repetition of one value. Where a pass comes to a parameter that only its
candidates or an override can decide, a value is taken from the list if it is the only entry; that
takes every value that all entries are equal to, unless the list is a repetition. A list of another
length than one uses up an override, and without one the resolution fails there. -/
theorem repetition_is_ambiguous (d : Discovery σ) (program : Program) (mode : Mode)
    (matched : Option Launch) (overrides : List String) (world : σ) :
    let result := (resolve d program mode matched overrides world).1.result
    (∀ listed, (Candidates.list listed).count = (Candidates.list listed).distinct ↔
      listed.Nodup) ∧
    (∀ failure, result = .error failure → failure.reason = .ambiguousCandidates →
      ∃ first rest c, failure.remaining = first :: rest ∧ first.candidates = some c ∧
        (2 ≤ c.distinct ↔ ¬ c.IsRepetition)) ∧
    ∀ i p values left w listed,
      ComesTo d mode matched overrides world i p values left w (some (.list listed)) →
      let takes := Takes d mode matched overrides world i values
      (∀ v, takes v left ↔ listed = [v]) ∧
      ((∀ v ∈ listed, (∀ u ∈ listed, u = v) → takes v left) ↔
        ¬ (Candidates.list listed).IsRepetition) ∧
      (listed.length ≠ 1 →
        (∀ text rest, left = text :: rest → takes (.text text) rest) ∧
        (left = [] → ∃ failure, result = .error failure ∧ failure.index = i ∧
          (failure.reason = .ambiguousCandidates ↔ 2 ≤ listed.length))) := by
  intro result
  refine ⟨fun listed => Candidates.count_eq_distinct_iff, ?_, ?_⟩
  · intro failure failed ambiguous
    obtain ⟨before, p, later, values, w, -, -, -, rfl, -⟩ := resolve_error failed
    obtain ⟨c, told, several⟩ := (reason_ambiguous_iff p _).1 ambiguous
    exact ⟨_, _, c, rfl, told, Candidates.two_le_distinct_iff several⟩
  · intro i p values left w listed comes takes
    refine ⟨fun v => comes.takes_iff, ⟨?_, ?_⟩, fun other => ?_⟩
    · rintro law ⟨v, n, several, same⟩
      obtain rfl := Candidates.list.inj same
      have nonzero : n ≠ 0 := by omega
      have taken := law v (List.mem_replicate.2 ⟨nonzero, rfl⟩)
        fun u mem => (List.mem_replicate.1 mem).2
      have one := congrArg List.length (comes.takes_iff.1 taken)
      rw [List.length_replicate, List.length_singleton] at one
      omega
    · intro varied v mem alike
      have listed_eq := List.eq_replicate_of_mem alike
      have positive := List.length_pos_of_mem mem
      have short : listed.length < 2 := by
        by_contra long
        exact varied ⟨v, listed.length, by omega, congrArg _ listed_eq⟩
      have one : listed.length = 1 := by omega
      rw [one] at listed_eq
      exact comes.takes_iff.2 listed_eq
    · have several : ∀ c, some (Candidates.list listed) = some c → c.count ≠ 1 := by
        rintro _ ⟨⟩
        exact other
      refine ⟨fun text rest given => comes.takes_override several given, fun none_left => ?_⟩
      obtain ⟨failure, failed, index, why⟩ := comes.fails program several none_left
      exact ⟨failure, failed, index, by rw [why, reason_list_iff]⟩

namespace Sample

/-- Discovery finds the same colour twice. -/
def twice : Registry Nat :=
  Registry.empty.register "color" none fun calls => (.list [.text "red", .text "red"], calls + 1)

def paint : Mode := ⟨⟨1⟩, "brush", "paint", [⟨"color", "color", none, none, false⟩], none⟩

def brush : Program := ⟨"brush", ⟨1⟩, "/bin/brush", .ofList [("paint", paint)], none⟩

def painted (overrides : List String) : Except ResolutionFailure Launch :=
  (resolve twice.discovery brush paint none overrides 0).1.result

theorem comes_to_color : ComesTo twice.discovery paint none [] 0 0
    ⟨"color", "color", none, none, false⟩ [] [] 0 (some (.list [.text "red", .text "red"])) :=
  ⟨rfl, rfl, .inl rfl, rfl, rfl⟩

end Sample

/-- One colour is all that there is, but it is counted twice, so the parameter is ambiguous, and an
override is used up for it. -/
theorem counterexample_repeated_candidate :
    (Candidates.list [.text "red", .text "red"]).count = 2 ∧
    (Candidates.list [.text "red", .text "red"]).distinct = 1 ∧
    (∃ failure, Sample.painted [] = .error failure ∧ failure.reason = .ambiguousCandidates) ∧
    ∃ launch, Sample.painted ["blue"] = .ok launch ∧ launch.arguments = ["blue"] :=
  ⟨rfl, rfl, ⟨_, rfl, rfl⟩, _, rfl, rfl⟩

theorem repetition_is_ambiguous_sample :
    (∃ failure, Sample.painted [] = .error failure ∧ failure.index = 0 ∧
      failure.reason = .ambiguousCandidates) ∧
    ¬ Takes Sample.twice.discovery Sample.paint none [] 0 0 [] (.text "red") [] := by
  obtain ⟨-, -, law⟩ := repetition_is_ambiguous Sample.twice.discovery Sample.brush Sample.paint
    none [] 0
  obtain ⟨single, -, several⟩ := law _ _ _ _ _ _ Sample.comes_to_color
  obtain ⟨failure, failed, index, ambiguous⟩ := (several (by decide)).2 rfl
  exact ⟨⟨failure, failed, index, ambiguous.2 (by decide)⟩, fun taken =>
    absurd ((single _).1 taken) (by decide)⟩

end Resolution
end Launcher
