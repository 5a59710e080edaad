import Launcher.Candidates
import Mathlib.Algebra.Group.Int.Defs
import Mathlib.Data.List.Nodup
/-!
Counting candidates. The sequence that the candidates are written out to is the reference: they are
counted as it is long, up to the greatest count that a word holds, they are empty if it is, and they
have a single value if it has one. A range of 64-bit integers is counted in words of 128 bits; no
step of that overflows, whatever the two ends are. -/
namespace Launcher.Candidates

variable {c : Candidates} {u v : Value} {first last : Int}

section Reference

/-- Candidates are counted as they are written out, up to the greatest number that a word holds. -/
theorem count_cases : c.count = c.values.length ∨
    greatestCount ≤ c.values.length ∧ c.count = greatestCount := by
  cases c with
  | list values => exact .inl rfl
  | range first last =>
    have length : (range first last).values.length = span first last := by simp [values]
    rw [length]
    simp only [count]
    omega

theorem several_countable : 1 < greatestCount := by decide

theorem isEmpty_iff_values : c.isEmpty = true ↔ c.values = [] := by
  have counted := count_cases (c := c)
  have large := several_countable
  rw [isEmpty, beq_iff_eq, ← List.length_eq_zero_iff]
  omega

theorem one_lt_count_iff : 1 < c.count ↔ 2 ≤ c.values.length := by
  have counted := count_cases (c := c)
  have large := several_countable
  omega

theorem count_eq_one_iff : c.count = 1 ↔ c.values.length = 1 := by
  have counted := count_cases (c := c)
  have large := several_countable
  omega

theorem count_range_eq_one : (range first last).count = 1 ↔ span first last = 1 := by
  rw [count_eq_one_iff, values, List.length_map, List.length_range]

theorem single_eq_none_iff : c.single = none ↔ c.count ≠ 1 := by
  unfold single
  split
  next one =>
    cases c with
    | list values =>
      obtain ⟨v, rfl⟩ := List.length_eq_one_iff.1 one
      simp [one]
    | range first last => simp [one]
  next many => simp [many]

theorem values_of_single (h : c.single = some v) : c.values = [v] := by
  unfold single at h
  split at h
  next one =>
    cases c with
    | list values =>
      obtain ⟨w, rfl⟩ := List.length_eq_one_iff.1 one
      simpa [values] using h
    | range first last =>
      have hv : Value.integer first = v := by simpa using h
      simp [values, count_range_eq_one.1 one, List.range_succ, hv]
  next => cases h

theorem single_eq_some_iff : c.single = some v ↔ c.values = [v] := by
  refine ⟨values_of_single, fun alone => ?_⟩
  have one : c.count = 1 := count_eq_one_iff.2 (by rw [alone, List.length_singleton])
  obtain ⟨w, single⟩ := Option.ne_none_iff_exists'.1 fun none => single_eq_none_iff.1 none one
  rw [single, List.singleton_inj.1 ((values_of_single single).symm.trans alone)]

end Reference

section Range

def Ascends (u v : Value) : Prop := ∃ i j, u = .integer i ∧ v = .integer j ∧ i < j

/-- The integers between two ends, the ends among them, in ascending order. -/
structure WritesOut (first last : Int) (values : List Value) : Prop where
  mem_iff : ∀ v, v ∈ values ↔ ∃ i, first ≤ i ∧ i ≤ last ∧ v = .integer i
  ascending : values.Pairwise Ascends

theorem writesOut_range (first last : Int) : WritesOut first last (range first last).values where
  mem_iff v := by
    simp only [values, span, List.mem_map, List.mem_range]
    constructor
    · rintro ⟨n, below, rfl⟩
      exact ⟨first + n, by omega, by omega, rfl⟩
    · rintro ⟨i, least, greatest, rfl⟩
      refine ⟨(i - first).toNat, by omega, congrArg _ ?_⟩
      omega
  ascending := by
    refine List.pairwise_lt_range.map _ fun n m below => ⟨first + n, first + m, rfl, rfl, ?_⟩
    omega

theorem nodup_values_range (first last : Int) : (range first last).values.Nodup := by
  refine (writesOut_range first last).ascending.imp ?_
  rintro u v ⟨i, j, rfl, rfl, below⟩ same
  obtain rfl := Value.integer.inj same
  exact Int.lt_irrefl i below

theorem values_range_eq_singleton_iff :
    (range first last).values = [v] ↔ first = last ∧ v = .integer first := by
  constructor
  · intro alone
    have one := count_range_eq_one.1 (count_eq_one_iff.2 (congrArg List.length alone))
    obtain ⟨i, least, greatest, rfl⟩ := ((writesOut_range first last).mem_iff v).1 (by simp [alone])
    have same : first = last := by
      rw [span] at one
      omega
    exact ⟨same, congrArg _ (by omega)⟩
  · rintro ⟨rfl, rfl⟩
    simp [values, span]

end Range

section Words

variable {w : Nat} {a b : BitVec w}

/-- The difference of two signed words, unless it leaves them. -/
def sub? (a b : BitVec w) : Option (BitVec w) := if a.ssubOverflow b then none else some (a - b)

/-- The sum of two signed words, unless it leaves them. -/
def add? (a b : BitVec w) : Option (BitVec w) := if a.saddOverflow b then none else some (a + b)

/-- The word nearest to a signed one. -/
def saturate (n : BitVec 128) : UInt64 :=
  if n.slt 0 then 0
  else if n.slt (BitVec.ofNat 128 (Nat.pow 2 64)) then .ofBitVec (n.truncate 64)
  else .ofNat greatestCount

/-- A range is counted in words of twice the width, and a step that overflows gives nothing. -/
def countWords? (first last : Int64) : Option UInt64 :=
  (sub? (last.toBitVec.signExtend 128) (first.toBitVec.signExtend 128)).bind fun distance =>
    (add? distance 1).map saturate

theorem sub?_exact (least : -2 ^ (w - 1) ≤ a.toInt - b.toInt)
    (greatest : a.toInt - b.toInt < 2 ^ (w - 1)) :
    ∃ d, sub? a b = some d ∧ d.toInt = a.toInt - b.toInt := by
  have fits : ¬ a.ssubOverflow b = true := by
    simp only [BitVec.ssubOverflow, Bool.or_eq_true, decide_eq_true_eq]
    omega
  exact ⟨a - b, if_neg fits, BitVec.toInt_sub_of_not_ssubOverflow fits⟩

theorem add?_exact (least : -2 ^ (w - 1) ≤ a.toInt + b.toInt)
    (greatest : a.toInt + b.toInt < 2 ^ (w - 1)) :
    ∃ d, add? a b = some d ∧ d.toInt = a.toInt + b.toInt := by
  have fits : ¬ a.saddOverflow b = true := by
    simp only [BitVec.saddOverflow, Bool.or_eq_true, decide_eq_true_eq]
    omega
  exact ⟨a + b, if_neg fits, BitVec.toInt_add_of_not_saddOverflow fits⟩

theorem saturate_toNat (n : BitVec 128) :
    (saturate n).toNat = min n.toInt.toNat greatestCount := by
  have zero : (0 : BitVec 128).toInt = 0 := by decide
  have above : (BitVec.ofNat 128 (Nat.pow 2 64)).toInt = 2 ^ 64 := by decide
  have greatest : greatestCount = 2 ^ 64 - 1 := rfl
  simp only [saturate, BitVec.slt_iff_toInt_lt, zero, above, greatest]
  split
  next negative =>
    have none : n.toInt.toNat = 0 := by omega
    rw [none]
    rfl
  next positive =>
    split
    next small =>
      have natural := BitVec.toInt_eq_toNat_cond n
      have low : (n.truncate 64).toNat = n.toNat % 2 ^ 64 := BitVec.toNat_setWidth ..
      change (n.truncate 64).toNat = _
      split at natural <;> omega
    next large =>
      have cut : (UInt64.ofNat (2 ^ 64 - 1)).toNat = 2 ^ 64 - 1 := by decide
      rw [cut]
      omega

theorem countWords?_eq (first last : Int64) : ∃ n, countWords? first last = some n ∧
    n.toNat = (range first.toInt last.toInt).count := by
  -- The ends are below `2 ^ 63` in size, so their distance is below `2 ^ 64`.
  have wide (i : Int64) : (i.toBitVec.signExtend 128).toInt = i.toInt := by
    rw [BitVec.toInt_signExtend_of_le (by decide), Int64.toInt_toBitVec]
  have first_ge := first.le_toInt
  have first_lt := first.toInt_lt
  have last_ge := last.le_toInt
  have last_lt := last.toInt_lt
  obtain ⟨distance, subtracted, distance_eq⟩ := sub?_exact (a := last.toBitVec.signExtend 128)
    (b := first.toBitVec.signExtend 128) (by rw [wide, wide]; omega) (by rw [wide, wide]; omega)
  rw [wide, wide] at distance_eq
  have one : (1 : BitVec 128).toInt = 1 := by decide
  obtain ⟨size, added, size_eq⟩ := add?_exact (a := distance) (b := 1)
    (by rw [distance_eq, one]; omega) (by rw [distance_eq, one]; omega)
  refine ⟨saturate size, ?_, ?_⟩
  · rw [countWords?, subtracted, Option.bind_some, added, Option.map_some]
  · rw [saturate_toNat, size_eq, distance_eq, one]
    rfl

end Words

/-- What words of 64 bits can hold: a list that they can count, or a range between two of them. -/
inductive IsHeld : Candidates → Prop
  | list {values} : values.length ≤ greatestCount → IsHeld (.list values)
  | range (first last : Int64) : IsHeld (.range first.toInt last.toInt)

theorem count_eq_min (held : c.IsHeld) : c.count = min c.values.length greatestCount := by
  cases held with
  | list short => exact (Nat.min_eq_left short).symm
  | range first last => rw [count, values, List.length_map, List.length_range]

end Launcher.Candidates
