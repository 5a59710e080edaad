import Launcher.Number.Integer
import Mathlib.Data.List.Induction
/-!
The numbers that digits stand for. A digit is worth its place in the base, up to letter case, and
each further digit multiplies what stands before it by the base; a decimal integer has at least one
digit and at most one sign. -/
namespace Launcher

namespace Text

theorem baseDigit?_lt {base v : Nat} {c : Char} (h : baseDigit? base c = some v) : v < base := by
  simpa using (Option.filter_eq_some_iff.1 h).2

theorem baseDigit?_ascii : ∀ n < 128, ∀ v < 16, baseDigit? 16 (Char.ofNat n) = some v ↔
    lowerChar (Char.ofNat n) = v.digitChar := by
  decide +kernel

theorem digitChar_ascii : ∀ v < 16, v.digitChar.toNat < 128 := by decide

theorem not_le_of_not_ascii {c e : Char} (wide : ¬ c.toNat < 128) (ascii : e.toNat < 128) :
    ¬ c ≤ e :=
  fun le => wide (Nat.lt_of_le_of_lt le ascii)

theorem lowerChar_of_not_ascii {c : Char} (wide : ¬ c.toNat < 128) : lowerChar c = c := by
  simp [lowerChar, not_le_of_not_ascii (e := 'Z') wide (by decide)]

/-- Digits of both letter cases are read, and nothing else is. -/
theorem baseDigit?_eq_some_iff {c : Char} {v : Nat} :
    baseDigit? 16 c = some v ↔ v < 16 ∧ lowerChar c = v.digitChar := by
  by_cases ascii : c.toNat < 128
  · have read := baseDigit?_ascii c.toNat ascii
    rw [Char.ofNat_toNat] at read
    constructor
    · intro h
      have small := baseDigit?_lt h
      exact ⟨small, (read v small).1 h⟩
    · rintro ⟨small, h⟩
      exact (read v small).2 h
  · have no_digit : baseDigit? 16 c = none := by
      simp [baseDigit?, not_le_of_not_ascii (e := '9') ascii (by decide),
        not_le_of_not_ascii (e := 'f') ascii (by decide),
        not_le_of_not_ascii (e := 'F') ascii (by decide)]
    rw [no_digit, lowerChar_of_not_ascii ascii]
    constructor
    · nofun
    · rintro ⟨small, rfl⟩
      exact absurd (digitChar_ascii v small) ascii

theorem numeralFrom_concat (base acc : Nat) (s : List Char) (c : Char) :
    numeralFrom base acc (s ++ [c]) = (numeralFrom base acc s).bind fun n =>
      (baseDigit? base c).map fun d => base * n + d := by
  induction s generalizing acc with
  | nil =>
    simp only [List.nil_append, numeralFrom, Option.bind_some]
    cases baseDigit? base c <;> rfl
  | cons d s ih =>
    simp only [List.cons_append, numeralFrom]
    cases baseDigit? base d with
    | none => rfl
    | some v => exact ih (base * acc + v)

theorem lowerChar_ascii : ∀ n < 128, ∀ v < 10,
    lowerChar (Char.ofNat n) = v.digitChar ↔ Char.ofNat n = v.digitChar := by
  decide +kernel

/-- No letter becomes a decimal digit. -/
theorem lowerChar_eq_digit_iff {c : Char} {v : Nat} (small : v < 10) :
    lowerChar c = v.digitChar ↔ c = v.digitChar := by
  by_cases ascii : c.toNat < 128
  · have read := lowerChar_ascii c.toNat ascii v small
    rwa [Char.ofNat_toNat] at read
  · rw [lowerChar_of_not_ascii ascii]

theorem baseDigit?_ten {c : Char} {v : Nat} :
    baseDigit? 10 c = some v ↔ v < 10 ∧ c = v.digitChar := by
  have narrower : baseDigit? 10 c = some v ↔ v < 10 ∧ baseDigit? 16 c = some v := by
    simp only [baseDigit?, Option.filter_eq_some_iff, decide_eq_true_eq]
    constructor
    · rintro ⟨value, small⟩
      exact ⟨small, value, by omega⟩
    · rintro ⟨small, value, -⟩
      exact ⟨value, small⟩
  rw [narrower, baseDigit?_eq_some_iff]
  refine and_congr_right fun small => ?_
  rw [lowerChar_eq_digit_iff small]
  exact and_iff_right (by omega)

/-- The decimal digits of a number, perhaps with zeros in front. -/
inductive IsDecimal : List Char → Nat → Prop
  | digit {d} : d < 10 → IsDecimal [d.digitChar] d
  | concat {s n d} : IsDecimal s n → d < 10 → IsDecimal (s ++ [d.digitChar]) (10 * n + d)

variable {s : List Char} {n : Nat}

theorem numeral?_concat (some_digit : s ≠ []) (c : Char) :
    numeral? 10 (s ++ [c]) =
      (numeral? 10 s).bind fun n => (baseDigit? 10 c).map fun d => 10 * n + d := by
  obtain ⟨b, rest, rfl⟩ := List.exists_cons_of_ne_nil some_digit
  exact numeralFrom_concat 10 0 (b :: rest) c

theorem numeral?_singleton (c : Char) : numeral? 10 [c] = baseDigit? 10 c := by
  simp [numeral?, numeralFrom]

theorem IsDecimal.ne_nil (h : IsDecimal s n) : s ≠ [] := by
  cases h <;> simp

theorem numeral?_of_isDecimal (h : IsDecimal s n) : numeral? 10 s = some n := by
  induction h with
  | digit small => rw [numeral?_singleton, baseDigit?_ten.2 ⟨small, rfl⟩]
  | concat before small ih =>
    rw [numeral?_concat before.ne_nil, ih, baseDigit?_ten.2 ⟨small, rfl⟩]
    rfl

theorem isDecimal_of_numeral? (h : numeral? 10 s = some n) : IsDecimal s n := by
  induction s using List.reverseRecOn generalizing n with
  | nil => cases h
  | append_singleton s c ih =>
    by_cases first : s = []
    · subst first
      rw [List.nil_append, numeral?_singleton] at h
      obtain ⟨small, rfl⟩ := baseDigit?_ten.1 h
      exact .digit small
    · rw [numeral?_concat first] at h
      obtain ⟨m, before, last⟩ := Option.bind_eq_some_iff.1 h
      obtain ⟨d, digit, rfl⟩ := Option.map_eq_some_iff.1 last
      obtain ⟨small, rfl⟩ := baseDigit?_ten.1 digit
      exact .concat (ih before) small

theorem numeral?_eq_some_iff : numeral? 10 s = some n ↔ IsDecimal s n :=
  ⟨isDecimal_of_numeral?, numeral?_of_isDecimal⟩

theorem IsDecimal.head (h : IsDecimal s n) : ∃ d < 10, s.head? = some d.digitChar := by
  induction h with
  | digit small => exact ⟨_, small, rfl⟩
  | concat before _ ih =>
    obtain ⟨d, small, first⟩ := ih
    exact ⟨d, small, by rw [List.head?_append, first, Option.some_or]⟩

end Text

namespace Number

/-- A decimal integer: at least one digit, perhaps behind a sign. -/
inductive IsNumeral : List Char → Int → Prop
  | plain {s n} : Text.IsDecimal s n → IsNumeral s n
  | plus {s n} : Text.IsDecimal s n → IsNumeral ('+' :: s) n
  | minus {s n} : Text.IsDecimal s n → IsNumeral ('-' :: s) (-n)

variable {s : List Char} {i : Int}

theorem isNumeral_of_signed? (h : signed? s = some i) : IsNumeral s i := by
  unfold signed? at h
  split at h
  next t =>
    obtain ⟨n, read, rfl⟩ : ∃ n : Nat, Text.numeral? 10 t = some n ∧ (n : Int) = i := by
      simpa [Option.bind_eq_some_iff] using h
    exact .plus (Text.numeral?_eq_some_iff.1 read)
  next t =>
    obtain ⟨n, read, rfl⟩ : ∃ n : Nat, Text.numeral? 10 t = some n ∧ -(n : Int) = i := by
      simpa [Option.bind_eq_some_iff] using h
    exact .minus (Text.numeral?_eq_some_iff.1 read)
  next =>
    obtain ⟨n, read, rfl⟩ : ∃ n : Nat, Text.numeral? 10 s = some n ∧ (n : Int) = i := by
      simpa [Option.bind_eq_some_iff] using h
    exact .plain (Text.numeral?_eq_some_iff.1 read)

theorem signed?_of_isNumeral (h : IsNumeral s i) : signed? s = some i := by
  cases h with
  | @plain _ n digits =>
    obtain ⟨d, small, first⟩ := digits.head
    have no_sign : ∀ d < 10, d.digitChar ≠ '+' ∧ d.digitChar ≠ '-' := by decide
    unfold signed?
    split
    · exact absurd (Option.some.inj first).symm (no_sign d small).1
    · exact absurd (Option.some.inj first).symm (no_sign d small).2
    · simp [Text.numeral?_eq_some_iff.2 digits]
  | plus digits => simp [signed?, Text.numeral?_eq_some_iff.2 digits]
  | minus digits => simp [signed?, Text.numeral?_eq_some_iff.2 digits]

/-- A decimal integer is read if it fits, and nothing else is. -/
theorem integer?_eq_some_iff {bits : Nat} :
    integer? bits s = some i ↔ IsNumeral s i ∧ fits bits i = true := by
  rw [integer?, Option.filter_eq_some_iff]
  exact and_congr_left' ⟨isNumeral_of_signed?, signed?_of_isNumeral⟩

end Number
end Launcher
