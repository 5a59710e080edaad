import Launcher.Proofs.Text.Numeral
import Launcher.ProgramId
/-!
The texts that an identifier is read from. A number has one digit at every place, up to letter case,
so a text stands for at most one identifier, whichever of the four forms it has. -/
namespace Launcher

namespace Text

/-- The digits of a number in base sixteen, with leading zeros up to a length. -/
def padded (length n : Nat) : List Char :=
  List.replicate (length - (Nat.toDigits 16 n).length) '0' ++ Nat.toDigits 16 n

theorem padded_one {n : Nat} (h : n < 16) : padded 1 n = [n.digitChar] := by
  rw [padded, Nat.toDigits_of_lt_base h]
  rfl

theorem padded_succ {length n : Nat} (h : 0 < length) :
    padded (length + 1) n = padded length (n / 16) ++ [(n % 16).digitChar] := by
  unfold padded
  by_cases small : n < 16
  · have whole : n / 16 = 0 := by omega
    have rest : n % 16 = n := Nat.mod_eq_of_lt small
    obtain ⟨k, rfl⟩ : ∃ k, length = k + 1 := ⟨length - 1, by omega⟩
    rw [whole, rest, Nat.toDigits_of_lt_base small, Nat.toDigits_zero]
    simp [List.replicate_succ']
  · rw [Nat.toDigits_of_base_le (by omega) (Nat.le_of_not_lt small), List.length_append,
      List.append_assoc]
    congr 2
    simp

/-- Of all numbers of that many digits, only the one is read whose digits these are. -/
theorem numeralFrom_eq_some_iff {s : List Char} (some_digit : s ≠ []) {n : Nat} :
    numeralFrom 16 0 s = some n ↔ n < Nat.pow 16 s.length ∧ lowerChars s = padded s.length n := by
  induction s using List.reverseRecOn generalizing n with
  | nil => exact absurd rfl some_digit
  | append_singleton s c ih =>
    rw [numeralFrom_concat]
    by_cases first : s = []
    · subst first
      constructor
      · intro h
        obtain ⟨d, hd, rfl⟩ : ∃ d, baseDigit? 16 c = some d ∧ d = n := by
          simpa [numeralFrom] using h
        obtain ⟨small, lower⟩ := baseDigit?_eq_some_iff.1 hd
        exact ⟨by simpa using small, by simp [lowerChars, lower, padded_one small]⟩
      · rintro ⟨small, lower⟩
        replace small : n < 16 := by simpa using small
        have digit : lowerChar c = n.digitChar := by
          simpa [lowerChars, padded_one small] using lower
        simp [numeralFrom, baseDigit?_eq_some_iff.2 ⟨small, digit⟩]
    · have long : 0 < s.length := List.length_pos_iff.2 first
      rw [List.length_append, List.length_singleton, padded_succ long]
      simp only [Option.bind_eq_some_iff, Option.map_eq_some_iff, ih first,
        baseDigit?_eq_some_iff]
      constructor
      · rintro ⟨m, ⟨small, lower⟩, d, ⟨digit, lower'⟩, rfl⟩
        have whole : (16 * m + d) / 16 = m := by omega
        have rest : (16 * m + d) % 16 = d := by omega
        rw [whole, rest]
        refine ⟨?_, by simpa [lowerChars] using ⟨lower, lower'⟩⟩
        rw [Nat.pow_eq, Nat.pow_succ]
        rw [Nat.pow_eq] at small
        omega
      · rintro ⟨small, lower⟩
        rw [lowerChars, List.map_append] at lower
        obtain ⟨before, last⟩ := List.append_inj' lower rfl
        refine ⟨n / 16, ⟨?_, before⟩, n % 16, ⟨Nat.mod_lt n (by decide), ?_⟩, Nat.div_add_mod n 16⟩
        · rw [Nat.pow_eq, Nat.pow_succ] at small
          rw [Nat.pow_eq]
          omega
        · simpa using last

end Text

namespace ProgramId

/-- Thirty-two digits with hyphens between them, in the groups 8-4-4-4-12. -/
def hyphenate (ds : List Char) : List Char :=
  let part (i n : Nat) := (ds.drop i).take n
  part 0 8 ++ '-' :: part 8 4 ++ '-' :: part 12 4 ++ '-' :: part 16 4 ++ '-' :: part 20 12

/-- The texts of an identifier: its digits in either letter case, in one of four forms. -/
inductive IsWritten (id : ProgramId) : List Char → Prop
  | plain {ds} : Text.lowerChars ds = id.digits → IsWritten id ds
  | hyphenated {ds} : Text.lowerChars ds = id.digits → IsWritten id (hyphenate ds)
  | braced {ds} : Text.lowerChars ds = id.digits →
      IsWritten id ('\x7b' :: (hyphenate ds ++ ['\x7d']))
  | urn {ds} : Text.lowerChars ds = id.digits →
      IsWritten id ("urn:uuid:".toList ++ hyphenate ds)

variable {id : ProgramId} {s ds : List Char}

theorem length_digits (id : ProgramId) : id.digits.length = 32 := by
  have short : (Nat.toDigits 16 id.bits.toNat).length ≤ 32 :=
    (Nat.length_toDigits_le_iff (by decide) (by decide)).2 id.bits.isLt
  simp only [digits, List.length_append, List.length_replicate]
  omega

theorem length_of_lowerChars (h : Text.lowerChars ds = id.digits) : ds.length = 32 := by
  rw [← length_digits id, ← h, Text.lowerChars, List.length_map]

theorem ofDigits?_eq_some_iff : ofDigits? s = some id ↔ Text.lowerChars s = id.digits := by
  unfold ofDigits?
  by_cases long : s.length = 32
  · have some_digit : s ≠ [] := List.ne_nil_of_length_pos (by omega)
    have read : Text.numeral? 16 s = Text.numeralFrom 16 0 s := by
      cases s with
      | nil => exact absurd rfl some_digit
      | cons c s => rfl
    rw [if_pos long, read, Option.map_eq_some_iff]
    simp only [Text.numeralFrom_eq_some_iff some_digit, long]
    constructor
    · rintro ⟨n, ⟨small, lower⟩, rfl⟩
      have whole : (BitVec.ofNat 128 n).toNat = n := Nat.mod_eq_of_lt small
      rw [lower, digits, whole]
      rfl
    · intro lower
      exact ⟨id.bits.toNat, ⟨id.bits.isLt, lower⟩, by simp⟩
  · rw [if_neg long]
    constructor
    · nofun
    · intro lower
      exact absurd (length_of_lowerChars lower) long

theorem drop_eq_take_append (s : List Char) (i n : Nat) :
    s.drop i = (s.drop i).take n ++ s.drop (i + n) := by
  rw [← List.drop_drop, List.take_append_drop]

section Groups

variable {a b c d e : List Char}

theorem hyphenate_groups (ha : a.length = 8) (hb : b.length = 4) (hc : c.length = 4)
    (hd : d.length = 4) (he : e.length = 12) : hyphenate (a ++ (b ++ (c ++ (d ++ e)))) =
      a ++ '-' :: (b ++ '-' :: (c ++ '-' :: (d ++ '-' :: e))) := by
  simp (disch := omega) [hyphenate, List.drop_append, List.drop_eq_nil_of_le,
    List.take_of_length_le, ha, hb, hc, hd]

theorem withoutHyphens?_groups (ha : a.length = 8) (hb : b.length = 4) (hc : c.length = 4)
    (hd : d.length = 4) (he : e.length = 12) :
    withoutHyphens? (a ++ '-' :: (b ++ '-' :: (c ++ '-' :: (d ++ '-' :: e)))) =
      some (a ++ (b ++ (c ++ (d ++ e)))) := by
  simp (disch := omega) [withoutHyphens?, List.drop_append, List.take_append,
    List.drop_eq_nil_of_le, List.take_of_length_le, ha, hb, hc, hd, he]

end Groups

theorem withoutHyphens?_hyphenate (h : ds.length = 32) :
    withoutHyphens? (hyphenate ds) = some ds := by
  have split : ds = (ds.drop 0).take 8 ++ ((ds.drop 8).take 4 ++ ((ds.drop 12).take 4 ++
      ((ds.drop 16).take 4 ++ ds.drop 20))) := by
    rw [← drop_eq_take_append, ← drop_eq_take_append, ← drop_eq_take_append,
      ← drop_eq_take_append, List.drop_zero]
  rw [split, hyphenate_groups, withoutHyphens?_groups] <;> simp [h]

theorem drop_of_hyphen {i : Nat} (h : (s.drop i).take 1 = ['-']) :
    s.drop i = '-' :: s.drop (i + 1) := by
  rw [drop_eq_take_append s i 1, h]
  rfl

theorem eq_hyphenate_of_withoutHyphens? (h : withoutHyphens? s = some ds) :
    ds.length = 32 ∧ s = hyphenate ds := by
  dsimp only [withoutHyphens?] at h
  split at h
  next shape =>
    obtain ⟨long, first, second, third, fourth⟩ := shape
    have last : (s.drop 24).take 12 = s.drop 24 := List.take_of_length_le (by simp [long])
    have split : s = (s.drop 0).take 8 ++ '-' :: ((s.drop 9).take 4 ++ '-' ::
        ((s.drop 14).take 4 ++ '-' :: ((s.drop 19).take 4 ++ '-' :: (s.drop 24).take 12))) := by
      rw [last, ← drop_of_hyphen fourth, ← drop_eq_take_append, ← drop_of_hyphen third,
        ← drop_eq_take_append, ← drop_of_hyphen second, ← drop_eq_take_append,
        ← drop_of_hyphen first, ← drop_eq_take_append, List.drop_zero]
    obtain rfl := Option.some.inj h
    constructor
    · simp [long]
    · simp only [List.append_assoc]
      rw [hyphenate_groups (by simp [long]) (by simp [long]) (by simp [long]) (by simp [long])
        (by simp [long])]
      exact split
  next => cases h

/-- What is read without hyphens is what the hyphens were put into. -/
theorem withoutHyphens?_eq_some_iff :
    withoutHyphens? s = some ds ↔ ds.length = 32 ∧ s = hyphenate ds := by
  constructor
  · exact eq_hyphenate_of_withoutHyphens?
  · rintro ⟨long, rfl⟩
    exact withoutHyphens?_hyphenate long

theorem hyphenated?_eq_some_iff :
    hyphenated? s = some id ↔ ∃ ds, Text.lowerChars ds = id.digits ∧ s = hyphenate ds := by
  simp only [hyphenated?, Option.bind_eq_some_iff, withoutHyphens?_eq_some_iff,
    ofDigits?_eq_some_iff]
  constructor
  · rintro ⟨ds, ⟨-, same⟩, lower⟩
    exact ⟨ds, lower, same⟩
  · rintro ⟨ds, lower, same⟩
    exact ⟨ds, ⟨length_of_lowerChars lower, same⟩, lower⟩

theorem length_hyphenate (h : Text.lowerChars ds = id.digits) : (hyphenate ds).length = 36 := by
  simp [hyphenate, length_of_lowerChars h]

/-- A text of two characters at least, between its first and its last one. -/
theorem eq_braced_of_ends {b e : Char} (first : s.head? = some b) (last : s.getLast? = some e)
    (long : 2 ≤ s.length) : s = b :: ((s.drop 1).dropLast ++ [e]) := by
  cases s with
  | nil => cases first
  | cons c rest =>
    obtain rfl : c = b := Option.some.inj first
    rw [List.length_cons] at long
    have some_rest : rest ≠ [] := List.ne_nil_of_length_pos (by omega)
    rw [List.getLast?_cons_of_ne_nil some_rest] at last
    obtain ⟨init, rfl⟩ := List.getLast?_eq_some_iff.1 last
    simp

theorem isWritten_of_parse? (h : parse? s = some id) : IsWritten id s := by
  unfold parse? at h
  split at h
  · exact .plain (ofDigits?_eq_some_iff.1 h)
  · obtain ⟨ds, lower, rfl⟩ := hyphenated?_eq_some_iff.1 h
    exact .hyphenated lower
  · split at h
    next braces =>
      obtain ⟨ds, lower, inner⟩ := hyphenated?_eq_some_iff.1 h
      rw [eq_braced_of_ends braces.1 braces.2 (by omega), inner]
      exact .braced lower
    next => cases h
  · split at h
    next urn =>
      obtain ⟨ds, lower, rest⟩ := hyphenated?_eq_some_iff.1 h
      rw [← List.take_append_drop 9 s, urn, rest]
      exact .urn lower
    next => cases h
  · cases h

theorem parse?_of_isWritten (h : IsWritten id s) : parse? s = some id := by
  cases h with
  | plain lower =>
    rw [parse?, length_of_lowerChars lower]
    exact ofDigits?_eq_some_iff.2 lower
  | hyphenated lower =>
    rw [parse?, length_hyphenate lower]
    exact hyphenated?_eq_some_iff.2 ⟨_, lower, rfl⟩
  | @braced ds lower =>
    have long : ('\x7b' :: (hyphenate ds ++ ['\x7d'])).length = 38 := by
      simp [length_hyphenate lower]
    have last : ('\x7b' :: (hyphenate ds ++ ['\x7d'])).getLast? = some '\x7d' := by
      rw [← List.cons_append]
      exact List.getLast?_concat ..
    rw [parse?, long]
    simpa [last] using hyphenated?_eq_some_iff.2 ⟨ds, lower, rfl⟩
  | @urn ds lower =>
    have long : ("urn:uuid:".toList ++ hyphenate ds).length = 45 := by
      simp [length_hyphenate lower]
    rw [parse?, long]
    simpa using hyphenated?_eq_some_iff.2 ⟨ds, lower, rfl⟩

/-- A text is read as the one identifier that it is written for. -/
theorem parse?_eq_some_iff : parse? s = some id ↔ IsWritten id s :=
  ⟨isWritten_of_parse?, parse?_of_isWritten⟩

end ProgramId
end Launcher
