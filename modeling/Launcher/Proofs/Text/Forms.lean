import Launcher.Text.Blank
import Launcher.Text.Case
import Mathlib.Data.List.Forall2
/-!
Forms of a text that are read alike: with white space around it, and in other letter case. -/
namespace Launcher.Text

variable {raw text s t : List Char} {c d : Char}

/-- The text is left when the white space at both ends of the raw text is taken away. -/
def IsTrimmed (raw text : List Char) : Prop :=
  ∃ before after, raw = before ++ text ++ after ∧ (∀ c ∈ before ++ after, isBlank c = true) ∧
    (∀ c, text.head? = some c → isBlank c = false) ∧
    ∀ c, text.getLast? = some c → isBlank c = false

theorem dropWhile_blank {before rest : List Char} (blank : ∀ c ∈ before, isBlank c = true)
    (visible : ∀ c, rest.head? = some c → isBlank c = false) :
    (before ++ rest).dropWhile isBlank = rest := by
  rw [List.dropWhile_append_of_pos blank]
  cases rest with
  | nil => rfl
  | cons c rest => rw [List.dropWhile_cons_of_neg (by simp [visible c rfl])]

theorem trimChars_of_isTrimmed (h : IsTrimmed raw text) : trimChars raw = text := by
  obtain ⟨before, after, rfl, blank, first, last⟩ := h
  obtain ⟨blank_before, blank_after⟩ := List.forall_mem_append.1 blank
  by_cases hollow : text = []
  · subst hollow
    have nothing : (before ++ after ++ []).dropWhile isBlank = [] :=
      dropWhile_blank blank (by simp)
    rw [List.append_nil] at nothing
    simp [trimChars, nothing]
  · have front : (before ++ text ++ after).dropWhile isBlank = text ++ after := by
      rw [List.append_assoc]
      refine dropWhile_blank blank_before fun c head => first c ?_
      rwa [List.head?_append_of_ne_nil _ hollow] at head
    have back : (after.reverse ++ text.reverse).dropWhile isBlank = text.reverse :=
      dropWhile_blank (by simpa using blank_after) (by simpa using last)
    rw [trimChars, front, List.reverse_append, back, List.reverse_reverse]

theorem isTrimmed_trimChars (raw : List Char) : IsTrimmed raw (trimChars raw) := by
  have head_visible (s : List Char) (c : Char) (head : (s.dropWhile isBlank).head? = some c) :
      isBlank c = false := by
    have not := List.head?_dropWhile_not isBlank s
    rwa [head] at not
  let rest := raw.dropWhile isBlank
  have behind : rest = trimChars raw ++ (rest.reverse.takeWhile isBlank).reverse := by
    rw [trimChars, ← List.reverse_append, List.takeWhile_append_dropWhile, List.reverse_reverse]
  refine ⟨raw.takeWhile isBlank, (rest.reverse.takeWhile isBlank).reverse, ?_, ?_, ?_, ?_⟩
  · rw [List.append_assoc, ← behind, List.takeWhile_append_dropWhile]
  · have taken (s : List Char) : ∀ c ∈ s.takeWhile isBlank, isBlank c = true :=
      List.all_eq_true.1 List.all_takeWhile
    exact List.forall_mem_append.2 ⟨taken raw, fun c mem => taken _ c (List.mem_reverse.1 mem)⟩
  · intro c head
    refine head_visible raw c ?_
    change rest.head? = some c
    rw [behind, List.head?_append, head, Option.some_or]
  · intro c last
    refine head_visible rest.reverse c ?_
    rwa [trimChars, List.getLast?_reverse] at last

/-- What is left of a text is one text. -/
theorem isTrimmed_iff : IsTrimmed raw text ↔ trimChars raw = text :=
  ⟨trimChars_of_isTrimmed, fun same => same ▸ isTrimmed_trimChars raw⟩

/-- The same character, or the other form of one of the 26 letters. -/
def SameLetter (c d : Char) : Prop :=
  c = d ∨ ∃ k < 26, (c = Char.ofNat (65 + k) ∧ d = Char.ofNat (97 + k)) ∨
    (c = Char.ofNat (97 + k) ∧ d = Char.ofNat (65 + k))

/-- The texts are equal up to letter case. -/
def SameLetters : List Char → List Char → Prop := List.Forall₂ SameLetter

def IsSmall (c : Char) : Prop := 'a' ≤ c ∧ c ≤ 'z'

def IsCapital (c : Char) : Prop := 'A' ≤ c ∧ c ≤ 'Z'

instance : DecidablePred IsSmall := fun _ => inferInstanceAs (Decidable (_ ∧ _))

instance : DecidablePred IsCapital := fun _ => inferInstanceAs (Decidable (_ ∧ _))

theorem small_letters : ∀ k < 26, IsSmall (Char.ofNat (97 + k)) ∧
    upperChar (Char.ofNat (97 + k)) = Char.ofNat (65 + k) := by
  decide +kernel

theorem upperChar_of_not_small (h : ¬ IsSmall c) : upperChar c = c := if_neg h

theorem exists_letter_of_small (h : IsSmall c) : ∃ k < 26, c = Char.ofNat (97 + k) := by
  have least : 97 ≤ c.toNat := h.1
  have greatest : c.toNat ≤ 122 := h.2
  exact ⟨c.toNat - 97, by omega, by rw [Nat.add_sub_cancel' least, Char.ofNat_toNat]⟩

theorem upperChar_eq_iff (capital : ¬ IsSmall d) : upperChar c = d ↔ SameLetter c d := by
  constructor
  · rintro rfl
    by_cases small : IsSmall c
    · obtain ⟨k, letter, rfl⟩ := exists_letter_of_small small
      exact .inr ⟨k, letter, .inr ⟨rfl, (small_letters k letter).2⟩⟩
    · exact .inl (upperChar_of_not_small small).symm
  · rintro (rfl | ⟨k, letter, ⟨rfl, rfl⟩ | ⟨rfl, rfl⟩⟩)
    · exact upperChar_of_not_small capital
    · exact absurd (small_letters k letter).1 capital
    · exact (small_letters k letter).2

theorem upperChars_eq_iff (capital : ∀ d ∈ t, ¬ IsSmall d) :
    upperChars s = t ↔ SameLetters s t := by
  induction t generalizing s with
  | nil => simp [upperChars, SameLetters]
  | cons d t ih =>
    obtain ⟨first, rest⟩ := List.forall_mem_cons.1 capital
    cases s with
    | nil => simp [upperChars, SameLetters]
    | cons c s =>
      rw [SameLetters, List.forall₂_cons, ← SameLetters, ← upperChar_eq_iff first, ← ih rest]
      exact List.cons_eq_cons

end Launcher.Text
