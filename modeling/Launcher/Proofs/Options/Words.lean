import Launcher.Options.Basic
import Launcher.Proofs.Index
import Mathlib.Data.List.Forall2
import Mathlib.Data.List.Nodup
/-!
What a word is taken for while options are read. A word is an option if it is written like one of
the grammar's; two dashes are none, and nor is a word that is only partly one. -/
namespace Launcher.Options.Grammar

/-- A word that is written as an option: its name, perhaps with a value after an equals sign, or
letters that are all known. -/
inductive IsOption (g : Grammar) : String → Prop
  | long {o} : o ∈ g.options → IsOption g ("--" ++ o.long)
  | assigned {o value} : o ∈ g.options → IsOption g ("--" ++ o.long ++ "=" ++ value)
  | cluster {letters} : letters ≠ [] → (∀ c ∈ letters, ∃ o ∈ g.options, o.short = some c) →
      IsOption g (String.ofList ('-' :: letters))

/-- Two dashes, which end the options, and options are no ordinary words. -/
def IsOrdinary (g : Grammar) (w : String) : Prop := w ≠ "--" ∧ ¬ g.IsOption w

/-- The letters stand for the options, one for each. -/
def Letters (g : Grammar) : List Char → List OptionForm → Prop :=
  List.Forall₂ fun c o => o ∈ g.options ∧ o.short = some c

/-- What a form says about the word. -/
inductive Seen (g : Grammar) (w : String) : WordForm → Prop
  | dashes : w = "--" → Seen g w .dashes
  | name {o} : o ∈ g.options → w = "--" ++ o.long → Seen g w (.long o none)
  | assigned {o value} : o ∈ g.options → w = "--" ++ o.long ++ "=" ++ value →
      Seen g w (.long o (some value))
  | cluster {letters os} : letters ≠ [] → g.Letters letters os →
      w = String.ofList ('-' :: letters) → Seen g w (.cluster os)
  | unknown {os} : Seen g w (.unknown os)
  | plain : Seen g w .plain

/-- Options that can be told apart. -/
structure IsRegular (g : Grammar) : Prop where
  names_differ : ∀ o ∈ g.options, ∀ o' ∈ g.options, o.long = o'.long → o = o'
  letters_differ : ∀ o ∈ g.options, ∀ o' ∈ g.options, o.short.isSome → o.short = o'.short → o = o'
  named : ∀ o ∈ g.options, o.long ≠ "" ∧ '=' ∉ o.long.toList
  lettered : ∀ o ∈ g.options, o.short ≠ some '-'
  /-- A letter stands alone. -/
  letter_alone : ∀ o ∈ g.options, o.short.isSome → o.kind ≠ .valued

section Cut

variable {s name value : List Char}

theorem cutEquals_plain (plain : '=' ∉ name) : cutEquals name = (name, none) := by
  induction name with
  | nil => rfl
  | cons c name ih =>
    obtain ⟨differs, rest⟩ := not_or.1 (mt List.mem_cons.2 plain)
    rw [cutEquals, if_neg (Ne.symm differs), ih rest]

theorem cutEquals_assigned (plain : '=' ∉ name) (value : List Char) :
    cutEquals (name ++ '=' :: value) = (name, some value) := by
  induction name with
  | nil => simp [cutEquals]
  | cons c name ih =>
    obtain ⟨differs, rest⟩ := not_or.1 (mt List.mem_cons.2 plain)
    rw [List.cons_append, cutEquals, if_neg (Ne.symm differs), ih rest]

theorem of_cutEquals {after : Option (List Char)} (cut : cutEquals s = (name, after)) :
    (after = none ∧ s = name) ∨ ∃ value, after = some value ∧ s = name ++ '=' :: value := by
  induction s generalizing name with
  | nil =>
    obtain ⟨rfl, rfl⟩ := Prod.mk.inj cut
    exact .inl ⟨rfl, rfl⟩
  | cons c s ih =>
    rw [cutEquals] at cut
    split at cut
    next equals =>
      obtain ⟨rfl, rfl⟩ := Prod.mk.inj cut
      exact .inr ⟨s, rfl, by rw [equals, List.nil_append]⟩
    next =>
      obtain ⟨rfl, rfl⟩ := Prod.mk.inj cut
      rcases ih rfl with ⟨none, same⟩ | ⟨value, some, same⟩
      · exact .inl ⟨none, congrArg _ same⟩
      · exact .inr ⟨value, some, congrArg _ same⟩

end Cut

section Forms

variable {g : Grammar} {o : OptionForm} {os : List OptionForm} {c : Char} {letters : List Char}
variable {w : String}

theorem long?_eq_some_iff (regular : g.IsRegular) {name : String} :
    g.long? name = some o ↔ o ∈ g.options ∧ o.long = name := by
  have unique : ∀ x ∈ g.options, ∀ y ∈ g.options, x.long == name → y.long == name → x = y := by
    simp only [beq_iff_eq]
    rintro x hx y hy rfl same
    exact regular.names_differ x hx y hy same.symm
  rw [long?, find?_eq_some_iff_of_unique unique, beq_iff_eq]

theorem short?_eq_some_iff (regular : g.IsRegular) :
    g.short? c = some o ↔ o ∈ g.options ∧ o.short = some c := by
  have unique : ∀ x ∈ g.options, ∀ y ∈ g.options,
      x.short == some c → y.short == some c → x = y := by
    simp only [beq_iff_eq]
    intro x hx y hy first second
    exact regular.letters_differ x hx y hy (by simp [first]) (first.trans second.symm)
  rw [short?, find?_eq_some_iff_of_unique unique, beq_iff_eq]

theorem clusterForms_eq_iff (regular : g.IsRegular) :
    g.clusterForms letters = (os, true) ↔ g.Letters letters os := by
  induction letters generalizing os with
  | nil => cases os <;> simp [clusterForms, Letters]
  | cons c letters ih =>
    rw [clusterForms, Letters]
    cases known : g.short? c with
    | none =>
      cases os with
      | nil => simp
      | cons o os =>
        have other : ¬ (o ∈ g.options ∧ o.short = some c) := by
          rw [← short?_eq_some_iff regular, known]
          nofun
        simp [other]
    | some first =>
      obtain ⟨mem, letter⟩ := (short?_eq_some_iff regular).1 known
      cases os with
      | nil => simp
      | cons o os =>
        have here : first = o ↔ o ∈ g.options ∧ o.short = some c := by
          rw [← short?_eq_some_iff regular, known, Option.some_inj]
        have rest : g.Letters letters os ↔
            (g.clusterForms letters).1 = os ∧ (g.clusterForms letters).2 = true :=
          ih.symm.trans Prod.ext_iff
        rw [Letters] at rest
        simp [here, rest, and_assoc]

theorem ofList_dashes (s : List Char) :
    String.ofList ('-' :: '-' :: s) = "--" ++ String.ofList s := by
  rw [← String.toList_inj]
  simp

theorem ofList_assigned (name value : List Char) :
    String.ofList (name ++ '=' :: value) = String.ofList name ++ "=" ++ String.ofList value := by
  rw [← String.toList_inj]
  simp

theorem classify_seen (regular : g.IsRegular) (w : String) : g.Seen w (g.classify w) := by
  have written : w = String.ofList w.toList := String.ofList_toList.symm
  unfold classify
  split
  next text =>
    rw [text] at written
    exact .dashes written
  next s _ text =>
    rw [text, ofList_dashes] at written
    obtain ⟨⟨name, after⟩, cut⟩ : ∃ cut, cutEquals s = cut := ⟨_, rfl⟩
    rw [cut]
    cases known : g.long? (String.ofList name) with
    | none => simpa [known] using .unknown
    | some o =>
      obtain ⟨mem, named⟩ := (long?_eq_some_iff regular).1 known
      rcases of_cutEquals cut with ⟨rfl, rfl⟩ | ⟨value, rfl, rfl⟩
      · rw [← named] at written
        simpa [known] using .name mem written
      · rw [ofList_assigned, ← named, ← String.append_assoc, ← String.append_assoc] at written
        simpa [known] using .assigned mem written
  next => exact .plain
  next s _ _ some_letter text =>
    rw [text] at written
    obtain ⟨⟨os, all⟩, found⟩ : ∃ found, g.clusterForms s = found := ⟨_, rfl⟩
    rw [found]
    cases all with
    | false => exact .unknown
    | true => exact .cluster some_letter ((clusterForms_eq_iff regular).1 found) written
  next => exact .plain

/-- A name is cut off before the first equals sign. -/
theorem classify_of_cut (regular : g.IsRegular) (mem : o ∈ g.options) {after : Option (List Char)}
    {s : List Char} (cut : cutEquals s = (o.long.toList, after)) :
    g.classify ("--" ++ String.ofList s) = .long o (after.map String.ofList) := by
  have known : g.long? (String.ofList o.long.toList) = some o :=
    (long?_eq_some_iff regular).2 ⟨mem, String.ofList_toList.symm⟩
  cases s with
  | nil =>
    obtain ⟨empty, -⟩ := Prod.mk.inj cut
    exact absurd (String.toList_eq_nil_iff.1 empty.symm) (regular.named o mem).1
  | cons c s =>
    have text : ("--" ++ String.ofList (c :: s)).toList = '-' :: '-' :: c :: s := by simp
    simp only [classify, text, cut, known]

theorem classify_name (regular : g.IsRegular) (mem : o ∈ g.options) :
    g.classify ("--" ++ o.long) = .long o none := by
  have cut := cutEquals_plain (regular.named o mem).2
  simpa using classify_of_cut regular mem cut

theorem classify_assigned (regular : g.IsRegular) (mem : o ∈ g.options) (value : String) :
    g.classify ("--" ++ o.long ++ "=" ++ value) = .long o (some value) := by
  have cut := cutEquals_assigned (regular.named o mem).2 value.toList
  have named := classify_of_cut regular mem cut
  rw [ofList_assigned, ← String.append_assoc, ← String.append_assoc] at named
  simpa using named

theorem classify_cluster (regular : g.IsRegular) (some_letter : letters ≠ [])
    (stand : g.Letters letters os) :
    g.classify (String.ofList ('-' :: letters)) = .cluster os := by
  have found := (clusterForms_eq_iff regular).2 stand
  cases stand with
  | nil => exact absurd rfl some_letter
  | @cons c o letters os first rest =>
    have differs : c ≠ '-' := by
      rintro rfl
      exact regular.lettered o first.1 first.2
    simp [classify, differs, found]

theorem classify_dashes (g : Grammar) : g.classify "--" = .dashes := rfl

theorem exists_letters (known : ∀ c ∈ letters, ∃ o ∈ g.options, o.short = some c) :
    ∃ os, g.Letters letters os := by
  induction letters with
  | nil => exact ⟨[], .nil⟩
  | cons c letters ih =>
    obtain ⟨⟨o, first⟩, rest⟩ := List.forall_mem_cons.1 known
    obtain ⟨os, stand⟩ := ih rest
    exact ⟨o :: os, .cons first stand⟩

theorem Letters.known (stand : g.Letters letters os) :
    ∀ c ∈ letters, ∃ o ∈ g.options, o.short = some c := by
  induction stand with
  | nil => exact List.forall_mem_nil _
  | cons first _ ih => exact List.forall_mem_cons.2 ⟨⟨_, first⟩, ih⟩

theorem Letters.members (stand : g.Letters letters os) :
    ∀ o ∈ os, o ∈ g.options ∧ o.short.isSome := by
  induction stand with
  | nil => exact List.forall_mem_nil _
  | cons first _ ih => exact List.forall_mem_cons.2 ⟨⟨first.1, by simp [first.2]⟩, ih⟩

/-- An ordinary word looks like no option, or is not known for one. -/
theorem isOrdinary_iff (regular : g.IsRegular) : g.IsOrdinary w ↔
    g.classify w = .plain ∨ ∃ os, g.classify w = .unknown os := by
  constructor
  · rintro ⟨no_dashes, no_option⟩
    cases seen : g.classify w with
    | plain => exact .inl rfl
    | unknown os => exact .inr ⟨os, rfl⟩
    | dashes =>
      cases seen ▸ classify_seen regular w with
      | dashes same => exact absurd same no_dashes
    | long o value =>
      cases seen ▸ classify_seen regular w with
      | name mem same => exact absurd (same ▸ .long mem) no_option
      | assigned mem same => exact absurd (same ▸ .assigned mem) no_option
    | cluster os =>
      cases seen ▸ classify_seen regular w with
      | cluster some_letter stand same =>
        exact absurd (same ▸ .cluster some_letter stand.known) no_option
  · intro ordinary
    constructor
    · rintro rfl
      simp [classify_dashes] at ordinary
    · rintro (mem | mem | ⟨some_letter, known⟩)
      · simp [classify_name regular mem] at ordinary
      · simp [classify_assigned regular mem] at ordinary
      · obtain ⟨os, stand⟩ := exists_letters known
        rw [classify_cluster regular some_letter stand] at ordinary
        simp at ordinary

/-- What is no ordinary word has a dash, and another dash or a letter of an option. -/
theorem marked_of_not_ordinary (h : ¬ g.IsOrdinary w) : ∃ c s, w.toList = '-' :: c :: s ∧
    (c = '-' ∨ ∃ o ∈ g.options, o.short = some c) := by
  rw [IsOrdinary, not_and_or, not_not, not_not] at h
  rcases h with rfl | @⟨o, mem⟩ | @⟨o, value, mem⟩ | @⟨letters, some_letter, known⟩
  · exact ⟨'-', [], by simp, .inl rfl⟩
  · exact ⟨'-', o.long.toList, by simp, .inl rfl⟩
  · exact ⟨'-', o.long.toList ++ '=' :: value.toList, by simp, .inl rfl⟩
  · obtain ⟨c, s, rfl⟩ := List.exists_cons_of_ne_nil some_letter
    exact ⟨c, s, by simp, .inr (known c List.mem_cons_self)⟩

end Forms

end Launcher.Options.Grammar
