import Launcher.Proofs.Index
import Launcher.Proofs.Text.Forms
import Launcher.Proofs.Text.Numeral
import Launcher.Signal
/-!
The texts that denote a signal: the numerals of its number, and its name in any letter case, with or
without the three letters that all names share. White space around a text does not count. No text
denotes two signals, and one that denotes none is refused. -/
namespace Launcher.Signal

/-- The texts of a signal, apart from white space around them. -/
inductive IsWritten (s : Signal) : List Char → Prop
  | number {text} : Number.IsNumeral text s.number → IsWritten s text
  | name {text} : Text.SameLetters text s.nameChars → IsWritten s text
  | stem {text} : Text.SameLetters text s.stem.toList → IsWritten s text

/-- What is said of a text that denotes no signal: a number of 32 bits is no signal's, and any other
text is taken for a name and reported as it was given. -/
inductive Refuses (raw : String) (text : List Char) : ReadError → Prop
  | number {n} : Number.IsNumeral text n → Number.fits 32 n = true →
      Refuses raw text (.noSuchNumber n)
  | name : (∀ n, Number.IsNumeral text n → Number.fits 32 n = false) →
      Refuses raw text (.unknownName raw)

variable {s : Signal} {text name : List Char} {n : Int}

section Names

theorem mem_all (s : Signal) : s ∈ all := by
  cases s <;> decide

theorem numbers_consecutive : all.map number = List.range' 1 31 := by decide

theorem numbers_distinct : (all.map fun s => (s.number : Int)).Nodup := by
  have distinct : (all.map number).Nodup := numbers_consecutive ▸ List.nodup_range'
  simpa [List.map_map, Function.comp_def] using distinct.map fun _ _ => Int.ofNat.inj

theorem number_fits (s : Signal) : Number.fits 32 s.number = true := by
  cases s <;> decide

/-- A capital letter comes first, no small one follows, and the common letters do not lead. -/
def isStem (name : List Char) : Bool :=
  name.head?.any Text.IsCapital && name.all (fun c => ¬ Text.IsSmall c) &&
    name.take 3 != ['S', 'I', 'G']

theorem names_proper : (all.map nameChars).Nodup ∧
    (all.all fun s => isStem s.stem.toList) = true := by
  -- The texts of the table are evaluated once, for all that is needed of them.
  decide +kernel

theorem names_distinct : (all.map nameChars).Nodup := names_proper.1

theorem isStem_stem (s : Signal) : s.stem.toList.head?.any Text.IsCapital = true ∧
    (∀ c ∈ s.stem.toList, ¬ Text.IsSmall c) ∧ s.stem.toList.take 3 ≠ ['S', 'I', 'G'] := by
  have stem := List.all_eq_true.1 names_proper.2 s (mem_all s)
  simpa [isStem, and_assoc] using stem

theorem letters_capital (s : Signal) : ∀ c ∈ s.nameChars, ¬ Text.IsSmall c := by
  have common : ∀ c ∈ ['S', 'I', 'G'], ¬ Text.IsSmall c := by simp [Text.IsSmall]
  exact List.forall_mem_append.2 ⟨common, (isStem_stem s).2.1⟩

theorem stem_differs (s : Signal) (rest : List Char) :
    s.stem.toList ≠ 'S' :: 'I' :: 'G' :: rest := by
  intro same
  exact (isStem_stem s).2.2 (by rw [same]; rfl)

theorem find?_all_eq_some_iff [BEq α] [LawfulBEq α] {f : Signal → α} {key : α}
    (distinct : (all.map f).Nodup) : all.find? (fun s => f s == key) = some s ↔ f s = key := by
  have unique : ∀ s ∈ all, ∀ s' ∈ all, f s == key → f s' == key → s = s' := by
    intro s mem s' mem' own own'
    exact List.inj_on_of_nodup_map distinct mem mem' ((eq_of_beq own).trans (eq_of_beq own').symm)
  rw [find?_eq_some_iff_of_unique unique, beq_iff_eq]
  exact and_iff_right (mem_all s)

theorem ofNumber?_eq_some_iff : ofNumber? n = some s ↔ (s.number : Int) = n :=
  find?_all_eq_some_iff numbers_distinct

theorem ofName?_eq_some_iff : ofName? name = some s ↔ s.nameChars = name :=
  find?_all_eq_some_iff names_distinct

theorem withCommonLetters_eq_iff :
    s.nameChars = withCommonLetters name ↔ name = s.nameChars ∨ name = s.stem.toList := by
  -- A text that has the common letters is no stem, and one that lacks them is no whole name.
  unfold withCommonLetters
  split
  next rest =>
    rw [or_iff_left (stem_differs s rest).symm, eq_comm]
  next other =>
    have no_name : name ≠ s.nameChars := fun same => other _ same
    rw [or_iff_right no_name, nameChars, List.cons_inj_right, List.cons_inj_right,
      List.cons_inj_right, eq_comm]

end Names

theorem named_iff : ofName? (withCommonLetters (Text.upperChars text)) = some s ↔
    Text.SameLetters text s.nameChars ∨ Text.SameLetters text s.stem.toList := by
  rw [ofName?_eq_some_iff, withCommonLetters_eq_iff, Text.upperChars_eq_iff (letters_capital s),
    Text.upperChars_eq_iff (isStem_stem s).2.1]

theorem numeral_head (h : Number.IsNumeral text n) :
    ∃ c, (Text.upperChars text).head? = some c ∧ ¬ Text.IsCapital c := by
  have digits : ∀ d < 10, ¬ Text.IsCapital (Text.upperChar d.digitChar) := by decide
  cases h with
  | plain decimal =>
    obtain ⟨d, small, first⟩ := decimal.head
    exact ⟨_, by simp [Text.upperChars, first], digits d small⟩
  | plus => exact ⟨'+', rfl, by decide⟩
  | minus => exact ⟨'-', rfl, by decide⟩

theorem not_named_of_isNumeral (h : Number.IsNumeral text n) (s : Signal) :
    ofName? (withCommonLetters (Text.upperChars text)) ≠ some s := by
  -- A numeral does not begin with a letter, and every name does.
  obtain ⟨c, first, no_capital⟩ := numeral_head h
  intro found
  rcases withCommonLetters_eq_iff.1 (ofName?_eq_some_iff.1 found) with same | same
  · rw [same] at first
    exact no_capital (Option.some.inj first ▸ by decide)
  · have stem_head := (isStem_stem s).1
    rw [← same, first] at stem_head
    exact no_capital (by simpa using stem_head)

theorem isWritten_iff_of_numeral (numeral : Number.IsNumeral text n) :
    s.IsWritten text ↔ (s.number : Int) = n := by
  constructor
  · rintro (own | named | named)
    · exact Option.some.inj ((Number.signed?_of_isNumeral own).symm.trans
        (Number.signed?_of_isNumeral numeral))
    · exact absurd (named_iff.2 (.inl named)) (not_named_of_isNumeral numeral s)
    · exact absurd (named_iff.2 (.inr named)) (not_named_of_isNumeral numeral s)
  · rintro rfl
    exact .number numeral

theorem isWritten_iff_of_no_numeral
    (no_numeral : ∀ n, Number.IsNumeral text n → Number.fits 32 n = false) :
    s.IsWritten text ↔ ofName? (withCommonLetters (Text.upperChars text)) = some s := by
  rw [named_iff]
  constructor
  · rintro (own | named | named)
    · have fits := number_fits s
      exact absurd ((no_numeral _ own).symm.trans fits) Bool.false_ne_true
    · exact .inl named
    · exact .inr named
  · rintro (named | named)
    · exact .name named
    · exact .stem named

theorem elim_eq_ok_iff {o : Option α} {e : ε} {a : α} :
    o.elim (.error e) .ok = (.ok a : Except ε α) ↔ o = some a := by
  cases o <;> simp

theorem elim_eq_error_iff {o : Option α} {e e' : ε} :
    o.elim (.error e) .ok = (.error e' : Except ε α) ↔ o = none ∧ e = e' := by
  cases o <;> simp

section Reading

variable {raw : String} (trimmed : Text.IsTrimmed raw.toList text)
include trimmed

theorem parse_of_numeral (numeral : Number.IsNumeral text n) (fits : Number.fits 32 n = true) :
    parse raw = (ofNumber? n).elim (.error (.noSuchNumber n)) .ok := by
  have read := Number.integer?_eq_some_iff.2 ⟨numeral, fits⟩
  simp only [parse, Text.isTrimmed_iff.1 trimmed, read]
  cases ofNumber? n <;> rfl

theorem parse_of_no_numeral
    (no_numeral : ∀ n, Number.IsNumeral text n → Number.fits 32 n = false) :
    parse raw = (ofName? (withCommonLetters (Text.upperChars text))).elim
      (.error (.unknownName raw)) .ok := by
  have read : Number.integer? 32 text = none := by
    refine Option.eq_none_iff_forall_ne_some.2 fun n read => ?_
    obtain ⟨numeral, fits⟩ := Number.integer?_eq_some_iff.1 read
    exact Bool.false_ne_true ((no_numeral n numeral).symm.trans fits)
  simp only [parse, Text.isTrimmed_iff.1 trimmed, read]
  cases ofName? (withCommonLetters (Text.upperChars text)) <;> rfl

theorem parse_cases :
    (∃ n, Number.IsNumeral text n ∧ Number.fits 32 n = true ∧
      parse raw = (ofNumber? n).elim (.error (.noSuchNumber n)) .ok) ∨
    (∀ n, Number.IsNumeral text n → Number.fits 32 n = false) ∧
      parse raw = (ofName? (withCommonLetters (Text.upperChars text))).elim
        (.error (.unknownName raw)) .ok := by
  by_cases numeral : ∃ n, Number.IsNumeral text n ∧ Number.fits 32 n = true
  · obtain ⟨n, numeral, fits⟩ := numeral
    exact .inl ⟨n, numeral, fits, parse_of_numeral trimmed numeral fits⟩
  · have no_numeral (n : Int) (read : Number.IsNumeral text n) : Number.fits 32 n = false :=
      Bool.eq_false_iff.2 fun fits => numeral ⟨n, read, fits⟩
    exact .inr ⟨no_numeral, parse_of_no_numeral trimmed no_numeral⟩

theorem parse_eq_ok_iff : parse raw = .ok s ↔ s.IsWritten text := by
  rcases parse_cases trimmed with ⟨n, numeral, -, parsed⟩ | ⟨no_numeral, parsed⟩
  · rw [parsed, elim_eq_ok_iff, ofNumber?_eq_some_iff, isWritten_iff_of_numeral numeral]
  · rw [parsed, elim_eq_ok_iff, isWritten_iff_of_no_numeral no_numeral]

theorem refuses_of_parse {e : ReadError} (refused : parse raw = .error e) :
    Refuses raw text e := by
  rcases parse_cases trimmed with ⟨n, numeral, fits, parsed⟩ | ⟨no_numeral, parsed⟩
  · obtain ⟨-, rfl⟩ := elim_eq_error_iff.1 (parsed.symm.trans refused)
    exact .number numeral fits
  · obtain ⟨-, rfl⟩ := elim_eq_error_iff.1 (parsed.symm.trans refused)
    exact .name no_numeral

end Reading

/-- Exactly one text is left of a raw text without the white space around it. The raw text is read
as a signal exactly if that text is one of the signal's, and no text is one of two signals. If it is
none of any signal, the raw text is refused, and the error says whether it is a number or taken for
a name. -/
theorem parse_judges_text (raw : String) :
    ∃ text, (∀ other, Text.IsTrimmed raw.toList other ↔ other = text) ∧
      (∀ s, parse raw = .ok s ↔ s.IsWritten text) ∧
      (∀ s s' : Signal, s.IsWritten text → s'.IsWritten text → s = s') ∧
      ((∀ s : Signal, ¬ s.IsWritten text) → ∃ e, parse raw = .error e ∧ Refuses raw text e) := by
  have trimmed := Text.isTrimmed_trimChars raw.toList
  refine ⟨_, fun other => Text.isTrimmed_iff.trans eq_comm, fun s => parse_eq_ok_iff trimmed,
    ?_, ?_⟩
  · intro s s' own own'
    have read := (parse_eq_ok_iff trimmed).2 own
    exact Except.ok.inj (read.symm.trans ((parse_eq_ok_iff trimmed).2 own'))
  · intro none_written
    cases read : parse raw with
    | ok s => exact absurd ((parse_eq_ok_iff trimmed).1 read) (none_written s)
    | error e => exact ⟨e, rfl, refuses_of_parse trimmed read⟩

/-- A name within white space that is not ASCII, and in letters of both cases. -/
theorem parse_judges_sample : ∃ text, Text.IsTrimmed "\u00a0sigTerm\n".toList text ∧
    IsWritten .term text ∧ ¬ IsWritten .kill text := by
  obtain ⟨text, only, law, unique, -⟩ := parse_judges_text "\u00a0sigTerm\n"
  have written := (law .term).1 (by decide +kernel)
  exact ⟨text, (only text).2 rfl, written, fun kill => absurd (unique _ _ written kill) (by decide)⟩

end Launcher.Signal
