import Mathlib
import Launcher.Proofs.Catalog.Meaning
import Launcher.Proofs.Document.Written
import Launcher.Proofs.Resolution.Matching
/-!
Integers as defaults, from the text of a catalog to the command line. A default that fits 64 bits
with a sign is shown as it was written. A greater one is accepted as well, but as a floating-point
number, and no text of such a number is that of an integer. -/
namespace Launcher

namespace Number

variable {layout : Layout} {c : Char} {s : List Char}

/-- A character that an integer's text does not have. -/
def IsOfReal (c : Char) : Prop := c ≠ '-' ∧ c.isDigit = false

theorem plain_of_integer {i : Int} (h : c ∈ (toString i).toList) : ¬ IsOfReal c := by
  rintro ⟨unsigned, no_digit⟩
  have digits {n : Nat} (h : c ∈ n.repr.toList) : c.isDigit = true :=
    Nat.isDigit_of_mem_toDigits (by decide) (by decide) (Nat.toList_repr ▸ h)
  rw [Int.toString_eq_repr, Int.repr_eq_if] at h
  split at h
  · simp [digits h] at no_digit
  · rw [String.toList_append, List.mem_append] at h
    rcases h with sign | h
    · exact unsigned (by simpa using sign)
    · simp [digits h] at no_digit

theorem positional_has_point (digits : List Char) (point : Int) : '.' ∈ positional digits point := by
  unfold positional
  split
  · simp
  · split <;> simp

theorem scientific_has_mark (digits : List Char) (some_digit : digits ≠ []) (e : Int) :
    'e' ∈ scientificChars layout digits e := by
  unfold scientificChars
  split
  · exact absurd rfl some_digit
  · simp
  · simp

theorem magnitude_is_real (layout : Layout) (m : Nat) (q : Int) :
    ∃ c ∈ magnitudeChars layout m q, IsOfReal c := by
  unfold magnitudeChars
  split
  · exact ⟨'.', by simp, by decide, by decide⟩
  · dsimp only
    split
    · exact ⟨'.', positional_has_point _ _, by decide, by decide⟩
    · exact ⟨'e', scientific_has_mark _ Nat.toDigits_ne_nil _, by decide, by decide⟩

end Number

/-- The text of a floating-point number is never that of an integer: it has a point, an exponent or
letters. -/
theorem Value.render_real_ne (x : Number.Binary64) (i : Int) :
    (Value.real x).render ≠ toString i := by
  have real : ∃ c ∈ realLayout.chars x, Number.IsOfReal c := by
    cases x with
    | nan => exact ⟨'N', by decide, by decide, by decide⟩
    | infinite negative =>
      refine ⟨'i', ?_, by decide, by decide⟩
      cases negative <;> decide
    | finite negative m q =>
      obtain ⟨c, mem, own⟩ := Number.magnitude_is_real realLayout m q
      refine ⟨c, ?_, own⟩
      cases negative
      · exact mem
      · exact List.mem_cons_of_mem _ mem
  intro same
  obtain ⟨c, mem, own⟩ := real
  refine Number.plain_of_integer (i := i) ?_ own
  rw [← same, Value.render, Number.Layout.render, String.toList_ofList]
  exact mem

/-- What an integer is read as where a default is expected. -/
theorem Document.defaultValue_integer {i : Int} {w : Value}
    (h : Document.defaultValue (.integer i) = some w) :
    -2 ^ 63 ≤ i ∧ i < 2 ^ 64 ∧ w = if i < 2 ^ 63 then .integer i else .real (.ofNat i.toNat) := by
  have narrow : ((Nat.pow 2 (64 - 1) : Nat) : Int) = 2 ^ 63 := rfl
  have wide : ((Nat.pow 2 64 : Nat) : Int) = 2 ^ 64 := rfl
  simp only [Document.defaultValue, Number.fits, narrow, wide, Bool.and_eq_true,
    decide_eq_true_eq] at h
  split at h
  next fits =>
    obtain rfl := Option.some.inj h
    exact ⟨fits.1, by omega, by rw [if_pos fits.2]⟩
  next large =>
    obtain ⟨bounds, h⟩ := Option.ite_none_right_eq_some.1 h
    obtain rfl := Option.some.inj h
    exact ⟨by omega, bounds.2, by rw [if_neg (by omega)]⟩

namespace Document

/-- What the catalog file has under the key of a program. -/
def writtenEntry (text key : String) : Option Toml.Value :=
  (Toml.read? text).bind fun tables => (Toml.Value.entriesOf (tables.lookup "programs")).lookup key

/-- A program of a catalog text as it is written: in the text itself, or as the whole text of the
file that is named there. -/
inductive IsWritten (s : Surroundings) (text origin key : String) : Reading → Toml.Value → Prop
  | inline {v} : writtenEntry text key = some v → v.string? = none →
    IsWritten s text origin key .buffered v
  | external {file path own tables} : writtenEntry text key = some (.string file) →
    Path.expand s.environment (Path.directoryText origin) file = .ok path →
    s.fileText path = .ok own → Toml.read? own = some tables →
    IsWritten s text origin key .direct (.table .header tables)

section Written

variable {s : Surroundings} {text origin key : String} {r : Reading} {v : Toml.Value}

theorem entry_written {document : CatalogDocument} (hd : CatalogDocument.read? text = some document)
    (held : writtenEntry text key = some v) :
    v.Distinct ∧ ∃ e, document.programs.get? key = some e ∧ entry v = some e := by
  obtain ⟨tables, read, found⟩ := Option.bind_eq_some_iff.1 held
  have distinct : tables.Distinct := Toml.read_distinct read
  have field : ∀ u, tables.lookup "programs" = some u → u.Distinct := fun u found =>
    distinct.values _ ((lookup_eq_some_iff_mem distinct.keys).1 found)
  have own := Toml.Value.distinct_entriesOf field
  refine ⟨own.values _ ((lookup_eq_some_iff_mem own.keys).1 found), ?_⟩
  rw [CatalogDocument.read?, read] at hd
  simp only [Option.bind_some, catalog, Option.bind_eq_bind, Option.bind_eq_some_iff,
    member_eq_getD] at hd
  obtain ⟨programs, decoded, h⟩ := hd
  obtain rfl := Option.some.inj (Option.ite_none_right_eq_some.1 h).2
  have here := index_written field decoded key
  rw [found] at here
  obtain ⟨e, get, same⟩ := Option.map_eq_some_iff.1 here.symm
  exact ⟨e, get, same.symm⟩

/-- The document that an entry stands for is written in the text or in the file that it names. -/
theorem exists_written {e : ProgramEntry} {d : ProgramDocument} {root : String}
    (held : writtenEntry text key = some v) (distinct : v.Distinct) (made : entry v = some e)
    (stands : Loading.document? s (Path.directoryText origin) e = some (d, root)) :
    ∃ r v, IsWritten s text origin key r v ∧ v.Distinct ∧ program r v = some d := by
  cases named : v.string? with
  | none =>
    simp only [entry, named] at made
    obtain ⟨d', decoded, rfl⟩ := Option.map_eq_some_iff.1 (Option.ite_none_right_eq_some.1 made).2
    obtain ⟨rfl, -⟩ := Prod.mk.inj (Option.some.inj stands)
    exact ⟨.buffered, v, .inline held named, distinct, decoded⟩
  | some file =>
    obtain rfl : v = .string file := by
      cases v with
      | string s => exact congrArg _ (Option.some.inj named)
      | _ => cases named
    obtain rfl : ProgramEntry.external file = e := Option.some.inj made
    obtain ⟨path, expanded, stands⟩ := Option.bind_eq_some_iff.1 stands
    obtain ⟨own, read, stands⟩ := Option.bind_eq_some_iff.1 stands
    obtain ⟨d', parsed, same⟩ := Option.bind_eq_some_iff.1 stands
    obtain ⟨rfl, -⟩ := Prod.mk.inj (Option.some.inj same)
    obtain ⟨tables, own_read, decoded⟩ := Option.bind_eq_some_iff.1 parsed
    refine ⟨.direct, .table .header tables, ?_,
      Toml.distinct_table_iff.2 (Toml.read_distinct own_read), decoded⟩
    exact .external held (toOption_eq_some_iff.1 expanded) (toOption_eq_some_iff.1 read) own_read

theorem forall₂_of_mapM {decode : Toml.Value → Option α} {items : List Toml.Value} {xs : List α}
    (h : items.mapM decode = some xs) : List.Forall₂ (fun v x => decode v = some x) items xs := by
  induction items generalizing xs with
  | nil =>
    obtain rfl : xs = [] := by simpa using h.symm
    exact .nil
  | cons v rest ih =>
    rw [List.mapM_cons] at h
    obtain ⟨x, here, h⟩ := Option.bind_eq_some_iff.1 h
    obtain ⟨others, later, h⟩ := Option.bind_eq_some_iff.1 h
    obtain rfl := Option.some.inj h
    exact .cons here (ih later)

theorem exists_partner {R : α → β → Prop} {xs : List α} {ys : List β} (h : List.Forall₂ R xs ys)
    {j : Nat} {x : α} (hx : xs[j]? = some x) : ∃ y, ys[j]? = some y ∧ R x y := by
  induction h generalizing j with
  | nil => simp at hx
  | cons here _ ih =>
    cases j with
    | zero =>
      obtain rfl := Option.some.inj hx
      exact ⟨_, rfl, here⟩
    | succ j => exact ih hx

/-- A mode takes the parameters that are written for it. -/
theorem taken_written {d : ProgramDocument} {m : ModeDocument} {k : String} (distinct : v.Distinct)
    (h : program r v = some d) (hm : d.modes.get? k = some m) :
    List.Forall₂ (fun q p => parameter r q = some p) (v.parameters k) (d.taken m) := by
  obtain ⟨common, modes⟩ := program_written distinct h
  have here := modes k
  rw [hm] at here
  obtain ⟨mv, written, made⟩ := Option.map_eq_some_iff.1 here
  obtain ⟨own, omitted⟩ := mode_written made
  have names : Toml.Value.omitted (v.mode? k) = m.omitted := by
    simp [Toml.Value.omitted, written, omitted]
  rw [Toml.Value.parameters, names, written]
  refine List.rel_append (List.rel_filter ?_ (forall₂_of_mapM common)) (forall₂_of_mapM own)
  intro q p decoded
  simp [(parameter_written decoded).1]

/-- The parameter at the place of an integer default has what the integer is read as. -/
theorem default_written {d : ProgramDocument} {m : ModeDocument} {k : String} {ps : List Parameter}
    (distinct : v.Distinct) (decoded : program r v = some d) (declared : d.modes.get? k = some m)
    (taken : List.Forall₂ ParameterDocument.Declares (d.taken m) ps) {j : Nat} {q : Toml.Value}
    {i : Int} (at_j : (v.parameters k)[j]? = some q)
    (integer : q.field? "default" 3 = some (.integer i)) :
    -2 ^ 63 ≤ i ∧ i < 2 ^ 64 ∧ ∃ p, ps[j]? = some p ∧
      p.default = some (if i < 2 ^ 63 then .integer i else .real (.ofNat i.toNat)) := by
  obtain ⟨document, here, read⟩ := exists_partner (taken_written distinct decoded declared) at_j
  obtain ⟨p, there, declares⟩ := exists_partner taken here
  have chosen := (parameter_written read).2
  rw [integer] at chosen
  obtain ⟨w, own, same⟩ := Option.map_eq_some_iff.1 chosen.symm
  obtain ⟨low, high, rfl⟩ := defaultValue_integer same.symm
  exact ⟨low, high, p, there, declares.default_eq.trans own⟩

end Written

end Document

/-- The text that the parameter at a position has in every launch in which its default decides
it. -/
def Mode.DefaultShows (m : Mode) (program : Program) (j : Nat) (argument : String) : Prop :=
  ∃ p, m.parameters[j]? = some p ∧
    ∀ (σ : Type) (discovery : Discovery σ) (matched : Option Launch) (overrides : List String)
      (world : σ) (launch : Launch), Resolution.NothingMatched m matched p →
      (resolve discovery program m matched overrides world).1.result = .ok launch →
        launch.arguments[j]? = some argument

theorem Mode.defaultShows_render {m : Mode} {program : Program} {j : Nat} {p : Parameter}
    {value : Value} (hp : m.parameters[j]? = some p) (default : p.default = some value) :
    m.DefaultShows program j value.render := by
  refine ⟨p, hp, fun σ discovery matched overrides world launch nothing resolved => ?_⟩
  obtain ⟨values, leftover, complete, rfl⟩ := Resolution.resolve_ok resolved
  have own : Resolution.ownValue m matched p = some value := by
    rw [Resolution.ownValue, Resolution.matchedValue_eq_none_iff.2 nothing]
    exact default
  have taken := Resolution.choose_own complete hp own
  simp [Launch.ofArguments, taken]

namespace Catalog

open Loading Document

variable {s : Surroundings} {order : List Nat} {text origin : String} {c : Catalog}

/-- A default that is written as an integer is shown with all of its digits exactly if it fits 64
bits with a sign. A greater one is shown as a floating-point number. -/
theorem integer_default_shown_iff (accepted : ofText s order text origin = .ok c) :
    ∀ key w, writtenEntry text key = some w → ∃ r v p, IsWritten s text origin key r v ∧
      c.find? key = some p ∧ ∀ m ∈ p.modes, ∀ j q (i : Int),
        (v.parameters m.name)[j]? = some q → q.field? "default" 3 = some (.integer i) →
          -2 ^ 63 ≤ i ∧ i < 2 ^ 64 ∧ ∃ argument, m.DefaultShows p j argument ∧
            (i < 2 ^ 63 → argument = toString i) ∧
            (2 ^ 63 ≤ i → argument = Value.realLayout.render (.ofNat i.toNat) ∧
              argument ≠ toString i) := by
  intro key w held
  cases hd : CatalogDocument.read? text with
  | none => simp [ofText, hd] at accepted
  | some document =>
    obtain ⟨distinct, e, get, made⟩ := entry_written hd held
    obtain ⟨d, own, p, stands, found, describes⟩ := ofText_describes hd accepted get
    obtain ⟨r, v, written, distinct, decoded⟩ := exists_written held distinct made stands
    refine ⟨r, v, p, written, found, fun m hm j q i at_j integer => ?_⟩
    obtain ⟨mode, declared, form⟩ := describes.modes m hm
    obtain ⟨low, high, parameter, there, default⟩ :=
      default_written distinct decoded declared form.parameters at_j integer
    refine ⟨low, high, _, Mode.defaultShows_render there default, fun small => ?_, fun large => ?_⟩
    · rw [if_pos small]
      rfl
    · rw [if_neg (by omega)]
      exact ⟨rfl, Value.render_real_ne _ i⟩

namespace Sample

/-- The least integer that takes 64 bits without a sign is the default. -/
def wideText : String := "[programs.tool]
id = \"7d2b5c4e-2f43-4c55-9a53-0b6f1b1d2e10\"
binary = \"tool\"
[programs.tool.modes.run]
parameters = [ \x7b name = \"n\", type = \"text\", default = 9223372036854775808 \x7d ]
"

/-- The program as it is written there. -/
def wideProgram : Toml.Value := .table .header
  [("id", .string "7d2b5c4e-2f43-4c55-9a53-0b6f1b1d2e10"), ("binary", .string "tool"),
    ("modes", .table .passed [("run", .table .header [("parameters", .array false
      [.table .inline [("name", .string "n"), ("type", .string "text"),
        ("default", .integer 9223372036854775808)]])])])]

def wideCatalog : Catalog := (ofText around [0] wideText "/cat.toml").toOption.getD .empty

set_option maxRecDepth 4000 in
theorem wide_tables :
    Toml.read? wideText = some [("programs", .table .passed [("tool", wideProgram)])] := by
  rw [wideText, Toml.read?_of_toList String.toList_ofList]
  rfl

theorem wide_written : writtenEntry wideText "tool" = some wideProgram := by
  rw [writtenEntry, wide_tables]
  rfl

/-- What the only mode of the program comes to without any arguments. -/
def wideArguments : Option (List String) := do
  let p ← wideCatalog.find? "tool"
  let m ← p.mode? "run"
  let launch ← (resolve (fun _ world => (none, world)) p m none [] ()).1.result.toOption
  return launch.arguments

theorem wide_arguments : wideArguments = some ["9.223372036854776e18"] := by
  rw [wideArguments, wideCatalog, ofText, CatalogDocument.read?, wide_tables]
  decide +kernel

theorem wide_loaded : ofText around [0] wideText "/cat.toml" = .ok wideCatalog := by
  refine eq_ok_of_getD_ne fun nothing => ?_
  have arguments := wide_arguments
  rw [wideArguments, wideCatalog, nothing] at arguments
  cases arguments

theorem counterexample_wide_default : ∃ c p m launch,
    ofText around [0] wideText "/cat.toml" = .ok c ∧ c.find? "tool" = some p ∧
      p.mode? "run" = some m ∧ writtenEntry wideText "tool" = some wideProgram ∧
      ((wideProgram.parameters "run")[0]?.bind fun q => q.field? "default" 3) =
        some (.integer 9223372036854775808) ∧
      (resolve (fun _ world => (none, world)) p m none [] ()).1.result = .ok launch ∧
      launch.arguments = ["9.223372036854776e18"] ∧
      launch.arguments ≠ [toString (9223372036854775808 : Int)] := by
  have h := wide_arguments
  simp only [wideArguments, Option.bind_eq_bind, Option.bind_eq_some_iff] at h
  obtain ⟨p, hp, m, hm, launch, resolved, h⟩ := h
  have arguments : launch.arguments = ["9.223372036854776e18"] := Option.some.inj h
  refine ⟨wideCatalog, p, m, launch, wide_loaded, hp, hm, wide_written, rfl,
    toOption_eq_some_iff.1 resolved, arguments, ?_⟩
  rw [arguments]
  decide +kernel

end Sample

theorem integer_default_shown_sample :
    ofText Sample.around [0] Sample.wideText "/cat.toml" = .ok Sample.wideCatalog ∧
      ∃ r v p, IsWritten Sample.around Sample.wideText "/cat.toml" "tool" r v ∧
        Sample.wideCatalog.find? "tool" = some p ∧ ∀ m ∈ p.modes, ∀ j q (i : Int),
          (v.parameters m.name)[j]? = some q → q.field? "default" 3 = some (.integer i) →
            -2 ^ 63 ≤ i ∧ i < 2 ^ 64 ∧ ∃ argument, m.DefaultShows p j argument ∧
              (i < 2 ^ 63 → argument = toString i) ∧
              (2 ^ 63 ≤ i → argument = Value.realLayout.render (.ofNat i.toNat) ∧
                argument ≠ toString i) :=
  ⟨Sample.wide_loaded, integer_default_shown_iff Sample.wide_loaded "tool" Sample.wideProgram
    Sample.wide_written⟩

end Catalog
end Launcher
