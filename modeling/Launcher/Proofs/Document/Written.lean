import Launcher.Proofs.Document.KeyOrder
/-!
Documents as they are written. A structure is written as a table or as an array of its fields; what
a document says in a field is what the field is written as. -/
namespace Launcher

namespace Toml.Value

/-- What a field is written as: the value of its name in a table, the item at its place in an
array. -/
def field? (name : String) (place : Nat) (v : Value) : Option Value :=
  match v.entries?, v.items? with
  | some entries, _ => entries.lookup name
  | none, some items => items[place]?
  | none, none => none

/-- The items of a list; none if nothing is written. -/
def itemsOf (v : Option Value) : List Value := (v.bind items?).getD []

def entriesOf (v : Option Value) : Entries := (v.bind entries?).getD []

/-- The name that a parameter is written with. -/
def parameterName? (v : Value) : Option String := (v.field? "name" 0).bind string?

/-- What a mode of a program is written as. -/
def mode? (v : Value) (mode : String) : Option Value := (entriesOf (v.field? "modes" 4)).lookup mode

/-- The names that a mode omits. -/
def omitted (mode : Option Value) : List String :=
  ((itemsOf (mode.bind (field? "omit" 2))).mapM string?).getD []

/-- The parameters of a mode as they are written: the common ones of its program that it does not
omit, then its own. -/
def parameters (v : Value) (mode : String) : List Value :=
  ((itemsOf (v.field? "common-parameters" 3)).filter fun q =>
      !q.parameterName?.any (omitted (v.mode? mode)).contains) ++
    itemsOf ((v.mode? mode).bind (field? "parameters" 0))

theorem field?_of_entries {v : Value} {entries : Entries} (h : v.entries? = some entries)
    (name : String) (place : Nat) : v.field? name place = entries.lookup name := by
  simp [field?, h]

theorem field?_of_items {v : Value} {items : List Value} (none : v.entries? = none)
    (h : v.items? = some items) (name : String) (place : Nat) :
    v.field? name place = items[place]? := by
  simp [field?, none, h]

namespace Distinct

variable {v u : Value}

theorem entries (h : v.Distinct) {entries : Entries} (held : v.entries? = some entries) :
    entries.Distinct := by
  cases v with
  | table origin entries' =>
    obtain rfl := Option.some.inj held
    exact distinct_table_iff.1 h
  | datetime s =>
    obtain rfl := Option.some.inj held
    exact ⟨List.nodup_singleton _, fun e he => List.mem_singleton.1 he ▸ .leaf rfl⟩
  | _ => cases held

theorem items (h : v.Distinct) {items : List Value} (held : v.items? = some items) :
    ∀ u ∈ items, u.Distinct := by
  cases v with
  | array ofTables items' =>
    obtain rfl := Option.some.inj held
    exact distinct_array_iff.1 h
  | _ => cases held

theorem field (h : v.Distinct) {name : String} {place : Nat} (held : v.field? name place = some u) :
    u.Distinct := by
  cases hentries : v.entries? with
  | some entries =>
    rw [field?_of_entries hentries] at held
    have own := h.entries hentries
    exact own.values _ ((lookup_eq_some_iff_mem own.keys).1 held)
  | none =>
    cases hitems : v.items? with
    | some items =>
      rw [field?_of_items hentries hitems] at held
      exact h.items hitems u (List.mem_of_getElem? held)
    | none => simp [field?, hentries, hitems] at held

end Distinct

theorem distinct_entriesOf {field : Option Value} (h : ∀ u, field = some u → u.Distinct) :
    (entriesOf field).Distinct := by
  unfold entriesOf
  cases held : field.bind entries? with
  | none => exact Entries.distinct_nil
  | some entries =>
    obtain ⟨u, rfl, own⟩ := Option.bind_eq_some_iff.1 held
    exact (h u rfl).entries own

end Toml.Value

namespace Document

open Toml.Value (itemsOf entriesOf)

variable {α : Type} {decode : Toml.Value → Option α} {field : Option Toml.Value}

/-- A field that may be missing is there as it is written. -/
theorem optional_written {entries : Toml.Entries} {key : String} {x : Option α}
    (h : member (optional decode) (some none) key entries = some x) :
    (entries.lookup key).map decode = x.map some := by
  rw [member_eq_getD] at h
  cases held : entries.lookup key with
  | none =>
    rw [held] at h
    obtain rfl : none = x := Option.some.inj h
    rfl
  | some v =>
    rw [held] at h
    obtain ⟨a, own, rfl⟩ := Option.map_eq_some_iff.1 (h : optional decode v = some x)
    simp [own]

theorem list_written {xs : List α} (h : (field.map (listOf decode)).getD (some []) = some xs) :
    (itemsOf field).mapM decode = some xs := by
  cases field with
  | none =>
    obtain rfl : [] = xs := Option.some.inj h
    rfl
  | some v =>
    obtain ⟨items, held, decoded⟩ := Option.bind_eq_some_iff.1 (h : listOf decode v = some xs)
    simpa [itemsOf, held] using decoded

theorem index_written {index : Index α} (distinct : ∀ u, field = some u → u.Distinct)
    (h : (field.map (indexOf decode)).getD (some .empty) = some index) (k : String) :
    ((entriesOf field).lookup k).map decode = (index.get? k).map some := by
  cases field with
  | none =>
    obtain rfl : Index.empty = index := Option.some.inj h
    rfl
  | some v =>
    have decoded : indexOf decode v = some index := h
    obtain ⟨entries, held, -⟩ := Option.bind_eq_some_iff.1 decoded
    have own := (distinct v rfl).entries held
    have listed : entriesOf (some v) = entries := by simp [entriesOf, held]
    rw [listed]
    exact (indexOf_eq_some_iff held own.keys).1 decoded k

section Structures

variable {r : Reading} {v : Toml.Value}

/-- What a parameter says about its name and its default is what is written there. -/
theorem parameter_written {p : ParameterDocument} (h : parameter r v = some p) :
    v.parameterName? = some p.name ∧
      (v.field? "default" 3).map defaultValue = p.default.map some := by
  unfold parameter at h
  split at h
  next entries held =>
    have written := Toml.Value.field?_of_entries held
    simp only [Option.bind_eq_bind, Option.bind_eq_some_iff] at h
    obtain ⟨name, own, _, -, _, -, default, chosen, _, -, h⟩ := h
    obtain rfl := Option.some.inj (Option.ite_none_right_eq_some.1 h).2
    refine ⟨?_, (written "default" 3).symm ▸ optional_written chosen⟩
    rw [member_eq_getD] at own
    rw [Toml.Value.parameterName?, written]
    cases found : entries.lookup "name" with
    | none => simp [found] at own
    | some u => simpa [found] using own
  next name kind subtype default rest table list =>
    have written := Toml.Value.field?_of_items table list
    simp only [Option.bind_eq_bind, Option.bind_eq_some_iff] at h
    obtain ⟨_, own, _, -, _, -, _, chosen, _, -, h⟩ := h
    obtain rfl := Option.some.inj (Option.ite_none_right_eq_some.1 h).2
    refine ⟨?_, ?_⟩
    · simpa [Toml.Value.parameterName?, written] using own
    · simpa [written] using chosen
  · cases h

theorem mode_written {m : ModeDocument} (h : mode r v = some m) :
    (itemsOf (v.field? "parameters" 0)).mapM (parameter r) = some m.parameters ∧
      (itemsOf (v.field? "omit" 2)).mapM (·.string?) = some m.omitted := by
  unfold mode at h
  split at h
  next entries held =>
    have written := Toml.Value.field?_of_entries held
    simp only [Option.bind_eq_bind, Option.bind_eq_some_iff, member_eq_getD] at h
    obtain ⟨_, parameters, _, -, _, omitted, h⟩ := h
    obtain rfl := Option.some.inj (Option.ite_none_right_eq_some.1 h).2
    rw [written, written]
    exact ⟨list_written parameters, list_written omitted⟩
  next parameters matched rest table list =>
    have written := Toml.Value.field?_of_items table list
    simp only [Option.bind_eq_bind, Option.bind_eq_some_iff] at h
    obtain ⟨_, own, _, -, _, omitted, h⟩ := h
    obtain rfl := Option.some.inj (Option.ite_none_right_eq_some.1 h).2
    rw [written, written]
    refine ⟨list_written (by simpa using own), list_written ?_⟩
    simpa [List.head?_eq_getElem?] using omitted
  · cases h

theorem program_written {d : ProgramDocument} (distinct : v.Distinct) (h : program r v = some d) :
    (itemsOf (v.field? "common-parameters" 3)).mapM (parameter r) = some d.commonParameters ∧
      ∀ k, (v.mode? k).map (mode r) = (d.modes.get? k).map some := by
  have own : ∀ u, v.field? "modes" 4 = some u → u.Distinct := fun u => distinct.field
  unfold program at h
  split at h
  next entries held =>
    have written := Toml.Value.field?_of_entries held
    simp only [Option.bind_eq_bind, Option.bind_eq_some_iff, member_eq_getD] at h
    obtain ⟨_, -, _, -, _, -, _, common, _, modes, h⟩ := h
    obtain rfl := Option.some.inj (Option.ite_none_right_eq_some.1 h).2
    rw [← written _ 3] at common
    rw [← written _ 4] at modes
    exact ⟨list_written common, index_written own modes⟩
  next id binary default rest table list =>
    have written := Toml.Value.field?_of_items table list
    simp only [Option.bind_eq_bind, Option.bind_eq_some_iff] at h
    obtain ⟨_, -, _, -, _, -, _, common, _, modes, h⟩ := h
    obtain rfl := Option.some.inj (Option.ite_none_right_eq_some.1 h).2
    refine ⟨list_written ?_, index_written own ?_⟩
    · simpa [written, List.head?_eq_getElem?] using common
    · simpa [written, List.head?_eq_getElem?] using modes
  · cases h

end Structures

end Document

end Launcher
