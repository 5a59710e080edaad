import Launcher.Document.Decoding
import Launcher.Proofs.Index
import Launcher.Proofs.Toml.Distinct
import Mathlib.Data.List.Forall2
/-!
Documents do not depend on the order of keys. Two texts whose tables have the same keys with the
same values describe the same document, in whatever order the keys are written and whatever form
the tables are written in. -/
namespace Launcher

namespace Toml

/-- Values that say the same: the items of an array count in order, the keys of a table do not. -/
inductive Value.Alike : Value → Value → Prop
  | refl (v) : Alike v v
  | array {ofTables ofTables'} {items items' : List Value} : items.length = items'.length →
    (∀ (i : Nat) v v', items[i]? = some v → items'[i]? = some v' → Alike v v') →
    Alike (.array ofTables items) (.array ofTables' items')
  | table {origin origin'} {entries entries' : Entries} :
    (∀ k, (entries.lookup k).isSome = (entries'.lookup k).isSome) →
    (∀ k v v', entries.lookup k = some v → entries'.lookup k = some v' → Alike v v') →
    Alike (.table origin entries) (.table origin' entries')

/-- Tables of two documents that say the same. -/
def Entries.Alike (entries entries' : Entries) : Prop :=
  (Value.table .header entries).Alike (.table .header entries')

/-- Keys may be written in another order, -/
theorem alike_of_perm {origin origin' : Origin} {entries entries' : Entries}
    (distinct : (entries.map Prod.fst).Nodup) (same : entries.Perm entries') :
    (Value.table origin entries).Alike (.table origin' entries') := by
  have lookup (k : String) : entries.lookup k = entries'.lookup k := by
    ext v
    rw [lookup_eq_some_iff_mem distinct,
      lookup_eq_some_iff_mem ((same.map Prod.fst).nodup_iff.1 distinct), same.mem_iff]
  refine .table (fun k => by rw [lookup]) fun k v v' found found' => ?_
  obtain rfl : v = v' := Option.some.inj (found.symm.trans ((lookup k).trans found'))
  exact .refl v

/-- and so may those within the value of a key. -/
theorem alike_cons {v v' : Value} (here : v.Alike v') (key : String) (rest : Entries) :
    Entries.Alike ((key, v) :: rest) ((key, v') :: rest) := by
  refine .table (fun k => ?_) fun k u u' found found' => ?_
  · rw [lookup_entry, lookup_entry]
    split <;> rfl
  · rw [lookup_entry] at found found'
    split at found
    next same =>
      rw [if_pos same] at found'
      exact Option.some.inj found ▸ Option.some.inj found' ▸ here
    next other =>
      rw [if_neg other] at found'
      exact Option.some.inj (found.symm.trans found') ▸ .refl u

/-- Values that say the same, where no table has a key twice. -/
structure Same (v v' : Value) : Prop where
  alike : v.Alike v'
  left : v.Distinct
  right : v'.Distinct

structure SameEntries (entries entries' : Entries) : Prop where
  left : (entries.map Prod.fst).Nodup
  right : (entries'.map Prod.fst).Nodup
  keys : ∀ k, (entries.lookup k).isSome = (entries'.lookup k).isSome
  values : ∀ k v v', entries.lookup k = some v → entries'.lookup k = some v' → Same v v'

/-- What two values that say the same look like. -/
inductive SameForm : Value → Value → Prop
  | refl (v) : SameForm v v
  | array {ofTables ofTables' items items'} : List.Forall₂ Same items items' →
    SameForm (.array ofTables items) (.array ofTables' items')
  | table {origin origin' entries entries'} : SameEntries entries entries' →
    SameForm (.table origin entries) (.table origin' entries')

theorem Same.form {v v' : Value} (h : Same v v') : SameForm v v' := by
  obtain ⟨alike, left, right⟩ := h
  cases alike with
  | refl => exact .refl v
  | array lengths values =>
    refine .array (List.forall₂_iff_get.2 ⟨lengths, fun i hi hi' => ⟨?_, ?_, ?_⟩⟩)
    · exact values i _ _ (List.getElem?_eq_getElem hi) (List.getElem?_eq_getElem hi')
    · exact distinct_array_iff.1 left _ (List.getElem_mem hi)
    · exact distinct_array_iff.1 right _ (List.getElem_mem hi')
  | table keys values =>
    have left := distinct_table_iff.1 left
    have right := distinct_table_iff.1 right
    refine .table ⟨left.keys, right.keys, keys, fun k v v' found found' => ⟨?_, ?_, ?_⟩⟩
    · exact values k v v' found found'
    · exact left.values _ ((lookup_eq_some_iff_mem left.keys).1 found)
    · exact right.values _ ((lookup_eq_some_iff_mem right.keys).1 found')

theorem Entries.Alike.same {entries entries' : Entries} (h : entries.Alike entries')
    (left : entries.Distinct) (right : entries'.Distinct) : SameEntries entries entries' := by
  have form := Same.form ⟨h, distinct_table_iff.2 left, distinct_table_iff.2 right⟩
  cases form with
  | refl =>
    refine ⟨left.keys, right.keys, fun _ => rfl, fun k v v' found found' => ?_⟩
    obtain rfl : v = v' := Option.some.inj (found.symm.trans found')
    have own := left.values _ ((lookup_eq_some_iff_mem left.keys).1 found)
    exact ⟨.refl v, own, own⟩
  | table same => exact same

section Lookups

variable {entries entries' : Entries}

/-- What a key holds comes to the same, if it does where both tables hold something. -/
theorem map_lookup_eq {k : String} {f : Value → α}
    (both : (entries.lookup k).isSome = (entries'.lookup k).isSome)
    (agree : ∀ v v', entries.lookup k = some v → entries'.lookup k = some v' → f v = f v') :
    (entries.lookup k).map f = (entries'.lookup k).map f := by
  cases found : entries.lookup k with
  | none =>
    have missing : entries'.lookup k = none := by simpa [found] using both.symm
    simp [missing]
  | some v =>
    obtain ⟨v', found'⟩ : ∃ v', entries'.lookup k = some v' := by
      rw [← Option.isSome_iff_exists, ← both, found]
      rfl
    rw [found', Option.map_some, Option.map_some, agree v v' found found']

/-- A condition on every entry is one on what each key holds. -/
theorem all_entries_iff (distinct : (entries.map Prod.fst).Nodup) {p : String → Value → Bool} :
    (entries.all fun e => p e.1 e.2) = true ↔
      ∀ k, ((entries.lookup k).map (p k)).getD true = true := by
  simp only [List.all_eq_true, Prod.forall, ← lookup_eq_some_iff_mem distinct]
  refine forall_congr' fun k => ?_
  cases entries.lookup k <;> simp

theorem all_entries_eq (left : (entries.map Prod.fst).Nodup) (right : (entries'.map Prod.fst).Nodup)
    {p : String → Value → Bool}
    (agree : ∀ k, (entries.lookup k).map (p k) = (entries'.lookup k).map (p k)) :
    (entries.all fun e => p e.1 e.2) = entries'.all fun e => p e.1 e.2 := by
  rw [Bool.eq_iff_iff, all_entries_iff left, all_entries_iff right]
  simp only [agree]

end Lookups

theorem itemsReadable_eq (wide : Bool) (items : List Value) :
    Value.isReadable.itemsReadable wide items = items.all (·.isReadable wide) := by
  induction items with
  | nil => simp [Value.isReadable.itemsReadable]
  | cons v rest ih => rw [Value.isReadable.itemsReadable, ih, List.all_cons]

theorem entriesReadable_eq (wide : Bool) (entries : Entries) :
    Value.isReadable.entriesReadable wide entries = entries.all fun e => e.2.isReadable wide := by
  induction entries with
  | nil => simp [Value.isReadable.entriesReadable]
  | cons e rest ih => rw [Value.isReadable.entriesReadable, ih, List.all_cons]

theorem Value.Alike.isReadable_eq {v v' : Value} (wide : Bool) (h : v.Alike v')
    (left : v.Distinct) (right : v'.Distinct) : v.isReadable wide = v'.isReadable wide := by
  induction h with
  | refl => rfl
  | @array _ _ items items' lengths _ ih =>
    have left := distinct_array_iff.1 left
    have right := distinct_array_iff.1 right
    have each : List.Forall₂ (fun v v' => v.isReadable wide = v'.isReadable wide) items items' :=
      List.forall₂_iff_get.2 ⟨lengths, fun i hi hi' =>
        ih i _ _ (List.getElem?_eq_getElem hi) (List.getElem?_eq_getElem hi')
          (left _ (List.getElem_mem hi)) (right _ (List.getElem_mem hi'))⟩
    rw [Value.isReadable, Value.isReadable, itemsReadable_eq, itemsReadable_eq]
    clear * - each
    induction each with
    | nil => rfl
    | cons here _ ih => rw [List.all_cons, List.all_cons, here, ih]
  | table keys _ ih =>
    have left := distinct_table_iff.1 left
    have right := distinct_table_iff.1 right
    rw [Value.isReadable, Value.isReadable, entriesReadable_eq, entriesReadable_eq]
    refine all_entries_eq (p := fun _ v => v.isReadable wide) left.keys right.keys fun k => ?_
    refine map_lookup_eq (keys k) fun v v' found found' => ?_
    exact ih k v v' found found' (left.values _ ((lookup_eq_some_iff_mem left.keys).1 found))
      (right.values _ ((lookup_eq_some_iff_mem right.keys).1 found'))

end Toml

namespace Document

open Toml (Entries Same SameEntries)

/-- The function makes the same of values that say the same. -/
def Respects (f : Toml.Value → α) : Prop := ∀ v v', Same v v' → f v = f v'

theorem string?_respects : Respects Toml.Value.string? := by
  intro v v' same
  cases same.form <;> rfl

theorem boolean?_respects : Respects Toml.Value.boolean? := by
  intro v v' same
  cases same.form <;> rfl

theorem defaultValue_respects : Respects defaultValue := by
  intro v v' same
  cases same.form <;> rfl

theorem isReadable_respects (wide : Bool) : Respects (Toml.Value.isReadable wide) :=
  fun _ _ same => same.alike.isReadable_eq wide same.left same.right

section Decoding

variable {decode : Toml.Value → Option α} {items items' : List Toml.Value} {entries entries' : Entries}

theorem optional_respects (respects : Respects decode) : Respects (optional decode) :=
  fun v v' same => by rw [optional, optional, respects v v' same]

theorem mapM_eq (respects : Respects decode) (same : List.Forall₂ Same items items') :
    items.mapM decode = items'.mapM decode := by
  induction same with
  | nil => rfl
  | cons here _ ih => rw [List.mapM_cons, List.mapM_cons, respects _ _ here, ih]

theorem listOf_respects (respects : Respects decode) : Respects (listOf decode) := by
  intro v v' same
  cases same.form with
  | refl => rfl
  | array items => exact mapM_eq respects items
  | table _ => rfl

theorem lookup_eq {f : Toml.Value → β} (respects : Respects f)
    (same : SameEntries entries entries') (k : String) :
    (entries.lookup k).map f = (entries'.lookup k).map f :=
  Toml.map_lookup_eq (same.keys k) fun v v' found found' =>
    respects v v' (same.values k v v' found found')

theorem member_eq_getD (default : Option α) (key : String) (entries : Entries) :
    member decode default key entries = ((entries.lookup key).map decode).getD default := by
  unfold member
  cases entries.lookup key <;> rfl

theorem member_eq (respects : Respects decode) (same : SameEntries entries entries')
    (default : Option α) (key : String) :
    member decode default key entries = member decode default key entries' := by
  rw [member_eq_getD, member_eq_getD, lookup_eq respects same]

theorem knownOnly_eq (same : SameEntries entries entries') (known : List String) :
    knownOnly known entries = knownOnly known entries' :=
  Toml.all_entries_eq (p := fun k v => known.contains k || v.isReadable true) same.left same.right
    fun k => lookup_eq (fun v v' here => by rw [isReadable_respects true v v' here]) same k

theorem lookup_of_decoded {decoded : List (String × α)}
    (h : (entries.mapM fun e => (decode e.2).map fun a => (e.1, a)) = some decoded) :
    decoded.map Prod.fst = entries.map Prod.fst ∧
      ∀ k, (entries.lookup k).map decode = (decoded.lookup k).map some := by
  induction entries generalizing decoded with
  | nil =>
    obtain rfl : decoded = [] := by simpa using h.symm
    exact ⟨rfl, fun _ => rfl⟩
  | cons e rest ih =>
    rw [List.mapM_cons] at h
    obtain ⟨d, here, h⟩ := Option.bind_eq_some_iff.1 h
    obtain ⟨a, own, rfl⟩ := Option.map_eq_some_iff.1 here
    obtain ⟨ds, later, h⟩ := Option.bind_eq_some_iff.1 h
    obtain rfl := Option.some.inj h
    obtain ⟨names, found⟩ := ih later
    refine ⟨by rw [List.map_cons, List.map_cons, names], fun k => ?_⟩
    rw [lookup_entry e.1, lookup_entry e.1]
    by_cases same : k = e.1
    · simp [same, own]
    · simp [same, found]

theorem exists_decoded (h : ∀ e ∈ entries, (decode e.2).isSome) :
    ∃ decoded, (entries.mapM fun e => (decode e.2).map fun a => (e.1, a)) = some decoded := by
  induction entries with
  | nil => exact ⟨[], rfl⟩
  | cons e rest ih =>
    obtain ⟨here, later⟩ := List.forall_mem_cons.1 h
    obtain ⟨a, own⟩ := Option.isSome_iff_exists.1 here
    obtain ⟨ds, decoded⟩ := ih later
    exact ⟨(e.1, a) :: ds, by simp [List.mapM_cons, own, decoded]⟩

/-- A decoded table has the decoded value of every key. -/
theorem indexOf_eq_some_iff {v : Toml.Value} (held : v.entries? = some entries)
    (distinct : (entries.map Prod.fst).Nodup) {index : Index α} : indexOf decode v = some index ↔
      ∀ k, (entries.lookup k).map decode = (index.get? k).map some := by
  simp only [indexOf, held, Option.bind_eq_bind, Option.bind_some]
  have read {decoded : List (String × α)}
      (made : (entries.mapM fun e => (decode e.2).map fun a => (e.1, a)) = some decoded)
      (k : String) : (entries.lookup k).map decode = ((Index.ofList decoded).get? k).map some := by
    obtain ⟨names, found⟩ := lookup_of_decoded made
    rw [Index.get?_ofList (names ▸ distinct), found]
  constructor
  · intro h
    obtain ⟨decoded, made, h⟩ := Option.bind_eq_some_iff.1 h
    obtain rfl := Option.some.inj h
    exact read made
  · intro h
    have each : ∀ e ∈ entries, (decode e.2).isSome := by
      intro e he
      have here := h e.1
      rw [(lookup_eq_some_iff_mem distinct).2 he] at here
      obtain ⟨a, -, own⟩ := Option.map_eq_some_iff.1 here.symm
      exact Option.isSome_iff_exists.2 ⟨a, own.symm⟩
    obtain ⟨decoded, made⟩ := exists_decoded each
    have same : Index.ofList decoded = index :=
      Index.ext_get? fun k => Option.map_injective (fun _ _ => Option.some.inj)
        ((read made k).symm.trans (h k))
    rw [made, ← same]
    rfl

theorem indexOf_respects (respects : Respects decode) : Respects (indexOf decode) := by
  intro v v' same
  cases same.form with
  | refl => rfl
  | array _ => rfl
  | table tables =>
    ext index
    rw [indexOf_eq_some_iff rfl tables.left, indexOf_eq_some_iff rfl tables.right]
    simp only [lookup_eq respects tables]

theorem head?_eq (respects : Respects decode) (same : List.Forall₂ Same items items')
    (default : Option α) :
    (items.head?.map decode).getD default = (items'.head?.map decode).getD default := by
  cases same with
  | nil => rfl
  | cons here _ => simp [respects _ _ here]

theorem admits_eq (r : Reading) (same : List.Forall₂ Same items items') :
    r.admits items = r.admits items' := by
  cases same <;> rfl

end Decoding

theorem parameter_respects (r : Reading) : Respects (parameter r) := by
  intro v v' same
  cases same.form with
  | refl => rfl
  | table tables =>
    simp only [parameter, Toml.Value.entries?, member_eq string?_respects tables,
      member_eq (optional_respects string?_respects) tables,
      member_eq (optional_respects defaultValue_respects) tables, member_eq boolean?_respects tables,
      knownOnly_eq tables]
  | array all =>
    rcases all with _ | ⟨name, _ | ⟨kind, _ | ⟨subtype, _ | ⟨default, rest⟩⟩⟩⟩
    · rfl
    · rfl
    · rfl
    · rfl
    · simp only [parameter, Toml.Value.entries?, Toml.Value.items?, string?_respects _ _ name,
        string?_respects _ _ kind, string?_respects _ _ subtype, defaultValue_respects _ _ default,
        head?_eq boolean?_respects rest, admits_eq r (List.forall₂_drop 1 rest)]

theorem mode_respects (r : Reading) : Respects (mode r) := by
  have parameters := listOf_respects (parameter_respects r)
  have names := listOf_respects string?_respects
  intro v v' same
  cases same.form with
  | refl => rfl
  | table tables =>
    simp only [mode, Toml.Value.entries?, member_eq parameters tables,
      member_eq (optional_respects string?_respects) tables, member_eq names tables, knownOnly_eq tables]
  | array all =>
    rcases all with _ | ⟨list, _ | ⟨matched, rest⟩⟩
    · rfl
    · rfl
    · simp only [mode, Toml.Value.entries?, Toml.Value.items?, parameters _ _ list,
        string?_respects _ _ matched, head?_eq names rest, admits_eq r (List.forall₂_drop 1 rest)]

theorem program_respects (r : Reading) : Respects (program r) := by
  have parameters := listOf_respects (parameter_respects r)
  have modes := indexOf_respects (mode_respects r)
  intro v v' same
  cases same.form with
  | refl => rfl
  | table tables =>
    simp only [program, Toml.Value.entries?, member_eq (optional_respects string?_respects) tables,
      member_eq parameters tables, member_eq modes tables, knownOnly_eq tables]
  | array all =>
    rcases all with _ | ⟨id, _ | ⟨binary, _ | ⟨default, rest⟩⟩⟩
    · rfl
    · rfl
    · rfl
    · simp only [program, Toml.Value.entries?, Toml.Value.items?, string?_respects _ _ id,
        string?_respects _ _ binary, string?_respects _ _ default, head?_eq parameters rest,
        head?_eq modes (List.forall₂_drop 1 rest), admits_eq r (List.forall₂_drop 2 rest)]

theorem entry_respects : Respects entry := by
  intro v v' same
  simp only [entry, string?_respects v v' same, isReadable_respects false v v' same,
    program_respects .buffered v v' same]

theorem catalog_eq {entries entries' : Entries} (same : SameEntries entries entries') :
    catalog entries = catalog entries' := by
  simp only [catalog, member_eq (indexOf_respects entry_respects) same, knownOnly_eq same]

end Document

/-- The order of keys does not count: texts whose tables say the same describe one document. -/
theorem CatalogDocument.read?_alike {text text' : String} {entries entries' : Toml.Entries}
    (read : Toml.read? text = some entries) (read' : Toml.read? text' = some entries')
    (alike : entries.Alike entries') : CatalogDocument.read? text = CatalogDocument.read? text' := by
  have same := alike.same (Toml.read_distinct read) (Toml.read_distinct read')
  rw [CatalogDocument.read?, CatalogDocument.read?, read, read']
  exact Document.catalog_eq same

end Launcher
