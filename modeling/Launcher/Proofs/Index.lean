import Launcher.Index
import Mathlib.Data.List.Nodup
import Mathlib.Data.List.Perm.Basic
/-!
What the operations of an index mean for its look-ups. An entry is found under its key and under no
other, because the keys ascend. -/
namespace Launcher

theorem lookup_entry [BEq κ] [LawfulBEq κ] [DecidableEq κ] (key k : κ) (value : α)
    (rest : List (κ × α)) :
    ((key, value) :: rest).lookup k = if k = key then some value else rest.lookup k := by
  rw [List.lookup_cons]
  by_cases hk : k = key
  · simp [hk]
  · simp [hk, beq_eq_false_iff_ne.2 hk]

theorem lookup_insertEntry (key k : String) (value : α) (entries : List (String × α)) :
    (insertEntry key value entries).lookup k =
      if k = key then some value else entries.lookup k := by
  induction entries with
  | nil => exact lookup_entry key k value []
  | cons head rest ih =>
    obtain ⟨key', v⟩ := head
    simp only [insertEntry]
    split
    · exact lookup_entry key k value _
    next ge =>
      split
      next lt =>
        have hne : key' ≠ key := fun same => ge (same ▸ lt)
        rw [lookup_entry, lookup_entry, ih]
        by_cases hk : k = key'
        · simp [hk, hne]
        · simp [hk]
      next le =>
        obtain rfl : key = key' := eq_of_not_lt ge le
        rw [lookup_entry, lookup_entry]
        by_cases hk : k = key
        · simp [hk]
        · simp [hk]

/-- Among different keys every entry is found under its own. -/
theorem lookup_eq_some_iff_mem {k : String} {value : α} {entries : List (String × α)}
    (distinct : (entries.map Prod.fst).Nodup) :
    entries.lookup k = some value ↔ (k, value) ∈ entries := by
  induction entries with
  | nil => simp
  | cons head rest ih =>
    obtain ⟨key, v⟩ := head
    obtain ⟨new, distinct⟩ := List.nodup_cons.1 distinct
    rw [lookup_entry]
    by_cases here : k = key
    · subst here
      have absent : (k, value) ∉ rest := fun mem => new (List.mem_map.2 ⟨_, mem, rfl⟩)
      simp [absent, eq_comm]
    · simp [here, ih distinct]

/-- Where only one element passes the test, it is the one that is found. -/
theorem find?_eq_some_iff_of_unique {p : α → Bool} {x : α} {xs : List α}
    (unique : ∀ x ∈ xs, ∀ y ∈ xs, p x → p y → x = y) :
    xs.find? p = some x ↔ x ∈ xs ∧ p x := by
  constructor
  · intro found
    exact ⟨List.mem_of_find?_eq_some found, List.find?_some found⟩
  · rintro ⟨mem, holds⟩
    obtain ⟨y, found⟩ := Option.isSome_iff_exists.1 (List.find?_isSome.2 ⟨x, mem, holds⟩)
    rw [found, unique y (List.mem_of_find?_eq_some found) x mem (List.find?_some found) holds]

theorem nodup_of_ascending {entries : List (String × α)} (h : Ascending entries) :
    (entries.map Prod.fst).Nodup := by
  refine (List.pairwise_map.2 h).imp fun below same => ?_
  exact String.lt_irrefl _ (same ▸ below)

/-- Two lists with the same members, both ascending, are the same. -/
theorem eq_of_ascending {xs ys : List String} (same : xs.Perm ys) (hx : xs.Pairwise (· < ·))
    (hy : ys.Pairwise (· < ·)) : xs = ys := by
  refine same.eq_of_pairwise (fun a b _ _ below above => ?_) hx hy
  exact absurd (String.lt_trans below above) (String.lt_irrefl a)

/-- A new key is added; nothing is lost. -/
theorem insertEntry_perm {key : String} {value : α} {entries : List (String × α)}
    (fresh : entries.lookup key = none) :
    (insertEntry key value entries).Perm ((key, value) :: entries) := by
  induction entries with
  | nil => exact .refl _
  | cons head rest ih =>
    obtain ⟨k, v⟩ := head
    rw [lookup_entry] at fresh
    have differs : key ≠ k := by
      intro same
      simp [same] at fresh
    rw [if_neg differs] at fresh
    simp only [insertEntry]
    split
    · exact .refl _
    next ge =>
      split
      next lt => exact ((ih fresh).cons (k, v)).trans (.swap _ _ rest)
      next le => exact absurd (eq_of_not_lt ge le) differs

namespace Index

variable {index : Index α} {key k : String} {value : α}

@[simp] theorem get?_empty (k : String) : (empty : Index α).get? k = none := rfl

@[simp] theorem get?_insert (index : Index α) (key k : String) (value : α) :
    (index.insert key value).get? k = if k = key then some value else index.get? k :=
  lookup_insertEntry key k value index.entries

theorem keys_ascending (index : Index α) : index.keys.Pairwise (· < ·) :=
  List.pairwise_map.2 index.ascending

theorem keys_nodup (index : Index α) : (index.entries.map Prod.fst).Nodup :=
  nodup_of_ascending index.ascending

theorem get?_eq_some_iff : index.get? k = some value ↔ (k, value) ∈ index.entries :=
  lookup_eq_some_iff_mem index.keys_nodup

theorem mem_of_get? (h : index.get? k = some value) : (k, value) ∈ index.entries :=
  get?_eq_some_iff.1 h

theorem get?_of_mem (h : (k, value) ∈ index.entries) : index.get? k = some value :=
  get?_eq_some_iff.2 h

theorem contains_iff :
    index.contains k = true ↔ k ∈ index.entries.map (·.1) := by
  rw [contains, Option.isSome_iff_exists, List.mem_map]
  constructor
  · rintro ⟨value, found⟩
    exact ⟨(k, value), mem_of_get? found, rfl⟩
  · rintro ⟨⟨_, value⟩, mem, rfl⟩
    exact ⟨value, get?_of_mem mem⟩

@[simp] theorem get?_mapValues (f : String → α → β) (index : Index α) (k : String) :
    (index.mapValues f).get? k = (index.get? k).map (f k) := by
  obtain ⟨entries, ascending⟩ := index
  change (entries.map fun e => (e.1, f e.1 e.2)).lookup k = (entries.lookup k).map (f k)
  induction entries with
  | nil => rfl
  | cons head rest ih =>
    rw [List.map_cons, lookup_entry, lookup_entry head.1 k head.2,
      ih (List.pairwise_cons.1 ascending).2]
    by_cases hk : k = head.1
    · simp [hk]
    · simp [hk]

/-- The order of the keys leaves no choice of how entries are kept. -/
theorem ext_entries {a b : Index α} (h : a.entries = b.entries) : a = b := by
  cases a
  cases b
  cases h
  rfl

/-- An index is what its look-ups say. -/
theorem ext_get? {a b : Index α} (h : ∀ k, a.get? k = b.get? k) : a = b := by
  have entries : a.entries.Perm b.entries := by
    refine (List.perm_ext_iff_of_nodup a.keys_nodup.of_map b.keys_nodup.of_map).2 fun e => ?_
    rw [← get?_eq_some_iff, ← get?_eq_some_iff, h]
  refine ext_entries (entries.eq_of_pairwise (fun e e' _ _ below above => ?_) a.ascending
    b.ascending)
  exact absurd (String.lt_trans below above) (String.lt_irrefl _)

theorem mem_values_iff : value ∈ index.values ↔ ∃ k, index.get? k = some value := by
  simp only [values, List.mem_map, Prod.exists, exists_eq_right, get?_eq_some_iff]

theorem insert_perm (value : α) (fresh : index.get? key = none) :
    (index.insert key value).entries.Perm ((key, value) :: index.entries) :=
  insertEntry_perm fresh

/-- An index of entries with different keys has these entries and no others. -/
theorem ofList_perm {entries : List (String × α)} (distinct : (entries.map (·.1)).Nodup) :
    (ofList entries).entries.Perm entries := by
  -- The entries are inserted one by one, so the induction is for any index that has none of them.
  have inserted : ∀ index : Index α, (∀ e ∈ entries, index.get? e.1 = none) →
      (entries.foldl (fun index e => index.insert e.1 e.2) index).entries.Perm
        (entries ++ index.entries) := by
    induction entries with
    | nil =>
      intro index _
      exact .refl _
    | cons first rest ih =>
      intro index fresh
      obtain ⟨new, distinct⟩ := List.nodup_cons.1 distinct
      have later : ∀ e ∈ rest, (index.insert first.1 first.2).get? e.1 = none := by
        intro e he
        have differs : e.1 ≠ first.1 := fun same => new (List.mem_map.2 ⟨e, he, same⟩)
        rw [get?_insert, if_neg differs]
        exact fresh e (List.mem_cons_of_mem _ he)
      have here := insert_perm first.2 (fresh first List.mem_cons_self)
      exact (ih distinct _ later).trans ((here.append_left rest).trans List.perm_middle)
  have all := inserted empty fun _ _ => rfl
  rwa [show (empty : Index α).entries = [] from rfl, List.append_nil] at all

theorem get?_ofList {entries : List (String × α)} (distinct : (entries.map Prod.fst).Nodup)
    (k : String) : (ofList entries).get? k = entries.lookup k := by
  ext value
  rw [get?_eq_some_iff, lookup_eq_some_iff_mem distinct]
  exact (ofList_perm distinct).mem_iff

end Index
end Launcher
