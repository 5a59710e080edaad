/-!
Finite maps from names, kept in strictly ascending order of their keys. Texts are compared by code
points, which is also the order of their UTF-8 bytes. -/
namespace Launcher

/-- Adds an entry at its place, or replaces the entry with that key. -/
def insertEntry (key : String) (value : α) : List (String × α) → List (String × α)
  | [] => [(key, value)]
  | (k, v) :: rest =>
    if key < k then (key, value) :: (k, v) :: rest
    else if k < key then (k, v) :: insertEntry key value rest
    else (key, value) :: rest

abbrev Ascending (entries : List (String × α)) : Prop := entries.Pairwise fun a b => a.1 < b.1

theorem mem_insertEntry {key : String} {value : α} {e : String × α} {entries : List (String × α)}
    (h : e ∈ insertEntry key value entries) : e = (key, value) ∨ e ∈ entries := by
  induction entries with
  | nil => simpa [insertEntry] using h
  | cons head rest ih =>
    obtain ⟨k, v⟩ := head
    simp only [insertEntry] at h
    split at h
    · simpa using h
    · split at h
      · rcases List.mem_cons.1 h with h | h
        · exact .inr (h ▸ List.mem_cons_self)
        · exact (ih h).imp_right (List.mem_cons_of_mem _)
      · rcases List.mem_cons.1 h with h | h
        · exact .inl h
        · exact .inr (List.mem_cons_of_mem _ h)

theorem eq_of_not_lt {a b : String} (h : ¬ a < b) (k : ¬ b < a) : a = b :=
  String.le_antisymm (String.not_lt.1 k) (String.not_lt.1 h)

theorem ascending_insertEntry (key : String) (value : α) {entries : List (String × α)}
    (h : Ascending entries) : Ascending (insertEntry key value entries) := by
  induction entries with
  | nil => simp [insertEntry, Ascending]
  | cons head rest ih =>
    obtain ⟨k, v⟩ := head
    obtain ⟨hk, hrest⟩ := List.pairwise_cons.1 h
    simp only [insertEntry]
    split
    next lt =>
      refine List.pairwise_cons.2 ⟨fun e he => ?_, h⟩
      rcases List.mem_cons.1 he with he | he
      · exact he ▸ lt
      · exact String.lt_trans lt (hk e he)
    next ge =>
      split
      next lt =>
        refine List.pairwise_cons.2 ⟨fun e he => ?_, ih hrest⟩
        rcases mem_insertEntry he with he | he
        · exact he ▸ lt
        · exact hk e he
      next le =>
        have same : key = k := eq_of_not_lt ge le
        exact List.pairwise_cons.2 ⟨fun e he => same ▸ hk e he, hrest⟩

structure Index (α : Type) where
  entries : List (String × α)
  ascending : Ascending entries

namespace Index

def empty : Index α := ⟨[], .nil⟩

instance : Inhabited (Index α) := ⟨empty⟩

def insert (index : Index α) (key : String) (value : α) : Index α :=
  ⟨insertEntry key value index.entries, ascending_insertEntry key value index.ascending⟩

def get? (index : Index α) (key : String) : Option α := index.entries.lookup key

def contains (index : Index α) (key : String) : Bool := (index.get? key).isSome

def keys (index : Index α) : List String := index.entries.map (·.1)

def values (index : Index α) : List α := index.entries.map (·.2)

def size (index : Index α) : Nat := index.entries.length

/-- Of several entries with one key the last one counts. -/
def ofList (entries : List (String × α)) : Index α :=
  entries.foldl (fun index e => index.insert e.1 e.2) empty

/-- The same keys with other values. -/
def mapValues (f : String → α → β) (index : Index α) : Index β where
  entries := index.entries.map fun e => (e.1, f e.1 e.2)
  ascending := List.pairwise_map.2 index.ascending

end Index
end Launcher
