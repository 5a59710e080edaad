import Launcher.Toml.Document
import Launcher.Proofs.Index
import Mathlib.Data.List.Nodup
/-!
No table of a document has a key twice: every step that adds to a table, or passes through one,
keeps its keys distinct. -/
namespace Launcher.Toml

def Value.isLeaf : Value → Bool
  | .array .. | .table .. => false
  | _ => true

/-- No table in the value has a key twice. -/
inductive Value.Distinct : Value → Prop
  | leaf {v} : v.isLeaf → Distinct v
  | array {ofTables items} : (∀ v ∈ items, Distinct v) → Distinct (.array ofTables items)
  | table {origin entries} : (entries.map Prod.fst).Nodup → (∀ e ∈ entries, Distinct e.2) →
    Distinct (.table origin entries)

structure Entries.Distinct (entries : Entries) : Prop where
  keys : (entries.map Prod.fst).Nodup
  values : ∀ e ∈ entries, e.2.Distinct

theorem distinct_table_iff {origin : Origin} {entries : Entries} :
    (Value.table origin entries).Distinct ↔ entries.Distinct := by
  constructor
  · rintro (_ | _ | ⟨keys, values⟩)
    · contradiction
    · exact ⟨keys, values⟩
  · rintro ⟨keys, values⟩
    exact .table keys values

theorem distinct_array_iff {ofTables : Bool} {items : List Value} :
    (Value.array ofTables items).Distinct ↔ ∀ v ∈ items, v.Distinct := by
  constructor
  · rintro (_ | values | _)
    · contradiction
    · exact values
  · exact .array

namespace Entries

theorem distinct_nil : Distinct [] := ⟨.nil, nofun⟩

/-- What the function makes of a distinct value, or of none, is distinct. -/
def KeepsHeld (f : Option Value → Option Value) : Prop :=
  ∀ held v, (∀ u, held = some u → u.Distinct) → f held = some v → v.Distinct

def KeepsValue (f : Value → Option Value) : Prop :=
  ∀ v v', v.Distinct → f v = some v' → v'.Distinct

def Keeps (f : Entries → Option Entries) : Prop :=
  ∀ entries entries', Distinct entries → f entries = some entries' → Distinct entries'

theorem keys_of_update {key : String} {f : Option Value → Option Value} {entries entries' : Entries}
    (h : update key f entries = some entries') :
    ∀ e ∈ entries', e.1 = key ∨ e.1 ∈ entries.map Prod.fst := by
  induction entries generalizing entries' with
  | nil =>
    obtain ⟨v, -, rfl⟩ := Option.map_eq_some_iff.1 h
    simp
  | cons first rest ih =>
    obtain ⟨k, v⟩ := first
    simp only [update] at h
    split at h
    · obtain ⟨v', -, rfl⟩ := Option.map_eq_some_iff.1 h
      exact fun e he => .inr (by simpa using List.mem_map_of_mem (f := Prod.fst) he)
    · obtain ⟨later, done, rfl⟩ := Option.map_eq_some_iff.1 h
      intro e he
      rcases List.mem_cons.1 he with rfl | he
      · exact .inr List.mem_cons_self
      · exact (ih done e he).imp_right (List.mem_cons_of_mem _)

theorem update_keeps {key : String} {f : Option Value → Option Value} (kept : KeepsHeld f) :
    Keeps (update key f) := by
  intro entries entries' distinct h
  induction entries generalizing entries' with
  | nil =>
    obtain ⟨v, made, rfl⟩ := Option.map_eq_some_iff.1 h
    exact ⟨List.nodup_singleton key, by simpa using kept none v nofun made⟩
  | cons first rest ih =>
    obtain ⟨k, v⟩ := first
    obtain ⟨new, keys⟩ := List.nodup_cons.1 distinct.keys
    obtain ⟨own, values⟩ := List.forall_mem_cons.1 distinct.values
    simp only [update] at h
    split at h
    · obtain ⟨v', made, rfl⟩ := Option.map_eq_some_iff.1 h
      have held : v'.Distinct := kept (some v) v' (fun u same => Option.some.inj same ▸ own) made
      exact ⟨List.nodup_cons.2 ⟨new, keys⟩, List.forall_mem_cons.2 ⟨held, values⟩⟩
    next other =>
      obtain ⟨later, done, rfl⟩ := Option.map_eq_some_iff.1 h
      have after := ih later ⟨keys, values⟩ done
      refine ⟨List.nodup_cons.2 ⟨fun twice => ?_, after.keys⟩,
        List.forall_mem_cons.2 ⟨own, after.values⟩⟩
      obtain ⟨e, he, same⟩ := List.mem_map.1 twice
      rcases keys_of_update done e he with here | there
      · exact other (same.symm.trans here)
      · exact new (same ▸ there)

theorem updateLast_keeps {f : Value → Option Value} (kept : KeepsValue f)
    {items items' : List Value} (distinct : ∀ v ∈ items, v.Distinct)
    (h : updateLast f items = some items') : ∀ v ∈ items', v.Distinct := by
  induction items generalizing items' with
  | nil => cases h
  | cons v rest ih =>
    obtain ⟨own, values⟩ := List.forall_mem_cons.1 distinct
    cases rest with
    | nil =>
      obtain ⟨v', made, rfl⟩ := Option.map_eq_some_iff.1 h
      exact List.forall_mem_cons.2 ⟨kept v v' own made, nofun⟩
    | cons next rest =>
      obtain ⟨later, done, rfl⟩ := Option.map_eq_some_iff.1 h
      exact List.forall_mem_cons.2 ⟨own, ih values done⟩

theorem within_keeps {f : Entries → Option Entries} (kept : Keeps f) : KeepsValue (within f) := by
  have table {origin : Origin} {entries : Entries} {v : Value}
      (distinct : (Value.table origin entries).Distinct)
      (h : (f entries).map (.table origin) = some v) : v.Distinct := by
    obtain ⟨entries', made, rfl⟩ := Option.map_eq_some_iff.1 h
    exact distinct_table_iff.2 (kept _ _ (distinct_table_iff.1 distinct) made)
  intro v v' distinct h
  unfold within at h
  split at h
  · exact table distinct h
  · obtain ⟨items', made, rfl⟩ := Option.map_eq_some_iff.1 h
    refine distinct_array_iff.2 (updateLast_keeps ?_ (distinct_array_iff.1 distinct) made)
    intro u u' distinct h
    dsimp only at h
    split at h
    · exact table distinct h
    · cases h
  · cases h

theorem put_keeps {value : Value} (own : value.Distinct) (path : List String) :
    Keeps (put value path) := by
  induction path with
  | nil => exact fun _ _ _ h => by cases h
  | cons key path ih =>
    cases path with
    | nil =>
      refine update_keeps fun held v _ h => ?_
      split at h
      · exact Option.some.inj h ▸ own
      · cases h
    | cons next path =>
      refine update_keeps fun held v distinct h => ?_
      cases held with
      | none =>
        obtain ⟨entries, made, rfl⟩ := Option.map_eq_some_iff.1 h
        exact distinct_table_iff.2 (ih _ _ distinct_nil made)
      | some u =>
        exact within_keeps ih u v (distinct u rfl) (Option.ite_none_right_eq_some.1 h).2

theorem follow_keeps {f : Option Value → Option Value} (kept : KeepsHeld f) (path : List String) :
    Keeps (follow f path) := by
  induction path with
  | nil => exact fun _ _ _ h => by cases h
  | cons key path ih =>
    cases path with
    | nil => exact update_keeps kept
    | cons next path =>
      refine update_keeps fun held v distinct h => ?_
      cases held with
      | none =>
        obtain ⟨entries, made, rfl⟩ := Option.map_eq_some_iff.1 h
        exact distinct_table_iff.2 (ih _ _ distinct_nil made)
      | some u =>
        exact within_keeps ih u v (distinct u rfl) (Option.ite_none_right_eq_some.1 h).2

theorem under_keeps {f : Entries → Option Entries} (kept : Keeps f) (path : List String) :
    Keeps (under f path) := by
  induction path with
  | nil => exact kept
  | cons key path ih =>
    refine update_keeps fun held v distinct h => ?_
    obtain ⟨u, rfl, made⟩ := Option.bind_eq_some_iff.1 h
    exact within_keeps ih u v (distinct u rfl) made

theorem define_keeps : KeepsHeld define := by
  intro held v distinct h
  unfold define at h
  split at h
  · exact Option.some.inj h ▸ distinct_table_iff.2 distinct_nil
  next entries =>
    exact Option.some.inj h ▸ distinct_table_iff.2 (distinct_table_iff.1 (distinct _ rfl))
  · cases h

theorem append_keeps : KeepsHeld append := by
  have element : (Value.table .header []).Distinct := distinct_table_iff.2 distinct_nil
  intro held v distinct h
  unfold append at h
  split at h
  · exact Option.some.inj h ▸ distinct_array_iff.2 (List.forall_mem_cons.2 ⟨element, nofun⟩)
  next items =>
    obtain rfl := Option.some.inj h
    refine distinct_array_iff.2 fun v hv => ?_
    rcases List.mem_append.1 hv with hv | hv
    · exact distinct_array_iff.1 (distinct _ rfl) v hv
    · exact List.mem_singleton.1 hv ▸ element
  · cases h

end Entries

section Scalars

variable {s : List Char} {v : Value}

theorem isLeaf_of_rounded {negative : Bool} {digits : Option Nat} {exponent : Int}
    (h : (digits.bind fun n => some (ofRounded (.ofDecimal negative n exponent))) = some v) :
    v.isLeaf := by
  obtain ⟨n, -, h⟩ := Option.bind_eq_some_iff.1 h
  obtain rfl := Option.some.inj h
  rw [ofRounded]
  split <;> rfl

theorem isLeaf_of_exponent {negative : Bool} {written : Option (List Char)}
    {whole fraction : List Char}
    (h : (match written with
      | none => (some 0).bind fun exponent => (Text.numeral? 10 (whole ++ fraction)).bind fun n =>
          pure (ofRounded (.ofDecimal negative n (exponent - fraction.length)))
      | some e => (exponentDigits? e).bind fun exponent =>
          (Text.numeral? 10 (whole ++ fraction)).bind fun n =>
            pure (ofRounded (.ofDecimal negative n (exponent - fraction.length)))) = some v) :
    v.isLeaf := by
  split at h
  · exact isLeaf_of_rounded h
  · obtain ⟨e, -, h⟩ := Option.bind_eq_some_iff.1 h
    exact isLeaf_of_rounded h

theorem isLeaf_of_decimal? {signed negative : Bool} (h : decimal? signed negative s = some v) :
    v.isLeaf := by
  simp only [decimal?, Option.bind_eq_bind] at h
  obtain ⟨whole, -, h⟩ := Option.bind_eq_some_iff.1 h
  split at h
  · split at h
    · cases h
    · exact isLeaf_of_exponent h
  · obtain ⟨fraction, -, h⟩ := Option.bind_eq_some_iff.1 h
    exact isLeaf_of_exponent h

theorem isLeaf_of_integer? {signed negative : Bool} (h : integer? signed negative s = some v) :
    v.isLeaf := by
  unfold integer? at h
  dsimp only at h
  split at h
  · cases h
  · obtain ⟨digits, -, rfl⟩ := Option.map_eq_some_iff.1 h
    split <;> rfl

theorem isLeaf_of_unsignedNumber? {signed negative : Bool}
    (h : unsignedNumber? signed negative s = some v) : v.isLeaf := by
  unfold unsignedNumber? at h
  split at h
  · exact Option.some.inj h ▸ rfl
  · split at h
    · exact Option.some.inj h ▸ rfl
    · rcases Option.or_eq_some_iff.1 h with h | ⟨-, h⟩
      · exact isLeaf_of_integer? h
      · exact isLeaf_of_decimal? h

theorem isLeaf_of_prefixed? {base : Nat} (h : prefixed? base s = some v) : v.isLeaf := by
  obtain ⟨digits, -, rfl⟩ := Option.map_eq_some_iff.1 h
  split <;> rfl

theorem isLeaf_of_scalar? (h : scalar? s = some v) : v.isLeaf := by
  have number {v : Value} (h : number? s = some v) : v.isLeaf := by
    unfold number? at h
    split at h
    all_goals first
      | exact isLeaf_of_unsignedNumber? h
      | exact isLeaf_of_prefixed? h
  unfold scalar? at h
  split at h
  · exact Option.some.inj h ▸ rfl
  · split at h
    · exact Option.some.inj h ▸ rfl
    · split at h
      next found => exact Option.some.inj h ▸ number found
      next =>
        obtain ⟨d, -, rfl⟩ := Option.map_eq_some_iff.1 h
        rfl

end Scalars

section Readers

/-- Whatever is read is distinct. -/
def Reads (f : List Token → Option (Value × List Token)) : Prop :=
  ∀ tokens v rest, f tokens = some (v, rest) → v.Distinct

/-- The readers call one another with less fuel. -/
structure ReadersDistinct (fuel : Nat) : Prop where
  value : ∀ depth, Reads (value? fuel depth)
  items : ∀ depth held, (∀ v ∈ held, v.Distinct) → Reads (items? fuel depth held)
  members : ∀ depth held, Entries.Distinct held → Reads (members? fuel depth held)

variable {fuel depth : Nat}

theorem value_step (readers : ReadersDistinct fuel) : Reads (value? (fuel + 1) depth) := by
  intro tokens v rest h
  have scalar {s : List Char} {after : List Token}
      (h : (scalar? s).map (fun v => (v, after)) = some (v, rest)) : v.Distinct := by
    obtain ⟨u, read, same⟩ := Option.map_eq_some_iff.1 h
    obtain ⟨rfl, -⟩ := Prod.mk.inj same
    exact .leaf (isLeaf_of_scalar? read)
  unfold value? at h
  split at h
  · obtain ⟨rfl, -⟩ := Prod.mk.inj (Option.some.inj h)
    exact .leaf rfl
  · exact scalar (Option.ite_none_right_eq_some.1 h).2
  · exact scalar h
  · exact readers.items (depth + 1) [] nofun _ _ _ (Option.ite_none_right_eq_some.1 h).2
  · exact readers.members _ _ Entries.distinct_nil _ _ _ (Option.ite_none_right_eq_some.1 h).2
  · cases h

theorem items_step (readers : ReadersDistinct fuel) {held : List Value}
    (distinct : ∀ v ∈ held, v.Distinct) : Reads (items? (fuel + 1) depth held) := by
  intro tokens v rest h
  have all {held : List Value} (distinct : ∀ v ∈ held, v.Distinct) :
      (Value.array false held.reverse).Distinct :=
    .array fun v hv => distinct v (List.mem_reverse.1 hv)
  unfold items? at h
  split at h
  · obtain ⟨rfl, -⟩ := Prod.mk.inj (Option.some.inj h)
    exact all distinct
  · split at h
    · cases h
    next u after read =>
      have more : ∀ v ∈ u :: held, v.Distinct :=
        List.forall_mem_cons.2 ⟨readers.value _ _ _ _ read, distinct⟩
      split at h
      · exact readers.items _ _ more _ _ _ h
      · obtain ⟨rfl, -⟩ := Prod.mk.inj (Option.some.inj h)
        exact all more
      · cases h

theorem members_step (readers : ReadersDistinct fuel) {held : Entries}
    (distinct : held.Distinct) : Reads (members? (fuel + 1) depth held) := by
  intro tokens v rest h
  unfold members? at h
  split at h
  · obtain ⟨rfl, -⟩ := Prod.mk.inj (Option.some.inj h)
    exact distinct_table_iff.2 distinct
  · split at h
    · cases h
    · split at h
      · split at h
        · cases h
        next u after read =>
          split at h
          · cases h
          next more put =>
            have own : u.Distinct := readers.value _ _ _ _ read
            have kept : more.Distinct := Entries.put_keeps own _ _ _ distinct put
            split at h
            · exact readers.members _ _ kept _ _ _ h
            · obtain ⟨rfl, -⟩ := Prod.mk.inj (Option.some.inj h)
              exact distinct_table_iff.2 kept
            · cases h
      · cases h

theorem readers_distinct (fuel : Nat) : ReadersDistinct fuel := by
  induction fuel with
  | zero =>
    constructor
    · exact fun _ _ _ _ h => by cases h
    · exact fun _ _ _ _ _ _ h => by cases h
    · exact fun _ _ _ _ _ _ h => by cases h
  | succ fuel ih =>
    exact ⟨fun _ => value_step ih, fun _ _ => items_step ih, fun _ _ => members_step ih⟩

end Readers

/-- The value that a line brings is distinct. -/
theorem line_distinct {tokens rest : List Token} {path : List String} {v : Value}
    (h : line? tokens = some (.entry path v, rest)) : v.Distinct := by
  unfold line? at h
  split at h
  · cases h
  · cases h
  · cases h
  · split at h <;> cases h
  · split at h <;> cases h
  · split at h
    next after =>
      obtain ⟨⟨u, left⟩, read, same⟩ := Option.map_eq_some_iff.1 h
      obtain ⟨rfl, rfl⟩ := Line.entry.inj (Prod.mk.inj same).1
      exact (readers_distinct _).value 0 _ _ _ read
    · cases h

theorem add_distinct {d d' : Draft} {line : Line} (distinct : d.root.Distinct)
    (own : ∀ path v, line = .entry path v → v.Distinct) (h : d.add line = some d') :
    d'.root.Distinct := by
  cases line with
  | empty => exact Option.some.inj h ▸ distinct
  | entry path v =>
    obtain ⟨root, made, rfl⟩ := Option.map_eq_some_iff.1 h
    exact Entries.under_keeps (Entries.put_keeps (own path v rfl) path) _ _ _ distinct made
  | header path =>
    obtain ⟨root, made, rfl⟩ := Option.map_eq_some_iff.1 h
    exact Entries.follow_keeps Entries.define_keeps path _ _ distinct made
  | element path =>
    obtain ⟨root, made, rfl⟩ := Option.map_eq_some_iff.1 h
    exact Entries.follow_keeps Entries.append_keeps path _ _ distinct made

theorem lines_distinct {fuel : Nat} {d : Draft} {tokens : List Token} {entries : Entries}
    (distinct : d.root.Distinct) (h : lines? fuel d tokens = some entries) : entries.Distinct := by
  induction fuel generalizing d tokens with
  | zero => cases h
  | succ fuel ih =>
    unfold lines? at h
    split at h
    · exact Option.some.inj h ▸ distinct
    · obtain ⟨⟨line, rest⟩, hline, h⟩ := Option.bind_eq_some_iff.1 h
      obtain ⟨d', added, h⟩ := Option.bind_eq_some_iff.1 h
      obtain ⟨after, -, h⟩ := Option.bind_eq_some_iff.1 h
      refine ih (add_distinct distinct ?_ added) h
      rintro path v rfl
      exact line_distinct hline

/-- Tables that were read have no key twice, at any depth. -/
theorem read_distinct {text : String} {entries : Entries} (h : read? text = some entries) :
    entries.Distinct := by
  obtain ⟨tokens, -, h⟩ := Option.bind_eq_some_iff.1 h
  exact lines_distinct Entries.distinct_nil h

end Launcher.Toml
