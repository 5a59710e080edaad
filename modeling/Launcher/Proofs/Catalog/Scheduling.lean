import Launcher.Proofs.Catalog.Faults
import Launcher.Proofs.Catalog.Loading
import Launcher.Proofs.Document.KeyOrder
/-!
Loading under every order of the work. Entries become definitions in any order, and the error of
any one that fails may be the one that is stored; linking goes by the names of the programs. So the
order decides no more than which of the failing entries is reported. -/
namespace Launcher

namespace Loading

theorem mem_of_sequence_error {results : List (Except ε α)} {e : ε}
    (h : sequence results = .error e) : .error e ∈ results := by
  induction results with
  | nil => cases h
  | cons r rest ih =>
    simp only [sequence, bind_eq_error_iff] at h
    rcases h with rfl | ⟨_, -, h | ⟨_, -, h⟩⟩
    · exact List.mem_cons_self
    · exact List.mem_cons_of_mem _ (ih h)
    · cases h

theorem error?_eq_some_iff {r : Except ε α} {e : ε} : error? r = some e ↔ r = .error e := by
  cases r <;> simp [error?]

theorem mem_of_gather_error {order : List Nat} {results : List (Except ε α)} {e : ε}
    (h : gather order results = .error e) : .error e ∈ results := by
  unfold gather at h
  split at h
  next found =>
    obtain rfl := Except.error.inj h
    obtain ⟨i, -, held⟩ := List.exists_of_findSome?_eq_some found
    obtain ⟨r, at_i, failed⟩ := Option.bind_eq_some_iff.1 held
    exact error?_eq_some_iff.1 failed ▸ List.mem_of_getElem? at_i
  · exact mem_of_sequence_error h

/-- If something fails, whatever the order is, one of the errors is what comes of it. -/
theorem gather_fails (order : List Nat) {results : List (Except ε α)} {e : ε}
    (failed : .error e ∈ results) :
    ∃ e', .error e' ∈ results ∧ gather order results = .error e' := by
  cases gathered : gather order results with
  | error e' => exact ⟨e', mem_of_gather_error gathered, rfl⟩
  | ok as =>
    rw [gather_eq_ok_iff.1 gathered] at failed
    obtain ⟨a, -, same⟩ := List.mem_map.1 failed
    cases same

end Loading

namespace Catalog

open Loading

variable {s : Surroundings} {root text origin : String} {document : CatalogDocument}

/-- An entry of the document fails with the error. Linking did not find it, in no program at all. -/
structure IsOfFailingEntry (s : Surroundings) (root : String) (document : CatalogDocument)
    (err : LoadError) : Prop where
  failing : ∃ key e, document.programs.get? key = some e ∧ entry s root key e = .error err
  early : ∀ cause, err = .catalog cause → cause.isOfLinking = false
  not_linked : ∀ key e d cause, document.programs.get? key = some e → entry s root key e = .ok d →
    Program.link d = .error cause → err ≠ .catalog cause

theorem isOfFailingEntry {key : String} {e : ProgramEntry} {err : LoadError}
    (held : document.programs.get? key = some e) (failed : entry s root key e = .error err) :
    IsOfFailingEntry s root document err := by
  refine ⟨⟨key, e, held, failed⟩, ?_, ?_⟩
  · rintro cause rfl
    exact (entry_error failed).early
  · rintro key' e' d cause held' lowered unlinked rfl
    obtain ⟨document', own, -, made⟩ := entry_eq_ok_iff.1 lowered
    have lowered' := program_eq_ok made
    have about := Program.link_error (lowered'.keyed ▸ lowered'.named) unlinked
    rcases (entry_error failed).about with rfl | same
    · cases about
    · obtain rfl : key' = key := by
        rw [← lowered'.keyed]
        exact Option.some.inj (about.symm.trans same)
      obtain rfl : e' = e := Option.some.inj (held'.symm.trans held)
      cases lowered.symm.trans failed

theorem ofDocument_of_failing {order : List Nat} {key : String} {e : ProgramEntry} {err : LoadError}
    (held : document.programs.get? key = some e) (failed : entry s root key e = .error err) :
    ∃ err, ofDocument s order root document = .error err ∧
      IsOfFailingEntry s root document err := by
  have mem : .error err ∈ document.programs.entries.map fun e => entry s root e.1 e.2 :=
    List.mem_map.2 ⟨(key, e), Index.mem_of_get? held, failed⟩
  obtain ⟨err', mem', gathered⟩ := gather_fails order mem
  obtain ⟨⟨key', e'⟩, there, failed'⟩ := List.mem_map.1 mem'
  refine ⟨err', ?_, isOfFailingEntry (Index.get?_of_mem there) failed'⟩
  rw [ofDocument, Loading.definitions, gathered]
  rfl

theorem ofDocument_eq_error_iff {order : List Nat} {ds : List ProgramDefinition} {err : LoadError}
    (lowered : (document.programs.entries.map fun e => entry s root e.1 e.2) = ds.map .ok) :
    ofDocument s order root document = .error err ↔
      ∃ cause, err = .catalog cause ∧ IsFirstFault [] ds cause := by
  have distinct : (ds.map (·.name)).Nodup :=
    (names_of_entries lowered).symm ▸ document.programs.keys_nodup
  have linking : ofDocument s order root document = (build ds).mapError .catalog := by
    rw [ofDocument, Loading.definitions, gather_eq_ok_iff.2 lowered]
    rfl
  rw [linking, mapError_eq_error_iff]
  refine exists_congr fun cause => ?_
  rw [build_eq_error_iff distinct, and_comm, eq_comm]

namespace Sample

/-- Two programs whose files are missing, and one that cannot be linked. -/
def missingText : String := "programs.a = \"a.toml\"
programs.b = \"b.toml\"
programs.c.id = \"7d2b5c4e-2f43-4c55-9a53-0b6f1b1d2e10\"
programs.c.binary = \"c\"
"

def reorderedText : String := "programs.c.id = \"7d2b5c4e-2f43-4c55-9a53-0b6f1b1d2e10\"
programs.c.binary = \"c\"
programs.b = \"b.toml\"
programs.a = \"a.toml\"
"

/-- The entry that has no modes. -/
def bareEntry : String × Toml.Value := ("c", .table .dotted
  [("id", .string "7d2b5c4e-2f43-4c55-9a53-0b6f1b1d2e10"), ("binary", .string "c")])

theorem missing_tables : Toml.read? missingText = some [("programs", .table .dotted
    [("a", .string "a.toml"), ("b", .string "b.toml"), bareEntry])] := by
  rw [missingText, Toml.read?_of_toList String.toList_ofList]
  rfl

theorem reordered_tables : Toml.read? reorderedText = some [("programs", .table .dotted
    [bareEntry, ("b", .string "b.toml"), ("a", .string "a.toml")])] := by
  rw [reorderedText, Toml.read?_of_toList String.toList_ofList]
  rfl

theorem tables_alike : Toml.Entries.Alike
    [("programs", .table .dotted [("a", .string "a.toml"), ("b", .string "b.toml"), bareEntry])]
    [("programs", .table .dotted [bareEntry, ("b", .string "b.toml"), ("a", .string "a.toml")])] :=
  Toml.alike_cons (Toml.alike_of_perm (by decide) (List.reverse_perm _).symm) "programs" []

def missingDocument : CatalogDocument :=
  ⟨.ofList [("a", .external "a.toml"), ("b", .external "b.toml"), ("c", .inline
    ⟨some "7d2b5c4e-2f43-4c55-9a53-0b6f1b1d2e10", some "c", none, [], .empty⟩)]⟩

theorem missing_read : CatalogDocument.read? missingText = some missingDocument := by
  rw [CatalogDocument.read?, missing_tables]
  rfl

/-- The entry that is read first gives the error. -/
theorem missing_runs :
    ofText around [0, 1] missingText "/cat.toml" = .error (.unreadable "/a.toml" .notUtf8) ∧
      ofText around [1, 0] missingText "/cat.toml" = .error (.unreadable "/b.toml" .notUtf8) ∧
      entry around (Path.directoryText "/cat.toml") "a" (.external "a.toml") =
        .error (.unreadable "/a.toml" .notUtf8) := by
  simp only [ofText_of_read missing_read, ← error?_eq_some_iff]
  decide +kernel

end Sample

/-- Whether a catalog is loaded, and which, does not depend on the order of the work. If an entry
fails, the error is that of one that does. If none fails, it is that of the first definition, by
name, which cannot be linked beside those before it. The order of keys in the text never counts. -/
theorem every_order_loads_alike (read : CatalogDocument.read? text = some document) :
    (∀ order order' c, ofText s order text origin = .ok c → ofText s order' text origin = .ok c) ∧
    (∀ key e err, document.programs.get? key = some e →
      entry s (Path.directoryText origin) key e = .error err →
      ∀ order, ∃ err, ofText s order text origin = .error err ∧
        IsOfFailingEntry s (Path.directoryText origin) document err) ∧
    (∀ ds, (document.programs.entries.map fun e => entry s (Path.directoryText origin) e.1 e.2) =
        ds.map .ok → ds.map (·.name) = document.programs.keys ∧
      ∀ order err, ofText s order text origin = .error err ↔
        ∃ cause, err = .catalog cause ∧ IsFirstFault [] ds cause) ∧
    ∀ text' tables tables', Toml.read? text = some tables → Toml.read? text' = some tables' →
      tables.Alike tables' → ∀ order, ofText s order text' origin = ofText s order text origin := by
  refine ⟨fun order order' c h => ?_, fun key e err held failed order => ?_, fun ds lowered => ?_,
    fun text' tables tables' tables_read tables_read' alike order => ?_⟩
  · exact (ofText_eq_ok_iff read).2 ((ofText_eq_ok_iff read).1 h)
  · rw [ofText_of_read read]
    exact ofDocument_of_failing held failed
  · refine ⟨names_of_entries lowered, fun order err => ?_⟩
    rw [ofText_of_read read]
    exact ofDocument_eq_error_iff lowered
  · have same := CatalogDocument.read?_alike tables_read tables_read' alike
    rw [ofText_of_read read, ofText_of_read (same ▸ read)]

theorem every_order_loads_sample :
    ofText Sample.around [0, 1] Sample.missingText "/cat.toml" =
        .error (.unreadable "/a.toml" .notUtf8) ∧
      ofText Sample.around [1, 0] Sample.missingText "/cat.toml" =
        .error (.unreadable "/b.toml" .notUtf8) ∧
      (∀ order, ∃ err, ofText Sample.around order Sample.missingText "/cat.toml" = .error err ∧
        IsOfFailingEntry Sample.around (Path.directoryText "/cat.toml") Sample.missingDocument
          err) ∧
      ∀ order, ofText Sample.around order Sample.reorderedText "/cat.toml" =
        ofText Sample.around order Sample.missingText "/cat.toml" := by
  obtain ⟨-, failing, -, alike⟩ :=
    @every_order_loads_alike Sample.around _ "/cat.toml" _ Sample.missing_read
  obtain ⟨first, second, file⟩ := Sample.missing_runs
  exact ⟨first, second, failing "a" _ _ rfl file,
    alike _ _ _ Sample.missing_tables Sample.reordered_tables Sample.tables_alike⟩

end Catalog
end Launcher
