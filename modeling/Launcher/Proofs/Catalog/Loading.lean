import Launcher.Catalog.Loading
import Launcher.Proofs.Catalog.Consistency
/-!
What a catalog that was loaded says about its documents: which definition each program document
comes to, and that the program of that definition is found under the name of the entry. -/
namespace Launcher

/-- Reading looks at the characters of a text only. Written out, they are faster to read than the
text that they are taken from. -/
theorem Toml.read?_of_toList {text : String} {s : List Char} (h : text.toList = s) :
    Toml.read? text =
      (Token.ofText? s).bind fun tokens => lines? (tokens.length + 1) ⟨[], []⟩ tokens := by
  subst h
  rfl

namespace Loading

theorem sequence_eq_ok_iff {results : List (Except ε α)} {as : List α} :
    sequence results = .ok as ↔ results = as.map .ok := by
  induction results generalizing as with
  | nil =>
    cases as with
    | nil => exact ⟨fun _ => rfl, fun _ => rfl⟩
    | cons a as => exact ⟨nofun, nofun⟩
  | cons r rest ih =>
    simp only [sequence, bind_eq_ok_iff]
    constructor
    · rintro ⟨a, rfl, others, hrest, h⟩
      obtain rfl := Except.ok.inj h
      rw [ih.1 hrest]
      rfl
    · intro h
      cases as with
      | nil => cases h
      | cons a as =>
        obtain ⟨rfl, hrest⟩ := List.cons.inj h
        exact ⟨a, rfl, as, ih.2 hrest, rfl⟩

/-- Whatever the order of the work is, it succeeds exactly when every piece of it does. -/
theorem gather_eq_ok_iff {order : List Nat} {results : List (Except ε α)} {as : List α} :
    gather order results = .ok as ↔ results = as.map .ok := by
  unfold gather
  constructor
  · intro h
    split at h
    · cases h
    · exact sequence_eq_ok_iff.1 h
  · rintro rfl
    have clean : (order.findSome? fun i => (as.map (.ok : α → Except ε α))[i]?.bind error?) =
        none := by
      rw [List.findSome?_eq_none_iff]
      intro i _
      rw [List.getElem?_map]
      cases as[i]? <;> rfl
    rw [clean]
    exact sequence_eq_ok_iff.2 rfl

theorem checkOmitted_eq_ok_iff {program mode : String} {common : List Parameter}
    {omitted : List String} : checkOmitted program mode common omitted = .ok () ↔
      ∀ name ∈ omitted, ∃ p, (common.find? fun p => p.name == name) = some p ∧ p.optional := by
  induction omitted with
  | nil => exact ⟨fun _ => nofun, fun _ => rfl⟩
  | cons name rest ih =>
    simp only [checkOmitted, List.forall_mem_cons]
    cases hp : common.find? fun p => p.name == name with
    | none => simp
    | some p =>
      by_cases ho : p.optional
      · simp [ho, ih]
      · simp [ho]

theorem mode_eq_ok_iff {program name : String} {common : List Parameter} {d : ModeDocument}
    {m : ModeDefinition} : mode program common name d = .ok m ↔
      checkOmitted program name common d.omitted = .ok () ∧
        m = ⟨name, mergedParameters common d, d.parameterMatch⟩ := by
  simp only [mode, bind_eq_ok_iff]
  constructor
  · rintro ⟨_, checked, h⟩
    exact ⟨checked, (Except.ok.inj h).symm⟩
  · rintro ⟨checked, rfl⟩
    exact ⟨(), checked, rfl⟩

/-- Every mode document comes to a mode definition under its own name, in the same order. -/
theorem modes_eq_ok_iff {program : String} {common : List Parameter}
    {ds : List (String × ModeDocument)} {ms : List ModeDefinition} :
    modes program common ds = .ok ms ↔
      (∀ e ∈ ds, checkOmitted program e.1 common e.2.omitted = .ok ()) ∧
        ms = ds.map fun e => ⟨e.1, mergedParameters common e.2, e.2.parameterMatch⟩ := by
  induction ds generalizing ms with
  | nil =>
    constructor
    · intro h
      exact ⟨nofun, (Except.ok.inj h).symm⟩
    · rintro ⟨-, rfl⟩
      rfl
  | cons e rest ih =>
    simp only [modes, bind_eq_ok_iff, mode_eq_ok_iff, List.forall_mem_cons, List.map_cons]
    constructor
    · rintro ⟨m, ⟨checked, rfl⟩, others, hrest, h⟩
      obtain rfl := Except.ok.inj h
      obtain ⟨hchecked, rfl⟩ := ih.1 hrest
      exact ⟨⟨checked, hchecked⟩, rfl⟩
    · rintro ⟨⟨checked, hchecked⟩, rfl⟩
      exact ⟨_, ⟨checked, rfl⟩, _, ih.2 ⟨hchecked, rfl⟩, rfl⟩

/-- The definition that a program document comes to, and what holds of the document then. -/
structure Lowered (e : Environment) (root key : String) (d : ProgramDocument)
    (p : ProgramDefinition) : Prop where
  named : Text.isBlankText key = false
  keyed : p.name = key
  identified : programId key d.id = .ok p.id
  located : binary e root key d.binary = .ok p.binary
  omissible : ∀ m ∈ d.modes.entries,
    checkOmitted key m.1 (d.commonParameters.map parameter) m.2.omitted = .ok ()
  merged : p.modes = d.modes.entries.map fun m =>
    ⟨m.1, mergedParameters (d.commonParameters.map parameter) m.2, m.2.parameterMatch⟩
  default : p.defaultMode = d.defaultMode

theorem program_eq_ok {e : Environment} {root key : String} {d : ProgramDocument}
    {p : ProgramDefinition} (h : program e root key d = .ok p) : Lowered e root key d p := by
  unfold program at h
  split at h
  · cases h
  next named =>
    simp only [bind_eq_ok_iff, mapError_eq_ok_iff, modes_eq_ok_iff] at h
    obtain ⟨id, identified, path, located, ms, ⟨omissible, rfl⟩, h⟩ := h
    obtain rfl := Except.ok.inj h
    exact ⟨by simpa using named, rfl, identified, located, omissible, rfl, rfl⟩

/-- What is wrong with a document of that key: what only linking finds is not found yet. -/
structure IsOfDocument (key : String) (c : CatalogError) : Prop where
  early : c.isOfLinking = false
  about : c = .emptyProgramName ∨ c.program? = some key

theorem checkOmitted_error {program mode : String} {common : List Parameter}
    {omitted : List String} {c : CatalogError}
    (h : checkOmitted program mode common omitted = .error c) : IsOfDocument program c := by
  induction omitted with
  | nil => cases h
  | cons name rest ih =>
    simp only [checkOmitted] at h
    split at h
    · obtain rfl := Except.error.inj h
      exact ⟨rfl, .inr rfl⟩
    · split at h
      · exact ih h
      · obtain rfl := Except.error.inj h
        exact ⟨rfl, .inr rfl⟩

theorem modes_error {program : String} {common : List Parameter}
    {ds : List (String × ModeDocument)} {c : CatalogError}
    (h : modes program common ds = .error c) : IsOfDocument program c := by
  induction ds with
  | nil => cases h
  | cons e rest ih =>
    simp only [modes, mode, bind_eq_error_iff] at h
    rcases h with (h | ⟨_, -, h⟩) | ⟨_, -, h | ⟨_, -, h⟩⟩
    · exact checkOmitted_error h
    · cases h
    · exact ih h
    · cases h

theorem programId_error {key : String} {raw : Option String} {c : CatalogError}
    (h : programId key raw = .error c) : IsOfDocument key c := by
  unfold programId at h
  split at h
  · obtain rfl := Except.error.inj h
    exact ⟨rfl, .inr rfl⟩
  · split at h
    · cases h
    · obtain rfl := Except.error.inj h
      exact ⟨rfl, .inr rfl⟩

theorem program_error {e : Environment} {root key : String} {d : ProgramDocument}
    {err : LoadError} (h : program e root key d = .error err) :
    (∃ c, err = .catalog c ∧ IsOfDocument key c) ∨ ∃ c, err = .path c := by
  unfold program at h
  split at h
  · obtain rfl := Except.error.inj h
    exact .inl ⟨_, rfl, rfl, .inl rfl⟩
  · simp only [bind_eq_error_iff, mapError_eq_error_iff, binary] at h
    rcases h with ⟨c, h, rfl⟩ | ⟨_, -, h | ⟨_, -, ⟨c, h, rfl⟩ | ⟨_, -, h⟩⟩⟩
    · exact .inl ⟨c, rfl, programId_error h⟩
    · split at h
      · obtain rfl := Except.error.inj h
        exact .inl ⟨_, rfl, rfl, .inr rfl⟩
      · obtain ⟨c, -, rfl⟩ := mapError_eq_error_iff.1 h
        exact .inr ⟨c, rfl⟩
    · exact .inl ⟨c, rfl, modes_error h⟩
    · cases h

/-- An entry that fails to be read, parsed or made a definition fails before any linking. -/
theorem entry_error {s : Surroundings} {root key : String} {e : ProgramEntry} {c : CatalogError}
    (h : entry s root key e = .error (.catalog c)) : IsOfDocument key c := by
  have own {root : String} {d : ProgramDocument}
      (h : program s.environment root key d = .error (.catalog c)) : IsOfDocument key c := by
    rcases program_error h with ⟨c', same, early⟩ | ⟨_, same⟩
    · obtain rfl := LoadError.catalog.inj same
      exact early
    · cases same
  cases e with
  | inline d => exact own h
  | external file =>
    simp only [entry, fileText, bind_eq_error_iff, mapError_eq_error_iff] at h
    rcases h with ⟨_, -, h⟩ | ⟨path, -, ⟨_, -, h⟩ | ⟨text, -, h⟩⟩
    · cases h
    · cases h
    · split at h
      · cases h
      · exact own h

/-- The document that an entry stands for, and the directory that its relative paths are seen
from. -/
def document? (s : Surroundings) (root : String) : ProgramEntry → Option (ProgramDocument × String)
  | .inline d => some (d, root)
  | .external file => do
    let path ← (Path.expand s.environment root file).toOption
    let text ← (s.fileText path).toOption
    let d ← ProgramDocument.read? text
    return (d, Path.directoryText path)

theorem entry_eq_ok_iff {s : Surroundings} {root key : String} {e : ProgramEntry}
    {p : ProgramDefinition} : entry s root key e = .ok p ↔
      ∃ d own, document? s root e = some (d, own) ∧ program s.environment own key d = .ok p := by
  cases e with
  | inline d => simp [entry, document?, and_assoc]
  | external file =>
    simp only [entry, document?, fileText, bind_eq_ok_iff, mapError_eq_ok_iff]
    cases Path.expand s.environment root file with
    | error e => simp [Except.toOption]
    | ok path =>
      cases htext : s.fileText path with
      | error e => simp [Except.toOption, htext]
      | ok text =>
        cases hread : ProgramDocument.read? text with
        | none => simp [Except.toOption, htext, hread, throw, throwThe, MonadExceptOf.throw]
        | some d => simp [Except.toOption, htext, hread, and_assoc]

/-- Definitions carry the names of their entries. -/
theorem names_of_entries {s : Surroundings} {root : String}
    {entries : List (String × ProgramEntry)} {ds : List ProgramDefinition}
    (h : (entries.map fun e => entry s root e.1 e.2) = ds.map .ok) :
    ds.map (·.name) = entries.map (·.1) := by
  induction entries generalizing ds with
  | nil =>
    obtain rfl : ds = [] := by simpa using h.symm
    rfl
  | cons e rest ih =>
    cases ds with
    | nil => cases h
    | cons d ds =>
      obtain ⟨here, later⟩ := List.cons.inj h
      obtain ⟨document, own, -, lowered⟩ := entry_eq_ok_iff.1 here
      rw [List.map_cons, List.map_cons, ih later, (program_eq_ok lowered).keyed]

end Loading

namespace Catalog

open Loading

variable {s : Surroundings} {order : List Nat} {text origin : String} {c : Catalog}
variable {document : CatalogDocument}

theorem ofText_of_read (hd : CatalogDocument.read? text = some document) :
    ofText s order text origin = ofDocument s order (Path.directoryText origin) document := by
  rw [ofText, hd]

/-- Every entry comes to a definition, and the definitions are linked. -/
theorem ofText_eq_ok_iff (hd : CatalogDocument.read? text = some document) :
    ofText s order text origin = .ok c ↔ ∃ definitions, build definitions = .ok c ∧
      (document.programs.entries.map fun e => entry s (Path.directoryText origin) e.1 e.2) =
        definitions.map .ok := by
  simp only [ofText_of_read hd, ofDocument, Loading.definitions, bind_eq_ok_iff, gather_eq_ok_iff,
    mapError_eq_ok_iff]
  exact exists_congr fun definitions => and_comm

/-- Every entry of a catalog that was loaded has a document, and its program is found under its
name. -/
theorem ofText_finds (hd : CatalogDocument.read? text = some document)
    (accepted : ofText s order text origin = .ok c) {key : String} {e : ProgramEntry}
    (he : document.programs.get? key = some e) :
    ∃ d root definition p, document? s (Path.directoryText origin) e = some (d, root) ∧
      Lowered s.environment root key d definition ∧ Program.link definition = .ok p ∧
        c.find? key = some p := by
  obtain ⟨definitions, hbuild, hall⟩ := (ofText_eq_ok_iff hd).1 accepted
  have mem : entry s (Path.directoryText origin) key e ∈ definitions.map .ok :=
    hall ▸ List.mem_map_of_mem (Index.mem_of_get? he)
  obtain ⟨definition, hmem, hdefinition⟩ := List.mem_map.1 mem
  obtain ⟨d, root, hdocument, hprogram⟩ := entry_eq_ok_iff.1 hdefinition.symm
  have lowered := program_eq_ok hprogram
  obtain ⟨p, hlink, hfind⟩ := build_finds hbuild hmem
  exact ⟨d, root, definition, p, hdocument, lowered, hlink, lowered.keyed ▸ hfind⟩

/-- No variables and no files. -/
def Sample.around : Surroundings := ⟨⟨[], "/", none⟩, fun _ => .error .notUtf8⟩

end Catalog
end Launcher
