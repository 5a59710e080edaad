import Launcher.Proofs.Catalog.Checking
import Launcher.Proofs.Catalog.Meaning
import Launcher.Proofs.Catalog.Scheduling
import Launcher.Proofs.Path.Anchoring
/-!
Programs whose binary names nothing. A text that is blank as it is written is refused, but one that
only comes to nothing when its variables are replaced is not looked at again before it is seen from
the directory of the catalog: such a program has that directory for its binary. Linking looks for an
empty binary as well, but no path that was made absolute is empty. -/
namespace Launcher

namespace Path

variable {e : Environment} {root raw path : String} {base s cwd : List Char}

theorem extend_ne_nil {ws : List (List Char)} (some_base : base ≠ []) : extend base ws ≠ [] := by
  induction ws generalizing base with
  | nil => exact some_base
  | cons w ws ih =>
    refine ih ?_
    cases absolute : isAbsolute w with
    | true =>
      rw [join, if_pos absolute]
      rintro rfl
      cases absolute
    | false => exact join_ne_nil some_base absolute

theorem place_ne_nil (some_cwd : cwd ≠ []) : place cwd s ≠ [] := by
  refine extend_ne_nil ?_
  rw [origin_eq]
  split
  · split <;> simp
  · exact some_cwd

theorem absolute?_ne_nil {t : List Char} (some_cwd : cwd ≠ []) (h : absolute? cwd s = some t) :
    t ≠ [] := by
  have some_text : s ≠ [] := by
    rintro rfl
    cases h
  rw [absolute?_eq_place some_text] at h
  obtain rfl := Option.some.inj h
  split
  · exact join_ne_nil (place_ne_nil some_cwd) rfl
  · exact place_ne_nil some_cwd

/-- A path that was expanded is not empty, whatever is left of its text. -/
theorem expand_ne_empty (some_cwd : e.workingDirectory ≠ "") (h : expand e root raw = .ok path) :
    path ≠ "" := by
  rintro rfl
  rw [expand] at h
  split at h
  · cases h
  next text _ =>
    split at h
    next absolute =>
      have empty : text = [] := by simpa using Except.ok.inj h
      rw [empty] at absolute
      cases absolute
    next =>
      dsimp only at h
      split at h
      next t anchored =>
        have empty : t = [] := by simpa using Except.ok.inj h
        exact absolute?_ne_nil (by simpa using some_cwd) anchored empty
      next => cases h

/-- The directory as a path of its own: in normal form, with a slash at its end. -/
def ownPath (e : Environment) (root : String) : String :=
  String.ofList (join (place e.workingDirectory.toList root.toList) [])

/-- Where nothing is left of a text, the directory stands in for it. -/
theorem expand_of_nothing (some_root : root ≠ "") (nothing : expandText e raw.toList = .ok []) :
    expand e root raw = .ok (ownPath e root) := by
  have written : root.toList ≠ [] := by simpa using some_root
  have relative : isAbsolute [] = false := rfl
  have parts : extend (place e.workingDirectory.toList root.toList) (components []) =
      place e.workingDirectory.toList root.toList := rfl
  simp [expand, nothing, relative, absolute?_join written relative, parts, ownPath]

end Path

namespace ProgramDocument

/-- The text for the binary without white space around it; empty where there is none. -/
def writtenBinary (d : ProgramDocument) : String := Text.trim (d.binary.getD "")

/-- Nothing is left of the text when its variables and its tilde are replaced. -/
def NamesNothing (e : Environment) (d : ProgramDocument) : Prop :=
  Path.expandText e d.writtenBinary.toList = .ok []

end ProgramDocument

namespace Loading

variable {s : Surroundings} {e : Environment} {root key name : String} {d : ProgramDocument}
variable {id : ProgramId} {definition : ProgramDefinition}

theorem binary_of_written (written : d.writtenBinary ≠ "") :
    binary e root key d.binary = (Path.expand e root d.writtenBinary).mapError .path := by
  have some_text : ¬ d.writtenBinary.isEmpty = true := by simpa using written
  rw [binary, ← ProgramDocument.writtenBinary, if_neg some_text]

theorem checkOmitted_ne_missing {program mode name : String} {common : List Parameter}
    {omitted : List String} {field : RequiredField} :
    checkOmitted program mode common omitted ≠ .error (.missingField name field) := by
  induction omitted with
  | nil => simp [checkOmitted]
  | cons first rest ih =>
    rw [checkOmitted]
    split
    · simp
    · split
      · exact ih
      · simp

theorem modes_ne_missing {program name : String} {common : List Parameter}
    {ds : List (String × ModeDocument)} {field : RequiredField} :
    modes program common ds ≠ .error (.missingField name field) := by
  induction ds with
  | nil => nofun
  | cons entry rest ih =>
    simp only [modes, mode, ne_eq, bind_eq_error_iff]
    rintro ((failed | ⟨_, -, failed⟩) | ⟨_, -, failed | ⟨_, -, failed⟩⟩)
    · exact checkOmitted_ne_missing failed
    · cases failed
    · exact ih failed
    · cases failed

theorem programId_ne_missing_binary {raw : Option String} :
    programId key raw ≠ .error (.missingField name .binary) := by
  unfold programId
  split
  · nofun
  · split <;> nofun

/-- Only a blank text is a missing binary. -/
theorem program_missing_binary
    (h : program e root key d = .error (.catalog (.missingField name .binary))) :
    key = name ∧ d.writtenBinary = "" := by
  unfold program at h
  split at h
  · cases h
  · simp only [bind_eq_error_iff, mapError_eq_error_iff] at h
    rcases h with ⟨_, failed, same⟩ | ⟨_, -, failed | ⟨_, -, ⟨_, failed, same⟩ | ⟨_, -, same⟩⟩⟩
    · obtain rfl := LoadError.catalog.inj same
      exact absurd failed programId_ne_missing_binary
    · by_cases written : d.writtenBinary = ""
      · rw [binary, ← ProgramDocument.writtenBinary, written] at failed
        cases failed
        exact ⟨rfl, written⟩
      · rw [binary_of_written written, mapError_eq_error_iff] at failed
        obtain ⟨_, -, same⟩ := failed
        cases same
    · obtain rfl := LoadError.catalog.inj same
      exact absurd failed modes_ne_missing
    · cases same

/-- A program that is fine up to there is refused for its binary exactly if the text is blank. -/
theorem program_missing_binary_iff (named : Text.isBlankText key = false)
    (identified : programId key d.id = .ok id) :
    program e root key d = .error (.catalog (.missingField key .binary)) ↔
      d.writtenBinary = "" := by
  constructor
  · intro refused
    exact (program_missing_binary refused).2
  · intro blank
    have refused : binary e root key d.binary = .error (.catalog (.missingField key .binary)) := by
      rw [binary, ← ProgramDocument.writtenBinary, blank]
      rfl
    simp [program, named, identified, refused, Except.mapError, bind, Except.bind]

theorem Lowered.written (h : Lowered e root key d definition) : d.writtenBinary ≠ "" := by
  intro blank
  have located := h.located
  rw [binary, ← ProgramDocument.writtenBinary, blank] at located
  cases located

theorem Lowered.binary_ne_empty (some_cwd : e.workingDirectory ≠ "")
    (h : Lowered e root key d definition) : definition.binary ≠ "" := by
  have located := h.located
  rw [binary_of_written h.written, mapError_eq_ok_iff] at located
  exact Path.expand_ne_empty some_cwd located

theorem Lowered.binary_of_nothing (some_root : root ≠ "") (nothing : d.NamesNothing e)
    (h : Lowered e root key d definition) : definition.binary = Path.ownPath e root := by
  have located := h.located
  rw [binary_of_written h.written, mapError_eq_ok_iff] at located
  exact (Except.ok.inj ((Path.expand_of_nothing some_root nothing).symm.trans located)).symm

theorem directoryText_ne_empty (path : String) : Path.directoryText path ≠ "" := by
  simp [Path.directoryText, Path.directory_ne_nil]

theorem document?_root {entry : ProgramEntry} {origin own : String}
    (h : document? s (Path.directoryText origin) entry = some (d, own)) : own ≠ "" := by
  cases entry with
  | inline d' =>
    obtain ⟨-, rfl⟩ := Prod.mk.inj (Option.some.inj h)
    exact directoryText_ne_empty origin
  | external file =>
    simp only [document?, Option.bind_eq_bind, Option.bind_eq_some_iff] at h
    obtain ⟨path, -, text, -, d', -, same⟩ := h
    obtain ⟨-, rfl⟩ := Prod.mk.inj (Option.some.inj same)
    exact directoryText_ne_empty path

theorem entry_missing_binary {entry : ProgramEntry} (h : Loading.entry s root key entry =
    .error (.catalog (.missingField name .binary))) :
    key = name ∧ ∃ d own, document? s root entry = some (d, own) ∧ d.writtenBinary = "" := by
  cases entry with
  | inline d =>
    obtain ⟨same, blank⟩ := program_missing_binary h
    exact ⟨same, d, root, rfl, blank⟩
  | external file =>
    simp only [Loading.entry, fileText, bind_eq_error_iff, mapError_eq_error_iff] at h
    rcases h with ⟨_, -, same⟩ | ⟨path, found, ⟨_, -, same⟩ | ⟨text, read, failed⟩⟩
    · cases same
    · cases same
    · split at failed
      · cases failed
      next d parsed =>
        obtain ⟨same, blank⟩ := program_missing_binary failed
        refine ⟨same, d, Path.directoryText path, ?_, blank⟩
        rw [mapError_eq_ok_iff] at found read
        simp [document?, found, read, parsed, Except.toOption]

end Loading

namespace Catalog

open Loading

variable {s : Surroundings} {order : List Nat} {text origin name : String} {c : Catalog}
variable {ds : List ProgramDefinition} {document : CatalogDocument}

/-- Linking misses the binary of a definition that has an empty one. -/
theorem build_missing_binary (h : build ds = .error (.missingField name .binary)) :
    ∃ d ∈ ds, d.binary = "" := by
  obtain ⟨before, d, after, rfl, -, refusal⟩ := build_eq_error_iff_first.1 h
  refine ⟨d, by simp, ?_⟩
  cases refusal with
  | unlinked failed =>
    cases Program.link_eq_error_iff.1 failed with
    | header flaw =>
      cases flaw with
      | no_binary _ _ empty => exact empty
    | mode _ first =>
      obtain ⟨_, _, _, -, -, flaw⟩ := first
      cases flaw with
      | parameter first =>
        obtain ⟨_, _, _, -, -, flaw⟩ := first
        cases flaw

/-- Linking the definitions of documents never misses a binary. -/
theorem missing_binary_of_ofText (some_cwd : s.environment.workingDirectory ≠ "")
    (read : CatalogDocument.read? text = some document)
    (h : ofText s order text origin = .error (.catalog (.missingField name .binary))) :
    ∃ entry d own, document.programs.get? name = some entry ∧
      document? s (Path.directoryText origin) entry = some (d, own) ∧ d.writtenBinary = "" := by
  rw [ofText_of_read read, ofDocument, bind_eq_error_iff] at h
  rcases h with failed | ⟨ds, made, failed⟩
  · obtain ⟨⟨key, entry⟩, there, refused⟩ := List.mem_map.1 (mem_of_gather_error failed)
    obtain ⟨rfl, d, own, stands, blank⟩ := entry_missing_binary refused
    exact ⟨entry, d, own, Index.get?_of_mem there, stands, blank⟩
  · obtain ⟨_, missing, same⟩ := mapError_eq_error_iff.1 failed
    obtain rfl := LoadError.catalog.inj same
    obtain ⟨definition, mem, empty⟩ := build_missing_binary missing
    have from_entry : .ok definition ∈ document.programs.entries.map
        fun e => entry s (Path.directoryText origin) e.1 e.2 := by
      rw [gather_eq_ok_iff.1 made]
      exact List.mem_map_of_mem mem
    obtain ⟨_, -, lowered⟩ := List.mem_map.1 from_entry
    obtain ⟨d, own, -, program⟩ := entry_eq_ok_iff.1 lowered
    exact absurd empty ((program_eq_ok program).binary_ne_empty some_cwd)

namespace Sample

/-- The environment has the variable, but there is nothing in it. -/
def hollow : Surroundings := ⟨⟨[("NOTHING", "")], "/", none⟩, fun _ => .error .notUtf8⟩

def hollowText : String := "[programs.tool]
id = \"7d2b5c4e-2f43-4c55-9a53-0b6f1b1d2e10\"
binary = \"$NOTHING\"
[programs.tool.modes.run]
"

def hollowProgram : ProgramDocument :=
  ⟨some "7d2b5c4e-2f43-4c55-9a53-0b6f1b1d2e10", some "$NOTHING", none, [],
    .ofList [("run", ⟨[], none, []⟩)]⟩

/-- The same with a text that is blank as it is written. -/
def blankProgram : ProgramDocument :=
  { hollowProgram with binary := some " " }

theorem blank_identified : programId "tool" blankProgram.id =
    .ok ⟨0x7d2b5c4e2f434c559a530b6f1b1d2e10#128⟩ := by
  rfl

def hollowDocument : CatalogDocument := ⟨.ofList [("tool", .inline hollowProgram)]⟩

theorem hollow_read : CatalogDocument.read? hollowText = some hollowDocument := by
  have characters : Toml.read? hollowText = _ := Toml.read?_of_toList String.toList_ofList
  rw [CatalogDocument.read?, characters]
  rfl

theorem hollow_names_nothing : hollowProgram.NamesNothing hollow.environment := by
  have left : Path.expandText hollow.environment hollowProgram.writtenBinary.toList =
      .ok [] := by
    decide +kernel
  exact left

def hollowCatalog : Catalog :=
  (ofText hollow [0] hollowText "/cat/catalog.toml").toOption.getD .empty

theorem hollow_binaries : (ofText hollow [0] hollowText "/cat/catalog.toml").toOption.map
    (fun c => c.programs.map (·.binary)) = some ["/cat/"] := by
  rw [ofText_of_read hollow_read]
  decide +kernel

theorem hollow_loaded :
    ofText hollow [0] hollowText "/cat/catalog.toml" = .ok hollowCatalog := by
  obtain ⟨c, accepted, -⟩ := Option.map_eq_some_iff.1 hollow_binaries
  exact eq_ok_of_isSome Catalog.empty (Option.isSome_of_eq_some accepted)

end Sample

/-- Which binaries are missing. A program is refused for its binary exactly if the text is blank as
it is written. One that only comes to nothing when its variables and its tilde are replaced is
accepted, and its binary is the directory that its paths are seen from; linking, which would refuse
an empty binary, is never given one. -/
theorem missing_binary_iff_blank (some_cwd : s.environment.workingDirectory ≠ "") :
    (∀ root key d id, Text.isBlankText key = false → programId key d.id = .ok id →
      (program s.environment root key d = .error (.catalog (.missingField key .binary)) ↔
        d.writtenBinary = "")) ∧
    (∀ text origin document order name, CatalogDocument.read? text = some document →
      ofText s order text origin = .error (.catalog (.missingField name .binary)) →
        ∃ entry d own, document.programs.get? name = some entry ∧
          document? s (Path.directoryText origin) entry = some (d, own) ∧
            d.writtenBinary = "") ∧
    ∀ text origin document order c, CatalogDocument.read? text = some document →
      ofText s order text origin = .ok c →
        ∀ key entry, document.programs.get? key = some entry →
          ∃ d own p, document? s (Path.directoryText origin) entry = some (d, own) ∧
            c.find? key = some p ∧ d.writtenBinary ≠ "" ∧ p.binary ≠ "" ∧
              (d.NamesNothing s.environment → p.binary = Path.ownPath s.environment own) := by
  refine ⟨fun root key d id named identified => program_missing_binary_iff named identified,
    fun text origin document order name read refused =>
      missing_binary_of_ofText some_cwd read refused,
    fun text origin document order c read accepted key entry held => ?_⟩
  obtain ⟨d, own, definition, p, stands, lowered, linked, found⟩ := ofText_finds read accepted held
  obtain ⟨known, linked⟩ := Program.link_eq_ok_iff.1 linked
  refine ⟨d, own, p, stands, found, lowered.written, ?_, fun nothing => ?_⟩
  · rw [linked.binary]
    exact lowered.binary_ne_empty some_cwd
  · rw [linked.binary]
    exact lowered.binary_of_nothing (document?_root stands) nothing

theorem missing_binary_sample :
    Sample.hollow.environment.workingDirectory ≠ "" ∧
      program Sample.hollow.environment "/cat" "tool" Sample.blankProgram =
        .error (.catalog (.missingField "tool" .binary)) ∧
      ofText Sample.hollow [0] Sample.hollowText "/cat/catalog.toml" = .ok Sample.hollowCatalog ∧
      ∃ p, Sample.hollowCatalog.find? "tool" = some p ∧
        p.binary = Path.ownPath Sample.hollow.environment "/cat" := by
  have some_cwd : Sample.hollow.environment.workingDirectory ≠ "" := by decide
  obtain ⟨refused, -, loaded⟩ := missing_binary_iff_blank some_cwd
  refine ⟨some_cwd, ?_, Sample.hollow_loaded, ?_⟩
  · have blank : Sample.blankProgram.writtenBinary = "" := by decide
    exact (refused "/cat" "tool" _ _ (by decide) Sample.blank_identified).2 blank
  · obtain ⟨d, own, p, stands, found, -, -, stood_for⟩ := loaded _ _ _ _ _ Sample.hollow_read
      Sample.hollow_loaded "tool" (.inline Sample.hollowProgram) rfl
    obtain ⟨rfl, rfl⟩ := Prod.mk.inj (Option.some.inj stands)
    exact ⟨p, found, stood_for Sample.hollow_names_nothing⟩

/-- A program whose binary names nothing is loaded, with the directory of the catalog for it. -/
theorem counterexample_hollow_binary :
    Sample.hollowProgram.NamesNothing Sample.hollow.environment ∧
      CatalogDocument.read? Sample.hollowText = some Sample.hollowDocument ∧
      Sample.hollowDocument.programs.get? "tool" = some (.inline Sample.hollowProgram) ∧
      (∀ name, ofText Sample.hollow [0] Sample.hollowText "/cat/catalog.toml" ≠
        .error (.catalog (.missingField name .binary))) ∧
      (ofText Sample.hollow [0] Sample.hollowText "/cat/catalog.toml").toOption.map
        (fun c => c.programs.map (·.binary)) = some ["/cat/"] := by
  refine ⟨Sample.hollow_names_nothing, Sample.hollow_read, rfl, ?_,
    Sample.hollow_binaries⟩
  intro name refused
  have loaded := Sample.hollow_binaries
  rw [refused] at loaded
  cases loaded

end Catalog
end Launcher
