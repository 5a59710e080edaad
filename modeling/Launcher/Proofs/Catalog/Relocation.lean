import Launcher.Proofs.Catalog.Loading
import Launcher.Proofs.Path.Anchoring
/-!
Programs in files of their own. A program that is written in the catalog file comes to the same
definition when it is moved to a file beside the catalog file: its relative paths are seen from the
directory of its own file then, but that directory is the same place. -/
namespace Launcher

open Launcher.Path

/-- The document with the program of that key written as the name of a file. -/
def CatalogDocument.withFile (document : CatalogDocument) (key file : String) : CatalogDocument :=
  ⟨document.programs.mapValues fun k e => if k = key then .external file else e⟩

namespace Loading

/-- A file beside that of `origin` describes the program. -/
structure HoldsProgram (s : Surroundings) (origin file : String) (d : ProgramDocument) : Prop where
  bare : IsBareName file.toList
  held : ∃ path text,
    absolute? s.environment.workingDirectory.toList (join (directory origin.toList) file.toList) =
      some path.toList ∧ s.fileText path = .ok text ∧ ProgramDocument.read? text = some d

variable {s : Surroundings} {origin file key : String} {d : ProgramDocument}

/-- A directory counts only for what written paths mean when they are seen from it. -/
theorem program_congr {e : Environment} {root root' : String}
    (alike : ∀ raw, expand e root raw = expand e root' raw) :
    program e root key d = program e root' key d := by
  simp only [program, binary, alike]

theorem entry_of_own_file (regular : IsNormal s.environment.workingDirectory.toList)
    (stored : HoldsProgram s origin file d) :
    entry s (directoryText origin) key (.external file) =
      entry s (directoryText origin) key (.inline d) := by
  obtain ⟨path, text, located, read, parsed⟩ := stored.held
  obtain ⟨found, alike⟩ := expand_beside regular stored.bare located
  calc entry s (directoryText origin) key (.external file)
      = program s.environment (directoryText path) key d := by
        simp [entry, fileText, found, read, parsed, Except.mapError, bind, Except.bind]
    _ = program s.environment (directoryText origin) key d := program_congr alike

theorem definitions_of_own_file {order : List Nat} {document : CatalogDocument}
    (regular : IsNormal s.environment.workingDirectory.toList)
    (written : document.programs.get? key = some (.inline d))
    (stored : HoldsProgram s origin file d) :
    definitions s order (directoryText origin) (document.withFile key file) =
      definitions s order (directoryText origin) document := by
  have entries : ((document.withFile key file).programs.entries.map fun e =>
      entry s (directoryText origin) e.1 e.2) =
        document.programs.entries.map fun e => entry s (directoryText origin) e.1 e.2 := by
    simp only [CatalogDocument.withFile, Index.mapValues, List.map_map]
    refine List.map_congr_left fun e he => ?_
    by_cases here : e.1 = key
    · have same : e.2 = .inline d :=
        Option.some.inj ((Index.get?_of_mem he).symm.trans (here ▸ written))
      simp only [Function.comp_apply, here, if_true, same]
      exact entry_of_own_file regular stored
    · simp only [Function.comp_apply, here, if_false]
  rw [definitions, definitions, entries]

end Loading

namespace Catalog

open Loading

variable {s : Surroundings} {origin file key : String} {d : ProgramDocument}
variable {document : CatalogDocument}

namespace Sample

def ownText : String := "id = \"7d2b5c4e-2f43-4c55-9a53-0b6f1b1d2e10\"
binary = \"bin/$KIND\"
[modes.run]
"

def movedText : String := "[programs]
tool = \"tool.toml\"
"

def tableText : String := "[programs.tool]
id = \"7d2b5c4e-2f43-4c55-9a53-0b6f1b1d2e10\"
binary = \"bin/$KIND\"
[programs.tool.modes.run]
"

/-- The program's file stands where the catalog file does. -/
def beside : Surroundings :=
  ⟨⟨[("KIND", "tool")], "/w", none⟩, fun path =>
    if path = "/w/conf/../tool.toml" then .ok ownText else .error .notUtf8⟩

def ownProgram : ProgramDocument :=
  ⟨some "7d2b5c4e-2f43-4c55-9a53-0b6f1b1d2e10", some "bin/$KIND", none, [],
    .ofList [("run", ⟨[], none, []⟩)]⟩

def tableDocument : CatalogDocument := ⟨.ofList [("tool", .inline ownProgram)]⟩

theorem own_read : ProgramDocument.read? ownText = some ownProgram := by
  have characters : Toml.read? ownText = _ := Toml.read?_of_toList String.toList_ofList
  rw [ProgramDocument.read?, characters]
  rfl

theorem table_read : CatalogDocument.read? tableText = some tableDocument := by
  have characters : Toml.read? tableText = _ := Toml.read?_of_toList String.toList_ofList
  rw [CatalogDocument.read?, characters]
  rfl

theorem moved_read :
    CatalogDocument.read? movedText = some (tableDocument.withFile "tool" "tool.toml") := by
  have characters : Toml.read? movedText = _ := Toml.read?_of_toList String.toList_ofList
  rw [CatalogDocument.read?, characters]
  rfl

theorem own_stored : HoldsProgram beside "conf/../cat.toml" "tool.toml" ownProgram := by
  have bare : IsBareName "tool.toml".toList :=
    ⟨⟨by decide, by decide⟩, by decide, by decide⟩
  exact ⟨bare, "/w/conf/../tool.toml", ownText, by decide, by simp [beside], own_read⟩

theorem beside_regular : IsNormal beside.environment.workingDirectory.toList := by
  have normal : IsNormal ('/' :: joinSegments [['w']]) :=
    .rooted fun w hw => List.mem_singleton.1 hw ▸ ⟨by decide, by decide⟩
  exact (by decide : "/w".toList = '/' :: joinSegments [['w']]) ▸ normal

theorem table_binaries : (ofText beside [0] tableText "conf/../cat.toml").toOption.map
    (fun c => c.programs.map (·.binary)) = some ["/w/conf/../bin/tool"] := by
  rw [ofText_of_read table_read]
  decide +kernel

end Sample

/-- A program that is written in the catalog file may as well stand in a file of its own beside the
catalog file. The current directory is in normal form, as the system gives it. -/
theorem own_file_loads_alike (regular : IsNormal s.environment.workingDirectory.toList)
    (written : document.programs.get? key = some (.inline d))
    (stored : HoldsProgram s origin file d) :
    (entry s (directoryText origin) key (.external file) =
        entry s (directoryText origin) key (.inline d) ∧
      ∀ err, entry s (directoryText origin) key (.inline d) = .error err →
        (∃ c, err = .catalog c) ∨ ∃ c, err = .path c) ∧
      ∀ order text text', CatalogDocument.read? text = some document →
        CatalogDocument.read? text' = some (document.withFile key file) →
          ofText s order text' origin = ofText s order text origin := by
  refine ⟨⟨entry_of_own_file regular stored, fun err failed => ?_⟩,
    fun order text text' read read' => ?_⟩
  · exact (program_error failed).imp_left fun ⟨c, same, _⟩ => ⟨c, same⟩
  · rw [ofText_of_read read, ofText_of_read read', ofDocument, ofDocument,
      definitions_of_own_file regular written stored]

theorem own_file_loads_sample :
    (entry Sample.beside (directoryText "conf/../cat.toml") "tool" (.external "tool.toml") =
        entry Sample.beside (directoryText "conf/../cat.toml") "tool" (.inline Sample.ownProgram)) ∧
      ofText Sample.beside [0] Sample.movedText "conf/../cat.toml" =
        ofText Sample.beside [0] Sample.tableText "conf/../cat.toml" ∧
      (ofText Sample.beside [0] Sample.tableText "conf/../cat.toml").toOption.map
        (fun c => c.programs.map (·.binary)) = some ["/w/conf/../bin/tool"] := by
  obtain ⟨⟨alike, -⟩, loads⟩ := @own_file_loads_alike _ _ _ "tool" _ Sample.tableDocument
    Sample.beside_regular rfl Sample.own_stored
  exact ⟨alike, loads [0] Sample.tableText Sample.movedText Sample.table_read Sample.moved_read,
    Sample.table_binaries⟩

end Catalog
end Launcher
