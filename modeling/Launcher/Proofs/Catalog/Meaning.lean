import Launcher.Proofs.Catalog.Consistency
import Launcher.Proofs.Catalog.Loading
/-!
A catalog that was loaded is what its documents say: one program for each entry, with the modes that
the program's document declares. The parameters of a mode are the common ones that it does not omit,
then its own, and those of its matched mode are the same list of that mode. -/
namespace Launcher

/-- The parameter is the one that the document declares. -/
structure ParameterDocument.Declares (d : ParameterDocument) (p : Parameter) : Prop where
  name_eq : p.name = d.name
  kind_eq : p.kind = d.kind
  subtype_eq : p.subtype = d.subtype
  default_eq : p.default = d.default
  optional_eq : p.optional = d.optional

namespace ProgramDocument

/-- What a mode takes: the common parameters except those with an omitted name, then all of its
own. -/
def taken (d : ProgramDocument) (mode : ModeDocument) : List ParameterDocument :=
  d.commonParameters.filter (fun q => q.name ∉ mode.omitted) ++ mode.parameters

/-- The mode is the one that its document declares. -/
structure DescribesMode (d : ProgramDocument) (mode : ModeDocument) (m : Mode) : Prop where
  parameters : List.Forall₂ ParameterDocument.Declares (d.taken mode) m.parameters
  matched_name : m.matched.map (·.name) = mode.parameterMatch
  /-- Names are matched that the other mode has after it took its common parameters. -/
  matched_iff : ∀ name, m.isMatched name = true ↔
    ∃ t other, mode.parameterMatch = some t ∧ d.modes.get? t = some other ∧
      name ∈ (d.taken other).map (·.name)

/-- The program is the one that its document declares under the key, in a file of the directory. -/
structure Describes (e : Environment) (root key : String) (d : ProgramDocument) (p : Program) :
    Prop where
  name_eq : p.name = key
  id_denoted : ∃ raw, d.id = some raw ∧ p.id.IsWritten (Text.trimChars raw.toList)
  binary_expanded : ∃ raw, d.binary = some raw ∧ Path.expand e root (Text.trim raw) = .ok p.binary
  mode_names : p.modes.map (·.name) = d.modes.keys
  modes : ∀ m ∈ p.modes, ∃ mode, d.modes.get? m.name = some mode ∧ d.DescribesMode mode m
  default_named : ∀ k, d.defaultMode = some k → ∃ m ∈ p.modes, m.name = k ∧ p.defaultMode = some m
  default_only : d.defaultMode = none → ∀ m, p.modes = [m] → p.defaultMode = some m
  default_none : d.defaultMode = none → p.modes.length ≠ 1 → p.defaultMode = none

end ProgramDocument

/-- The catalog has one program for each entry of the document, under its key. -/
structure CatalogDocument.Describes (s : Surroundings) (root : String) (d : CatalogDocument)
    (c : Catalog) : Prop where
  names : c.programs.map (·.name) = d.programs.keys
  programs : ∀ key e, d.programs.get? key = some e → ∃ program own p,
    Loading.document? s root e = some (program, own) ∧ c.find? key = some p ∧
      program.Describes s.environment own key p

namespace Loading

theorem mergedParameters_eq (d : ProgramDocument) (mode : ModeDocument) :
    mergedParameters (d.commonParameters.map parameter) mode = (d.taken mode).map parameter := by
  have kept : (d.commonParameters.map parameter).filter (fun p => !mode.omitted.contains p.name) =
      (d.commonParameters.filter fun q => q.name ∉ mode.omitted).map parameter := by
    rw [List.filter_map]
    congr 1
    refine List.filter_congr fun q _ => ?_
    simp only [List.contains_eq_mem, decide_not]
    rfl
  rw [mergedParameters, kept, ProgramDocument.taken, List.map_append]

theorem declares_parameters (ds : List ParameterDocument) :
    List.Forall₂ ParameterDocument.Declares ds (ds.map parameter) := by
  rw [List.forall₂_map_right_iff, List.forall₂_same]
  intro d _
  exact ⟨rfl, rfl, rfl, rfl, rfl⟩

theorem programId_eq_ok_iff {name : String} {raw : Option String} {id : ProgramId} :
    programId name raw = .ok id ↔
      ∃ text, raw = some text ∧ id.IsWritten (Text.trimChars text.toList) := by
  cases raw with
  | none => simp [programId]
  | some text =>
    simp only [programId, Option.some.injEq, exists_eq_left', ← ProgramId.parse?_eq_some_iff]
    cases ProgramId.parse? (Text.trimChars text.toList) <;> simp

theorem binary_eq_ok {e : Environment} {root name path : String} {raw : Option String}
    (h : binary e root name raw = .ok path) :
    ∃ text, raw = some text ∧ Path.expand e root (Text.trim text) = .ok path := by
  unfold binary at h
  cases raw with
  | none => cases h
  | some text =>
    dsimp only [Option.getD_some] at h
    split at h
    · cases h
    · exact ⟨text, rfl, mapError_eq_ok_iff.1 h⟩

section Modes

variable {e : Environment} {root key : String} {d : ProgramDocument}
variable {definition : ProgramDefinition} {known : Index ModeDefinition} {p : Program}

/-- A mode with what its document declares for it alone. -/
theorem Lowered.mode (lowered : Lowered e root key d definition)
    (linked : Program.Linked definition known p) {m : Mode} (hm : m ∈ p.modes) :
    ∃ mode, d.modes.get? m.name = some mode ∧ m.parameters = (d.taken mode).map parameter ∧
      m.matched.map (·.name) = mode.parameterMatch := by
  obtain ⟨declared, mem, name, parameters, matched⟩ := linked.declared hm
  rw [lowered.merged] at mem
  obtain ⟨⟨k, mode⟩, stored, rfl⟩ := List.mem_map.1 mem
  obtain rfl : k = m.name := name
  exact ⟨mode, Index.get?_of_mem stored, parameters.symm.trans (mergedParameters_eq d mode),
    matched.symm⟩

theorem Lowered.mode_names (lowered : Lowered e root key d definition)
    (linked : Program.Linked definition known p) : p.modes.map (·.name) = d.modes.keys := by
  have stored : p.modes.map (·.name) = p.modeIndex.keys := by
    rw [Program.modes, linked.modes]
    simp [Index.mapValues, Index.values, Index.keys, Program.linkMode]
  have declared : definition.modes.map (·.name) = d.modes.keys := by
    simp [lowered.merged, Index.keys]
  have same : (p.modes.map (·.name)).Perm d.modes.keys :=
    declared ▸ linked.isFormOf.modes_declared
  exact eq_of_ascending same (stored ▸ p.modeIndex.keys_ascending) d.modes.keys_ascending

theorem Lowered.describesMode (lowered : Lowered e root key d definition)
    (linked : Program.Linked definition known p) {m : Mode} (hm : m ∈ p.modes) :
    ∃ mode, d.modes.get? m.name = some mode ∧ d.DescribesMode mode m := by
  obtain ⟨mode, stored, parameters, reference⟩ := lowered.mode linked hm
  refine ⟨mode, stored, ?_, reference, fun name => ?_⟩
  · rw [parameters]
    exact declares_parameters _
  -- The other mode is one of the program, so its list is the merged one as well.
  have names {other : MatchedMode} (matched : m.matched = some other) :
      ∃ target, d.modes.get? other.name = some target ∧
        other.parameterNames = (d.taken target).map (·.name) := by
    obtain ⟨target, mem, same, copied⟩ := linked.matched_mode hm matched
    obtain ⟨document, found, declared, -⟩ := lowered.mode linked mem
    rw [same] at found
    refine ⟨document, found, ?_⟩
    rw [copied, declared, List.map_map]
    rfl
  rw [Mode.isMatched, Option.any_eq_true]
  constructor
  · rintro ⟨other, matched, mem⟩
    obtain ⟨target, found, listed⟩ := names matched
    refine ⟨other.name, target, ?_, found, ?_⟩
    · rw [← reference, matched]
      rfl
    · rw [← listed]
      simpa using mem
  · rintro ⟨t, target, named, found, mem⟩
    rw [← reference, Option.map_eq_some_iff] at named
    obtain ⟨other, matched, rfl⟩ := named
    obtain ⟨document, found', listed⟩ := names matched
    obtain rfl : target = document := Option.some.inj (found.symm.trans found')
    refine ⟨other, matched, ?_⟩
    rw [← listed] at mem
    simpa using mem

theorem Lowered.describes (lowered : Lowered e root key d definition)
    (linked : Program.Linked definition known p) : d.Describes e root key p := by
  have default := linked.defaultMode_cases
  rw [lowered.default] at default
  constructor
  · exact linked.name.trans lowered.keyed
  · exact linked.id ▸ programId_eq_ok_iff.1 lowered.identified
  · exact linked.binary ▸ binary_eq_ok lowered.located
  · exact lowered.mode_names linked
  · exact fun m => lowered.describesMode linked
  · intro k named
    rcases default with ⟨m, mem, name, chosen⟩ | ⟨unnamed, -⟩ | ⟨unnamed, -⟩
    · exact ⟨m, mem, Option.some.inj (name.symm.trans named), chosen⟩
    · cases unnamed.symm.trans named
    · cases unnamed.symm.trans named
  · intro unnamed m only
    exact linked.isFormOf.default_only m only
  · intro unnamed many
    rcases default with ⟨m, -, name, -⟩ | ⟨-, m, only, -⟩ | ⟨-, -, chosen⟩
    · cases unnamed.symm.trans name
    · exact absurd (by simp [only]) many
    · exact chosen

end Modes

end Loading

namespace Catalog

open Loading

variable {s : Surroundings} {order : List Nat} {text origin : String} {c : Catalog}

theorem names_of_built {ds : List ProgramDefinition} (h : build ds = .ok c)
    (ascending : (ds.map (·.name)).Pairwise (· < ·)) :
    c.programs.map (·.name) = ds.map (·.name) := by
  obtain ⟨ps, linked, held⟩ := build_holds h
  have same : ps.map (·.name) = ds.map (·.name) := by
    have forms := linked.imp fun d p h => (Program.isFormOf_of_link h).name_eq
    exact (List.forall₂_eq_eq_eq ▸ List.forall₂_map_left_iff.2 (List.forall₂_map_right_iff.2
      forms.flip) : ps.map (·.name) = ds.map (·.name))
  have perm := (held.programs_perm.trans ps.reverse_perm).map (·.name)
  rw [same] at perm
  exact eq_of_ascending perm (List.pairwise_map.2 held.programs_ascending) ascending

/-- Every program document of a catalog that was loaded describes a program in it. -/
theorem ofText_describes {document : CatalogDocument} (hd : CatalogDocument.read? text = some document)
    (accepted : ofText s order text origin = .ok c) {key : String} {e : ProgramEntry}
    (held : document.programs.get? key = some e) :
    ∃ d own p, document? s (Path.directoryText origin) e = some (d, own) ∧ c.find? key = some p ∧
      d.Describes s.environment own key p := by
  obtain ⟨d, own, definition, p, hdocument, lowered, hlink, hfind⟩ := ofText_finds hd accepted held
  obtain ⟨known, linked⟩ := Program.link_eq_ok_iff.1 hlink
  exact ⟨d, own, p, hdocument, hfind, lowered.describes linked⟩

namespace Sample

/-- A mode that omits a common parameter and declares one of that name itself, and a mode that is
matched with it. -/
def commonText : String := "[programs.net]
id = \" 7D2B5C4E2F434C559A530B6F1B1D2E10 \"
binary = \"bin/net\"
default-mode = \"dial\"
common-parameters = [
  \x7b name = \"-v\", type = \"literal\", optional = true \x7d,
  \x7b name = \"port\", type = \"ip-port\" \x7d ]
[programs.net.modes.dial]
parameter-match = \"serve\"
[programs.net.modes.serve]
omit = [\"-v\"]
parameters = [ \x7b name = \"-v\", type = \"text\", default = 3 \x7d ]
"

def commonCatalog : Catalog := (ofText around [0] commonText "/cat.toml").toOption.getD .empty

set_option maxRecDepth 4000 in
theorem common_kinds : (commonCatalog.find? "net").map (fun p => p.modes.map fun m =>
    (m.name, m.parameters.map (·.kind))) =
      some [("dial", ["literal", "ip-port"]), ("serve", ["ip-port", "text"])] := by
  have characters : Toml.read? commonText = _ := Toml.read?_of_toList String.toList_ofList
  unfold commonCatalog
  rw [ofText, CatalogDocument.read?, characters]
  decide +kernel

theorem common_loaded : ofText around [0] commonText "/cat.toml" = .ok commonCatalog := by
  refine eq_ok_of_getD_ne fun nothing => ?_
  have kinds := common_kinds
  rw [commonCatalog, nothing] at kinds
  cases kinds

end Sample

/-- A catalog that was loaded is what its document describes. -/
theorem loaded_as_described (accepted : ofText s order text origin = .ok c) :
    ∃ document, CatalogDocument.read? text = some document ∧
      document.Describes s (Path.directoryText origin) c := by
  cases hd : CatalogDocument.read? text with
  | none => simp [ofText, hd] at accepted
  | some document =>
    refine ⟨document, rfl, ?_, fun key e => ofText_describes hd accepted⟩
    obtain ⟨definitions, built, all⟩ := (ofText_eq_ok_iff hd).1 accepted
    have names : definitions.map (·.name) = document.programs.keys := names_of_entries all
    rw [names_of_built built (names ▸ document.programs.keys_ascending), names]

theorem loaded_as_described_sample :
    ofText Sample.around [0] Sample.commonText "/cat.toml" = .ok Sample.commonCatalog ∧
      (∃ document, CatalogDocument.read? Sample.commonText = some document ∧
        document.Describes Sample.around (Path.directoryText "/cat.toml") Sample.commonCatalog) ∧
      (Sample.commonCatalog.find? "net").map (fun p => p.modes.map fun m =>
        (m.name, m.parameters.map (·.kind))) =
          some [("dial", ["literal", "ip-port"]), ("serve", ["ip-port", "text"])] :=
  ⟨Sample.common_loaded, loaded_as_described Sample.common_loaded, Sample.common_kinds⟩

end Catalog
end Launcher
