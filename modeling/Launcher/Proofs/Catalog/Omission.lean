import Launcher.Proofs.Catalog.Loading
import Mathlib.Data.List.Nodup
/-!
Which common parameters a mode takes. An omitted name is checked against the first common parameter
that has it, but every one that has it is dropped; a name that is left twice is refused later. -/
namespace Launcher

namespace Loading

/-- The first common parameter of the same name is optional. -/
def IsBehindOptional (common : List Parameter) (q : Parameter) : Prop :=
  ∃ first, (common.find? fun p => p.name == q.name) = some first ∧ first.optional

variable {program mode : String} {common : List Parameter} {d : ModeDocument} {q : Parameter}

theorem mem_mergedParameters_iff : q ∈ mergedParameters common d ↔
    q ∈ common ∧ q.name ∉ d.omitted ∨ q ∈ d.parameters.map parameter := by
  simp [mergedParameters]

theorem behind_optional_of_omitted
    (checked : checkOmitted program mode common d.omitted = .ok ()) (h : q.name ∈ d.omitted) :
    IsBehindOptional common q :=
  checkOmitted_eq_ok_iff.1 checked q.name h

/-- Two common parameters of one name would both be taken, and the mode be refused. -/
theorem omitted_of_behind_optional (distinct : ((mergedParameters common d).map (·.name)).Nodup)
    (declared : q ∈ common) (required : q.optional = false) (h : IsBehindOptional common q) :
    q.name ∈ d.omitted := by
  obtain ⟨first, hfirst, optional⟩ := h
  have same : first.name = q.name := by simpa using List.find?_some hfirst
  by_contra kept
  have mem : q ∈ mergedParameters common d := mem_mergedParameters_iff.2 (.inl ⟨declared, kept⟩)
  have memFirst : first ∈ mergedParameters common d :=
    mem_mergedParameters_iff.2 (.inl ⟨List.mem_of_find?_eq_some hfirst, same ▸ kept⟩)
  obtain rfl := List.inj_on_of_nodup_map distinct memFirst mem same
  simp [required] at optional

theorem required_missing_iff (checked : checkOmitted program mode common d.omitted = .ok ())
    (distinct : ((mergedParameters common d).map (·.name)).Nodup) (declared : q ∈ common)
    (required : q.optional = false) : q ∉ mergedParameters common d ↔
      IsBehindOptional common q ∧ q ∉ d.parameters.map parameter := by
  rw [mem_mergedParameters_iff]
  constructor
  · intro h
    have omitted : q.name ∈ d.omitted := by
      by_contra kept
      exact h (.inl ⟨declared, kept⟩)
    exact ⟨behind_optional_of_omitted checked omitted, fun own => h (.inr own)⟩
  · rintro ⟨behind, own⟩ (⟨-, kept⟩ | taken)
    · exact kept (omitted_of_behind_optional distinct declared required behind)
    · exact own taken

end Loading

namespace Catalog

open Loading

variable {s : Surroundings} {order : List Nat} {text origin : String} {c : Catalog}

/-- A mode of the program lacks a required common parameter of its document exactly when the first
common parameter of that name is optional and the mode does not declare the required one itself. -/
def LacksOnlyBehindOptional (d : ProgramDocument) (p : Program) : Prop :=
  ∀ k m, p.mode? k = some m → ∃ mode, d.modes.get? k = some mode ∧
    ∀ q ∈ d.commonParameters.map parameter, q.optional = false →
      (q ∉ m.parameters ↔ IsBehindOptional (d.commonParameters.map parameter) q ∧
        q ∉ mode.parameters.map parameter)

theorem lacks_only_behind_optional {d : ProgramDocument} {root key : String}
    {definition : ProgramDefinition} {p : Program}
    (lowered : Lowered s.environment root key d definition)
    (hlink : Program.link definition = .ok p) : LacksOnlyBehindOptional d p := by
  intro k m hm
  obtain ⟨known, linked⟩ := Program.link_eq_ok_iff.1 hlink
  rw [linked.mode?, lowered.merged] at hm
  obtain ⟨found, hfound, rfl⟩ := Option.map_eq_some_iff.1 hm
  obtain ⟨⟨name, mode⟩, hmode, rfl⟩ := List.mem_map.1 (List.mem_of_find?_eq_some hfound)
  obtain rfl : name = k := by simpa using List.find?_some hfound
  refine ⟨mode, Index.get?_of_mem hmode, fun q hq required => ?_⟩
  have distinct := linked.distinct (lowered.merged ▸ List.mem_map_of_mem hmode)
  exact required_missing_iff (lowered.omissible _ hmode) distinct hq required

/-- Every program document of a catalog that was loaded is that of a program in it, whose modes lack
a required common parameter only behind an optional one of its name. -/
theorem loaded_lacks_required_iff (accepted : ofText s order text origin = .ok c) :
    ∃ document, CatalogDocument.read? text = some document ∧
      ∀ key e, document.programs.get? key = some e → ∃ d root p,
        document? s (Path.directoryText origin) e = some (d, root) ∧ c.find? key = some p ∧
          LacksOnlyBehindOptional d p := by
  cases hd : CatalogDocument.read? text with
  | none => simp [ofText, hd] at accepted
  | some document =>
    refine ⟨document, rfl, fun key e he => ?_⟩
    obtain ⟨d, root, definition, p, hdocument, lowered, hlink, hfind⟩ := ofText_finds hd accepted he
    exact ⟨d, root, p, hdocument, hfind, lacks_only_behind_optional lowered hlink⟩

end Catalog

namespace Catalog.Sample

open Loading

/-- The required parameter is declared behind an optional one of its name. -/
def text : String := "[programs.tool]
id = \"7d2b5c4e-2f43-4c55-9a53-0b6f1b1d2e10\"
binary = \"bin/tool\"
common-parameters = [ \x7b name = \"x\", type = \"text\", optional = true \x7d, " ++
  "\x7b name = \"x\", type = \"text\" \x7d ]
[programs.tool.modes.run]
omit = [\"x\"]
"

/-- The common parameters as the text declares them. -/
def declared : Option (List Parameter) := do
  let document ← CatalogDocument.read? text
  let e ← document.programs.get? "tool"
  let (d, _) ← document? around "/" e
  return d.commonParameters.map parameter

/-- What the mode of the loaded catalog takes. -/
def taken : Option (List Parameter) := do
  let c ← (ofText around [0] text "/catalog.toml").toOption
  let p ← c.find? "tool"
  let m ← p.mode? "run"
  return m.parameters

def textDocument : CatalogDocument :=
  ⟨.ofList [("tool", .inline
    ⟨some "7d2b5c4e-2f43-4c55-9a53-0b6f1b1d2e10", some "bin/tool", none,
      [⟨"x", "text", none, none, true⟩, ⟨"x", "text", none, none, false⟩],
      .ofList [("run", ⟨[], none, ["x"]⟩)]⟩)]⟩

set_option maxRecDepth 4000 in
theorem text_read : CatalogDocument.read? text = some textDocument := by
  have characters : Toml.read? text = _ := Toml.read?_of_toList (String.toList_append.trans
    (congrArg₂ (· ++ ·) String.toList_ofList String.toList_ofList))
  rw [CatalogDocument.read?, characters]
  rfl

theorem declared_and_taken :
    declared = some [⟨"x", "text", none, none, true⟩, ⟨"x", "text", none, none, false⟩] ∧
      taken = some [] := by
  simp only [declared, taken, ofText_of_read text_read, text_read]
  decide +kernel

theorem text_accepted : ∃ c p m, ofText around [0] text "/catalog.toml" = .ok c ∧
    c.find? "tool" = some p ∧ p.mode? "run" = some m ∧ m.parameters = [] := by
  have h := declared_and_taken.2
  simp only [taken, Option.bind_eq_bind, Option.bind_eq_some_iff] at h
  obtain ⟨c, hc, p, hp, m, hm, h⟩ := h
  exact ⟨c, p, m, toOption_eq_some_iff.1 hc, hp, hm, Option.some.inj h⟩

theorem counterexample_required_behind_optional : ∃ document e d root c p m,
    CatalogDocument.read? text = some document ∧ document.programs.get? "tool" = some e ∧
      document? around "/" e = some (d, root) ∧ ofText around [0] text "/catalog.toml" = .ok c ∧
        c.find? "tool" = some p ∧ p.mode? "run" = some m ∧
          ∃ q ∈ d.commonParameters.map parameter, q.optional = false ∧ q ∉ m.parameters := by
  have h := declared_and_taken.1
  simp only [declared, Option.bind_eq_bind, Option.bind_eq_some_iff] at h
  obtain ⟨document, hd, e, he, ⟨d, root⟩, hdocument, h⟩ := h
  obtain ⟨c, p, m, hc, hp, hm, none⟩ := text_accepted
  refine ⟨document, e, d, root, c, p, m, hd, he, hdocument, hc, hp, hm,
    ⟨"x", "text", .none, .none, false⟩, ?_, rfl, by simp [none]⟩
  simp [Option.some.inj h]

theorem sample_lacks_required : ∃ c, ofText around [0] text "/catalog.toml" = .ok c ∧
    ∃ document, CatalogDocument.read? text = some document ∧
      ∀ key e, document.programs.get? key = some e → ∃ d root p,
        document? around (Path.directoryText "/catalog.toml") e = some (d, root) ∧
          c.find? key = some p ∧ LacksOnlyBehindOptional d p := by
  obtain ⟨c, _, _, accepted, -⟩ := text_accepted
  exact ⟨c, accepted, loaded_lacks_required_iff accepted⟩

end Catalog.Sample
end Launcher
