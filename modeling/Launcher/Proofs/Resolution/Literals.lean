import Launcher.Proofs.Catalog.Consistency
import Launcher.Proofs.Resolution.Stages
/-!
The texts of literals. The value of a matched launch comes before the name of a literal, so a
literal has another text than its name where the launch recorded one under this name. Which launches
can do so is a matter of all parameters of this name in the catalog. -/
namespace Launcher

/-- The launches that there can be: each is a resolved mode of the catalog, matched with none or
with one of them, whatever is registered at the time. -/
inductive Catalog.Yields (c : Catalog) : Launch → Prop
  | resolved {σ : Type} {registry : Registry σ} {p m matched overrides world launch} :
      p ∈ c.programs → m ∈ p.modes → (∀ earlier, matched = some earlier → Yields c earlier) →
      (resolve registry.discovery p m matched overrides world).1.result = .ok launch →
      Yields c launch

theorem Catalog.Yields.of_unmatched {c : Catalog} {registry : Registry σ} {p : Program} {m : Mode}
    {overrides : List String} {world : σ} {launch : Launch} (mem : p ∈ c.programs)
    (mode_mem : m ∈ p.modes)
    (launched : (resolve registry.discovery p m none overrides world).1.result = .ok launch) :
    c.Yields launch := by
  refine .resolved mem mode_mem ?_ launched
  intro _ there
  cases there

/-- Where nothing is matched, the text is the parameter's name and takes no override. -/
def Parameter.GivesName (p : Parameter) : Prop :=
  match p.default with
  | some value => value.render = p.name
  | none => p.isLiteral = true

instance (p : Parameter) : Decidable p.GivesName :=
  match default : p.default with
  | some value =>
    decidable_of_iff (value.render = p.name) (by simp [Parameter.GivesName, default])
  | none => decidable_of_iff (p.isLiteral = true) (by simp [Parameter.GivesName, default])

/-- All parameters of this name are given it. -/
def Catalog.KeepsName (c : Catalog) (name : String) : Prop :=
  ∀ p ∈ c.programs, ∀ m ∈ p.modes, ∀ q ∈ m.parameters, q.name = name → q.GivesName

instance (c : Catalog) (name : String) : Decidable (c.KeepsName name) :=
  inferInstanceAs (Decidable (∀ p ∈ c.programs, ∀ m ∈ p.modes, ∀ q ∈ m.parameters,
    q.name = name → q.GivesName))

namespace Resolution

section Fixed

variable {d : Discovery σ} {program : Program} {mode : Mode} {matched : Option Launch}
variable {q : Parameter} {overrides : List String} {world : σ} {launch : Launch} {i : Nat}

/-- A parameter with a fixed value has the text of it in every launch, and takes no override. -/
theorem argument_of_fixed {value : Value} (hq : mode.parameters[i]? = some q)
    (fixed : fixedValue mode matched q = some value)
    (h : (resolve d program mode matched overrides world).1.result = .ok launch) :
    launch.arguments[i]? = some value.render ∧ ∃ texts left,
      GetsPast d mode matched overrides world i texts left ∧
      GetsPast d mode matched overrides world (i + 1) (texts ++ [value.render]) left := by
  have inside : i < mode.parameters.length := (List.getElem?_eq_some_iff.1 hq).1
  obtain ⟨left, before⟩ := getsPast_of_ok (Nat.le_of_lt inside) h
  obtain ⟨left', through⟩ := getsPast_of_ok inside h
  have next := before.next_fixed hq fixed
  have texts := (through.unique next).1
  rw [List.take_add_one] at texts
  have here : launch.arguments[i]?.toList = [value.render] := List.append_cancel_left texts
  refine ⟨?_, _, left, before, next⟩
  cases argument : launch.arguments[i]? with
  | none => simp [argument] at here
  | some text => simpa [argument] using here

theorem fixedValue_of_givesName (h : q.GivesName) (mode : Mode) (matched : Option Launch) :
    ∃ value, fixedValue mode matched q = some value ∧
      value.render = (matchedValue mode matched q).getD q.name := by
  cases taken : matchedValue mode matched q with
  | some text => exact ⟨.text text, fixedValue_of_matched taken, rfl⟩
  | none =>
    unfold Parameter.GivesName at h
    cases default : q.default with
    | some value =>
      rw [default] at h
      exact ⟨value, by simp [fixedValue, ownValue, taken, default], h⟩
    | none =>
      rw [default] at h
      exact ⟨.text q.name, by simp [fixedValue, ownValue, taken, default, h], rfl⟩

theorem argument_of_givesName (hq : mode.parameters[i]? = some q) (gives : q.GivesName)
    (h : (resolve d program mode matched overrides world).1.result = .ok launch) :
    launch.arguments[i]? = some ((matchedValue mode matched q).getD q.name) ∧ ∃ texts left,
      GetsPast d mode matched overrides world i texts left ∧
      GetsPast d mode matched overrides world (i + 1)
        (texts ++ [(matchedValue mode matched q).getD q.name]) left := by
  obtain ⟨value, fixed, rendered⟩ := fixedValue_of_givesName gives mode matched
  rw [← rendered]
  exact argument_of_fixed hq fixed h

theorem exists_launch (program : Program) (mode : Mode) (matched : Option Launch) (text : String) :
    ∃ launch, (resolve (Registry.empty.discovery : Discovery Unit) program mode matched
        (List.replicate mode.parameters.length text) ()).1.result = .ok launch ∧
      ∀ (i : Nat) q, mode.parameters[i]? = some q → ∃ own k, launch.arguments[i]? = some own ∧
        Gets (Registry.empty.discovery : Discovery Unit) mode matched
          (List.replicate mode.parameters.length text) () k q own := by
  have stable : (Registry.empty.discovery : Discovery Unit).IsStable :=
    Registry.IsStable.discovery nofun
  have enough : mode.parameters.countP
      (IsFree (Registry.empty.discovery : Discovery Unit) mode matched ()) ≤
        (List.replicate mode.parameters.length text).length := by
    simpa using List.countP_le_length
  obtain ⟨launch, launched, -, gets⟩ := resolve_enough stable program enough
  refine ⟨launch, launched, fun i q hq => ?_⟩
  obtain ⟨own, argument, gets⟩ := gets i q hq
  exact ⟨own, _, argument, gets⟩

/-- Where nothing is registered or matched, other texts are overrides and defaults. -/
theorem gets_undiscovered {own : String} {k : Nat} (other : ¬ q.GivesName)
    (gets : Gets (Registry.empty.discovery : Discovery σ) mode none overrides world k q own) :
    own ∈ overrides ∨ ∃ value, q.default = some value ∧ own = value.render := by
  cases gets with
  | matched _ there => cases there
  | default _ default => exact .inr ⟨_, default, rfl⟩
  | candidate _ no_default found =>
    -- Only a literal has a candidate.
    have plain : q.isLiteral = false := by
      simpa [Parameter.GivesName, no_default] using other
    simp [Parameter.candidates, plain, Registry.discovery, Registry.candidatesFor,
      Registry.selector?, Registry.own?, Registry.empty] at found
  | override _ given => exact .inl (List.mem_of_getElem? given)

end Fixed

section Names

variable {ds : List ProgramDefinition} {c : Catalog} {p : Program} {m : Mode} {q : Parameter}
variable {name : String} {launch : Launch} (consistent : Catalog.IsConsistent ds c)
include consistent

theorem yields_keeps_name (keeps : c.KeepsName name) (yielded : c.Yields launch) {text : String}
    (named : launch.parameter? name = some text) : text = name := by
  induction yielded generalizing text with
  | resolved mem mode_mem _ launched ih =>
    obtain ⟨-, rfl, recorded⟩ :=
      resolve_isRecord (consistent.parameters_differ mem mode_mem) launched
    obtain ⟨i, q, hq, rfl, argument⟩ := recorded.of_parameter? named
    have gives := keeps _ mem _ mode_mem q (List.mem_of_getElem? hq) rfl
    obtain rfl := Option.some.inj
      (argument.symm.trans (argument_of_givesName hq gives launched).1)
    -- The text is the name, or was matched with a launch that has the name itself.
    cases taken : matchedValue _ _ q with
    | none => rfl
    | some text =>
      obtain ⟨earlier, there, recorded⟩ := matchedValue_eq_some taken
      exact ih earlier there recorded

theorem exists_other_text (mem : p ∈ c.programs) (mode_mem : m ∈ p.modes)
    (hq : q ∈ m.parameters) (other : ¬ q.GivesName) :
    ∃ launch text, c.Yields launch ∧ launch.parameter? q.name = some text ∧ text ≠ q.name := by
  obtain ⟨launch, launched, texts⟩ := exists_launch p m none (q.name ++ "*")
  obtain ⟨i, hi⟩ := List.getElem?_of_mem hq
  obtain ⟨text, k, argument, gets⟩ := texts i q hi
  obtain ⟨-, rfl, recorded⟩ :=
    resolve_isRecord (consistent.parameters_differ mem mode_mem) launched
  obtain ⟨text', argument', named⟩ := recorded.agree i q hi
  obtain rfl := Option.some.inj (argument.symm.trans argument')
  refine ⟨launch, text, .of_unmatched mem mode_mem launched, named, ?_⟩
  rcases gets_undiscovered other gets with given | ⟨value, default, rfl⟩
  · obtain rfl := List.eq_of_mem_replicate given
    intro same
    have length := congrArg String.length same
    simp at length
  · simpa [Parameter.GivesName, default] using other

theorem matched_keeps_name {matched : Option Launch}
    (kept : m.isUnmatched q.name = true ∨ c.KeepsName q.name)
    (yielded : ∀ earlier, matched = some earlier → c.Yields earlier) :
    (matchedValue m matched q).getD q.name = q.name := by
  cases taken : matchedValue m matched q with
  | none => rfl
  | some text =>
    rcases kept with left_out | keeps
    · simp [matchedValue, left_out] at taken
    · obtain ⟨earlier, there, recorded⟩ := matchedValue_eq_some taken
      exact yields_keeps_name consistent keeps (yielded earlier there) recorded

/-- Another text of the name comes first, if the mode takes it. -/
theorem exists_replaced {i : Nat} (hq : m.parameters[i]? = some q) (gives : q.GivesName)
    (taken : m.isUnmatched q.name = false) (other : ¬ c.KeepsName q.name) (p : Program) :
    ∃ earlier overrides launch, c.Yields earlier ∧
      (resolve (Registry.empty.discovery : Discovery Unit) p m (some earlier) overrides
        ()).1.result = .ok launch ∧
      launch.arguments[i]? ≠ some q.name := by
  have other : ∃ p ∈ c.programs, ∃ m ∈ p.modes, ∃ r ∈ m.parameters,
      r.name = q.name ∧ ¬ r.GivesName := by
    simpa [Catalog.KeepsName] using other
  obtain ⟨p', mem, m', mode_mem, r, hr, name, other⟩ := other
  obtain ⟨earlier, text, yielded, recorded, differs⟩ :=
    exists_other_text consistent mem mode_mem hr other
  rw [name] at recorded differs
  obtain ⟨launch, launched, -⟩ := exists_launch p m (some earlier) q.name
  have matched : matchedValue m (some earlier) q = some text := by
    simp [matchedValue, taken, recorded]
  have argument := (argument_of_givesName hq gives launched).1
  rw [matched, Option.getD_some] at argument
  refine ⟨earlier, _, launch, yielded, launched, ?_⟩
  rw [argument]
  exact fun same => differs (Option.some.inj same)

end Names

namespace Sample

/-- A client has a flag, where the server has a free text of the same name; the tool has a flag that
is nowhere else. -/
def flagged : List ProgramDefinition :=
  [⟨"net", ⟨1⟩, "/bin/net",
      [⟨"serve", [⟨"-v", "text", none, none, false⟩], none⟩,
        ⟨"dial", [.literal "-v"], some "serve"⟩], none⟩,
    ⟨"tool", ⟨2⟩, "/bin/tool", [⟨"run", [.literal "-q"], none⟩], none⟩]

def flaggedCatalog : Catalog := (Catalog.build flagged).toOption.getD .empty

theorem flagged_built : Catalog.build flagged = .ok flaggedCatalog :=
  eq_ok_of_isSome .empty (by decide)

def serving : Mode := ⟨⟨1⟩, "net", "serve", [⟨"-v", "text", none, none, false⟩], none⟩

def dialling : Mode := ⟨⟨1⟩, "net", "dial", [.literal "-v"], some ⟨"serve", ["-v"]⟩⟩

def net : Program :=
  ⟨"net", ⟨1⟩, "/bin/net", .ofList [("dial", dialling), ("serve", serving)], none⟩

def quiet : Launch := .ofArguments net serving ["quiet"]

/-- Other flags are known, which a literal does not see. -/
def flags : Registry Nat :=
  Registry.empty.register "literal" none fun calls => (.list [.text "--loud"], calls + 1)

theorem quiet_yielded : flaggedCatalog.Yields quiet := by
  have served : (resolve flags.discovery net serving none ["quiet"] 0).1.result = .ok quiet := rfl
  exact .of_unmatched List.mem_cons_self (List.mem_cons_of_mem _ List.mem_cons_self) served

end Sample

end Resolution
end Launcher
