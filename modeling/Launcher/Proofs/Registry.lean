import Launcher.Proofs.Except
import Launcher.Proofs.Index
import Launcher.Registry
/-!
Which selector answers after any calls that register selectors. The latest call for the pair that is
asked for counts, else the latest one for its type alone. A call therefore changes the answer for
its own pair and, if it is for a type alone, for those subtypes of the type that no call was for. -/
namespace Launcher

/-- A call that registers a selector. -/
structure Registration (σ : Type) where
  kind : String
  subtype : Option String
  selector : Selector σ

/-- The type and the subtype that the call is for. -/
def Registration.key (call : Registration σ) : String × Option String := (call.kind, call.subtype)

namespace Registry

/-- The registry after the calls, which are made in this order. -/
def ofCalls (calls : List (Registration σ)) : Registry σ :=
  calls.foldl (fun registry call => registry.register call.kind call.subtype call.selector) empty

/-- No call is for the pair. -/
def Lacks (calls : List (Registration σ)) (key : String × Option String) : Prop :=
  ∀ call ∈ calls, call.key ≠ key

/-- The selector of the latest call for the pair. -/
def IsLatest (calls : List (Registration σ)) (key : String × Option String)
    (selector : Selector σ) : Prop :=
  ∃ earlier later, calls = earlier ++ ⟨key.1, key.2, selector⟩ :: later ∧ Lacks later key

/-- What is answered for the pair after the calls, and the world after that. -/
inductive Answers (calls : List (Registration σ)) (kind : String) (subtype : Option String)
    (world : σ) : Option Candidates × σ → Prop
  | own {selector} : IsLatest calls (kind, subtype) selector →
      Answers calls kind subtype world (some (selector world).1, (selector world).2)
  | ofType {selector} : Lacks calls (kind, subtype) → IsLatest calls (kind, none) selector →
      Answers calls kind subtype world (some (selector world).1, (selector world).2)
  | nothing : Lacks calls (kind, subtype) → Lacks calls (kind, none) →
      Answers calls kind subtype world (none, world)

section Calls

variable {calls : List (Registration σ)} {call : Registration σ} {key : String × Option String}
variable {selector : Selector σ} {kind : String} {subtype : Option String} {world : σ}

theorem lookup_put (key k : String × Option String) (selector : Selector σ)
    (entries : List ((String × Option String) × Selector σ)) :
    (put key selector entries).lookup k = if k = key then some selector else entries.lookup k := by
  induction entries with
  | nil => exact lookup_entry key k selector []
  | cons head rest ih =>
    obtain ⟨k', s⟩ := head
    rw [put]
    split
    next same =>
      rw [lookup_entry, lookup_entry, same]
      by_cases asked : k = key
      · simp [asked]
      · simp [asked]
    next differs =>
      rw [lookup_entry, lookup_entry, ih]
      by_cases asked : k = key
      · simp [asked, Ne.symm differs]
      · simp [asked]

theorem own?_register (registry : Registry σ) (call : Registration σ) :
    (registry.register call.kind call.subtype call.selector).own? kind subtype =
      if (kind, subtype) = call.key then some call.selector else registry.own? kind subtype :=
  lookup_put _ _ _ _

theorem ofCalls_concat : ofCalls (calls ++ [call]) =
    (ofCalls calls).register call.kind call.subtype call.selector := by
  simp [ofCalls]

theorem lacks_concat : Lacks (calls ++ [call]) key ↔ Lacks calls key ∧ call.key ≠ key := by
  simp [Lacks, or_imp, forall_and]

theorem isLatest_concat : IsLatest (calls ++ [call]) key selector ↔
    (call.key = key ∧ call.selector = selector) ∨ call.key ≠ key ∧ IsLatest calls key selector := by
  constructor
  · rintro ⟨earlier, later, split, last⟩
    rcases concat_eq_split_iff.1 split with ⟨-, rfl, -⟩ | ⟨rest, rfl, rfl⟩
    · exact .inl ⟨rfl, rfl⟩
    · obtain ⟨last, other⟩ := lacks_concat.1 last
      exact .inr ⟨other, earlier, rest, rfl, last⟩
  · rintro (⟨rfl, rfl⟩ | ⟨other, earlier, later, rfl, last⟩)
    · exact ⟨calls, [], rfl, by simp [Lacks]⟩
    · exact ⟨earlier, later ++ [call], by simp, lacks_concat.2 ⟨last, other⟩⟩

/-- A pair has the selector of its latest call, and none without a call. -/
theorem own?_ofCalls :
    (∀ selector, (ofCalls calls).own? kind subtype = some selector ↔
      IsLatest calls (kind, subtype) selector) ∧
    ((ofCalls calls).own? kind subtype = none ↔ Lacks calls (kind, subtype)) := by
  induction calls using List.reverseRecOn with
  | nil => simp [ofCalls, own?, empty, IsLatest, Lacks]
  | append_singleton calls call ih =>
    simp only [ofCalls_concat, own?_register, isLatest_concat, lacks_concat]
    by_cases asked : (kind, subtype) = call.key
    · simp [asked]
    · simp [asked, Ne.symm asked, ih]

theorem own?_eq_some_iff :
    (ofCalls calls).own? kind subtype = some selector ↔ IsLatest calls (kind, subtype) selector :=
  own?_ofCalls.1 selector

theorem own?_eq_none_iff :
    (ofCalls calls).own? kind subtype = none ↔ Lacks calls (kind, subtype) := own?_ofCalls.2

theorem isRegistered_iff :
    (ofCalls calls).isRegistered kind subtype ↔ ∃ call ∈ calls, call.key = (kind, subtype) := by
  rw [isRegistered, Option.isSome_iff_ne_none, ne_eq, own?_eq_none_iff]
  simp [Lacks]

theorem candidatesFor_eq_iff {answer : Option Candidates × σ} :
    (ofCalls calls).candidatesFor kind subtype world = answer ↔
      Answers calls kind subtype world answer := by
  constructor
  · rintro rfl
    cases own : (ofCalls calls).own? kind subtype with
    | some selector =>
      rw [candidatesFor, selector?, own]
      exact .own (own?_eq_some_iff.1 own)
    | none =>
      cases ofType : (ofCalls calls).own? kind none with
      | some selector =>
        rw [candidatesFor, selector?, own, ofType]
        exact .ofType (own?_eq_none_iff.1 own) (own?_eq_some_iff.1 ofType)
      | none =>
        rw [candidatesFor, selector?, own, ofType]
        exact .nothing (own?_eq_none_iff.1 own) (own?_eq_none_iff.1 ofType)
  · rintro (latest | ⟨lacks, latest⟩ | ⟨lacks, none⟩)
    · simp [candidatesFor, selector?, own?_eq_some_iff.2 latest]
    · simp [candidatesFor, selector?, own?_eq_none_iff.2 lacks, own?_eq_some_iff.2 latest]
    · simp [candidatesFor, selector?, own?_eq_none_iff.2 lacks, own?_eq_none_iff.2 none]

/-- A call for a pair leaves every other pair its own selector. -/
theorem own?_of_other (other : call.key ≠ (kind, subtype)) :
    (ofCalls (calls ++ [call])).own? kind subtype = (ofCalls calls).own? kind subtype := by
  rw [ofCalls_concat, own?_register, if_neg (Ne.symm other)]

theorem candidatesFor_congr {registry other : Registry σ}
    (same : registry.selector? kind subtype = other.selector? kind subtype) :
    registry.candidatesFor kind subtype = other.candidatesFor kind subtype := by
  funext world
  rw [candidatesFor, candidatesFor, same]

/-- What a call changes besides its own pair are the subtypes that no call was for, of the type
that it is for. -/
theorem changed_by_call (other : call.key ≠ (kind, subtype))
    (changed : (ofCalls (calls ++ [call])).candidatesFor kind subtype ≠
      (ofCalls calls).candidatesFor kind subtype) :
    call.key = (kind, none) ∧ Lacks calls (kind, subtype) := by
  constructor
  · by_contra unrelated
    refine changed (candidatesFor_congr ?_)
    rw [selector?, selector?, own?_of_other other, own?_of_other unrelated]
  · by_contra served
    refine changed (candidatesFor_congr ?_)
    obtain ⟨selector, own⟩ := Option.ne_none_iff_exists'.1 (mt own?_eq_none_iff.1 served)
    rw [selector?, selector?, own?_of_other other, own]
    rfl

end Calls

/-- The answers of a registry after any calls. The selector of the latest call for the pair runs,
else that of the latest call for the type alone, else nothing is known. A call for one pair changes
the answer for another only if it is for that pair's type alone and no call was for the pair; the
empty subtype is a subtype. -/
theorem latest_call_answers (calls : List (Registration σ)) (kind : String)
    (subtype : Option String) :
    (∀ world answer, (ofCalls calls).candidatesFor kind subtype world = answer ↔
      Answers calls kind subtype world answer) ∧
    ((ofCalls calls).isRegistered kind subtype ↔ ∃ call ∈ calls, call.key = (kind, subtype)) ∧
    (∀ call, call.key ≠ (kind, subtype) →
      (ofCalls (calls ++ [call])).candidatesFor kind subtype ≠
        (ofCalls calls).candidatesFor kind subtype →
      call.kind = kind ∧ call.subtype = none ∧ (∃ own, subtype = some own) ∧
        Lacks calls (kind, subtype)) ∧
    ∀ selector, (ofCalls (calls ++ [⟨kind, some "", selector⟩])).candidatesFor kind none =
      (ofCalls calls).candidatesFor kind none := by
  refine ⟨fun _ _ => candidatesFor_eq_iff, isRegistered_iff, fun call other changed => ?_,
    fun selector => ?_⟩
  · obtain ⟨ofType, lacks⟩ := changed_by_call other changed
    obtain ⟨same_kind, no_subtype⟩ := Prod.mk.inj ofType
    refine ⟨same_kind, no_subtype, Option.ne_none_iff_exists'.1 ?_, lacks⟩
    rintro rfl
    exact other ofType
  · by_contra changed
    obtain ⟨ofType, -⟩ := changed_by_call (by simp [Registration.key]) changed
    simp [Registration.key] at ofType

namespace Sample

def warm : Registration Unit := ⟨"color", some "warm", fun world => (.list [.text "red"], world)⟩

def anyColor : Registration Unit := ⟨"color", none, fun world => (.list [.text "any"], world)⟩

end Sample

/-- Where no subtype but one has a selector, one for the type alone changes what is known about the
others. -/
theorem latest_call_answers_sample :
    (ofCalls [Sample.warm]).candidatesFor "color" (some "cold") () = (none, ()) ∧
      (ofCalls [Sample.warm, Sample.anyColor]).candidatesFor "color" (some "cold") () =
        (some (.list [.text "any"]), ()) ∧
      Lacks [Sample.warm] ("color", some "cold") := by
  obtain ⟨before, -, frame, -⟩ := latest_call_answers [Sample.warm] "color" (some "cold")
  obtain ⟨later, -⟩ := latest_call_answers [Sample.warm, Sample.anyColor] "color" (some "cold")
  have unknown : (ofCalls [Sample.warm]).candidatesFor "color" (some "cold") () = (none, ()) :=
    (before _ _).2 (.nothing (by simp [Lacks, Registration.key, Sample.warm])
      (by simp [Lacks, Registration.key, Sample.warm]))
  have known : (ofCalls [Sample.warm, Sample.anyColor]).candidatesFor "color" (some "cold") () =
      (some (.list [.text "any"]), ()) := by
    refine (later _ _).2 (.ofType ?_ ⟨[Sample.warm], [], rfl, ?_⟩)
    · simp [Lacks, Registration.key, Sample.warm]
    · simp [Lacks]
  refine ⟨unknown, known, (frame Sample.anyColor ?_ fun same => ?_).2.2.2⟩
  · simp [Registration.key, Sample.anyColor]
  · have answers := congrFun same ()
    rw [List.singleton_append, known, unknown] at answers
    cases answers

end Registry
end Launcher
