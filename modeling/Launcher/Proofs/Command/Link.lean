import Launcher.Command.DryRun
import Launcher.Proofs.Resolution.Discovery
/-!
The links of a chain, one by one. What a link comes to depends on the launches before it and on what
discovery answers; `plan` says what a whole chain comes to, for any way of resolving its links. -/
namespace Launcher.Command

section Link

variable {d : Discovery σ} {e : Discovery τ}

/-- What a link comes to depends neither on the palette nor on the world. -/
theorem resolveLink_agree (h : d.Agrees e) (p p' : Text.Palette) (catalog : Catalog)
    (earlier : List Launch) (link : ChainLink) (answers : List String) (world : σ) (other : τ) :
    (resolveLink p catalog d earlier link answers world).1.result =
      (resolveLink p' catalog e earlier link answers other).1.result := by
  unfold resolveLink
  cases catalog.target link.target with
  | error e => rfl
  | ok found =>
    obtain ⟨program, mode⟩ := found
    simp only [resolveMode]
    rw [resolveAsking_agree h program mode _ link.overrides answers world other]

theorem missingMatchNotice_eq (p : Text.Palette) (mode : Mode) {matched matched' : Option Launch}
    (h : matched.isSome = matched'.isSome) :
    missingMatchNotice p mode matched = missingMatchNotice p mode matched' := by
  cases matched with
  | none =>
    obtain rfl : matched' = none := by simpa using h
    rfl
  | some launch =>
    obtain ⟨other, rfl⟩ := Option.isSome_iff_exists.1 h.symm
    rfl

/-- What a mode comes to, notices included, depends on the matched launch only through the values
that the mode takes from it. -/
theorem resolveMode_alike {mode : Mode} {matched matched' : Option Launch} {world : σ} {other : τ}
    (h : d.AgreesFrom world e other) (same : Resolution.SameMatch mode matched matched')
    (p : Text.Palette) (program : Program) (overrides answers : List String) :
    d.Alike e (resolveMode p d program mode matched overrides answers world)
      (resolveMode p e program mode matched' overrides answers other) := by
  obtain ⟨asking, agrees⟩ := resolveAsking_alike h same program overrides answers
  refine ⟨?_, agrees⟩
  simp only [resolveMode]
  rw [asking, missingMatchNotice_eq p mode same.presence]

theorem resolveLink_of_target {catalog : Catalog} {link : ChainLink} {program : Program}
    {mode : Mode} (h : catalog.target link.target = .ok (program, mode)) (p : Text.Palette)
    (d : Discovery σ) (earlier : List Launch) (answers : List String) (world : σ) :
    resolveLink p catalog d earlier link answers world =
      resolveMode p d program mode (matchedLaunch earlier mode) link.overrides answers world := by
  simp only [resolveLink, h]

theorem resolveLink_keeps {f : σ → α} (h : d.Keeps f) (p : Text.Palette) (catalog : Catalog)
    (earlier : List Launch) (link : ChainLink) (answers : List String) (world : σ) :
    f (resolveLink p catalog d earlier link answers world).2 = f world := by
  unfold resolveLink
  cases catalog.target link.target with
  | error e => rfl
  | ok found => exact resolveAsking_keeps h found.1 found.2 _ link.overrides answers world

/-- Where nobody is asked, no answers are left. -/
theorem resolveLink_no_answers (p : Text.Palette) (catalog : Catalog) (d : Discovery σ)
    (earlier : List Launch) (link : ChainLink) (world : σ) :
    (resolveLink p catalog d earlier link [] world).1.answers = [] := by
  unfold resolveLink
  cases catalog.target link.target <;> rfl

end Link

/-- The launches of a chain after the earlier ones, or the error of the first link that has none. -/
def plan (resolves : List Launch → ChainLink → Except LinkError Launch) (earlier : List Launch) :
    List ChainLink → Except LinkError (List Launch)
  | [] => .ok earlier
  | link :: rest =>
    match resolves earlier link with
    | .error e => .error e
    | .ok launch => plan resolves (earlier ++ [launch]) rest

section Plan

variable {resolves : List Launch → ChainLink → Except LinkError Launch}
variable {earlier : List Launch} {links : List ChainLink}

theorem plan_append (first rest : List ChainLink) :
    plan resolves earlier (first ++ rest) =
      plan resolves earlier first >>= fun launches => plan resolves launches rest := by
  induction first generalizing earlier with
  | nil => rfl
  | cons link first ih =>
    simp only [List.cons_append, plan]
    cases resolves earlier link with
    | error e => rfl
    | ok launch => exact ih

theorem plan_error_of_take {k : Nat} {e : LinkError}
    (h : plan resolves earlier (links.take k) = .error e) :
    plan resolves earlier links = .error e := by
  rw [← List.take_append_drop k links, plan_append, h]
  rfl

/-- Where nobody is asked, a chain comes to what is planned for links that come to the same. -/
theorem resolveChain_plan {p : Text.Palette} {catalog : Catalog} {d : Discovery σ}
    (same : ∀ earlier link world,
      (resolveLink p catalog d earlier link [] world).1.result = resolves earlier link)
    (earlier : List Launch) (links : List ChainLink) (world : σ) :
    (resolveChain p catalog d earlier links [] world).1.result = plan resolves earlier links := by
  induction links generalizing earlier world with
  | nil => rfl
  | cons link rest ih =>
    simp only [resolveChain, plan, same, resolveLink_no_answers]
    cases resolves earlier link with
    | error e => rfl
    | ok launch => exact ih (earlier ++ [launch]) _

end Plan
end Launcher.Command
