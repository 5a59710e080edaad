import Launcher.Proofs.Except
import Launcher.Proofs.Path.Anchoring
/-!
Where written paths lead. A path in full is absolute, and its names are those of the directory it is
seen from and then those of its own text. Dots are gone from it, except those that the working
directory has, and two dots are kept, so that it stays below the directory as far as the text
goes. -/
namespace Launcher.Path

/-- The segments that are not empty. One dot is a name like any other, and so are two. -/
def names (s : List Char) : List (List Char) := (segments s).filter fun w => w ≠ []

def withoutDots (ws : List (List Char)) : List (List Char) := ws.filter fun w => w ≠ ['.']

/-- The directory that relative paths are seen from: the root made absolute. The empty root is the
working directory. -/
def anchor (e : Environment) (root : String) : List Char :=
  (absolute? e.workingDirectory.toList root.toList).getD e.workingDirectory.toList

/-- The text refers to the variable and has no default for it. -/
def Needs (raw name : String) : Prop := .variable name.toList none ∈ pieces raw.toList

section Names

variable {base cwd s t w : List Char} {ws : List (List Char)}

theorem components_eq_names (s : List Char) : components s = withoutDots (names s) := by
  rw [components, withoutDots, names, List.filter_filter]
  refine List.filter_congr fun w _ => ?_
  rw [Bool.eq_iff_iff]
  simp [isVoid, and_comm]

theorem names_nil : names [] = [] := rfl

theorem names_append (a b : List Char) : names (a ++ '/' :: b) = names a ++ names b := by
  rw [names, segments_append, List.filter_append]
  rfl

theorem names_join (some_base : base ≠ []) (relative : isAbsolute s = false) :
    names (join base s) = names base ++ names s := by
  obtain ⟨front, joined, ⟨rfl, -⟩ | rfl⟩ := join_cases some_base relative
  · rw [joined, names_append]
  · rw [joined, names_append, names_append, names_nil, List.append_nil]

theorem IsComponent.names (h : IsComponent w) : names w = [w] := by
  rw [Path.names, segments_of_plain h.plain]
  simp [h.ne_nil]

theorem base_prefix_join (relative : isAbsolute s = false) : base <+: join base s := by
  rw [join, if_neg (by simp [relative])]
  split
  · exact List.prefix_append _ _
  · exact List.prefix_append _ _

theorem isAbsolute_of_base (front : base <+: s) (absolute : isAbsolute base = true) :
    isAbsolute s = true := by
  obtain ⟨rest, rfl⟩ := front
  cases base with
  | nil => cases absolute
  | cons c base => exact absolute

theorem base_prefix_extend (all : ∀ w ∈ ws, IsComponent w) : base <+: extend base ws := by
  induction ws generalizing base with
  | nil => exact List.prefix_rfl
  | cons w ws ih =>
    obtain ⟨first, rest⟩ := List.forall_mem_cons.1 all
    exact (base_prefix_join first.relative).trans (ih rest)

theorem names_extend (some_base : base ≠ []) (all : ∀ w ∈ ws, IsComponent w) :
    names (extend base ws) = names base ++ ws := by
  induction ws generalizing base with
  | nil => simp [extend]
  | cons w ws ih =>
    obtain ⟨first, rest⟩ := List.forall_mem_cons.1 all
    have joined : names (join base w) = names base ++ [w] := by
      rw [names_join some_base first.relative, first.names]
    have step : extend base (w :: ws) = extend (join base w) ws := rfl
    rw [step, ih (join_ne_nil some_base first.relative) rest, joined, List.append_assoc,
      List.singleton_append]

theorem origin_cases (cwd s : List Char) :
    (isAbsolute s = true ∧ isAbsolute (origin cwd s) = true ∧ names (origin cwd s) = []) ∨
      isAbsolute s = false ∧ origin cwd s = cwd := by
  have front : isAbsolute s = true ↔ s[0]? = some '/' := by
    rw [isAbsolute, List.head?_eq_getElem?, beq_iff_eq]
  rw [origin_eq]
  by_cases absolute : s[0]? = some '/'
  · rw [if_pos absolute]
    refine .inl ⟨front.2 absolute, ?_⟩
    split
    · exact ⟨rfl, rfl⟩
    · exact ⟨rfl, rfl⟩
  · rw [if_neg absolute]
    exact .inr ⟨by simpa using mt front.1 absolute, rfl⟩

theorem isAbsolute_place (absolute_cwd : isAbsolute cwd = true) :
    isAbsolute (place cwd s) = true := by
  have start : isAbsolute (origin cwd s) = true := by
    rcases origin_cases cwd s with ⟨-, absolute, -⟩ | ⟨-, same⟩
    · exact absolute
    · rw [same]
      exact absolute_cwd
  exact isAbsolute_of_base (base_prefix_extend fun w => IsComponent.of_mem_components) start

theorem ne_nil_of_isAbsolute (absolute : isAbsolute s = true) : s ≠ [] := by
  rintro rfl
  cases absolute

theorem names_place (absolute_cwd : isAbsolute cwd = true) (s : List Char) :
    names (place cwd s) = (if isAbsolute s then [] else names cwd) ++ components s := by
  have all : ∀ w ∈ components s, IsComponent w := fun w => IsComponent.of_mem_components
  rcases origin_cases cwd s with ⟨absolute, start, no_names⟩ | ⟨relative, same⟩
  · rw [place, names_extend (ne_nil_of_isAbsolute start) all, no_names, if_pos absolute]
  · rw [place, same, names_extend (ne_nil_of_isAbsolute absolute_cwd) all,
      if_neg (by simp [relative])]

/-- A slash at the end adds nothing to a path but itself. -/
theorem closed_path (path : List Char) (some_path : path ≠ []) (close : Bool) :
    path <+: (if close then join path [] else path) ∧
      names (if close then join path [] else path) = names path := by
  cases close with
  | false => exact ⟨List.prefix_rfl, rfl⟩
  | true =>
    have closed : names (join path []) = names path := by
      rw [names_join some_path rfl, names_nil, List.append_nil]
    have front : path <+: join path [] := base_prefix_join rfl
    simpa using And.intro front closed

/-- A text made absolute. -/
theorem absolute?_names (absolute_cwd : isAbsolute cwd = true) (h : absolute? cwd s = some t) :
    isAbsolute t = true ∧
      names t = (if isAbsolute s then [] else names cwd) ++ components s := by
  have some_text : s ≠ [] := by
    rintro rfl
    cases h
  have absolute : isAbsolute (place cwd s) = true := isAbsolute_place absolute_cwd
  rw [absolute?_eq_place some_text] at h
  obtain rfl := Option.some.inj h
  obtain ⟨front, same⟩ := closed_path _ (ne_nil_of_isAbsolute absolute) (endsWithSlash s)
  exact ⟨isAbsolute_of_base front absolute, same.trans (names_place absolute_cwd s)⟩

theorem absolute?_eq_none_iff : absolute? cwd s = none ↔ s = [] := by
  rw [absolute?]
  simp

end Names

section Anchor

variable {e : Environment} {root : String} {s : List Char}

theorem anchor_names (absolute_cwd : isAbsolute e.workingDirectory.toList = true) :
    isAbsolute (anchor e root) = true ∧ names (anchor e root) =
      (if isAbsolute root.toList then [] else names e.workingDirectory.toList) ++
        components root.toList := by
  rw [anchor]
  cases made : absolute? e.workingDirectory.toList root.toList with
  | some path => exact absolute?_names absolute_cwd made
  | none =>
    rw [absolute?_eq_none_iff.1 made]
    exact ⟨absolute_cwd, (List.append_nil _).symm⟩

theorem isAbsolute_join (relative : isAbsolute s = false) (base : List Char) :
    isAbsolute (join base s) = isAbsolute base := by
  cases base with
  | nil =>
    rw [join, if_neg (by simp [relative])]
    exact relative
  | cons c base =>
    have front : c :: base <+: join (c :: base) s := base_prefix_join relative
    obtain ⟨rest, joined⟩ := front
    rw [← joined]
    rfl

/-- A relative text seen from the root. -/
theorem joined_names (absolute_cwd : isAbsolute e.workingDirectory.toList = true)
    (relative : isAbsolute s = false) {path : List Char}
    (h : absolute? e.workingDirectory.toList (join root.toList s) = some path) :
    isAbsolute path = true ∧ names path = names (anchor e root) ++ components s := by
  obtain ⟨absolute, made⟩ := absolute?_names absolute_cwd h
  refine ⟨absolute, ?_⟩
  have parts : components (join root.toList s) = components root.toList ++ components s := by
    cases written : root.toList with
    | nil => simp [join, components, segments, isVoid]
    | cons c rest => exact components_join (List.cons_ne_nil c rest) relative
  rw [made, isAbsolute_join relative, parts, (anchor_names absolute_cwd).2, List.append_assoc]

end Anchor

section Failing

variable {e : Environment} {p : Piece} {ps : List Piece} {key : String}

theorem Piece.expand_eq_error_iff : p.expand e = .error key ↔
    p = .variable key.toList none ∧ e.get? key = none := by
  cases p with
  | char c => simp [Piece.expand]
  | «variable» name default =>
    constructor
    · intro failed
      cases value : e.get? (String.ofList name) with
      | some value => simp [Piece.expand, value] at failed
      | none =>
        cases default with
        | some default => simp [Piece.expand, value] at failed
        | none =>
          obtain rfl : String.ofList name = key := by simpa [Piece.expand, value] using failed
          exact ⟨by rw [String.toList_ofList], value⟩
    · rintro ⟨same, unset⟩
      obtain ⟨rfl, rfl⟩ := Piece.variable.inj same
      simp [Piece.expand, unset]

/-- The first variable that fails is the cause. -/
theorem expandPieces_error (failed : expandPieces e ps = .error key) :
    .variable key.toList none ∈ ps ∧ e.get? key = none := by
  induction ps with
  | nil => cases failed
  | cons p rest ih =>
    rw [expandPieces, bind_eq_error_iff] at failed
    rcases failed with here | ⟨_, -, failed⟩
    · obtain ⟨rfl, unset⟩ := Piece.expand_eq_error_iff.1 here
      exact ⟨List.mem_cons_self, unset⟩
    · rcases bind_eq_error_iff.1 failed with later | ⟨_, -, none⟩
      · obtain ⟨mem, unset⟩ := ih later
        exact ⟨List.mem_cons_of_mem _ mem, unset⟩
      · cases none

theorem expandPieces_fails (unset : e.get? key = none)
    (mem : .variable key.toList none ∈ ps) : ∃ cause, expandPieces e ps = .error cause := by
  induction ps with
  | nil => cases mem
  | cons p rest ih =>
    cases here : p.expand e with
    | error cause => exact ⟨cause, by rw [expandPieces, here]; rfl⟩
    | ok text =>
      have later : .variable key.toList none ∈ rest := by
        refine (List.mem_cons.1 mem).resolve_left fun same => ?_
        cases here.symm.trans (Piece.expand_eq_error_iff.2 ⟨same.symm, unset⟩)
      obtain ⟨cause, failed⟩ := ih later
      exact ⟨cause, by rw [expandPieces, here, failed]; rfl⟩

theorem expandText_error_iff {raw : List Char} :
    expandText e raw = .error key ↔ expandPieces e (pieces raw) = .error key := by
  rw [expandText, bind_eq_error_iff]
  constructor
  · rintro (failed | ⟨_, -, none⟩)
    · exact failed
    · cases none
  · exact .inl

end Failing

section Expand

variable {e : Environment} {root raw path : String} {text : List Char} {cause : PathError}

theorem expand_ok_cases (h : expand e root raw = .ok path) :
    ∃ text, expandText e raw.toList = .ok text ∧
      (isAbsolute text = true ∧ path.toList = text ∨ isAbsolute text = false ∧
        absolute? e.workingDirectory.toList (join root.toList text) = some path.toList) := by
  rw [expand] at h
  split at h
  · cases h
  next text expanded =>
    refine ⟨text, expanded, ?_⟩
    split at h
    next absolute =>
      obtain rfl := Except.ok.inj h
      exact .inl ⟨absolute, String.toList_ofList⟩
    next relative =>
      dsimp only at h
      split at h
      next made =>
        obtain rfl := Except.ok.inj h
        exact .inr ⟨by simpa using relative, by rw [made, String.toList_ofList]⟩
      next => cases h

/-- Nothing is left to make a path of. -/
theorem join_eq_nil_iff (relative : isAbsolute text = false) :
    join root.toList text = [] ↔ root = "" ∧ text = [] := by
  by_cases rootless : root = ""
  · simp [rootless, join]
  · have written : root.toList ≠ [] := by simpa using rootless
    simp [rootless, join_ne_nil written relative]

theorem expand_error_iff : expand e root raw = .error cause ↔
    (∃ key, expandPieces e (pieces raw.toList) = .error key ∧ cause = .expansion raw key) ∨
      root = "" ∧ expandText e raw.toList = .ok [] ∧ cause = .absolute "" := by
  rw [expand]
  cases expanded : expandText e raw.toList with
  | error key =>
    rw [expandText_error_iff] at expanded
    simp [expanded, eq_comm]
  | ok text =>
    have complete : ∀ key, expandPieces e (pieces raw.toList) ≠ .error key := by
      intro key failed
      cases expanded.symm.trans (expandText_error_iff.2 failed)
    cases absolute : isAbsolute text with
    | true =>
      have some_text : text ≠ [] := ne_nil_of_isAbsolute absolute
      simp [absolute, complete, some_text]
    | false =>
      have nothing : join root.toList text = [] ↔ root = "" ∧ text = [] :=
        join_eq_nil_iff absolute
      cases made : absolute? e.workingDirectory.toList (join root.toList text) with
      | none =>
        have empty := absolute?_eq_none_iff.1 made
        obtain ⟨rootless, textless⟩ := nothing.1 empty
        simp only [absolute, made]
        rw [empty]
        simp [complete, rootless, textless, eq_comm]
      | some path =>
        have some_path : ¬ (root = "" ∧ text = []) := by
          rw [← nothing, ← absolute?_eq_none_iff, made]
          exact Option.some_ne_none path
        simp only [absolute, made]
        simpa [complete] using fun rootless textless _ => some_path ⟨rootless, textless⟩

end Expand

/-- Where a written path leads. It is absolute. An absolute text leads where it says, and any other
below the root made absolute, with two dots kept and single dots gone. There is no path exactly if
the text needs a variable that is not set, or if the root and what the text comes to are both
empty. -/
theorem expand_leads_below_root {e : Environment}
    (absolute_cwd : isAbsolute e.workingDirectory.toList = true) (root raw : String) :
    (∀ path, expand e root raw = .ok path → isAbsolute path.toList = true ∧
      ∃ text, expandText e raw.toList = .ok text ∧
        (isAbsolute text = true → path = String.ofList text) ∧
        (isAbsolute text = false →
          names path.toList = names (anchor e root) ++ withoutDots (names text) ∧
            names (anchor e root) <+: names path.toList)) ∧
    (isAbsolute (anchor e root) = true ∧ names (anchor e root) =
      (if isAbsolute root.toList then [] else names e.workingDirectory.toList) ++
        withoutDots (names root.toList)) ∧
    (∀ cause, expand e root raw = .error cause →
      (∃ name, Needs raw name ∧ e.get? name = none ∧ cause = .expansion raw name) ∨
        root = "" ∧ expandText e raw.toList = .ok [] ∧ cause = .absolute "") ∧
    ((∃ name, Needs raw name ∧ e.get? name = none) ∨
      root = "" ∧ expandText e raw.toList = .ok [] → ∃ cause, expand e root raw = .error cause) := by
  refine ⟨fun path found => ?_, ?_, fun cause failed => ?_, ?_⟩
  · obtain ⟨text, expanded, ⟨absolute, same⟩ | ⟨relative, made⟩⟩ := expand_ok_cases found
    · refine ⟨same ▸ absolute, text, expanded, fun _ => ?_, fun relative => ?_⟩
      · rw [← same, String.ofList_toList]
      · cases relative.symm.trans absolute
    · obtain ⟨absolute, below⟩ := joined_names absolute_cwd relative made
      rw [components_eq_names] at below
      refine ⟨absolute, text, expanded, fun absolute => ?_, fun _ => ⟨below, ?_⟩⟩
      · cases relative.symm.trans absolute
      · rw [below]
        exact List.prefix_append _ _
  · rw [← components_eq_names]
    exact anchor_names absolute_cwd
  · rcases expand_error_iff.1 failed with ⟨name, unset, rfl⟩ | nothing
    · obtain ⟨needed, unset⟩ := expandPieces_error unset
      exact .inl ⟨name, needed, unset, rfl⟩
    · exact .inr nothing
  · rintro (⟨name, needed, unset⟩ | ⟨rootless, textless⟩)
    · obtain ⟨key, failed⟩ := expandPieces_fails unset needed
      exact ⟨_, expand_error_iff.2 (.inl ⟨key, failed, rfl⟩)⟩
    · exact ⟨_, expand_error_iff.2 (.inr ⟨rootless, textless, rfl⟩)⟩

namespace Sample

/-- The variable holds a relative path with a dot in it. -/
def work : Environment := ⟨[("PLACE", "conf/./sub")], "/work", some "/home/tester"⟩

end Sample

theorem expand_leads_sample :
    isAbsolute Sample.work.workingDirectory.toList = true ∧
      expand Sample.work "lib/." "$PLACE//../x/" = .ok "/work/lib/conf/sub/../x/" ∧
      names "/work/lib/conf/sub/../x/".toList = names (anchor Sample.work "lib/.") ++
        ["conf".toList, "sub".toList, "..".toList, "x".toList] ∧
      Needs "$OTHER" "OTHER" ∧ ∃ cause, expand Sample.work "lib/." "$OTHER" = .error cause := by
  have absolute_cwd : isAbsolute Sample.work.workingDirectory.toList = true := by decide
  have found : expand Sample.work "lib/." "$PLACE//../x/" = .ok "/work/lib/conf/sub/../x/" := by
    decide +kernel
  have written : expandText Sample.work "$PLACE//../x/".toList =
      .ok "conf/./sub//../x/".toList := by
    decide +kernel
  have needed : Needs "$OTHER" "OTHER" := by
    unfold Needs
    decide +kernel
  obtain ⟨leads, -⟩ := expand_leads_below_root absolute_cwd "lib/." "$PLACE//../x/"
  obtain ⟨-, -, -, fails⟩ := expand_leads_below_root absolute_cwd "lib/." "$OTHER"
  obtain ⟨-, text, expanded, -, below⟩ := leads _ found
  obtain rfl := Except.ok.inj (written.symm.trans expanded)
  refine ⟨absolute_cwd, found, ?_, needed, fails (.inl ⟨"OTHER", needed, by decide⟩)⟩
  exact (below (by decide)).1.trans (congrArg _ (by decide))

end Launcher.Path
