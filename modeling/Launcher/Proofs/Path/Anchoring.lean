import Launcher.Path.Expansion
import Mathlib.Data.List.DropRight
/-!
What a relative path is seen from. Only the place counts that the directory's text stands for: two
texts of one place give every written path the same meaning, and the directory of a file is again
the place that the file's name was joined to. -/
namespace Launcher.Path

/-- A segment of a path in normal form. Two dots are one. -/
structure IsComponent (w : List Char) : Prop where
  solid : isVoid w = false
  plain : '/' ∉ w

/-- An absolute path with single slashes between its components and none at its end. A second slash
in front stands before a component. -/
inductive IsNormal : List Char → Prop
  | rooted {ws} : (∀ w ∈ ws, IsComponent w) → IsNormal ('/' :: joinSegments ws)
  | doubled {ws} : (∀ w ∈ ws, IsComponent w) → ws ≠ [] → IsNormal ('/' :: '/' :: joinSegments ws)

/-- The absolute path in normal form that a text stands for, whether or not it ends with a slash. -/
def place (workingDirectory s : List Char) : List Char :=
  extend (origin workingDirectory s) (components s)

theorem absolute?_eq_place {cwd s : List Char} (some_text : s ≠ []) : absolute? cwd s =
    some (if endsWithSlash s then join (place cwd s) [] else place cwd s) := by
  rw [absolute?, if_neg (by simpa using some_text)]
  rfl

section Segments

variable {a b s w : List Char} {ws : List (List Char)}

theorem segments_ne_nil (s : List Char) : segments s ≠ [] := by
  cases s with
  | nil => simp [segments]
  | cons c s =>
    rw [segments]
    split
    · simp
    · split <;> simp

theorem segments_cons {c : Char} (plain : c ≠ '/') (cut : segments s = w :: ws) :
    segments (c :: s) = (c :: w) :: ws := by
  rw [segments, if_neg plain, cut]

/-- A slash separates the segments before it from those after it. -/
theorem segments_append (a b : List Char) : segments (a ++ '/' :: b) = segments a ++ segments b := by
  induction a with
  | nil => simp [segments]
  | cons c a ih =>
    by_cases slash : c = '/'
    · simp [segments, slash, ih]
    · obtain ⟨w, ws, cut⟩ := List.exists_cons_of_ne_nil (segments_ne_nil a)
      rw [cut] at ih
      rw [List.cons_append, segments_cons slash ih, segments_cons slash cut]
      rfl

theorem segments_of_plain (plain : '/' ∉ w) : segments w = [w] := by
  induction w with
  | nil => rfl
  | cons c w ih =>
    obtain ⟨differs, rest⟩ := not_or.1 (mt List.mem_cons.2 plain)
    exact segments_cons (Ne.symm differs) (ih rest)

theorem plain_of_mem_segments (h : w ∈ segments s) : '/' ∉ w := by
  induction s generalizing w with
  | nil =>
    obtain rfl : w = [] := by simpa [segments] using h
    simp
  | cons c s ih =>
    by_cases slash : c = '/'
    · rw [segments, if_pos slash] at h
      rcases List.mem_cons.1 h with rfl | h
      · simp
      · exact ih h
    · obtain ⟨v, vs, cut⟩ := List.exists_cons_of_ne_nil (segments_ne_nil s)
      rw [segments_cons slash cut] at h
      rcases List.mem_cons.1 h with rfl | h
      · have first : '/' ∉ v := ih (cut ▸ List.mem_cons_self)
        simp [first, Ne.symm slash]
      · exact ih (cut ▸ List.mem_cons_of_mem _ h)

theorem joinSegments_cons (some_segment : ws ≠ []) :
    joinSegments (w :: ws) = w ++ '/' :: joinSegments ws := by
  cases ws with
  | nil => exact absurd rfl some_segment
  | cons v vs => rfl

theorem joinSegments_concat (some_segment : ws ≠ []) :
    joinSegments (ws ++ [w]) = joinSegments ws ++ '/' :: w := by
  induction ws with
  | nil => exact absurd rfl some_segment
  | cons v vs ih =>
    rw [List.cons_append, joinSegments_cons (by simp)]
    by_cases last : vs = []
    · subst last
      rfl
    · rw [ih last, joinSegments_cons last, List.append_assoc, List.cons_append]

theorem segments_joinSegments (plain : ∀ w ∈ ws, '/' ∉ w) (some_segment : ws ≠ []) :
    segments (joinSegments ws) = ws := by
  induction ws with
  | nil => exact absurd rfl some_segment
  | cons w ws ih =>
    obtain ⟨first, rest⟩ := List.forall_mem_cons.1 plain
    by_cases last : ws = []
    · subst last
      exact segments_of_plain first
    · rw [joinSegments_cons last, segments_append, segments_of_plain first, ih rest last]
      rfl

theorem components_append (a b : List Char) :
    components (a ++ '/' :: b) = components a ++ components b := by
  rw [components, segments_append, List.filter_append]
  rfl

theorem components_slash (s : List Char) : components ('/' :: s) = components s :=
  components_append [] s

theorem components_joinSegments (h : ∀ w ∈ ws, IsComponent w) :
    components (joinSegments ws) = ws := by
  by_cases none : ws = []
  · subst none
    rfl
  · rw [components, segments_joinSegments (fun w hw => (h w hw).plain) none]
    exact List.filter_eq_self.2 fun w hw => by simp [(h w hw).solid]

theorem IsComponent.of_mem_components (h : w ∈ components s) : IsComponent w := by
  obtain ⟨mem, solid⟩ := List.mem_filter.1 h
  exact ⟨by simpa using solid, plain_of_mem_segments mem⟩

theorem IsComponent.ne_nil (h : IsComponent w) : w ≠ [] := by
  rintro rfl
  exact absurd h.solid (by decide)

theorem IsComponent.relative (h : IsComponent w) : isAbsolute w = false := by
  cases w with
  | nil => rfl
  | cons c w =>
    have differs : c ≠ '/' := fun same => h.plain (same ▸ List.mem_cons_self)
    simpa [isAbsolute] using differs

theorem IsComponent.open_end (h : IsComponent w) : endsWithSlash w = false := by
  rw [endsWithSlash, beq_eq_false_iff_ne]
  exact fun last => h.plain (List.mem_of_getLast? last)

theorem IsComponent.components (h : IsComponent w) : components w = [w] := by
  rw [Path.components, segments_of_plain h.plain]
  simp [h.solid]

end Segments

section Join

variable {base cwd s w : List Char} {ws : List (List Char)}

theorem eq_concat_of_endsWithSlash (h : endsWithSlash s = true) : ∃ t, s = t ++ ['/'] := by
  rw [endsWithSlash, beq_iff_eq] at h
  exact List.getLast?_eq_some_iff.1 h

/-- Joining puts one slash between the two texts, unless it is there already. -/
theorem join_cases (some_base : base ≠ []) (relative : isAbsolute s = false) :
    ∃ front, join base s = front ++ '/' :: s ∧
      (base = front ∧ endsWithSlash front = false ∨ base = front ++ ['/']) := by
  have written : base.isEmpty = false := by simpa using some_base
  cases closed : endsWithSlash base with
  | true =>
    obtain ⟨front, rfl⟩ := eq_concat_of_endsWithSlash closed
    exact ⟨front, by simp [join, relative, closed], .inr rfl⟩
  | false => exact ⟨base, by simp [join, relative, closed, written], .inl ⟨rfl, closed⟩⟩

theorem components_join (some_base : base ≠ []) (relative : isAbsolute s = false) :
    components (join base s) = components base ++ components s := by
  obtain ⟨front, joined, ⟨rfl, -⟩ | rfl⟩ := join_cases some_base relative
  · rw [joined, components_append]
  · rw [joined, components_append, components_append]
    simp [components, segments, isVoid]

theorem join_ne_nil (some_base : base ≠ []) (relative : isAbsolute s = false) :
    join base s ≠ [] := by
  obtain ⟨front, joined, -⟩ := join_cases some_base relative
  simp [joined]

theorem endsWithSlash_join (some_base : base ≠ []) (relative : isAbsolute s = false) :
    endsWithSlash (join base s) = (s.isEmpty || endsWithSlash s) := by
  obtain ⟨front, joined, -⟩ := join_cases some_base relative
  cases s with
  | nil => simp [joined, endsWithSlash]
  | cons c s => simp [joined, endsWithSlash, List.getLast?_cons_cons]

theorem origin_eq (cwd s : List Char) : origin cwd s =
    if s[0]? = some '/' then
      if s[1]? = some '/' ∧ s[2]? ≠ some '/' then ['/', '/'] else ['/']
    else cwd := by
  unfold origin
  split
  · simp
  next rest differs =>
    cases rest with
    | nil => simp
    | cons c rest =>
      have plain : c ≠ '/' := fun same => differs rest (same ▸ rfl)
      simp [plain]
  next rest _ differs =>
    cases rest with
    | nil => simp
    | cons c rest =>
      have plain : c ≠ '/' := fun same => differs rest (same ▸ rfl)
      simp [plain]
  next differs =>
    cases s with
    | nil => simp
    | cons c rest =>
      have plain : c ≠ '/' := fun same => differs rest (same ▸ rfl)
      simp [plain]

/-- The slashes in front are those of the base. -/
theorem origin_join (some_base : base ≠ []) (relative : isAbsolute s = false) :
    origin cwd (join base s) = origin cwd base := by
  have open_front : s[0]? ≠ some '/' := by simpa [isAbsolute, List.head?_eq_getElem?] using relative
  obtain ⟨front, joined, ⟨rfl, open_end⟩ | rfl⟩ := join_cases some_base relative
  · rw [joined, origin_eq, origin_eq]
    match base with
    | [] => exact absurd rfl some_base
    | [a] =>
      have plain : a ≠ '/' := by simpa [endsWithSlash] using open_end
      simp [plain]
    | [a, b] =>
      have plain : b ≠ '/' := by simpa [endsWithSlash] using open_end
      simp [plain]
    | a :: b :: c :: rest => simp
  · rw [joined, origin_eq, origin_eq]
    match front with
    | [] => simp [open_front]
    | [a] => simp [open_front]
    | [a, b] => simp
    | a :: b :: c :: rest => simp

/-- What a relative path is seen from is the place of the directory, whatever its text is. -/
theorem absolute?_join (some_base : base ≠ []) (relative : isAbsolute s = false) :
    absolute? cwd (join base s) = some
      (let path := extend (place cwd base) (components s)
      if s.isEmpty || endsWithSlash s then join path [] else path) := by
  have joined : place cwd (join base s) = extend (place cwd base) (components s) := by
    rw [place, origin_join some_base relative, components_join some_base relative]
    exact List.foldl_append
  rw [absolute?_eq_place (join_ne_nil some_base relative), joined,
    endsWithSlash_join some_base relative]

theorem expand_congr {e : Environment} {root other : String} (some_root : root.toList ≠ [])
    (some_other : other.toList ≠ [])
    (same : place e.workingDirectory.toList root.toList =
      place e.workingDirectory.toList other.toList) (raw : String) :
    expand e root raw = expand e other raw := by
  rw [expand, expand]
  cases expandText e raw.toList with
  | error key => rfl
  | ok text =>
    cases relative : isAbsolute text with
    | true => simp [relative]
    | false => simp only [relative, absolute?_join, some_root, some_other, same, ne_eq,
        not_false_eq_true]

end Join

section Normal

variable {path cwd s w : List Char} {ws : List (List Char)}

theorem endsWithSlash_append (some_text : s ≠ []) (front : List Char) :
    endsWithSlash (front ++ s) = endsWithSlash s := by
  obtain ⟨init, last, rfl⟩ := List.eq_nil_or_concat' s |>.resolve_left some_text
  simp [endsWithSlash]

theorem endsWithSlash_joinSegments (h : ∀ w ∈ ws, IsComponent w) (some_segment : ws ≠ []) :
    joinSegments ws ≠ [] ∧ endsWithSlash (joinSegments ws) = false := by
  obtain ⟨init, last, rfl⟩ := List.eq_nil_or_concat' ws |>.resolve_left some_segment
  have component : IsComponent last := h last (by simp)
  by_cases single : init = []
  · subst single
    exact ⟨component.ne_nil, component.open_end⟩
  · rw [joinSegments_concat single]
    refine ⟨by simp, ?_⟩
    rw [← List.singleton_append, ← List.append_assoc, endsWithSlash_append component.ne_nil]
    exact component.open_end

theorem head_joinSegments (h : ∀ w ∈ ws, IsComponent w) : isAbsolute (joinSegments ws) = false := by
  cases ws with
  | nil => rfl
  | cons w ws =>
    have component : IsComponent w := h w List.mem_cons_self
    obtain ⟨c, w, rfl⟩ := List.exists_cons_of_ne_nil component.ne_nil
    have plain : isAbsolute (c :: w) = false := component.relative
    by_cases single : ws = []
    · subst single
      exact plain
    · rw [joinSegments_cons single]
      exact plain

/-- A component joined to a path in normal form is one segment more. -/
theorem join_joinSegments (front : List Char) (h : ∀ w ∈ ws, IsComponent w)
    (component : IsComponent w) : join (front ++ '/' :: joinSegments ws) w =
      front ++ '/' :: joinSegments (ws ++ [w]) := by
  by_cases none : ws = []
  · subst none
    simp [join, component.relative, endsWithSlash, joinSegments]
  · obtain ⟨some_text, open_end⟩ := endsWithSlash_joinSegments h none
    have open_path : endsWithSlash (front ++ '/' :: joinSegments ws) = false := by
      rw [← List.singleton_append, ← List.append_assoc, endsWithSlash_append some_text]
      exact open_end
    simp [join, component.relative, open_path, joinSegments_concat none]

theorem extend_joinSegments (front : List Char) (h : ∀ w ∈ ws, IsComponent w) :
    extend (front ++ ['/']) ws = front ++ '/' :: joinSegments ws := by
  induction ws using List.reverseRecOn with
  | nil => rfl
  | append_singleton ws w ih =>
    have before : ∀ v ∈ ws, IsComponent v := fun v hv => h v (List.mem_append_left _ hv)
    have built : extend (front ++ ['/']) (ws ++ [w]) = join (extend (front ++ ['/']) ws) w :=
      List.foldl_append
    rw [built, ih before, join_joinSegments front before (h w (by simp))]

namespace IsNormal

theorem ne_nil (h : IsNormal path) : path ≠ [] := by
  cases h <;> simp

theorem join (h : IsNormal path) (component : IsComponent w) : IsNormal (join path w) := by
  cases h with
  | @rooted ws all =>
    have joined := join_joinSegments [] all component
    rw [List.nil_append, List.nil_append] at joined
    rw [joined]
    exact .rooted (List.forall_mem_append.2 ⟨all, by simpa using component⟩)
  | @doubled ws all some_segment =>
    have joined := join_joinSegments ['/'] all component
    rw [List.singleton_append, List.singleton_append] at joined
    rw [joined]
    exact .doubled (List.forall_mem_append.2 ⟨all, by simpa using component⟩) (by simp)

theorem extend (h : IsNormal path) (all : ∀ w ∈ ws, IsComponent w) :
    IsNormal (extend path ws) := by
  induction ws generalizing path with
  | nil => exact h
  | cons w ws ih =>
    obtain ⟨first, rest⟩ := List.forall_mem_cons.1 all
    exact ih (h.join first) rest

/-- A path in normal form stands for itself. -/
theorem place_eq (h : IsNormal path) : place cwd path = path := by
  cases h with
  | @rooted ws all =>
    have start : origin cwd ('/' :: joinSegments ws) = ['/'] := by
      have plain := head_joinSegments all
      cases joined : joinSegments ws with
      | nil => rfl
      | cons c s => simp_all [origin, isAbsolute]
    rw [place, start, components_slash, components_joinSegments all]
    exact extend_joinSegments [] all
  | @doubled ws all some_segment =>
    have start : origin cwd ('/' :: '/' :: joinSegments ws) = ['/', '/'] := by
      have plain := head_joinSegments all
      cases joined : joinSegments ws with
      | nil => rfl
      | cons c s => simp_all [origin, isAbsolute]
    rw [place, start, components_slash, components_slash, components_joinSegments all]
    exact extend_joinSegments ['/'] all

end IsNormal

theorem place_isNormal (hcwd : IsNormal cwd)
    (inside : ∀ t, s = '/' :: '/' :: t → components s ≠ []) : IsNormal (place cwd s) := by
  have all : ∀ w ∈ components s, IsComponent w := fun w => IsComponent.of_mem_components
  rw [place, origin_eq]
  split
  next first =>
    split
    next second =>
      -- The two slashes alone are no normal form, but with the first component they are.
      obtain ⟨t, rfl⟩ : ∃ t, s = '/' :: '/' :: t := by
        match s with
        | [] => cases first
        | [a] => simp at second
        | a :: b :: t => exact ⟨t, by simp_all⟩
      obtain ⟨w, ws, split⟩ := List.exists_cons_of_ne_nil (inside t rfl)
      rw [split] at all ⊢
      obtain ⟨here, later⟩ := List.forall_mem_cons.1 all
      have front : IsNormal (Path.join ['/', '/'] w) := by
        have joined := join_joinSegments ['/'] (List.forall_mem_nil _) here
        have doubled := IsNormal.doubled (by simpa using here) (List.cons_ne_nil w [])
        exact joined ▸ doubled
      exact front.extend later
    next => exact (IsNormal.rooted (List.forall_mem_nil _)).extend all
  next => exact hcwd.extend all

theorem directory_joinSegments (plain : ∀ v ∈ ws, '/' ∉ v) (solid_end : dropVoidEnd ws = ws)
    (component : IsComponent w) :
    directory ('/' :: joinSegments (ws ++ [w])) = '/' :: joinSegments ws := by
  have all_plain : ∀ v ∈ ws ++ [w], '/' ∉ v :=
    List.forall_mem_append.2 ⟨plain, by simpa using component.plain⟩
  have cut : segments ('/' :: joinSegments (ws ++ [w])) = [] :: (ws ++ [w]) := by
    rw [segments, if_pos rfl, segments_joinSegments all_plain (by simp)]
  have whole : dropVoidEnd (ws ++ [w]) = ws ++ [w] :=
    List.rdropWhile_concat_neg _ _ _ (by simp [component.solid])
  have shorter : withoutLast (ws ++ [w]) = ws := by
    rw [withoutLast, whole, List.dropLast_concat, solid_end]
  rw [directory, cut]
  simp [whole, shorter]

/-- The place that a name was joined to is the directory of the path. -/
theorem directory_join (h : IsNormal path) (component : IsComponent w) :
    directory (join path w) = path := by
  cases h with
  | @rooted ws all =>
    have joined := join_joinSegments [] all component
    rw [List.nil_append, List.nil_append] at joined
    have solid_end : dropVoidEnd ws = ws := by
      refine List.rdropWhile_eq_self_iff.2 fun some_segment => ?_
      simp [(all _ (List.getLast_mem some_segment)).solid]
    rw [joined]
    exact directory_joinSegments (fun v hv => (all v hv).plain) solid_end component
  | @doubled ws all some_segment =>
    have joined := join_joinSegments ['/'] all component
    rw [List.singleton_append, List.singleton_append] at joined
    -- The second slash is one after an empty segment.
    have solid_end : dropVoidEnd ([] :: ws) = [] :: ws := by
      refine List.rdropWhile_eq_self_iff.2 fun _ => ?_
      rw [List.getLast_cons some_segment]
      simp [(all _ (List.getLast_mem some_segment)).solid]
    have plain : ∀ v ∈ [] :: ws, '/' ∉ v :=
      List.forall_mem_cons.2 ⟨List.not_mem_nil, fun v hv => (all v hv).plain⟩
    have cut := directory_joinSegments plain solid_end component
    rw [List.cons_append, joinSegments_cons (by simp), joinSegments_cons some_segment] at cut
    rw [joined]
    exact cut

/-- What remains without the last component ends with a component, if anything remains. -/
theorem withoutLast_cases (ws : List (List Char)) : withoutLast ws = [] ∨
    ∃ init last, withoutLast ws = init ++ [last] ∧ isVoid last = false := by
  by_cases none : withoutLast ws = []
  · exact .inl none
  · have solid : ¬ isVoid ((withoutLast ws).getLast none) :=
      List.rdropWhile_last_not isVoid (dropVoidEnd ws).dropLast none
    exact .inr ⟨_, _, (List.dropLast_concat_getLast none).symm, by simpa using solid⟩

theorem withoutLast_front (ws : List (List Char)) : withoutLast ws <+: ws := by
  have last : withoutLast ws <+: (dropVoidEnd ws).dropLast := List.rdropWhile_prefix _ _
  have whole : dropVoidEnd ws <+: ws := List.rdropWhile_prefix _ _
  exact last.trans ((List.dropLast_prefix _).trans whole)

theorem joinSegments_cons_front {c : Char} {v : List Char} (ws : List (List Char)) :
    ∃ t, joinSegments ((c :: v) :: ws) = c :: t := by
  cases ws with
  | nil => exact ⟨v, rfl⟩
  | cons u us => exact ⟨v ++ '/' :: joinSegments (u :: us), rfl⟩

/-- The text of a directory is relative, or has a slash in front of segments that end with a
component. -/
theorem directory_cases (s : List Char) : (∃ c t, c ≠ '/' ∧ directory s = c :: t) ∨
    ∃ ws, directory s = '/' :: joinSegments ws ∧ (∀ w ∈ ws, '/' ∉ w) ∧
      (ws = [] ∨ ∃ init last, ws = init ++ [last] ∧ isVoid last = false) := by
  have relative {v : List Char} (ws : List (List Char)) (written : v ≠ []) (plain : '/' ∉ v) :
      ∃ c t, c ≠ '/' ∧ joinSegments (v :: ws) = c :: t := by
    obtain ⟨c, v, rfl⟩ := List.exists_cons_of_ne_nil written
    obtain ⟨t, front⟩ := joinSegments_cons_front ws
    exact ⟨c, t, fun same => plain (same ▸ List.mem_cons_self), front⟩
  have plain {w : List Char} {body : List (List Char)} (cut : segments s = body)
      (hw : w ∈ withoutLast body) : '/' ∉ w :=
    plain_of_mem_segments (cut ▸ (withoutLast_front body).subset hw)
  unfold directory
  split
  next body cut =>
    split
    · exact .inl ⟨'.', [], by decide, rfl⟩
    · refine .inr ⟨withoutLast body, rfl, fun w hw => ?_, withoutLast_cases body⟩
      exact plain_of_mem_segments (cut ▸ List.mem_cons_of_mem _ ((withoutLast_front body).subset hw))
  next body cut => exact .inl (relative _ (by simp) (by simp))
  next differs _ =>
    split
    · exact .inl ⟨'.', [], by decide, rfl⟩
    next some_segment =>
      obtain ⟨w, rest, cut⟩ := List.exists_cons_of_ne_nil (segments_ne_nil s)
      obtain ⟨v, vs, left⟩ := List.exists_cons_of_ne_nil some_segment
      have same : v = w := by
        have front := withoutLast_front (segments s)
        rw [cut] at front left
        rw [left] at front
        exact (List.cons_prefix_cons.1 front).1
      have written : v ≠ [] := by
        rintro rfl
        exact differs rest (same ▸ cut)
      rw [left]
      exact .inl (relative vs written (plain rfl (left ▸ List.mem_cons_self)))

theorem directory_ne_nil (s : List Char) : directory s ≠ [] := by
  rcases directory_cases s with ⟨c, t, -, text⟩ | ⟨ws, text, -⟩
  · simp [text]
  · simp [text]

/-- Two slashes in front of a directory stand before a component. -/
theorem directory_slashes {s t : List Char} (doubled : directory s = '/' :: '/' :: t) :
    components (directory s) ≠ [] := by
  rcases directory_cases s with ⟨c, t, plain, text⟩ | ⟨ws, text, plain, rfl | ⟨init, last, rfl, solid⟩⟩
  · rw [text] at doubled
    exact absurd (List.cons.inj doubled).1 plain
  · rw [text] at doubled
    cases doubled
  · rw [text, components_slash, components, segments_joinSegments plain (by simp),
      List.filter_append]
    simp [solid]

end Normal

/-- The name of a file that can be written for the file itself: it has no slash, and nothing in it
is expanded. -/
structure IsBareName (f : List Char) : Prop where
  component : IsComponent f
  no_variable : '$' ∉ f
  no_tilde : startsWithTilde f = false

section BareName

variable {e : Environment} {f s : List Char} {file origin path : String}

theorem pieces_of_no_variable (h : '$' ∉ s) : pieces s = s.map .char := by
  induction s with
  | nil => simp [pieces]
  | cons c s ih =>
    obtain ⟨differs, rest⟩ := not_or.1 (mt List.mem_cons.2 h)
    have plain : c ≠ '$' := Ne.symm differs
    rw [pieces, ih rest, List.map_cons]
    all_goals simp [plain]

theorem expandPieces_chars (e : Environment) (s : List Char) :
    expandPieces e (s.map .char) = .ok s := by
  induction s with
  | nil => rfl
  | cons c s ih =>
    rw [List.map_cons, expandPieces, ih]
    rfl

theorem IsBareName.expandText (h : IsBareName f) : expandText e f = .ok f := by
  have kept : expandTilde e f = f := by
    unfold expandTilde
    split
    · exact absurd h.no_tilde (by simp [startsWithTilde])
    · rfl
  rw [Path.expandText, pieces_of_no_variable h.no_variable, expandPieces_chars]
  simp [bind, Except.bind, pure, Except.pure, kept]

/-- A bare name beside the file of a path stands for the file in that path's directory, and written
paths mean the same seen from there as seen from the directory as it was written. -/
theorem expand_beside (regular : IsNormal e.workingDirectory.toList)
    (bare : IsBareName file.toList)
    (located : absolute? e.workingDirectory.toList (join (directory origin.toList) file.toList) =
      some path.toList) :
    expand e (directoryText origin) file = .ok path ∧
      ∀ raw, expand e (directoryText path) raw = expand e (directoryText origin) raw := by
  have some_root : directory origin.toList ≠ [] := directory_ne_nil _
  have relative : isAbsolute file.toList = false := bare.component.relative
  have normal : IsNormal (place e.workingDirectory.toList (directory origin.toList)) :=
    place_isNormal regular fun t => directory_slashes
  have joined : path.toList =
      join (place e.workingDirectory.toList (directory origin.toList)) file.toList := by
    rw [absolute?_join some_root relative, bare.component.components] at located
    have written : file.toList.isEmpty = false := by simpa using bare.component.ne_nil
    simpa [written, bare.component.open_end, extend] using located.symm
  have own : directory path.toList =
      place e.workingDirectory.toList (directory origin.toList) := by
    rw [joined]
    exact directory_join normal bare.component
  constructor
  · rw [expand, bare.expandText]
    simp [relative, directoryText, located]
  · intro raw
    refine expand_congr (by simp [directoryText, directory_ne_nil])
      (by simp [directoryText, directory_ne_nil]) ?_ raw
    simp only [directoryText, String.toList_ofList]
    rw [own]
    exact normal.place_eq

end BareName
end Launcher.Path
