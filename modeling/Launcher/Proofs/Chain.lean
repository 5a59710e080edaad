import Launcher.Chain
/-!
Reading a chain and writing one. The words of a chain can be read exactly if there is a target on
both sides of every separator, and the links written with separators between them are the same words
again. Links that have no separator among their words are read back as they are. -/
namespace Launcher.Chain

/-- There is a word before, between and after the separators. -/
structure IsWellFormed (ws : List String) : Prop where
  some_word : ws ≠ []
  open_front : ws.head? ≠ some separator
  open_end : ws.getLast? ≠ some separator
  no_gap : ¬ [separator, separator] <:+: ws

section Groups

variable {ws g : List String} {gs : List (List String)} {w : String}

theorem groups_ne_nil (ws : List String) : groups ws ≠ [] := by
  cases ws with
  | nil => simp [groups]
  | cons w ws =>
    rw [groups]
    split
    · simp
    · split <;> simp

theorem groups_separator (ws : List String) : groups (separator :: ws) = [] :: groups ws := by
  rw [groups, if_pos rfl]

theorem groups_word (plain : w ≠ separator) (cut : groups ws = g :: gs) :
    groups (w :: ws) = (w :: g) :: gs := by
  rw [groups, if_neg plain, cut]

theorem groups_eq_splitOn (ws : List String) : groups ws = ws.splitOn separator := by
  induction ws with
  | nil => rfl
  | cons w ws ih =>
    rw [List.splitOn, List.splitOnP_cons_eq_if_modifyHead, ← List.splitOn, ← ih]
    by_cases h : w = separator
    · simp [h, groups_separator]
    · obtain ⟨g, gs, cut⟩ := List.exists_cons_of_ne_nil (groups_ne_nil ws)
      simp [h, groups_word h cut, cut]

/-- There is no word before the first separator. -/
theorem first_group_eq_nil (cut : groups ws = g :: gs) :
    g = [] ↔ ws = [] ∨ ws.head? = some separator := by
  cases ws with
  | nil =>
    obtain ⟨rfl, -⟩ := List.cons.inj cut
    simp
  | cons w ws =>
    by_cases h : w = separator
    · rw [h, groups_separator] at cut
      obtain ⟨rfl, -⟩ := List.cons.inj cut
      simp [h]
    · obtain ⟨g', gs', rest⟩ := List.exists_cons_of_ne_nil (groups_ne_nil ws)
      rw [groups_word h rest] at cut
      obtain ⟨rfl, -⟩ := List.cons.inj cut
      simp [h]

theorem no_gap_cons : ¬ [separator, separator] <:+: w :: ws ↔
    ¬ (w = separator ∧ ws.head? = some separator) ∧ ¬ [separator, separator] <:+: ws := by
  rw [List.infix_cons_iff, not_or]
  refine and_congr_left' (not_congr ?_)
  cases ws with
  | nil => simp
  | cons v ws => simp [List.cons_prefix_cons, eq_comm]

/-- There is a word behind every separator. -/
theorem later_groups (cut : groups ws = g :: gs) :
    [] ∉ gs ↔ ws.getLast? ≠ some separator ∧ ¬ [separator, separator] <:+: ws := by
  induction ws generalizing g gs with
  | nil =>
    obtain ⟨-, rfl⟩ := List.cons.inj cut
    simp
  | cons w ws ih =>
    obtain ⟨g', gs', rest⟩ := List.exists_cons_of_ne_nil (groups_ne_nil ws)
    have first := first_group_eq_nil rest
    by_cases h : w = separator
    · -- The first of the groups behind the separator is a later one now.
      rw [h, groups_separator, rest] at cut
      obtain ⟨-, rfl⟩ := List.cons.inj cut
      rw [List.mem_cons, not_or, ih rest, no_gap_cons, eq_comm, first, h]
      cases ws with
      | nil => simp
      | cons v ws => simp [List.getLast?_cons_cons, and_left_comm]
    · rw [groups_word h rest] at cut
      obtain ⟨-, rfl⟩ := List.cons.inj cut
      rw [ih rest, no_gap_cons]
      cases ws with
      | nil => simp [h]
      | cons v ws => simp [h, List.getLast?_cons_cons]

theorem nil_not_mem_groups : [] ∉ groups ws ↔ IsWellFormed ws := by
  obtain ⟨g, gs, cut⟩ := List.exists_cons_of_ne_nil (groups_ne_nil ws)
  rw [cut, List.mem_cons, not_or, later_groups cut, eq_comm, first_group_eq_nil cut, not_or]
  constructor
  · rintro ⟨⟨some_word, front⟩, last, gap⟩
    exact ⟨some_word, front, last, gap⟩
  · rintro ⟨some_word, front, last, gap⟩
    exact ⟨⟨some_word, front⟩, last, gap⟩

end Groups

section Links

variable {ws g : List String} {gs : List (List String)} {l : ChainLink} {links : List ChainLink}

theorem link?_eq_some_iff : link? g = some l ↔ g = words l := by
  obtain ⟨target, overrides⟩ := l
  cases g with
  | nil => simp [link?, words]
  | cons w g => simp [link?, words]

theorem mapM_link?_eq_some_iff : gs.mapM link? = some links ↔ gs = links.map words := by
  induction gs generalizing links with
  | nil => simp [eq_comm]
  | cons g gs ih =>
    cases links with
    | nil => simp [List.mapM_cons, Option.bind_eq_some_iff]
    | cons l links => simp [List.mapM_cons, Option.bind_eq_some_iff, link?_eq_some_iff, ih]

theorem split?_eq_some_iff : split? ws = some links ↔ groups ws = links.map words :=
  mapM_link?_eq_some_iff

theorem words_ne_nil (l : ChainLink) : words l ≠ [] := List.cons_ne_nil _ _

theorem exists_words (written : [] ∉ gs) : ∃ links : List ChainLink, gs = links.map words := by
  induction gs with
  | nil => exact ⟨[], rfl⟩
  | cons g gs ih =>
    obtain ⟨first, later⟩ := not_or.1 (mt List.mem_cons.2 written)
    obtain ⟨target, overrides, rfl⟩ := List.exists_cons_of_ne_nil (Ne.symm first)
    obtain ⟨links, rfl⟩ := ih later
    exact ⟨⟨target, overrides⟩ :: links, rfl⟩

theorem isSome_split?_iff : (split? ws).isSome ↔ [] ∉ groups ws := by
  rw [Option.isSome_iff_exists]
  constructor
  · rintro ⟨links, read⟩
    rw [split?_eq_some_iff.1 read]
    simp [words_ne_nil]
  · intro written
    obtain ⟨links, cut⟩ := exists_words written
    exact ⟨links, split?_eq_some_iff.2 cut⟩

theorem join_eq_intercalate (links : List ChainLink) :
    join links = [separator].intercalate (links.map words) := by
  induction links with
  | nil => rfl
  | cons l rest ih =>
    cases rest with
    | nil => simp [join, List.intercalate]
    | cons next rest =>
      rw [join, ih]
      · simp [List.intercalate]
      · simp

end Links

/-- Reading and writing a chain. Words are read exactly if they are well-formed, the links that were
read are written with the same words again, and links without a separator among their words are read
back from what is written for them. -/
theorem split_inverts_join :
    (∀ ws, (split? ws).isSome ↔ IsWellFormed ws) ∧
    (∀ ws links, split? ws = some links → join links = ws) ∧
    ∀ links, links ≠ [] → (∀ l ∈ links, separator ∉ words l) →
      split? (join links) = some links := by
  refine ⟨fun ws => isSome_split?_iff.trans nil_not_mem_groups, fun ws links read => ?_,
    fun links some_link plain => ?_⟩
  · rw [join_eq_intercalate, ← split?_eq_some_iff.1 read, groups_eq_splitOn]
    exact List.intercalate_splitOn separator
  · rw [split?_eq_some_iff, groups_eq_splitOn, join_eq_intercalate]
    exact List.splitOn_intercalate separator (by simpa using plain) (by simpa using some_link)

theorem split_inverts_join_sample :
    split? ["a", "1", "+", "b:m", "+", "c", "x", "y"] =
        some [⟨"a", ["1"]⟩, ⟨"b:m", []⟩, ⟨"c", ["x", "y"]⟩] ∧
      join [⟨"a", ["1"]⟩, ⟨"b:m", []⟩, ⟨"c", ["x", "y"]⟩] =
        ["a", "1", "+", "b:m", "+", "c", "x", "y"] := by
  obtain ⟨-, written, read⟩ := split_inverts_join
  have back := read [⟨"a", ["1"]⟩, ⟨"b:m", []⟩, ⟨"c", ["x", "y"]⟩] (by simp) (by decide)
  exact ⟨back, written _ _ back⟩

end Launcher.Chain
