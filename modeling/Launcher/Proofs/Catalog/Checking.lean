import Launcher.Proofs.Catalog.Consistency
/-!
Which definitions can be linked, and what is reported of the others. Every check passes over what is
sound and stops at the first flaw, so the error says which condition fails first. -/
namespace Launcher

namespace Program

/-- The matched mode is one of the modes, wherever it stands among them. -/
def MatchKnown (ms : List ModeDefinition) (m : ModeDefinition) : Prop :=
  ∀ k, m.matched = some k → k ∈ ms.map (·.name)

/-- All conditions on a definition. -/
structure IsSound (d : ProgramDefinition) : Prop extends HasHeader d where
  typed : ∀ m ∈ d.modes, ∀ p ∈ m.parameters, Text.isBlankText p.kind = false
  parameters_differ : ∀ m ∈ d.modes, (m.parameters.map (·.name)).Nodup
  modes_differ : (d.modes.map (·.name)).Nodup
  matched_known : ∀ m ∈ d.modes, MatchKnown d.modes m
  default_known : ∀ k, d.defaultMode = some k → k ∈ d.modes.map (·.name)

/-- The first condition on the program as a whole that fails. -/
inductive HeaderFlaw (d : ProgramDefinition) : CatalogError → Prop
  | blank_name : Text.isBlankText d.name = true → HeaderFlaw d .emptyProgramName
  | zero_id : Text.isBlankText d.name = false → d.id = .zero →
      HeaderFlaw d (.invalidId d.name d.id.render)
  | no_binary : Text.isBlankText d.name = false → d.id ≠ .zero → d.binary = "" →
      HeaderFlaw d (.missingField d.name .binary)
  | no_mode : Text.isBlankText d.name = false → d.id ≠ .zero → d.binary ≠ "" → d.modes = [] →
      HeaderFlaw d (.noModes d.name)

/-- What is reported of a definition: the first condition that fails, where those before it hold. -/
inductive Rejects (d : ProgramDefinition) : CatalogError → Prop
  | header {e} : HeaderFlaw d e → Rejects d e
  | mode {e} : HasHeader d → IsFirstFlaw (ModeFlaw d.name) d.modes e → Rejects d e
  | unknown_matched {m k} : HasHeader d → IsFlawless (ModeFlaw d.name) d.modes → m ∈ d.modes →
      m.matched = some k → k ∉ d.modes.map (·.name) →
      (∀ m' ∈ d.modes, Text.bytes m'.name < Text.bytes m.name → MatchKnown d.modes m') →
      Rejects d (.unknownMatchedMode d.name m.name k)
  | unknown_default {k} : HasHeader d → IsFlawless (ModeFlaw d.name) d.modes →
      (∀ m ∈ d.modes, MatchKnown d.modes m) → d.defaultMode = some k →
      k ∉ d.modes.map (·.name) → Rejects d (.unknownDefaultMode d.name k)

section Matches

variable {program : String} {ms : List ModeDefinition} {known : Index ModeDefinition}
variable {e : CatalogError}

theorem Collected.eq_of_name (h : Collected ms known) {m m' : ModeDefinition} (hm : m ∈ ms)
    (hm' : m' ∈ ms) (same : m.name = m'.name) : m = m' := by
  have found := Index.get?_of_mem (h.mem_entries.2 ⟨hm, same⟩)
  have found' := Index.get?_of_mem (h.mem_entries.2 ⟨hm', rfl⟩)
  exact Option.some.inj (found.symm.trans found')

/-- The modes are looked at in the order of their names. -/
theorem Collected.checkMatched_stops (h : Collected ms known)
    (stopped : checkMatched program known known.entries = .error e) :
    ∃ m ∈ ms, ∃ k, e = .unknownMatchedMode program m.name k ∧ m.matched = some k ∧
      k ∉ ms.map (·.name) ∧
      ∀ m' ∈ ms, Text.bytes m'.name < Text.bytes m.name → MatchKnown ms m' := by
  obtain ⟨before, ⟨name, m⟩, after, split, flawless, flaw⟩ := checkMatched_eq_error_iff.1 stopped
  obtain ⟨matched, unknown⟩ := flaw
  have passed := (matches_flawless_iff program known before).1 flawless
  have mem : (name, m) ∈ known.entries := split ▸ List.mem_append_right _ List.mem_cons_self
  obtain ⟨hm, rfl⟩ := h.mem_entries.1 mem
  refine ⟨m, hm, _, rfl, matched, fun there => unknown (h.contains_iff.2 there), ?_⟩
  intro m' hm' below k' matched'
  have ascending := known.ascending
  rw [split] at ascending
  have behind := List.pairwise_cons.1 (List.pairwise_append.1 ascending).2.1
  have mem' : (m'.name, m') ∈ before ++ (m.name, m) :: after :=
    split ▸ h.mem_entries.2 ⟨hm', rfl⟩
  have smaller : m'.name < m.name := (Text.lt_iff_bytes_lt _ _).2 below
  rcases List.mem_append.1 mem' with earlier | later
  · exact h.contains_iff.1 (passed _ earlier k' matched')
  · rcases List.mem_cons.1 later with same | later
    · rw [(Prod.mk.inj same).1] at smaller
      exact absurd smaller (String.lt_irrefl _)
    · exact absurd (String.lt_trans smaller (behind.1 _ later)) (String.lt_irrefl _)

theorem Collected.checkMatched_eq_ok_iff (h : Collected ms known) :
    checkMatched program known known.entries = .ok () ↔ ∀ m ∈ ms, MatchKnown ms m := by
  rw [Program.checkMatched_eq_ok_iff]
  constructor
  · intro all m hm k matched
    exact h.contains_iff.1 (all (m.name, m) (h.mem_entries.2 ⟨hm, rfl⟩) k matched)
  · rintro all ⟨name, m⟩ mem k matched
    exact h.contains_iff.2 (all m (h.mem_entries.1 mem).1 k matched)

theorem Collected.checkMatched_eq_error_iff (h : Collected ms known) :
    checkMatched program known known.entries = .error e ↔
      ∃ m ∈ ms, ∃ k, e = .unknownMatchedMode program m.name k ∧ m.matched = some k ∧
        k ∉ ms.map (·.name) ∧
        ∀ m' ∈ ms, Text.bytes m'.name < Text.bytes m.name → MatchKnown ms m' := by
  refine ⟨h.checkMatched_stops, ?_⟩
  rintro ⟨m, hm, k, rfl, wanted, unknown, earlier⟩
  -- The error that is given is about a mode with the same property, and only one mode has it.
  cases stopped : checkMatched program known known.entries with
  | ok _ => exact absurd (h.checkMatched_eq_ok_iff.1 stopped m hm k wanted) unknown
  | error e =>
    obtain ⟨m', hm', k', rfl, wanted', unknown', earlier'⟩ := h.checkMatched_stops stopped
    have same : m.name = m'.name := by
      refine eq_of_not_lt (fun below => ?_) (fun above => ?_)
      · exact unknown (earlier' m hm ((Text.lt_iff_bytes_lt _ _).1 below) k wanted)
      · exact unknown' (earlier m' hm' ((Text.lt_iff_bytes_lt _ _).1 above) k' wanted')
    obtain rfl := h.eq_of_name hm hm' same
    rw [Option.some.inj (wanted.symm.trans wanted')]

end Matches
section Definitions

variable {d : ProgramDefinition} {ms : List ModeDefinition} {known : Index ModeDefinition}
variable {e : CatalogError}

theorem checkHeader_eq_error_iff : checkHeader d = .error e ↔ HeaderFlaw d e := by
  constructor
  · intro failed
    unfold checkHeader at failed
    split at failed
    next blank => exact Except.error.inj failed ▸ .blank_name blank
    next named =>
      have named : Text.isBlankText d.name = false := by simpa using named
      split at failed
      next zero =>
        exact Except.error.inj failed ▸ .zero_id named (by simpa [ProgramId.isZero] using zero)
      next identified =>
        have identified : d.id ≠ .zero := by simpa [ProgramId.isZero] using identified
        split at failed
        next empty =>
          exact Except.error.inj failed ▸ .no_binary named identified (by simpa using empty)
        next executable =>
          have executable : d.binary ≠ "" := by simpa using executable
          split at failed
          next none =>
            exact Except.error.inj failed ▸
              .no_mode named identified executable (by simpa using none)
          next => cases failed
  · intro flaw
    cases flaw with
    | blank_name blank => simp [checkHeader, blank]
    | zero_id named zero => simp [checkHeader, named, zero, ProgramId.isZero]
    | no_binary named identified empty =>
      simp [checkHeader, named, identified, empty, ProgramId.isZero]
    | no_mode named identified executable none =>
      simp [checkHeader, named, identified, executable, none, ProgramId.isZero]

theorem Collected.contains_linked (h : Collected ms known) (d : ProgramDefinition) {k : String} :
    (known.mapValues (linkMode d known)).contains k = true ↔ k ∈ ms.map (·.name) := by
  rw [← h.contains_iff, Index.contains, Index.get?_mapValues, Option.isSome_map, Index.contains]

theorem chooseDefault_eq_error_iff {program : String} {named : Option String}
    {modes : Index Mode} : chooseDefault program named modes = .error e ↔
      ∃ k, named = some k ∧ ¬ modes.contains k = true ∧ e = .unknownDefaultMode program k := by
  unfold chooseDefault
  cases named with
  | some k =>
    dsimp only
    by_cases there : modes.contains k = true
    · simp [there]
    · rw [if_neg there]
      constructor
      · rintro ⟨⟩
        exact ⟨k, rfl, there, rfl⟩
      · rintro ⟨_, ⟨⟩, -, rfl⟩
        rfl
  | none =>
    dsimp only
    split <;> simp

/-- Where linking stops is where the first condition fails. -/
theorem Rejects.of_link (failed : link d = .error e) : Rejects d e := by
  simp only [link, bind_eq_error_iff] at failed
  rcases failed with header | ⟨_, header, modes | ⟨known, kept, matched | ⟨_, matched, default |
    ⟨_, -, done⟩⟩⟩⟩
  · exact .header (checkHeader_eq_error_iff.1 header)
  · have header := checkHeader_eq_ok_iff.1 header
    exact .mode header (collectModes_eq_error_iff.1 modes)
  · have header := checkHeader_eq_ok_iff.1 header
    obtain ⟨collected, flawless⟩ := collectModes_ok kept
    obtain ⟨m, hm, k, rfl, wanted, unknown, earlier⟩ := collected.checkMatched_stops matched
    exact .unknown_matched header flawless hm wanted unknown earlier
  · have header := checkHeader_eq_ok_iff.1 header
    obtain ⟨collected, flawless⟩ := collectModes_ok kept
    obtain ⟨k, named, unknown, rfl⟩ := chooseDefault_eq_error_iff.1 default
    refine .unknown_default header flawless (collected.checkMatched_eq_ok_iff.1 matched) named ?_
    exact fun there => unknown ((collected.contains_linked d).2 there)
  · cases done

theorem Rejects.not_sound (h : Rejects d e) : ¬ IsSound d := by
  intro sound
  have flawless : IsFlawless (ModeFlaw d.name) d.modes := by
    refine (modes_flawless_iff d.name d.modes).2 ⟨fun m hm => ?_, sound.modes_differ⟩
    exact (parameters_flawless_iff _ _ _).2 ⟨sound.typed m hm, sound.parameters_differ m hm⟩
  cases h with
  | header flaw =>
    have passed := checkHeader_eq_ok_iff.2 sound.toHasHeader
    cases passed.symm.trans (checkHeader_eq_error_iff.2 flaw)
  | mode _ first => exact isFlawless_iff_no_first.1 flawless e first
  | unknown_matched _ _ hm wanted unknown _ => exact unknown (sound.matched_known _ hm _ wanted)
  | unknown_default _ _ _ named unknown => exact unknown (sound.default_known _ named)

theorem IsSound.of_linked {p : Program} (h : Linked d known p) : IsSound d := by
  obtain ⟨collected, flawless⟩ := collectModes_ok h.collected
  obtain ⟨sound, differ⟩ := (modes_flawless_iff d.name d.modes).1 flawless
  constructor
  · exact checkHeader_eq_ok_iff.1 h.header
  · exact fun m hm => ((parameters_flawless_iff _ _ _).1 (sound m hm)).1
  · exact fun m hm => ((parameters_flawless_iff _ _ _).1 (sound m hm)).2
  · exact differ
  · exact collected.checkMatched_eq_ok_iff.1 h.matched
  · intro k named
    have chosen := h.default
    rw [h.modes] at chosen
    by_contra unknown
    have refused : chooseDefault d.name d.defaultMode (known.mapValues (linkMode d known)) =
        .error (.unknownDefaultMode d.name k) :=
      chooseDefault_eq_error_iff.2
        ⟨k, named, fun there => unknown ((collected.contains_linked d).1 there), rfl⟩
    cases chosen.symm.trans refused

theorem exists_link_iff : (∃ p, link d = .ok p) ↔ IsSound d := by
  constructor
  · rintro ⟨p, linked⟩
    obtain ⟨known, h⟩ := link_eq_ok_iff.1 linked
    exact .of_linked h
  · intro sound
    cases linked : link d with
    | ok p => exact ⟨p, rfl⟩
    | error e => exact absurd sound (Rejects.of_link linked).not_sound

theorem link_eq_error_iff : link d = .error e ↔ Rejects d e := by
  refine ⟨.of_link, fun h => ?_⟩
  simp only [link, bind_eq_error_iff]
  cases h with
  | header flaw => exact .inl (checkHeader_eq_error_iff.2 flaw)
  | mode header first =>
    have passed := checkHeader_eq_ok_iff.2 header
    exact .inr ⟨(), passed, .inl (collectModes_eq_error_iff.2 first)⟩
  | unknown_matched header flawless hm wanted unknown earlier =>
    have passed := checkHeader_eq_ok_iff.2 header
    obtain ⟨known, kept⟩ := exists_collectModes flawless
    obtain ⟨collected, -⟩ := collectModes_ok kept
    refine .inr ⟨(), passed, .inr ⟨known, kept, .inl ?_⟩⟩
    exact collected.checkMatched_eq_error_iff.2 ⟨_, hm, _, rfl, wanted, unknown, earlier⟩
  | unknown_default header flawless matched named unknown =>
    have passed := checkHeader_eq_ok_iff.2 header
    obtain ⟨known, kept⟩ := exists_collectModes flawless
    obtain ⟨collected, -⟩ := collectModes_ok kept
    have followed : checkMatched d.name known known.entries = .ok () :=
      collected.checkMatched_eq_ok_iff.2 matched
    refine .inr ⟨(), passed, .inr ⟨known, kept, .inr ⟨(), followed, .inl ?_⟩⟩⟩
    have absent := fun there => unknown ((collected.contains_linked d).1 there)
    exact chooseDefault_eq_error_iff.2 ⟨_, named, absent, rfl⟩

end Definitions
/-- A definition can be linked exactly when all conditions on it hold, wherever the modes stand that
others are matched with. Otherwise the error is that of the first condition that fails: on the
program, on its modes in order, on matched modes by the names of their modes, on the default. -/
theorem link_judges_definition (d : ProgramDefinition) :
    ((∃ p, link d = .ok p) ↔ IsSound d) ∧ ∀ e, link d = .error e ↔ Rejects d e :=
  ⟨exists_link_iff, fun _ => link_eq_error_iff⟩

namespace Sample

def port : Parameter := ⟨"port", "ip-port", none, none, false⟩

/-- The mode that the first one is matched with comes later, and is matched with itself. -/
def forward : ProgramDefinition :=
  ⟨"net", ⟨8⟩, "/bin/net", [⟨"dial", [port], some "serve"⟩, ⟨"serve", [port], some "serve"⟩],
    some "dial"⟩

/-- The second mode repeats a parameter and then has one without a type. The third one is matched
with an unknown mode and has the name of the first. -/
def faulty : ProgramDefinition :=
  ⟨"net", ⟨8⟩, "/bin/net",
    [⟨"dial", [port], none⟩, ⟨"serve", [port, port, ⟨"host", " ", none, none, false⟩], none⟩,
      ⟨"dial", [], some "gone"⟩],
    some "gone"⟩

/-- Two modes are matched with unknown ones. -/
def unmatched : ProgramDefinition :=
  ⟨"net", ⟨8⟩, "/bin/net", [⟨"serve", [], some "gone"⟩, ⟨"dial", [], some "lost"⟩], some "gone"⟩

end Sample

theorem link_judges_sample : IsSound Sample.forward ∧
    Rejects Sample.faulty (.duplicateParameter "net" "serve" "port") ∧
    Rejects Sample.unmatched (.unknownMatchedMode "net" "dial" "lost") :=
  ⟨(link_judges_definition _).1.1 ⟨_, rfl⟩, ((link_judges_definition _).2 _).1 rfl,
    ((link_judges_definition _).2 _).1 rfl⟩

end Program
end Launcher
