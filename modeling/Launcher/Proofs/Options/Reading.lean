import Launcher.Proofs.Except
import Launcher.Proofs.Index
import Launcher.Proofs.Options.Words
/-!
Command lines of options and then words that are taken as they are. Reading such a line gives the
settings that are written in front, each at most once, and all words behind them. The first ordinary
word, or two dashes, end the options for good. -/
namespace Launcher.Options

namespace Given

def adding (s : Given) (settings : List Setting) : Given :=
  { s with settings := s.settings ++ settings }

/-- Nothing is set twice, and nothing that is set already. -/
def Admits (s : Given) (settings : List Setting) : Prop :=
  (settings.map (·.1)).Nodup ∧ ∀ long ∈ settings.map (·.1), long ∉ s.settings.map (·.1)

variable {s : Given} {a b : List Setting} {long : String} {value : Option String}

theorem adding_nil (s : Given) : s.adding [] = s := by simp [adding]

theorem adding_append (s : Given) (a b : List Setting) :
    s.adding (a ++ b) = (s.adding a).adding b := by simp [adding]

theorem admits_nil (s : Given) : s.Admits [] := by simp [Admits]

theorem admits_append : s.Admits (a ++ b) ↔ s.Admits a ∧ (s.adding a).Admits b := by
  simp only [Admits, adding, List.map_append, List.nodup_append, List.mem_append, not_or]
  constructor
  · rintro ⟨⟨da, db, apart⟩, fresh⟩
    exact ⟨⟨da, fun x ha => fresh x (.inl ha)⟩, db,
      fun x hb => ⟨fresh x (.inr hb), fun ha => apart x ha x hb rfl⟩⟩
  · rintro ⟨⟨da, fa⟩, db, fb⟩
    refine ⟨⟨da, db, fun x ha y hb same => (fb y hb).2 (same ▸ ha)⟩, fun x mem => ?_⟩
    exact mem.elim (fa x) fun hb => (fb x hb).1

theorem has_iff : s.has long ↔ long ∈ s.settings.map (·.1) := by
  rw [has, List.lookup_isSome_iff]
  simp only [beq_iff_eq, List.mem_map]
  exact exists_congr fun _ => and_congr_right fun _ => eq_comm

theorem admits_one : s.Admits [(long, value)] ↔ s.has long = false := by
  rw [← Bool.not_eq_true, has_iff]
  simp [Admits]

end Given

namespace Grammar

/-- One option, written in one word or two, and what it sets. Only letters set several. -/
inductive Gives (g : Grammar) : List Setting → List String → Prop
  | flag {o} : o ∈ g.options → o.kind = .flag → Gives g [(o.long, none)] ["--" ++ o.long]
  | cluster {letters os} : letters ≠ [] → g.Letters letters os → (∀ o ∈ os, o.kind = .flag) →
      Gives g (os.map fun o => (o.long, none)) [String.ofList ('-' :: letters)]
  | assigned {o value} : o ∈ g.options → o.kind = .valued → g.fault o.long value = none →
      Gives g [(o.long, some value)] ["--" ++ o.long ++ "=" ++ value]
  | separate {o value} : o ∈ g.options → o.kind = .valued → g.fault o.long value = none →
      Gives g [(o.long, some value)] ["--" ++ o.long, value]

/-- Options one after another. -/
inductive Spells (g : Grammar) : List Setting → List String → Prop
  | nil : Spells g [] []
  | cons {given settings ws opts} : g.Gives given ws → Spells g settings opts →
      Spells g (given ++ settings) (ws ++ opts)

/-- The first of the words, if any, is an ordinary one. -/
def Opens (g : Grammar) (ws : List String) : Prop := ∀ w ∈ ws.head?, g.IsOrdinary w

/-- The line gives the settings and then the words. Two dashes stand between them, or the first word
is an ordinary one. -/
def Line (g : Grammar) (settings : List Setting) (words line : List String) : Prop :=
  ∃ opts, g.Spells settings opts ∧
    (line = opts ++ words ∧ g.Opens words ∨ line = opts ++ "--" :: words)

/-- A flag has no value, and another option has a good one. -/
def IsSetting (g : Grammar) (long : String) : Option String → Prop
  | none => ∃ o ∈ g.options, o.long = long ∧ o.kind = .flag
  | some value => ∃ o ∈ g.options, o.long = long ∧ o.kind = .valued ∧ g.fault long value = none

/-- The lines that are read are those that give different settings and then at least one word. What
is made of such a line follows these settings and words. -/
structure ReadsVerbatim (g : Grammar) (read : List String → Except UsageError α)
    (Follows : α → List Setting → List String → Prop) : Prop where
  accepts : ∀ settings words line, g.Line settings words line → (settings.map (·.1)).Nodup →
    words ≠ [] → ∃ o, read line = .ok o ∧ Follows o settings words
  accepts_only : ∀ line o, read line = .ok o → ∃ settings words, g.Line settings words line ∧
    (settings.map (·.1)).Nodup ∧ words ≠ [] ∧ Follows o settings words

/-- Regular options in front of words that are taken as they are. No good value of an option looks
like an option. -/
structure LeadsWords (g : Grammar) : Prop extends IsRegular g where
  verbatim : g.tail = .verbatim
  values_ordinary : ∀ o ∈ g.options, o.kind = .valued →
    ∀ value, g.fault o.long value = none → g.IsOrdinary value

section Adding

variable {g : Grammar} {s t : Given} {o : OptionForm} {os : List OptionForm} {long : String}

theorem add_eq_ok_iff {value : Option String} : add s long value = .ok t ↔
    s.Admits [(long, value)] ∧ t = s.adding [(long, value)] := by
  rw [add, Given.admits_one]
  cases s.has long with
  | true => simp
  | false => simp [Given.adding, eq_comm]

theorem addValue_eq_ok_iff {value : String} : g.addValue s long value = .ok t ↔
    g.fault long value = none ∧ s.Admits [(long, some value)] ∧
      t = s.adding [(long, some value)] := by
  rw [addValue, bind_eq_ok_iff]
  simp only [add_eq_ok_iff]
  cases g.fault long value with
  | some e => simp [throw, throwThe, MonadExceptOf.throw]
  | none => simp [pure, Except.pure, eq_comm]

theorem alone_eq_ok_iff (single : o.kind ≠ .valued) : alone s o = .ok t ↔
    o.kind = .flag ∧ s.Admits [(o.long, none)] ∧ t = s.adding [(o.long, none)] := by
  rw [alone]
  cases kind : o.kind with
  | flag => simp [add_eq_ok_iff]
  | valued => exact absurd kind single
  | help => simp
  | version => simp

theorem allAlone_eq_ok_iff (single : ∀ o ∈ os, o.kind ≠ .valued) : allAlone s os = .ok t ↔
    (∀ o ∈ os, o.kind = .flag) ∧ s.Admits (os.map fun o => (o.long, none)) ∧
      t = s.adding (os.map fun o => (o.long, none)) := by
  induction os generalizing s with
  | nil => simp [allAlone, Given.admits_nil, Given.adding_nil, eq_comm]
  | cons o os ih =>
    obtain ⟨first, rest⟩ := List.forall_mem_cons.1 single
    rw [allAlone, bind_eq_ok_iff]
    have parts : (o :: os).map (fun o => (o.long, (none : Option String))) =
        [(o.long, none)] ++ os.map fun o => (o.long, none) := rfl
    simp only [alone_eq_ok_iff first, ih rest]
    rw [parts, Given.admits_append, Given.adding_append, List.forall_mem_cons]
    constructor
    · rintro ⟨_, ⟨flag, here, rfl⟩, flags, later, rfl⟩
      exact ⟨⟨flag, flags⟩, ⟨here, later⟩, rfl⟩
    · rintro ⟨⟨flag, flags⟩, ⟨here, later⟩, rfl⟩
      exact ⟨_, ⟨flag, here, rfl⟩, flags, later, rfl⟩

end Adding

section Steps

variable {g : Grammar} {s s' t : Given} {o : OptionForm} {w long value : String}
variable {given settings : List Setting} {line opts rest words ws : List String}

-- Reading is unfolded wherever the next word is known.
attribute [local simp] readFrom

theorem settle_none_bind (f : Given → Except UsageError α) :
    (g.settle s .none >>= f) = f s := rfl

theorem readFrom_dashes (h : g.LeadsWords) (s : Given) (words : List String) :
    g.readFrom s .none ("--" :: words) = .ok { s with words := s.words ++ words } := by
  simp [classify_dashes, settle, takeAll, h.verbatim, bind, Except.bind]

theorem readFrom_ordinary (h : g.LeadsWords) (ordinary : g.IsOrdinary w) (s : Given)
    (rest : List String) :
    g.readFrom s .none (w :: rest) = .ok { s with words := s.words ++ w :: rest } := by
  rcases (isOrdinary_iff h.toIsRegular).1 ordinary with seen | ⟨os, seen⟩
  · simp [seen, settle, takeAll, h.verbatim, bind, Except.bind]
  · simp [seen, settle, takeAll, h.verbatim, bind, Except.bind]

theorem readFrom_name (h : g.LeadsWords) (mem : o ∈ g.options) (kind : o.kind = .valued)
    (s : Given) (line : List String) :
    g.readFrom s .none (("--" ++ o.long) :: line) = g.readFrom s (.awaiting o.long) line := by
  rw [readFrom]
  simp only [classify_name h.toIsRegular mem, kind, settle, bind, Except.bind]

/-- A value is looked at when the next word has been seen. -/
theorem readFrom_awaiting (h : g.LeadsWords) (ordinary : g.IsOrdinary w) (s : Given)
    (long : String) (rest : List String) :
    g.readFrom s (.awaiting long) (w :: rest) = g.readFrom s (.held long w) rest := by
  rcases (isOrdinary_iff h.toIsRegular).1 ordinary with seen | ⟨os, seen⟩
  · simp [seen, h.verbatim]
  · simp [seen, h.verbatim]

theorem readFrom_held (h : g.LeadsWords) (added : g.addValue s long value = .ok s')
    (line : List String) : g.readFrom s (.held long value) line = g.readFrom s' .none line := by
  cases line with
  | nil => simp [settle, added]
  | cons w rest =>
    cases seen : g.classify w <;> simp [seen, settle, added, h.verbatim, bind, Except.bind]

/-- An option that is not complete or has a bad value ends the reading, unless the word behind it is
its value. -/
theorem readFrom_refused (h : g.LeadsWords) {p : Pending} {e : UsageError}
    (refused : g.settle s p = .error e) (no_value : ∀ long, p = .awaiting long → ¬ g.IsOrdinary w) :
    g.readFrom s p (w :: rest) ≠ .ok t := by
  have stopped : (∃ long, p = .awaiting long) → g.classify w ≠ .plain ∧
      ∀ os, g.classify w ≠ .unknown os := by
    rintro ⟨long, awaits⟩
    simpa only [isOrdinary_iff h.toIsRegular, not_or, not_exists] using no_value long awaits
  cases seen : g.classify w with
  | dashes => simp [seen, refused, bind, Except.bind]
  | cluster os => simp [seen, refused, bind, Except.bind]
  | long o value =>
    simp only [readFrom, seen, refused, bind, Except.bind]
    split <;> nofun
  | plain =>
    cases p with
    | awaiting long => exact absurd seen (stopped ⟨long, rfl⟩).1
    | _ => simp [seen, refused, h.verbatim, bind, Except.bind]
  | unknown os =>
    cases p with
    | awaiting long => exact absurd seen ((stopped ⟨long, rfl⟩).2 os)
    | _ => simp [seen, refused, h.verbatim, bind, Except.bind]

theorem of_readFrom_held (h : g.LeadsWords) (read : g.readFrom s (.held long value) line = .ok t) :
    ∃ s', g.addValue s long value = .ok s' := by
  cases added : g.addValue s long value with
  | ok s' => exact ⟨s', rfl⟩
  | error e =>
    cases line with
    | nil => cases added.symm.trans read
    | cons w rest => exact absurd read (readFrom_refused h added nofun)

theorem of_readFrom_awaiting (h : g.LeadsWords)
    (read : g.readFrom s (.awaiting long) line = .ok t) : ∃ value rest, line = value :: rest ∧
      g.IsOrdinary value ∧ g.readFrom s (.held long value) rest = .ok t := by
  cases line with
  | nil => cases read
  | cons w rest =>
    by_cases ordinary : g.IsOrdinary w
    · exact ⟨w, rest, rfl, ordinary, readFrom_awaiting h ordinary s long rest ▸ read⟩
    · exact absurd read (readFrom_refused h rfl fun _ _ => ordinary)

theorem Letters.single (regular : g.IsRegular) {letters : List Char} {os : List OptionForm}
    (stand : g.Letters letters os) (o : OptionForm) (mem : o ∈ os) : o.kind ≠ .valued := by
  obtain ⟨known, letter⟩ := stand.members o mem
  exact regular.letter_alone o known letter

/-- One option is read, and reading goes on behind it. -/
theorem readFrom_given (h : g.LeadsWords) (gives : g.Gives given ws) (admits : s.Admits given)
    (rest : List String) :
    g.readFrom s .none (ws ++ rest) = g.readFrom (s.adding given) .none rest := by
  cases gives with
  | @flag o mem kind =>
    have added : alone s o = .ok (s.adding [(o.long, none)]) :=
      (alone_eq_ok_iff (by simp [kind])).2 ⟨kind, admits, rfl⟩
    simp [classify_name h.toIsRegular mem, kind, settle, added, bind, Except.bind]
  | @cluster letters os some_letter stand flags =>
    have added := (allAlone_eq_ok_iff (stand.single h.toIsRegular)).2 ⟨flags, admits, rfl⟩
    simp only [List.singleton_append, readFrom, classify_cluster h.toIsRegular some_letter stand,
      settle, added, bind, Except.bind]
  | @assigned o value mem kind good =>
    have added := addValue_eq_ok_iff.2 ⟨good, admits, rfl⟩
    simp [classify_assigned h.toIsRegular mem, kind, settle, added, bind, Except.bind]
  | @separate o value mem kind good =>
    have added := addValue_eq_ok_iff.2 ⟨good, admits, rfl⟩
    have ordinary := h.values_ordinary o mem kind value good
    calc g.readFrom s .none (["--" ++ o.long, value] ++ rest)
      _ = g.readFrom s (.awaiting o.long) (value :: rest) := readFrom_name h mem kind s _
      _ = g.readFrom s (.held o.long value) rest := readFrom_awaiting h ordinary s _ _
      _ = g.readFrom (s.adding [(o.long, some value)]) .none rest := readFrom_held h added _

/-- Options one after another are read one after another. -/
theorem readFrom_spelled (h : g.LeadsWords) (spells : g.Spells settings opts)
    (admits : s.Admits settings) (rest : List String) :
    g.readFrom s .none (opts ++ rest) = g.readFrom (s.adding settings) .none rest := by
  induction spells generalizing s with
  | nil => rw [List.nil_append, Given.adding_nil]
  | cons gives _ ih =>
    obtain ⟨first, later⟩ := Given.admits_append.1 admits
    rw [List.append_assoc, readFrom_given h gives first, ih later, Given.adding_append]

theorem readFrom_opens (h : g.LeadsWords) (opens : g.Opens words) (s : Given) :
    g.readFrom s .none words = .ok { s with words := s.words ++ words } := by
  cases words with
  | nil => simp [settle]
  | cons w rest => exact readFrom_ordinary h (opens w (by simp)) s rest

/-- What stands in front of a line that is read. -/
theorem readFrom_cases (h : g.LeadsWords) (read : g.readFrom s .none line = .ok t) :
    g.Opens line ∨ (∃ words, line = "--" :: words) ∨ ∃ given ws rest, g.Gives given ws ∧
      line = ws ++ rest ∧ s.Admits given ∧ g.readFrom (s.adding given) .none rest = .ok t := by
  cases line with
  | nil => exact .inl (by simp [Opens])
  | cons w rest =>
    by_cases ordinary : g.IsOrdinary w
    · exact .inl (by simpa [Opens] using ordinary)
    rw [isOrdinary_iff h.toIsRegular, not_or, not_exists] at ordinary
    refine .inr ?_
    cases seen : g.classify w with
    | plain => exact absurd seen ordinary.1
    | unknown os => exact absurd seen (ordinary.2 os)
    | dashes =>
      cases seen ▸ classify_seen h.toIsRegular w with
      | dashes same => exact .inl ⟨rest, same ▸ rfl⟩
    | cluster os =>
      cases seen ▸ classify_seen h.toIsRegular w with
      | @cluster letters _ some_letter stand same =>
        simp only [readFrom, seen, settle_none_bind] at read
        obtain ⟨s', added, read⟩ := bind_eq_ok_iff.1 read
        obtain ⟨flags, admits, rfl⟩ := (allAlone_eq_ok_iff (stand.single h.toIsRegular)).1 added
        exact .inr ⟨_, _, rest, .cluster some_letter stand flags, same ▸ rfl, admits, read⟩
    | long o value =>
      simp only [readFrom, seen, settle_none_bind] at read
      cases seen ▸ classify_seen h.toIsRegular w with
      | name mem same =>
        cases kind : o.kind with
        | valued =>
          simp only [kind] at read
          obtain ⟨value, rest', rfl, -, read⟩ := of_readFrom_awaiting h read
          obtain ⟨s', added⟩ := of_readFrom_held h read
          rw [readFrom_held h added] at read
          obtain ⟨good, admits, rfl⟩ := addValue_eq_ok_iff.1 added
          exact .inr ⟨_, _, rest', .separate mem kind good, same ▸ rfl, admits, read⟩
        | _ =>
          simp only [kind] at read
          obtain ⟨s', added, read⟩ := bind_eq_ok_iff.1 read
          obtain ⟨flag, admits, rfl⟩ := (alone_eq_ok_iff (by simp [kind])).1 added
          exact .inr ⟨_, _, rest, .flag mem flag, same ▸ rfl, admits, read⟩
      | @assigned _ value mem same =>
        cases kind : o.kind with
        | valued =>
          simp only [kind] at read
          obtain ⟨s', added, read⟩ := bind_eq_ok_iff.1 read
          obtain ⟨good, admits, rfl⟩ := addValue_eq_ok_iff.1 added
          exact .inr ⟨_, _, rest, .assigned mem kind good, same ▸ rfl, admits, read⟩
        | _ => simp [kind] at read

end Steps

section Lines

variable {g : Grammar} {given settings : List Setting} {line words ws : List String}

theorem Gives.length_pos (gives : g.Gives given ws) : 0 < ws.length := by
  cases gives <;> simp

theorem Line.behind (rest : g.Line settings words line) (gives : g.Gives given ws) :
    g.Line (given ++ settings) words (ws ++ line) := by
  obtain ⟨opts, spells, ending⟩ := rest
  refine ⟨ws ++ opts, .cons gives spells, ending.imp ?_ ?_⟩
  · rintro ⟨rfl, opens⟩
    exact ⟨(List.append_assoc _ _ _).symm, opens⟩
  · rintro rfl
    exact (List.append_assoc _ _ _).symm

/-- Every line that is read has options in front and then words that are taken as they are. -/
theorem of_readFrom (h : g.LeadsWords) {s t : Given} {line : List String}
    (read : g.readFrom s .none line = .ok t) : ∃ settings words, g.Line settings words line ∧
      s.Admits settings ∧ t = ⟨s.settings ++ settings, s.words ++ words⟩ := by
  rcases readFrom_cases h read with opens | ⟨words, rfl⟩ |
    ⟨given, ws, rest, gives, same, first, read⟩
  · obtain rfl := Except.ok.inj ((readFrom_opens h opens s).symm.trans read)
    exact ⟨[], line, ⟨[], .nil, .inl ⟨rfl, opens⟩⟩, s.admits_nil, by simp⟩
  · obtain rfl := Except.ok.inj ((readFrom_dashes h s words).symm.trans read)
    exact ⟨[], words, ⟨[], .nil, .inr rfl⟩, s.admits_nil, by simp⟩
  · obtain ⟨settings, words, written, later, rfl⟩ := of_readFrom h read
    refine ⟨given ++ settings, words, same ▸ written.behind gives,
      Given.admits_append.2 ⟨first, later⟩, ?_⟩
    simp [Given.adding]
termination_by line.length
decreasing_by
  have := gives.length_pos
  simp only [same, List.length_append]
  omega

theorem Line.readFrom (h : g.LeadsWords) (written : g.Line settings words line) {s : Given}
    (admits : s.Admits settings) :
    g.readFrom s .none line = .ok ⟨s.settings ++ settings, s.words ++ words⟩ := by
  obtain ⟨opts, spells, ⟨rfl, opens⟩ | rfl⟩ := written
  · rw [readFrom_spelled h spells admits, readFrom_opens h opens]
    rfl
  · rw [readFrom_spelled h spells admits, readFrom_dashes h]
    rfl

theorem readFrom_empty_iff (h : g.LeadsWords) {t : Given} :
    g.readFrom .empty .none line = .ok t ↔
      g.Line t.settings t.words line ∧ (t.settings.map (·.1)).Nodup := by
  have fresh (settings : List Setting) : Given.empty.Admits settings ↔
      (settings.map (·.1)).Nodup := by
    simp [Given.Admits, Given.empty]
  constructor
  · intro read
    obtain ⟨settings, words, written, admits, rfl⟩ := of_readFrom h read
    exact ⟨written, (fresh _).1 admits⟩
  · rintro ⟨written, distinct⟩
    exact written.readFrom h ((fresh _).2 distinct)

/-- What is read is what the line is written from. -/
theorem read_eq_ok_iff (h : g.LeadsWords) {t : Given} : g.read line = .ok t ↔
    g.Line t.settings t.words line ∧ (t.settings.map (·.1)).Nodup ∧
      g.required ≤ t.words.length := by
  rw [Grammar.read, bind_eq_ok_iff, ← and_assoc, ← readFrom_empty_iff h]
  constructor
  · rintro ⟨given, read, enough⟩
    split at enough
    next => cases enough
    next few =>
      cases enough
      exact ⟨read, Nat.le_of_not_lt few⟩
  · rintro ⟨read, enough⟩
    exact ⟨t, read, if_neg (Nat.not_lt.2 enough)⟩

end Lines

section Settings

variable {g : Grammar} {s : Given} {o : OptionForm}
variable {given settings : List Setting} {line opts words ws : List String} {long value : String}

theorem Gives.isSetting (gives : g.Gives given ws) : ∀ e ∈ given, g.IsSetting e.1 e.2 := by
  cases gives with
  | flag mem kind => exact List.forall_mem_singleton.2 ⟨_, mem, rfl, kind⟩
  | cluster _ stand flags =>
    refine List.forall_mem_map.2 fun o mem => ?_
    exact ⟨o, (stand.members o mem).1, rfl, flags o mem⟩
  | assigned mem kind good => exact List.forall_mem_singleton.2 ⟨_, mem, rfl, kind, good⟩
  | separate mem kind good => exact List.forall_mem_singleton.2 ⟨_, mem, rfl, kind, good⟩

theorem Spells.isSetting (spells : g.Spells settings opts) :
    ∀ e ∈ settings, g.IsSetting e.1 e.2 := by
  induction spells with
  | nil => exact List.forall_mem_nil _
  | cons gives _ ih => exact List.forall_mem_append.2 ⟨gives.isSetting, ih⟩

/-- A flag is set only without a value. -/
theorem has_flag_iff (regular : g.IsRegular) (settings : ∀ e ∈ s.settings, g.IsSetting e.1 e.2)
    (mem : o ∈ g.options) (flag : o.kind = .flag) :
    s.has o.long = true ↔ (o.long, none) ∈ s.settings := by
  rw [Given.has_iff, List.mem_map]
  constructor
  · rintro ⟨⟨long, value⟩, set, rfl⟩
    cases value with
    | none => exact set
    | some value =>
      obtain ⟨o', mem', named, valued, -⟩ := settings _ set
      obtain rfl := regular.names_differ o' mem' o mem named
      cases flag.symm.trans valued
  · intro set
    exact ⟨_, set, rfl⟩

theorem value?_eq_some_iff (distinct : (s.settings.map (·.1)).Nodup) :
    s.value? long = some value ↔ (long, some value) ∈ s.settings := by
  rw [Given.value?, Option.join_eq_some_iff, lookup_eq_some_iff_mem distinct]

theorem value?_eq_none (distinct : (s.settings.map (·.1)).Nodup)
    (absent : ∀ value, (long, some value) ∉ s.settings) : s.value? long = none :=
  Option.eq_none_iff_forall_ne_some.2 fun value found =>
    absent value ((value?_eq_some_iff distinct).1 found)

theorem LeadsWords.readsVerbatim (h : g.LeadsWords) (one : g.required = 1) {f : Given → α}
    {Follows : α → List Setting → List String → Prop}
    (follows : ∀ s : Given, (s.settings.map (·.1)).Nodup →
      (∀ e ∈ s.settings, g.IsSetting e.1 e.2) → Follows (f s) s.settings s.words) :
    g.ReadsVerbatim (fun line => (g.read line).map f) Follows where
  accepts settings words line written distinct some_word := by
    have enough : g.required ≤ words.length := by
      rw [one]
      exact List.length_pos_iff.2 some_word
    have read := (read_eq_ok_iff h (t := ⟨settings, words⟩)).2 ⟨written, distinct, enough⟩
    have ⟨_, spells, _⟩ := written
    exact ⟨_, congrArg (Except.map f) read, follows ⟨settings, words⟩ distinct spells.isSetting⟩
  accepts_only line o read := by
    cases found : g.read line with
    | error e =>
      rw [found] at read
      cases read
    | ok t =>
      rw [found] at read
      obtain rfl := Except.ok.inj read
      obtain ⟨written, distinct, enough⟩ := (read_eq_ok_iff h).1 found
      rw [one] at enough
      have ⟨_, spells, _⟩ := written
      exact ⟨t.settings, t.words, written, distinct, List.length_pos_iff.1 enough,
        follows t distinct spells.isSetting⟩

end Settings

end Grammar
end Launcher.Options
