import Launcher.Proofs.Command.Starting
import Launcher.Proofs.Command.Stopping
import Launcher.Proofs.Host.Kernel
/-!
Processes that a launch leaves behind. Until every link is up, a launch that fails signals what it
started, and a supervision goes on until every exit is recorded. Between the two nobody is in
charge: where supervision cannot begin, the processes are neither signalled nor waited for. -/
namespace Launcher

open Command

namespace Kernel

variable {k : Kernel σ} {l : Ledger σ} {p : Text.Palette} {json : Bool} {catalog : Catalog}
variable {d : Discovery (σ × List Deed)}

/-- Each process that was started is known to be over, or was sent a signal. -/
def IsAttended (k : Kernel σ) (w : σ × List Deed) : Prop :=
  ∀ s ∈ Deed.spawned w.2, k.isRecorded s.pid w.1 = true ∨
    ∃ signal, (s.pid, signal) ∈ Deed.signals w.2

section Stopping

theorem signals_grow {w w' : σ × List Deed} (h : AddsNoAttempt w w') {sent : Nat × Signal}
    (mem : sent ∈ Deed.signals w.2) : sent ∈ Deed.signals w'.2 := by
  obtain ⟨new, added, -⟩ := h
  simp only [Deed.signals, added, List.filterMap_append]
  exact List.mem_append_left _ mem

theorem signal_attends (pid : Nat) (signal : Signal) (w : σ × List Deed)
    (valid : ControlError.isValidPid pid) :
    k.isRecorded pid w.1 = true ∨
      (pid, signal) ∈ Deed.signals (k.accounted.host.signal pid signal w).2.2 := by
  cases recorded : k.isRecorded pid w.1 with
  | true => exact .inl rfl
  | false =>
    have open_to : ControlError.refusal pid (k.accounted.host.isRecorded pid w) = none := by
      simp [ControlError.refusal, valid, host, accounted, recorded]
    refine .inr ?_
    simp only [Host.signal, open_to]
    rcases sent : k.kill pid signal w.1 with ⟨_ | cause, world⟩
    · simp [host, accounted, sent, List.filterMap_append]
    · simp [host, accounted, sent, List.filterMap_append]

/-- A round of signals misses no process that is not known to be over. -/
theorem Sound.signalAll_attends (sound : k.Sound l) (signal : Signal) (pids : List Nat)
    (valid : ∀ pid ∈ pids, ControlError.isValidPid pid) (w : σ × List Deed) :
    ∀ pid ∈ pids, k.isRecorded pid (k.accounted.host.signalAll signal pids w).1 = true ∨
      (pid, signal) ∈ Deed.signals (k.accounted.host.signalAll signal pids w).2 := by
  induction pids generalizing w with
  | nil => nofun
  | cons first rest ih =>
    rw [List.forall_mem_cons] at valid
    rw [Host.signalAll, List.forall_mem_cons]
    refine ⟨?_, ih valid.2 _⟩
    -- What the first signal leads to is not undone by the rest of the round.
    rcases signal_attends first signal w valid.1 with recorded | sent
    · have kept := sound.accounted_moves.signal first signal w
      exact .inl ((sound.accounted_moves.signalAll signal rest _).recorded _
        (kept.recorded _ recorded))
    · exact .inr (signals_grow (k.accounted_moves.signalAll signal rest _) sent)

end Stopping

section Starting

/-- What a start adds to the account. A process that cannot be attended is killed. -/
inductive Starts (launch : Launch) : Except SpawnError Nat → List Deed → Prop
  | attended {pid} : ControlError.isValidPid pid →
      Starts launch (.ok pid) [.started launch pid]
  | refused {cause failed} : Starts launch (.error cause) [.failedToStart launch failed]
  | discarded {pid cause known} :
      Starts launch (.error cause) [.started launch pid, .signalled pid .kill known]

theorem Sound.start_deeds (sound : k.Sound l) (launch : Launch) (w : σ × List Deed) :
    ∃ new, (k.accounted.start launch w).2.2 = w.2 ++ new ∧
      Starts launch (k.accounted.start launch w).1 new := by
  rcases made : k.spawn launch w.1 with ⟨cause | pid, world⟩
  · refine ⟨[.failedToStart launch (.os launch.program.binary cause)], ?_, ?_⟩
    · simp [start, accounted, made]
    · simpa [start, accounted, made] using .refused
  · have valid := sound.valid made
    rcases attended : k.attend pid world with ⟨cause | _, world'⟩
    · refine ⟨[.started launch pid, .signalled pid .kill (k.isRecorded pid world')], ?_, ?_⟩
      · simp [start, discard, accounted, made, attended, valid]
      · simpa [start, accounted, made, attended] using .discarded
    · refine ⟨[.started launch pid], ?_, ?_⟩
      · simp [start, accounted, made, attended]
      · simpa [start, accounted, made, attended] using .attended valid

/-- What the work on links adds: the processes that were started for them and, at the end, one that
could not be attended. -/
structure Accounts (w w' : σ × List Deed) (started discarded : List Started) : Prop where
  spawned : Deed.spawned w'.2 = Deed.spawned w.2 ++ started ++ discarded
  signals : Deed.signals w'.2 = Deed.signals w.2 ++ discarded.map fun s => (s.pid, .kill)
  valid : ∀ s ∈ started, ControlError.isValidPid s.pid

theorem Accounts.of_deeds {w w' : σ × List Deed} {new : List Deed}
    {started discarded : List Started} (added : w'.2 = w.2 ++ new)
    (spawned : Deed.spawned new = started ++ discarded)
    (signals : Deed.signals new = discarded.map fun s => (s.pid, .kill))
    (valid : ∀ s ∈ started, ControlError.isValidPid s.pid) : Accounts w w' started discarded where
  spawned := by
    have whole : Deed.spawned w'.2 = Deed.spawned w.2 ++ Deed.spawned new :=
      added ▸ List.filterMap_append
    rw [whole, spawned, List.append_assoc]
  signals := by
    have whole : Deed.signals w'.2 = Deed.signals w.2 ++ Deed.signals new :=
      added ▸ List.filterMap_append
    rw [whole, signals]
  valid := valid

/-- Work on a link signals no process but one that cannot be attended, and then it fails. -/
theorem Sound.visit_accounts (sound : k.Sound l) (keeps : d.Keeps Prod.snd)
    {v : Visit (σ × List Deed)} {answer : Except CommandError Started} {left : List String}
    {w' : σ × List Deed} (h : v.start k.accounted.host p json catalog d = (answer, left, w')) :
    ∃ discarded, Accounts v.world w' answer.toOption.toList discarded ∧
      (answer.toOption.isSome → discarded = []) ∧
      ∀ cause, answer ≠ .error (.setup cause) := by
  have kept : (v.outcome p catalog d).2.2 = v.world.2 :=
    resolveLink_keeps keeps p catalog v.earlier v.link v.answers v.world
  let notice := Deed.wrote .stderr (v.outcome p catalog d).1.notice
  let told := k.accounted.host.write .stderr (v.outcome p catalog d).1.notice
    (v.outcome p catalog d).2
  have noticed : told.2 = v.world.2 ++ [notice] := congrArg (· ++ [notice]) kept
  rcases start_split h with ⟨e, rfl, rfl⟩ | ⟨launch, started⟩
  · exact ⟨[], .of_deeds noticed rfl rfl (List.forall_mem_nil _), fun _ => rfl, by simp⟩
  · obtain ⟨new, added, starts⟩ := sound.start_deeds launch told
    rw [noticed, List.append_assoc] at added
    rcases started with ⟨cause, made, rfl⟩ | ⟨pid, w, stream, text, made, rfl, rfl⟩
    · rw [show k.accounted.start launch told = _ from made] at added starts
      cases starts with
      | refused =>
        exact ⟨[], .of_deeds added rfl rfl (List.forall_mem_nil _), fun _ => rfl, by simp⟩
      | @discarded pid =>
        refine ⟨[⟨pid, launch⟩], .of_deeds added rfl rfl (List.forall_mem_nil _), ?_, by simp⟩
        simp [Except.toOption]
    · rw [show k.accounted.start launch told = _ from made] at added starts
      cases starts with
      | attended valid =>
        have ran : w.2 = v.world.2 ++ [notice, .started launch pid] := added
        have each : ∀ s ∈ [Started.mk pid launch], ControlError.isValidPid s.pid := by
          simpa using valid
        have announced : (k.accounted.host.write stream text w).2 =
            v.world.2 ++ [notice, .started launch pid, .wrote stream text] := by
          simp [host, accounted, ran]
        exact ⟨[], .of_deeds announced rfl rfl each, fun _ => rfl, by simp⟩

theorem Sound.links_account (sound : k.Sound l) (keeps : d.Keeps Prod.snd) {earlier : List Launch}
    {links : List ChainLink} {answers : List String} {w w' : σ × List Deed}
    {vs : List (Visit (σ × List Deed))} {started : List Started} {failure : Option CommandError}
    (h : InTurn (Visit.start k.accounted.host p json catalog d) Started.launch earlier links answers
      w vs started failure w') :
    ∃ discarded, Accounts w w' started discarded ∧ (failure = none → discarded = []) ∧
      ∀ cause, failure ≠ some (.setup cause) := by
  induction h with
  | finished => exact ⟨[], ⟨by simp, by simp, List.forall_mem_nil _⟩, fun _ => rfl, by simp⟩
  | failed first =>
    obtain ⟨discarded, accounts, -, other⟩ := sound.visit_accounts keeps first
    refine ⟨discarded, accounts, by simp, fun cause same => ?_⟩
    exact other cause (congrArg _ (Option.some.inj same))
  | went first _ ih =>
    obtain ⟨none, here, discards_none, -⟩ := sound.visit_accounts keeps first
    obtain rfl := discards_none rfl
    obtain ⟨discarded, later, rest⟩ := ih
    refine ⟨discarded, ⟨?_, ?_, ?_⟩, rest⟩
    · rw [later.spawned, here.spawned]
      simp [Except.toOption]
    · rw [later.signals, here.signals]
      simp
    · rw [List.forall_mem_cons]
      exact ⟨here.valid _ (by simp [Except.toOption]), later.valid⟩

end Starting

section Supervising

theorem verdictResult_ne_setup {verdict : Supervision.Verdict} {cause : SetupError} :
    verdictResult verdict ≠ .error (.setup cause) := by
  cases verdict <;> simp [verdictResult]

/-- The positions that were told are those of recorded exits, and the others are still counted. -/
structure Hears (k : Kernel σ) (l : Ledger σ) (pids : List Nat) (s : Supervision) (w : σ) :
    Prop where
  watched : l.watched w = pids
  once : (l.told w).Nodup
  recorded : ∀ index ∈ l.told w, ∃ pid, pids[index]? = some pid ∧ k.isRecorded pid w = true
  counted : (l.told w).length + s.remaining = pids.length

variable {pids : List Nat} {s : Supervision} {w w' : σ} {chosen : Signal} {started : List Started}

theorem Hears.rests (h : Hears k l pids s w) (rests : k.Rests l w w') : Hears k l pids s w' where
  watched := rests.watched.trans h.watched
  once := rests.told ▸ h.once
  recorded index mem := by
    obtain ⟨pid, there, known⟩ := h.recorded index (rests.told ▸ mem)
    exact ⟨pid, there, rests.recorded pid known⟩
  counted := rests.told ▸ h.counted

/-- One event: an exit that is told is one that is not counted any more. -/
theorem Hears.step (sound : k.Sound l) (h : Hears k l pids s w) (running : s.isOver = false)
    {event : s.Awaited} (came : k.next s w = (some event, w')) :
    Hears k l pids (s.step chosen event.1).1 w' := by
  have watched : l.watched w' = pids := by
    have same := sound.watches s w
    rw [came] at same
    exact same.trans h.watched
  have kept : ∀ pid, k.isRecorded pid w = true → k.isRecorded pid w' = true := by
    have keeps := sound.kept s w
    rw [came] at keeps
    exact keeps
  have positive : s.remaining ≠ 0 := by simpa [Supervision.isOver] using running
  obtain ⟨e, listens⟩ := event
  cases sound.tells came with
  | @exited index status pid there fresh known told =>
    refine ⟨watched, ?_, ?_, ?_⟩
    · rw [told]
      exact List.nodup_cons.2 ⟨fresh, h.once⟩
    · rw [told, List.forall_mem_cons]
      refine ⟨⟨pid, h.watched ▸ there, known⟩, fun other mem => ?_⟩
      obtain ⟨pid', there', known'⟩ := h.recorded other mem
      exact ⟨pid', there', kept pid' known'⟩
    · have counted := h.counted
      rw [told]
      simp only [Supervision.step, List.length_cons]
      omega
  | other quiet told =>
    refine ⟨watched, told ▸ h.once, ?_, ?_⟩
    · rw [told]
      intro index mem
      obtain ⟨pid, there, known⟩ := h.recorded index mem
      exact ⟨pid, there, kept pid known⟩
    · rw [told]
      cases e with
      | exited => cases quiet
      | interrupted => exact h.counted
      | deadline => exact h.counted

theorem Hears.all_recorded (h : Hears k l pids s w)
    (all : ∀ index < pids.length, index ∈ l.told w) : ∀ pid ∈ pids, k.isRecorded pid w = true := by
  intro pid mem
  obtain ⟨index, short, rfl⟩ := List.mem_iff_getElem.1 mem
  obtain ⟨pid, there, known⟩ := h.recorded index (all index short)
  obtain rfl : pids[index] = pid := by simpa [List.getElem?_eq_getElem short] using there
  exact known

theorem Hears.all_told (h : Hears k l pids s w) (finished : s.isOver = true) :
    ∀ index < pids.length, index ∈ l.told w := by
  have none_left : s.remaining = 0 := by simpa [Supervision.isOver] using finished
  have within : l.told w ⊆ List.range pids.length := by
    intro index mem
    obtain ⟨pid, there, -⟩ := h.recorded index mem
    exact List.mem_range.2 (List.getElem?_eq_some_iff.1 there).1
  have counted := h.counted
  -- As many different positions as there are processes, so none of them is missing.
  have same : (l.told w).Perm (List.range pids.length) := by
    refine (List.subperm_of_subset h.once within).perm_of_length_le ?_
    rw [List.length_range]
    omega
  intro index short
  exact same.mem_iff.2 (List.mem_range.2 short)

/-- A supervision ends when every exit is recorded. -/
theorem Sound.superviseFrom_records (sound : k.Sound l) (h : Hears k l pids s w) :
    ∀ pid ∈ pids, k.isRecorded pid (superviseFrom k.host p chosen started s w).2 = true := by
  induction s, w using superviseFrom.induct k.host p chosen started with
  | case1 s w running w' silent =>
    -- Nothing more comes, so nothing is left to be told of.
    rw [superviseFrom, dif_pos running, silent]
    obtain ⟨told, all⟩ := sound.silent silent
    have known := h.all_recorded (h.watched ▸ all)
    have kept := sound.kept s w
    rw [show k.next s w = (none, w') from silent] at kept
    exact fun pid mem => kept pid (known pid mem)
  | case2 s w running event w' came _ ih =>
    rw [superviseFrom, dif_pos running, came]
    exact ih ((h.step sound running came).rests (sound.moves.performAll p chosen started _ w'))
  | case3 s w ended =>
    rw [superviseFrom, dif_neg ended]
    exact h.all_recorded (h.all_told (by simpa using ended))

theorem Sound.hears_start (sound : k.Sound l) {timeout : Option Duration}
    (watched : k.watch pids timeout w = (.ok (), w')) :
    Hears k l pids (.start pids.length) w' := by
  obtain ⟨listens, nothing⟩ := sound.watch watched
  refine ⟨listens, ?_, ?_, ?_⟩
  · rw [nothing]
    exact List.nodup_nil
  · rw [nothing]
    exact List.forall_mem_nil _
  · rw [nothing]
    exact Nat.zero_add _

/-- A supervision that can begin ends with a verdict, and with all exits recorded. -/
theorem Sound.supervise_records (sound : k.Sound l) (p : Text.Palette) (chosen : Signal)
    {timeout : Option Duration}
    (watched : k.watch (started.map (·.pid)) timeout w = (.ok (), w')) :
    let run := supervise k.host p timeout chosen started w
    (∀ cause, run.1 ≠ .error (.setup cause)) ∧
      ∀ s ∈ started, k.isRecorded s.pid run.2 = true := by
  let ended := superviseFrom k.host p chosen started (.start started.length) w'
  have ready : k.host.watch (started.map (·.pid)) timeout w = (.ok (), w') := watched
  have judged : supervise k.host p timeout chosen started w =
      (verdictResult (ended.1.verdict started.length), ended.2) := by
    rw [supervise, ready]
  have hears := sound.hears_start watched
  rw [List.length_map] at hears
  intro run
  refine ⟨fun cause failed => ?_, fun s mem => ?_⟩
  · exact verdictResult_ne_setup ((congrArg Prod.fst judged).symm.trans failed)
  · rw [show run.2 = ended.2 from congrArg Prod.snd judged]
    exact sound.superviseFrom_records hears s.pid (List.mem_map_of_mem mem)

end Supervising

section Launching

theorem Sound.stopAll_attends (sound : k.Sound l) {w : σ × List Deed}
    {started discarded : List Started} {world : σ}
    (accounts : Accounts (world, []) w started discarded) :
    IsAttended k (stopAll k.accounted.host p started w) := by
  have moved := k.accounted_moves.stopAll p started w
  intro s mem
  rw [moved.spawned_eq, accounts.spawned, List.mem_append] at mem
  rcases mem with mem | mem
  · have mem : s ∈ started := by simpa using mem
    have valid : ∀ pid ∈ started.map (·.pid), ControlError.isValidPid pid := by
      rw [List.forall_mem_map]
      exact accounts.valid
    rcases sound.signalAll_attends .term _ valid (announceStop k.accounted.host p started w) s.pid
      (List.mem_map_of_mem mem) with known | sent
    · exact .inl known
    · exact .inr ⟨.term, sent⟩
  · refine .inr ⟨.kill, signals_grow moved ?_⟩
    rw [accounts.signals]
    exact List.mem_append_right _ (List.mem_map_of_mem mem)

theorem Sound.supervise_attends (sound : k.Sound l) {w : σ × List Deed} {started : List Started}
    (spawned : Deed.spawned w.2 = started) (timeout : Option Duration) (chosen : Signal) :
    let run := supervise k.accounted.host p timeout chosen started w
    (∃ cause, run.1 = .error (.setup cause) ∧ run.2.2 = w.2) ∨
      (∀ cause, run.1 ≠ .error (.setup cause)) ∧ IsAttended k run.2 := by
  have moved : AddsNoAttempt w (supervise k.accounted.host p timeout chosen started w).2 :=
    k.accounted_moves.supervise (fun _ _ => .same rfl) (fun _ _ _ => .same rfl) p timeout chosen
      started w
  have known := k.accounted_shadows.supervise p timeout chosen started w
  rcases watched : k.watch (started.map (·.pid)) timeout w.1 with ⟨cause | _, world⟩
  · refine .inl ⟨cause, ?_⟩
    have failed : k.accounted.host.watch (started.map (·.pid)) timeout w =
        (.error cause, (world, w.2)) := by
      simp [host, accounted, watched]
    simp [supervise, failed]
  · obtain ⟨judged, recorded⟩ := sound.supervise_records p chosen watched
    rw [← known] at judged recorded
    refine .inr ⟨judged, fun s mem => .inl (recorded s ?_)⟩
    rwa [moved.spawned_eq, spawned] at mem

theorem Sound.launchChain_attends (sound : k.Sound l) (keeps : d.Keeps Prod.snd)
    (options : Options.LaunchOptions) (links : List ChainLink) (answers : List String) (world : σ) :
    let run := launchChain k.accounted.host p options catalog d links answers (world, [])
    (∃ cause, run.1 = .error (.setup cause) ∧ Deed.signals run.2.2 = [] ∧
        (Deed.spawned run.2.2).length = links.length) ∨
      (∀ cause, run.1 ≠ .error (.setup cause)) ∧ IsAttended k run.2 := by
  intro run
  obtain ⟨vs, started, failure, w, turns⟩ :=
    inTurn_exists (Visit.start k.accounted.host p options.json catalog d) Started.launch [] links
      answers (world, [])
  obtain ⟨discarded, accounts, none_discarded, other⟩ := sound.links_account keeps turns
  have ran : run = _ := launchChain_of_turns p turns
  cases failure with
  | some e =>
    rw [ran]
    refine .inr ⟨fun cause same => ?_, sound.stopAll_attends accounts⟩
    exact other cause (congrArg some (Except.error.inj same))
  | none =>
    obtain rfl := none_discarded rfl
    have spawned : Deed.spawned w.2 = started := by simpa using accounts.spawned
    rw [ran]
    rcases sound.supervise_attends spawned options.timeout options.signal with
      ⟨cause, failed, same⟩ | attended
    · refine .inl ⟨cause, failed, ?_, ?_⟩
      · rw [same]
        simpa using accounts.signals
      · rw [same, spawned]
        rcases turns.ending with ⟨-, lengths, whole⟩ | ⟨_, _, failed, -⟩
        · rw [← lengths, ← List.length_map, whole]
        · cases failed
    · exact .inr attended

theorem launch_cases (host : Host σ) (c : Context) (d : Discovery σ) (words : List String)
    (world : σ) :
    (∃ e, launch host c d words world = (.error e, world)) ∨
      ∃ options links catalog, Options.LaunchOptions.read words = .ok options ∧
        readChain options.chain = .ok links ∧ launch host c d words world =
          launchChain host c.palette options catalog d links (c.answersFor options.interactive)
            world := by
  unfold launch
  cases read : Options.LaunchOptions.read words with
  | error e => exact .inl ⟨_, rfl⟩
  | ok options =>
    dsimp only [Except.mapError]
    cases chain : readChain options.chain with
    | error e => exact .inl ⟨_, rfl⟩
    | ok links =>
      cases c.loadCatalog with
      | error e => exact .inl ⟨_, rfl⟩
      | ok catalog => exact .inr ⟨options, links, catalog, rfl, chain, rfl⟩

end Launching

end Kernel

namespace Command

namespace Sample

/-- A system for a hundred processes, each of which ends when the supervision waits for it. -/
structure Yard where
  made : Nat
  gone : List Nat
  watched : List Nat
  told : List Nat
  /-- Whether there is room for a supervision. -/
  roomy : Bool

/-- The first process that is watched and was not told, with its position. -/
def Yard.untold? (y : Yard) : Option (Nat × Nat) :=
  y.watched.zipIdx.find? fun e => e.2 ∉ y.told

/-- The process with number 9 cannot be attended. -/
def yard : Kernel Yard where
  spawn _ y :=
    if y.made < 100 then (.ok (7 + y.made), { y with made := y.made + 1 })
    else (.error (.errno ⟨11⟩), y)
  attend pid y := (if pid = 9 then .error ⟨11⟩ else .ok (), y)
  collect _ y := y
  isRecorded pid y := y.gone.contains pid
  kill _ _ y := (none, y)
  write _ _ y := y
  watch pids _ y :=
    if y.roomy then (.ok (), { y with watched := pids, told := [] })
    else (.error (.runtime (.errno .tooManyOpen)), y)
  next _ y :=
    match y.untold? with
    | none => (none, y)
    | some (pid, index) =>
      (some ⟨.exited index (.code 1), rfl⟩,
        { y with gone := pid :: y.gone, told := index :: y.told })

def ledger : Kernel.Ledger Yard := ⟨Yard.watched, Yard.told⟩

theorem yard_sound : yard.Sound ledger where
  valid := by
    intro launch y pid y' made
    by_cases few : y.made < 100
    · simp only [yard, few, if_true] at made
      obtain rfl := Except.ok.inj (congrArg Prod.fst made)
      have bound : Nat.pow 2 31 = 2147483648 := rfl
      simp only [ControlError.isValidPid, decide_eq_true_eq, bound]
      omega
    · simp [yard, few] at made
  write _ _ y := .refl y
  kill _ _ y := .refl y
  watch := by
    intro pids timeout y y' ready
    cases roomy : y.roomy with
    | true =>
      simp only [yard, roomy, if_true] at ready
      obtain rfl := congrArg Prod.snd ready
      exact ⟨rfl, rfl⟩
    | false => simp [yard, roomy] at ready
  kept s y pid known := by
    simp only [yard] at known ⊢
    cases y.untold? with
    | none => exact known
    | some e => simp_all
  watches s y := by
    simp only [yard]
    cases y.untold? <;> rfl
  tells := by
    intro s y event y' came
    simp only [yard] at came
    cases untold : y.untold? with
    | none => simp [untold] at came
    | some e =>
      simp only [untold] at came
      obtain ⟨same, rfl⟩ := Prod.mk.inj came
      obtain rfl := Option.some.inj same
      have there : y.watched[e.2]? = some e.1 :=
        List.mem_zipIdx_iff_getElem?.1 (List.mem_of_find?_eq_some untold)
      have fresh : e.2 ∉ y.told := by simpa using List.find?_some untold
      refine .exited there fresh ?_ rfl
      simp [yard]
  silent := by
    intro s y y' silent
    simp only [yard] at silent
    cases untold : y.untold? with
    | some e => simp [untold] at silent
    | none =>
      simp only [untold] at silent
      obtain rfl := congrArg Prod.snd silent
      refine ⟨rfl, fun index short => ?_⟩
      have all := List.find?_eq_none.1 untold (y.watched[index], index)
        (List.mem_zipIdx_iff_getElem?.2 (List.getElem?_eq_getElem short))
      simpa [ledger] using all

def unknowing : Discovery Yard := Registry.empty.discovery

/-- A launch of so many processes. -/
def working (count : Nat) (roomy : Bool) : Except CommandError Unit × Yard × List Deed :=
  launchChain yard.accounted.host ⟨false⟩ options tools unknowing.beside
    (List.replicate count ⟨"tool:run", []⟩) [] (⟨0, [], [], [], roomy⟩, [])

end Sample

/-- Who is left alone by a launch that returns an error. Before the chain nothing is started. After
that, every process that was started is known to be over or was sent a signal, also one that could
not be attended, unless supervision could not begin: then all links are up and nothing was
signalled, so that a process is left alone exactly if its exit is not recorded. -/
theorem error_leaves_alone_iff (k : Kernel σ) (l : Kernel.Ledger σ) (sound : k.Sound l) :
    (∀ (host : Host σ) c d words world, (∃ e, launch host c d words world = (.error e, world)) ∨
      ∃ options links catalog, Options.LaunchOptions.read words = .ok options ∧
        readChain options.chain = .ok links ∧ launch host c d words world =
          launchChain host c.palette options catalog d links (c.answersFor options.interactive)
            world) ∧
    ∀ p options catalog (d : Discovery σ) links answers world e,
      let run := launchChain k.accounted.host p options catalog d.beside links answers (world, [])
      run.1 = .error e →
        ((∀ cause, e ≠ .setup cause) → k.IsAttended run.2) ∧
        ∀ cause, e = .setup cause → (Deed.spawned run.2.2).length = links.length ∧
          Deed.signals run.2.2 = [] ∧
          (k.IsAttended run.2 ↔
            ∀ s ∈ Deed.spawned run.2.2, k.isRecorded s.pid run.2.1 = true) := by
  refine ⟨Kernel.launch_cases, fun p options catalog d links answers world e => ?_⟩
  have keeps : Discovery.Keeps Prod.snd (d.beside : Discovery (σ × List Deed)) := beside_keeps d
  rcases sound.launchChain_attends (p := p) keeps options links answers world
    with ⟨cause, failed, signals, started⟩ | ⟨other, attended⟩
  · intro run error
    obtain rfl : CommandError.setup cause = e := Except.error.inj (failed.symm.trans error)
    refine ⟨fun other => absurd rfl (other cause), fun _ _ => ⟨started, signals, ?_⟩⟩
    unfold Kernel.IsAttended
    rw [signals]
    simp
  · intro run error
    refine ⟨fun _ => attended, ?_⟩
    rintro cause rfl
    exact absurd error (other cause)

/-- Both processes run on, and neither was told to end. -/
theorem counterexample_left_alone :
    (Sample.working 2 false).1 = .error (.setup (.runtime (.errno .tooManyOpen))) ∧
    (Deed.spawned (Sample.working 2 false).2.2).map (·.pid) = [7, 8] ∧
    Sample.yard.isRecorded 7 (Sample.working 2 false).2.1 = false ∧
    Deed.signals (Sample.working 2 false).2.2 = [] ∧
    ¬ Sample.yard.IsAttended (Sample.working 2 false).2 := by
  have pids : (Deed.spawned (Sample.working 2 false).2.2).map (·.pid) = [7, 8] := rfl
  have running : Sample.yard.isRecorded 7 (Sample.working 2 false).2.1 = false := rfl
  have silent : Deed.signals (Sample.working 2 false).2.2 = [] := rfl
  refine ⟨rfl, pids, running, silent, fun attended => ?_⟩
  have first : 7 ∈ (Deed.spawned (Sample.working 2 false).2.2).map (·.pid) := pids ▸ by simp
  obtain ⟨s, mem, pid⟩ := List.mem_map.1 first
  rcases attended s mem with known | ⟨signal, sent⟩
  · rw [pid, running] at known
    cases known
  · rw [silent] at sent
    cases sent

/-- The third process cannot be attended; without it, two processes end without success. -/
theorem error_leaves_alone_sample :
    (Sample.working 3 true).1 = .error (.spawn "tool:run" (.reaper 9 ⟨11⟩)) ∧
    (Deed.spawned (Sample.working 3 true).2.2).map (·.pid) = [7, 8, 9] ∧
    Deed.signals (Sample.working 3 true).2.2 = [(9, .kill), (7, .term), (8, .term)] ∧
    Sample.yard.IsAttended (Sample.working 3 true).2 ∧
    (Sample.working 2 true).1 = .error (.unsuccessful 2 2) ∧
    Sample.yard.IsAttended (Sample.working 2 true).2 ∧
    (Sample.yard.IsAttended (Sample.working 2 false).2 ↔
      ∀ s ∈ Deed.spawned (Sample.working 2 false).2.2,
        Sample.yard.isRecorded s.pid (Sample.working 2 false).2.1 = true) := by
  obtain ⟨-, law⟩ := error_leaves_alone_iff Sample.yard Sample.ledger Sample.yard_sound
  have discarded : (Sample.working 3 true).1 = .error (.spawn "tool:run" (.reaper 9 ⟨11⟩)) := rfl
  have failed : (Sample.working 2 true).1 = .error (.unsuccessful 2 2) := by decide +kernel
  refine ⟨discarded, rfl, rfl, ?_, failed, ?_, ?_⟩
  · exact (law _ _ _ _ _ _ _ _ discarded).1 nofun
  · exact (law _ _ _ _ _ _ _ _ failed).1 nofun
  · exact ((law _ _ _ _ _ _ _ _ rfl).2 (.runtime (.errno .tooManyOpen)) rfl).2.2

end Command
end Launcher
