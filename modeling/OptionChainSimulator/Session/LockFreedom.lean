import Mathlib.Tactic
import OptionChainSimulator.Session.LongerHorizon

namespace OptionChainSimulator.Session

open Foundation Foundation.Protocol Utils Domain

/-! Why an advance of a v2 simulation loses its save: another one has committed its step since it
began, so that a conflict is always somebody's progress. -/

section Holding

variable {Chain : Type} {store : SimulationStore} {runtime : Runtime Chain} {call : Nat}
  {moment : Moment} {before after : Manager Chain store} {stage next : Stage Chain}
  {simulation : SessionV2}

/-- The copy of the document that a peek or an advance works with. -/
def Stage.holding? : Stage Chain → Option SessionV2
  | .looking _ simulation | .fetching _ simulation _ | .saving simulation _ => some simulation
  | _ => none

theorem holding?_served {route : Route} {snapshot : SeriesSnapshot Chain} {held : SessionV2}
    (holding : (route.served simulation snapshot).holding? = some held) : held = simulation := by
  cases route with
  | peek => cases holding
  | advance =>
      cases holding
      rfl

/-- A copy comes from a read, and is kept until the save. -/
theorem holding?_of_managerStep
    (stepped : ManagerStep runtime call moment before stage after next)
    (holding : next.holding? = some simulation) :
    stage.holding? = some simulation ∨
      ∃ route id, before.ledger.read route id = .ok simulation ∧ after = before := by
  cases stepped with
  | ledger moved =>
      cases ledgerStep_of_proceed moved with
      | read found =>
          cases holding
          exact .inr ⟨_, _, found, rfl⟩
      | commit saved =>
          unfold committed at holding
          split at holding <;> cases holding
      | _ => cases holding
  | hit found =>
      obtain rfl := holding?_served holding
      exact .inl rfl
  | miss => exact .inl holding
  | fetch => exact .inl holding
  | price built =>
      obtain rfl := holding?_served holding
      exact .inl rfl
  | _ => cases holding

end Holding

section Commits

variable {service : Service} {store : SimulationStore} {atomic : store.Atomic service}
  {ledger : Ledger store} {id : Uuid} {cursor : Nat} {commit : Commit}

theorem mem_steps {step : Nat} :
    step ∈ ledger.steps id ↔ ∃ commit ∈ ledger.commits, commit.id = id ∧ commit.step = step := by
  simp only [Ledger.steps, List.mem_map, List.mem_filter, decide_eq_true_eq, and_assoc]

theorem Ledger.Served.committed_lt {stored : store.State → Uuid → Option SessionV2}
    (served : ledger.Served stored id cursor) (committed : commit ∈ ledger.commits)
    (named : commit.id = id) : commit.step < cursor := by
  have member : commit.step ∈ ledger.steps id := mem_steps.mpr ⟨commit, committed, named, rfl⟩
  rw [served.steps] at member
  exact List.mem_range.mp member

theorem length_steps_mono {before after : Ledger store} {new : List Commit}
    (grown : after.commits = before.commits ++ new) :
    (before.steps id).length ≤ (after.steps id).length := by
  unfold Ledger.steps
  rw [grown, List.filter_append, List.map_append, List.length_append]
  exact Nat.le_add_right _ _

/-- A save commits its step, or finds it committed, or finds no simulation. -/
theorem LedgerFacts.commit_cases (call : Nat) (now : SystemTime) {simulation : SessionV2}
    (facts : LedgerFacts atomic ledger) (known : ledger.Knows service simulation)
    (left : simulation.currentStep < simulation.totalSteps)
    (caught : simulation.currentStep ≤ (ledger.steps simulation.id).length) :
    (∃ after moved, ledger.commit call now simulation = .ok (after, moved) ∧
        atomic.stored ledger.documents simulation.id ≠ none ∧
        simulation.currentStep ∉ ledger.steps simulation.id) ∨
      (ledger.commit call now simulation = .error (simulationNotFound simulation.id) ∧
        atomic.stored ledger.documents simulation.id = none) ∨
      ∃ message, ledger.commit call now simulation = .error (.conflict message) ∧
        atomic.stored ledger.documents simulation.id ≠ none ∧
        simulation.currentStep ∈ ledger.steps simulation.id := by
  obtain ⟨cursor, served⟩ := facts.served simulation.id
  rw [served.steps, List.length_range] at caught
  rw [served.steps, List.mem_range]
  cases result : ledger.commit call now simulation with
  | ok saved =>
      obtain ⟨after, moved⟩ := saved
      obtain ⟨advancing, documents, stored, -⟩ := commit_eq_ok.mp result
      obtain ⟨-, -, rfl⟩ := SessionV2.advanced_eq_ok.mp advancing
      obtain ⟨⟨old, held, current⟩, -⟩ := atomic.of_saveCas facts.sound stored
      refine .inl ⟨after, _, rfl, ?_, ?_⟩
      · rw [held]
        exact Option.some_ne_none _
      · have reached := served.current held
        have oldVersion := (facts.known held).version
        have version := known.version
        omega
  | error e =>
      obtain ⟨absent, rfl⟩ | ⟨old, message, held, stale, rfl⟩ := facts.refused known left result
      · exact .inr (.inl ⟨rfl, absent⟩)
      · refine .inr (.inr ⟨message, rfl, ?_, ?_⟩)
        · rw [held]
          exact Option.some_ne_none _
        · have reached := served.current held
          have oldVersion := (facts.known held).version
          have version := known.version
          omega

end Commits

section Racing

variable {Chain : Type} {runtime : Runtime Chain} {store : SimulationStore}
  {atomic : store.Atomic runtime.service} {config next last : SimulationConfig Chain store}
  {action : SimulationAction} {call : Nat} {old : List Commit}

/-- One call, since the moment it began: its copy is of a later state than the commits of before,
and of no later state than the commits of now. -/
structure Racing (atomic : store.Atomic runtime.service) (old : List Commit) (call : Nat)
    (config : SimulationConfig Chain store) : Prop where
  backed : Holds (ManagerFacts runtime atomic)
    (fun call manager phase => SimulationCall.Backed runtime call manager phase) config
  grown : ∃ new, config.shared.ledger.commits = old ++ new
  later : ∀ {stage simulation}, config.calls call = .active stage →
    stage.holding? = some simulation →
    simulation.currentStep ≤ (config.shared.ledger.steps simulation.id).length ∧
      ∀ commit ∈ old, commit.id = simulation.id → commit.step < simulation.currentStep

theorem later_of_read {simulation : SessionV2} {route : Route} {id : Uuid}
    (racing : Racing atomic old call config)
    (found : config.shared.ledger.read route id = .ok simulation) :
    simulation.currentStep ≤ (config.shared.ledger.steps simulation.id).length ∧
      ∀ commit ∈ old, commit.id = simulation.id → commit.step < simulation.currentStep := by
  have facts := racing.backed.shared.ledger
  obtain ⟨held, rfl, -⟩ := facts.read found
  obtain ⟨cursor, served⟩ := facts.served simulation.id
  obtain ⟨new, grown⟩ := racing.grown
  rw [served.steps, List.length_range, served.current held]
  refine ⟨le_rfl, ?_⟩
  intro commit member named
  exact served.committed_lt (grown ▸ List.mem_append_left new member) named

theorem racing_of_step (racing : Racing atomic old call config)
    (stepped : (managerCalls runtime store).step config action = some next) :
    Racing atomic old call next := by
  have backed := backed_free.preserved racing.backed atCall_unguarded stepped
  obtain ⟨new, grown⟩ := racing.grown
  cases action with
  | background tick =>
      obtain ⟨manager, ticked, rfl⟩ := step_background_eq_some.mp stepped
      obtain ⟨-, grows⟩ := backed_of_tick racing.backed.shared ticked
      obtain ⟨more, added, -⟩ := grows.ledger.commits
      refine ⟨backed, ⟨new ++ more, by rw [added, grown, List.append_assoc]⟩, ?_⟩
      intro stage simulation running holding
      obtain ⟨caught, fresh⟩ := racing.later running holding
      exact ⟨caught.trans (length_steps_mono added), fresh⟩
  | call index input =>
      obtain ⟨manager, phase, moved, rfl⟩ := step_call_eq_some.mp stepped
      obtain ⟨-, grows, -⟩ := backed_of_move racing.backed.shared (racing.backed.own index) moved
      obtain ⟨more, added, -⟩ := grows.ledger.commits
      refine ⟨backed, ⟨new ++ more, by rw [added, grown, List.append_assoc]⟩, ?_⟩
      intro stage simulation running holding
      have kept : ∀ {earlier}, config.calls call = .active earlier →
          earlier.holding? = some simulation →
          simulation.currentStep ≤ (manager.ledger.steps simulation.id).length ∧
            ∀ commit ∈ old, commit.id = simulation.id → commit.step < simulation.currentStep := by
        intro earlier was held
        obtain ⟨caught, fresh⟩ := racing.later was held
        exact ⟨caught.trans (length_steps_mono added), fresh⟩
      by_cases same : call = index
      · subst same
        simp only [Function.update_self] at running
        subst running
        obtain ⟨request, -, -, -, begun⟩ | ⟨moment, earlier, following, -, was, nextIs, proceeded⟩ |
          ⟨_, -, -, -, -, dropped⟩ := staged_cases moved
        · cases begun
          cases request with
          | advance id expectedStep => cases expectedStep <;> cases holding
          | _ => cases holding
        · cases nextIs
          obtain held | ⟨route, id, found, rfl⟩ :=
            holding?_of_managerStep (managerStep_of_proceed proceeded) holding
          · exact kept was held
          · have read := later_of_read racing found
            exact read
        · cases dropped
      · simp only [Function.update_of_ne same] at running
        exact kept running holding

theorem racing_of_run {actions : List SimulationAction} (racing : Racing atomic old call config)
    (ran : (managerCalls runtime store).run config actions = some last) :
    Racing atomic old call last :=
  holds_of_run (Racing atomic old call) racing_of_step racing ran

/-- What the section of a save does. -/
theorem step_of_save {simulation : SessionV2} {snapshot : SeriesSnapshot Chain} {moment : Moment}
    (saving : config.calls call = .active (.saving simulation snapshot))
    (stepped : (managerCalls runtime store).step config (.call call (.proceed moment)) =
      some next) :
    (∃ after moved, config.shared.ledger.commit call moment.now simulation = .ok (after, moved) ∧
        next.shared.ledger = after ∧ next.calls call = .active (committed moved snapshot)) ∨
      ∃ e, config.shared.ledger.commit call moment.now simulation = .error e ∧
        next.shared.ledger = config.shared.ledger ∧ next.calls call = .active (refused e) := by
  obtain ⟨manager, phase, moved, rfl⟩ := step_call_eq_some.mp stepped
  obtain ⟨_, -, idle, -⟩ | ⟨same, stage, following, input, active, rfl, proceeded⟩ |
    ⟨_, impossible, -⟩ := staged_cases moved
  · rw [saving] at idle
    cases idle
  · rw [saving] at active
    cases active
    cases input
    simp only [Manager.proceed, Ledger.proceed] at proceeded
    cases result : config.shared.ledger.commit call moment.now simulation with
    | ok saved =>
        rw [result] at proceeded
        cases proceeded
        exact .inl ⟨saved.1, saved.2, rfl, rfl, Function.update_self ..⟩
    | error e =>
        rw [result] at proceeded
        cases proceeded
        exact .inr ⟨e, rfl, rfl, Function.update_self ..⟩
  · cases impossible

end Racing

section Theorem

variable {Chain : Type} {runtime : Runtime Chain}

/-- The commits of a step of a simulation. -/
def rivalsOf (simulation : SessionV2) (commits : List Commit) : List Commit :=
  commits.filter fun commit =>
    commit.id = simulation.id ∧ commit.step = simulation.currentStep

theorem rivalsOf_eq_nil_iff {store : SimulationStore} {ledger : Ledger store}
    {simulation : SessionV2} {old new : List Commit} (grown : ledger.commits = old ++ new)
    (earlier : ∀ commit ∈ old, commit.id = simulation.id → commit.step < simulation.currentStep) :
    rivalsOf simulation new = [] ↔ simulation.currentStep ∉ ledger.steps simulation.id := by
  rw [mem_steps, grown, rivalsOf, List.filter_eq_nil_iff]
  constructor
  · intro alone committed
    obtain ⟨commit, member, named, same⟩ := committed
    cases List.mem_append.mp member with
    | inl before => exact absurd same (earlier commit before named).ne
    | inr since => exact alone commit since (decide_eq_true ⟨named, same⟩)
  · intro free commit since rival
    obtain ⟨named, same⟩ := of_decide_eq_true rival
    exact free ⟨commit, List.mem_append_right old since, named, same⟩

/-- What became of a save. The rivals are the commits of its step since its call began. -/
structure SaveOutcome {store : SimulationStore} (stored : Option SessionV2) (rivals : List Commit)
    (simulation : SessionV2) (snapshot : SeriesSnapshot Chain) (call : Nat)
    (next : SimulationConfig Chain store) : Prop where
  foreign : ∀ rival ∈ rivals, rival.call ≠ call
  commits : (∃ moved, next.calls call = .active (committed moved snapshot)) ↔
    stored ≠ none ∧ rivals = []
  misses : next.calls call = .active (refused (simulationNotFound simulation.id)) ↔ stored = none
  conflicts : (∃ message, next.calls call = .active (refused (.conflict message))) ↔
    stored ≠ none ∧ rivals ≠ []
  progress : stored ≠ none → simulation.currentStep ∈ next.shared.ledger.steps simulation.id

theorem committed_ne_refused {simulation : SessionV2} {snapshot : SeriesSnapshot Chain}
    {e : ChainError} :
    (StagedCall.active (committed simulation snapshot)) ≠ .active (refused e) := by
  unfold committed refused
  split <;> simp

theorem refused_injective {e other : ChainError}
    (same : (StagedCall.active (refused e : Stage Chain)) = .active (refused other)) :
    e = other := by
  cases same
  rfl

section Outcomes

variable {store : SimulationStore} {stored : Option SessionV2} {rivals : List Commit}
  {simulation moved : SessionV2} {snapshot : SeriesSnapshot Chain} {call : Nat} {message : String}
  {next : SimulationConfig Chain store}

theorem SaveOutcome.won (foreign : ∀ rival ∈ rivals, rival.call ≠ call)
    (answered : next.calls call = .active (committed moved snapshot)) (present : stored ≠ none)
    (alone : rivals = [])
    (taken : simulation.currentStep ∈ next.shared.ledger.steps simulation.id) :
    SaveOutcome stored rivals simulation snapshot call next := by
  refine ⟨foreign, ?_, ?_, ?_, fun _ => taken⟩
  · exact iff_of_true ⟨moved, answered⟩ ⟨present, alone⟩
  · rw [answered]
    exact iff_of_false committed_ne_refused present
  · rw [answered]
    refine iff_of_false ?_ fun both => both.2 alone
    intro conflicted
    obtain ⟨message, same⟩ := conflicted
    exact committed_ne_refused same

theorem not_committed_of_refused {e : ChainError}
    (answered : next.calls call = .active (refused e)) :
    ¬ ∃ moved, next.calls call = .active (committed moved snapshot) := by
  intro won
  obtain ⟨moved, same⟩ := won
  exact committed_ne_refused (same.symm.trans answered)

theorem SaveOutcome.missed (foreign : ∀ rival ∈ rivals, rival.call ≠ call)
    (answered : next.calls call = .active (refused (simulationNotFound simulation.id)))
    (absent : stored = none) : SaveOutcome stored rivals simulation snapshot call next := by
  refine ⟨foreign, ?_, ?_, ?_, fun present => absurd absent present⟩
  · exact iff_of_false (not_committed_of_refused answered) fun both => both.1 absent
  · exact iff_of_true answered absent
  · refine iff_of_false ?_ fun both => both.1 absent
    intro conflicted
    obtain ⟨message, same⟩ := conflicted
    cases refused_injective (answered.symm.trans same)

theorem SaveOutcome.lost (foreign : ∀ rival ∈ rivals, rival.call ≠ call)
    (answered : next.calls call = .active (refused (.conflict message))) (present : stored ≠ none)
    (beaten : rivals ≠ [])
    (taken : simulation.currentStep ∈ next.shared.ledger.steps simulation.id) :
    SaveOutcome stored rivals simulation snapshot call next := by
  refine ⟨foreign, ?_, ?_, ?_, fun _ => taken⟩
  · exact iff_of_false (not_committed_of_refused answered) fun both => beaten both.2
  · refine iff_of_false ?_ present
    intro same
    cases refused_injective (answered.symm.trans same)
  · exact iff_of_true ⟨message, answered⟩ ⟨present, beaten⟩

end Outcomes

/-- In every run over either store, an advance whose simulation is still stored commits its save
exactly where no other call has committed the step since it began; otherwise it conflicts, and
either way the step has been committed by then. -/
theorem save_loses_only_to_a_commit (backend : Backend) {before during : List SimulationAction}
    {begun reached next : SimulationConfig Chain (backend.store runtime.service)} {call : Nat}
    {moment : Moment} {simulation : SessionV2} {snapshot : SeriesSnapshot Chain}
    (began : (managerCalls runtime _).run ((managerCalls runtime _).start (.new runtime _)) before =
      some begun)
    (idle : begun.calls call = .idle)
    (ran : (managerCalls runtime _).run begun during = some reached)
    (saving : reached.calls call = .active (.saving simulation snapshot))
    (stepped : (managerCalls runtime _).step reached (.call call (.proceed moment)) = some next) :
    ∃ since, reached.shared.ledger.commits = begun.shared.ledger.commits ++ since ∧
      SaveOutcome
        ((backend.atomic runtime.service).stored reached.shared.ledger.documents simulation.id)
        (rivalsOf simulation since) simulation snapshot call next := by
  have starts : Racing (backend.atomic runtime.service) begun.shared.ledger.commits call begun := by
    refine ⟨backed_of_run _ began, ⟨[], (List.append_nil _).symm⟩, fun running => ?_⟩
    rw [idle] at running
    cases running
  have racing := racing_of_run starts ran
  obtain ⟨since, grown⟩ := racing.grown
  obtain ⟨caught, earlier⟩ := racing.later saving rfl
  have own := racing.backed.own call
  obtain ⟨-, known, left⟩ := own.active saving
  have foreign : ∀ rival ∈ rivalsOf simulation since, rival.call ≠ call := by
    intro rival member
    refine Ledger.Settled.uncommitted (saving ▸ own.settled) rfl rival ?_
    rw [grown]
    exact List.mem_append_right _ (List.mem_of_mem_filter member)
  have alone := rivalsOf_eq_nil_iff grown earlier
  refine ⟨since, grown, ?_⟩
  obtain ⟨after, moved, saved, rfl, answered⟩ | ⟨e, failed, unchanged, answered⟩ :=
    step_of_save saving stepped
  · obtain ⟨_, _, -, present, free⟩ | ⟨impossible, -⟩ | ⟨message, impossible, -⟩ :=
      racing.backed.shared.ledger.commit_cases call moment.now known left caught
    · refine .won foreign answered present (alone.mpr free) ?_
      obtain ⟨-, documents, -, equal⟩ := commit_eq_ok.mp saved
      rw [equal, steps_append, if_pos rfl]
      exact List.mem_append_right _ (List.mem_singleton_self _)
    · rw [saved] at impossible
      cases impossible
    · rw [saved] at impossible
      cases impossible
  · obtain ⟨_, _, impossible, -⟩ | ⟨missed, absent⟩ | ⟨message, conflicted, present, taken⟩ :=
      racing.backed.shared.ledger.commit_cases call moment.now known left caught
    · rw [failed] at impossible
      cases impossible
    · rw [failed] at missed
      cases missed
      exact .missed foreign answered absent
    · rw [failed] at conflicted
      cases conflicted
      refine .lost foreign answered present (fun none_ => alone.mp none_ taken) ?_
      rw [unchanged]
      exact taken

/-! Two advances of one step: the first to begin is at its save when the second commits. -/

def racingForFirst : List SimulationAction :=
  .call 1 (.request (.advance someId none)) :: sections 1 4 ++
    .background (.runTask 1 0) :: sections 1 4 ++
    .call 2 (.request (.advance someId none)) :: sections 2 3

def creatingTwoDays : List SimulationAction :=
  .call 0 (.request (.create (brownianDays 2))) :: sections 0 1

def SimulationCall.saving? :
    SimulationCall Chain → Option (SessionV2 × SeriesSnapshot Chain)
  | .active (.saving simulation snapshot) => some (simulation, snapshot)
  | _ => none

theorem saving?_eq_some {phase : SimulationCall Chain} {simulation : SessionV2}
    {snapshot : SeriesSnapshot Chain} (saving : phase.saving? = some (simulation, snapshot)) :
    phase = .active (.saving simulation snapshot) := by
  unfold SimulationCall.saving? at saving
  split at saving
  · cases saving
    rfl
  · cases saving

theorem save_loses_only_to_a_commit_second :
    ∃ begun reached next simulation snapshot since,
      kernelCalls.run kernelStart creatingTwoDays = some begun ∧
      kernelCalls.run begun racingForFirst = some reached ∧
      kernelCalls.step reached (.call 1 (.proceed ⟨0, 0, someId⟩)) = some next ∧
      reached.calls 1 = .active (.saving simulation snapshot) ∧
      reached.shared.ledger.commits = begun.shared.ledger.commits ++ since ∧
      SaveOutcome
        ((memoryBackend.atomic utcService).stored reached.shared.ledger.documents simulation.id)
        (rivalsOf simulation since) simulation snapshot 1 next := by
  have computed : ((kernelCalls.run kernelStart creatingTwoDays).any fun begun =>
      (kernelCalls.run begun racingForFirst).any fun reached =>
        (reached.calls 1).saving?.isSome &&
          (kernelCalls.step reached (.call 1 (.proceed ⟨0, 0, someId⟩))).isSome) = true := by
    decide +kernel
  obtain ⟨begun, began, checked⟩ := (Option.any_eq_true _ _).mp computed
  obtain ⟨reached, ran, checked⟩ := (Option.any_eq_true _ _).mp checked
  obtain ⟨saving, stepping⟩ := Bool.and_eq_true_iff.mp checked
  obtain ⟨⟨simulation, snapshot⟩, saving⟩ := Option.isSome_iff_exists.mp saving
  obtain ⟨next, stepped⟩ := Option.isSome_iff_exists.mp stepping
  have idle : begun.calls 1 = .idle := by
    refine calls_of_run ?_ began
    intro input member
    simp [creatingTwoDays, sections] at member
  obtain ⟨since, grown, outcome⟩ := @save_loses_only_to_a_commit Domain.Positive kernelRuntime
    memoryBackend creatingTwoDays racingForFirst begun reached next 1 _ simulation snapshot began
    idle ran (saving?_eq_some saving) stepped
  exact ⟨begun, reached, next, simulation, snapshot, since, began, ran, stepped,
    saving?_eq_some saving, grown, outcome⟩

end Theorem

end OptionChainSimulator.Session
