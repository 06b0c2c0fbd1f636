import Mathlib.Tactic
import OptionChainSimulator.Session.ManagerV2
import OptionChainSimulator.Session.Store.V2Memory
import OptionChainSimulator.Session.Store.V2Redis

namespace OptionChainSimulator.Session

open Foundation Foundation.Protocol Utils Domain

/-! What holds in every run of a manager over a store that acts on one document at a
time. -/

/-- The steps of a simulation that have been served, in commit order. -/
def Ledger.steps {store : SimulationStore} (ledger : Ledger store) (id : Uuid) : List Nat :=
  (ledger.commits.filter (·.id = id)).map (·.step)

section LedgerFacts

variable {service : Service} {store : SimulationStore}

/-- A copy of a simulation's document, of now or of an earlier moment. -/
structure Ledger.Knows (service : Service) (ledger : Ledger store) (simulation : SessionV2) :
    Prop where
  valid : simulation.validate service = .ok ()
  version : simulation.version = simulation.currentStep
  owned : ledger.created simulation.id = some simulation.parameters

/-- A simulation has served the steps before its cursor, each once and in order. -/
structure Ledger.Served (stored : store.State → Uuid → Option SessionV2) (ledger : Ledger store)
    (id : Uuid) (cursor : Nat) : Prop where
  steps : ledger.steps id = List.range cursor
  within : ∀ {parameters}, ledger.created id = some parameters → cursor ≤ parameters.steps
  unborn : ledger.created id = none → cursor = 0
  current : ∀ {simulation}, stored ledger.documents id = some simulation →
    simulation.currentStep = cursor

structure LedgerFacts (atomic : store.Atomic service) (ledger : Ledger store) : Prop where
  sound : atomic.Sound ledger.documents
  known : ∀ {id simulation}, atomic.stored ledger.documents id = some simulation →
    ledger.Knows service simulation
  served : ∀ id, ∃ cursor, ledger.Served atomic.stored id cursor

/-- What the sections of one call leave to the others: only it commits, and what a
simulation was created with stays. -/
structure Ledger.Grows (others : Nat → Prop) (before after : Ledger store) : Prop where
  created : ∀ {id parameters}, before.created id = some parameters →
    after.created id = some parameters
  commits : ∃ new, after.commits = before.commits ++ new ∧
    ∀ commit ∈ new, ¬ others commit.call

theorem Ledger.Grows.of_same {others : Nat → Prop} {before after : Ledger store}
    (created : after.created = before.created) (commits : after.commits = before.commits) :
    before.Grows others after where
  created held := by rwa [created]
  commits := ⟨[], by simp [commits], by simp⟩

theorem Ledger.Knows.grow {others : Nat → Prop} {before after : Ledger store}
    {simulation : SessionV2} (known : before.Knows service simulation)
    (grows : before.Grows others after) : after.Knows service simulation :=
  ⟨known.valid, known.version, grows.created known.owned⟩

variable {atomic : store.Atomic service} {before after : Ledger store} {call : Nat}
  {now : SystemTime} {simulation moved : SessionV2} {id : Uuid} {route : Route} {e : ChainError}

theorem ledgerFacts_empty : LedgerFacts atomic (.empty : Ledger store) where
  sound := atomic.sound_empty
  known {id _} held := by
    rw [Ledger.empty, atomic.stored_empty] at held
    cases held
  served id :=
    ⟨0, rfl, fun _ => Nat.zero_le _, fun _ => rfl, fun {_} held => by
      rw [Ledger.empty, atomic.stored_empty] at held
      cases held⟩

theorem LedgerFacts.shrink (facts : LedgerFacts atomic before) {documents : store.State}
    (sound : atomic.Sound documents)
    (shrunk : Shrunk (atomic.stored before.documents) (atomic.stored documents)) :
    LedgerFacts atomic { before with documents } := by
  have earlier : ∀ {id simulation}, atomic.stored documents id = some simulation →
      atomic.stored before.documents id = some simulation := by
    intro id simulation held
    cases shrunk id with
    | inl gone =>
        rw [gone] at held
        cases held
    | inr kept => rwa [← kept]
  refine ⟨sound, fun held => ?_, fun id => ?_⟩
  · have known := facts.known (earlier held)
    exact ⟨known.valid, known.version, known.owned⟩
  · obtain ⟨cursor, served⟩ := facts.served id
    exact ⟨cursor, served.steps, served.within, served.unborn,
      fun held => served.current (earlier held)⟩

theorem create_eq_ok : before.create simulation = .ok after ↔
    ∃ documents, store.create before.documents simulation = .ok documents ∧
      after = { before with
        documents := documents
        created := Function.update before.created simulation.id (some simulation.parameters) } := by
  simp only [Ledger.create, bind_eq_ok, pure, Except.pure, Except.ok.injEq]
  simp only [eq_comm]

theorem commit_eq_ok : before.commit call now simulation = .ok (after, moved) ↔
    simulation.advanced now = .ok moved ∧
      ∃ documents, store.saveCas before.documents moved simulation.version = .ok documents ∧
        after = { before with
          documents := documents
          commits := before.commits ++ [⟨call, simulation.id, simulation.currentStep⟩] } := by
  simp only [Ledger.commit, bind_eq_ok, pure, Except.pure, Except.ok.injEq, Prod.mk.injEq]
  constructor
  · intro succeeded
    obtain ⟨_, advancing, documents, saved, rfl, rfl⟩ := succeeded
    exact ⟨advancing, documents, saved, rfl⟩
  · intro succeeded
    obtain ⟨advancing, documents, saved, rfl⟩ := succeeded
    exact ⟨moved, advancing, documents, saved, rfl, rfl⟩

theorem LedgerFacts.create {parameters : SimulationParametersV2}
    (facts : LedgerFacts atomic before) (fresh : before.created id = none)
    (created : before.create (.new parameters id now) = .ok after) :
    LedgerFacts atomic after ∧ after.Knows service (.new parameters id now) ∧
      ∀ others, before.Grows others after := by
  obtain ⟨documents, stored, rfl⟩ := create_eq_ok.mp created
  obtain ⟨valid, sound, update⟩ := atomic.of_create facts.sound stored
  have grows : ∀ {other own}, before.created other = some own →
      Function.update before.created id (some parameters) other = some own := by
    intro other own held
    rw [Function.update_of_ne]
    · exact held
    · intro same
      rw [same, fresh] at held
      cases held
  have known : Ledger.Knows service
      { before with
        documents := documents
        created := Function.update before.created id (some parameters) }
      (.new parameters id now) := ⟨valid, rfl, Function.update_self ..⟩
  refine ⟨⟨sound, ?_, ?_⟩, known, fun others => ⟨grows, [], by simp, by simp⟩⟩
  · intro other simulation held
    simp only [update, SessionV2.new] at held
    by_cases same : other = id
    · subst same
      rw [Function.update_self] at held
      cases held
      exact known
    · rw [Function.update_of_ne same] at held
      have earlier := facts.known held
      exact ⟨earlier.valid, earlier.version, grows earlier.owned⟩
  · intro other
    obtain ⟨cursor, served⟩ := facts.served other
    by_cases same : other = id
    · subst same
      have begins := served.unborn fresh
      subst begins
      refine ⟨0, served.steps, fun _ => Nat.zero_le _, fun _ => rfl, fun held => ?_⟩
      simp only [update, SessionV2.new, Function.update_self, Option.some.injEq] at held
      rw [← held]
    · refine ⟨cursor, served.steps, ?_, ?_, ?_⟩
      · simp only [SessionV2.new, Function.update_of_ne same]
        exact served.within
      · simp only [SessionV2.new, Function.update_of_ne same]
        exact served.unborn
      · simp only [update, SessionV2.new, Function.update_of_ne same]
        exact served.current

theorem LedgerFacts.get (facts : LedgerFacts atomic before)
    (found : store.get before.documents id = .ok simulation) :
    atomic.stored before.documents id = some simulation ∧ simulation.id = id ∧
      before.Knows service simulation := by
  rw [atomic.get_eq facts.sound, okOr_eq_ok] at found
  exact ⟨found, atomic.stored_id facts.sound found, facts.known found⟩

theorem LedgerFacts.read (facts : LedgerFacts atomic before)
    (found : before.read route id = .ok simulation) :
    atomic.stored before.documents id = some simulation ∧ simulation.id = id ∧
      before.Knows service simulation ∧ simulation.currentStep < simulation.totalSteps := by
  simp only [Ledger.read, bind_eq_ok, pure, Except.pure] at found
  obtain ⟨document, got, _, accepted, equal⟩ := found
  cases equal
  obtain ⟨held, named, known⟩ := facts.get got
  exact ⟨held, named, known, (SessionV2.rejectTerminal_eq_ok known.valid).mp accepted⟩

theorem advanced_of_left (known : before.Knows service simulation)
    (left : simulation.currentStep < simulation.totalSteps) :
    simulation.advanced now = .ok { simulation with
      currentStep := simulation.currentStep + 1
      version := simulation.version + 1
      updatedAt := now
      state := if simulation.totalSteps ≤ simulation.currentStep + 1 then .completed
        else .inProgress } := by
  obtain ⟨-, parameters, total, -, -⟩ := SessionV2.validate_eq_ok.mp known.valid
  have fits := (SessionV2.steps_of_validate parameters).2
  have version := known.version
  exact SessionV2.advanced_eq_ok.mpr ⟨by omega, by omega, rfl⟩

theorem steps_append {ledger : Ledger store} {documents : store.State} {commit : Commit} :
    Ledger.steps { ledger with
      documents := documents
      commits := ledger.commits ++ [commit] } id =
    if commit.id = id then ledger.steps id ++ [commit.step] else ledger.steps id := by
  unfold Ledger.steps
  by_cases same : commit.id = id
  · simp [List.filter_append, same]
  · simp [List.filter_append, same]

theorem LedgerFacts.commit (facts : LedgerFacts atomic before)
    (known : before.Knows service simulation)
    (left : simulation.currentStep < simulation.totalSteps)
    (saved : before.commit call now simulation = .ok (after, moved)) :
    LedgerFacts atomic after ∧ after.Knows service moved ∧ moved.id = simulation.id ∧
      moved.parameters = simulation.parameters ∧
      moved.currentStep = simulation.currentStep + 1 ∧
      after.created = before.created ∧
      after.commits = before.commits ++ [⟨call, moved.id, simulation.currentStep⟩] := by
  obtain ⟨advancing, documents, stored, rfl⟩ := commit_eq_ok.mp saved
  have valid := SessionV2.validate_advanced known.valid left advancing
  obtain ⟨⟨old, held, current⟩, sound, update⟩ := atomic.of_saveCas facts.sound stored
  obtain ⟨-, -, rfl⟩ := SessionV2.advanced_eq_ok.mp advancing
  have version := known.version
  obtain ⟨-, -, total, -, -⟩ := SessionV2.validate_eq_ok.mp known.valid
  have oldKnown := facts.known held
  have cursor : old.currentStep = simulation.currentStep := by
    rw [← oldKnown.version, current, version]
  refine ⟨⟨sound, ?_, ?_⟩, ⟨valid, congrArg (· + 1) version, known.owned⟩, rfl, rfl, rfl, rfl, rfl⟩
  · intro other document found
    simp only [update] at found
    by_cases same : other = simulation.id
    · subst same
      rw [Function.update_self] at found
      cases found
      exact ⟨valid, congrArg (· + 1) version, known.owned⟩
    · rw [Function.update_of_ne same] at found
      have earlier := facts.known found
      exact ⟨earlier.valid, earlier.version, earlier.owned⟩
  · intro other
    obtain ⟨count, served⟩ := facts.served other
    by_cases same : other = simulation.id
    · subst same
      have reached := served.current held
      refine ⟨count + 1, ?_, ?_, ?_, ?_⟩
      · rw [steps_append, if_pos rfl, served.steps, List.range_succ, ← reached, cursor]
      · intro parameters owned
        rw [known.owned] at owned
        cases owned
        omega
      · intro unborn
        rw [known.owned] at unborn
        cases unborn
      · intro document found
        simp only [update, Function.update_self, Option.some.injEq] at found
        rw [← found]
        simp only
        omega
    · refine ⟨count, ?_, served.within, served.unborn, ?_⟩
      · rw [steps_append, if_neg (Ne.symm same), served.steps]
      · intro document found
        simp only [update, Function.update_of_ne same] at found
        exact served.current found

theorem LedgerFacts.refused (facts : LedgerFacts atomic before)
    (known : before.Knows service simulation)
    (left : simulation.currentStep < simulation.totalSteps)
    (lost : before.commit call now simulation = .error e) :
    (atomic.stored before.documents simulation.id = none ∧
        e = simulationNotFound simulation.id) ∨
      ∃ old message, atomic.stored before.documents simulation.id = some old ∧
        old.version ≠ simulation.version ∧ e = .conflict message := by
  obtain ⟨moved, advancing⟩ : ∃ moved, simulation.advanced now = .ok moved :=
    ⟨_, advanced_of_left known left⟩
  have valid := SessionV2.validate_advanced known.valid left advancing
  simp only [Ledger.commit, advancing] at lost
  cases saved : store.saveCas before.documents moved simulation.version with
  | ok documents =>
      simp only [bind, Except.bind, saved] at lost
      cases lost
  | error refusal =>
      simp only [bind, Except.bind, saved] at lost
      cases lost
      obtain ⟨-, -, rfl⟩ := SessionV2.advanced_eq_ok.mp advancing
      have outcome := atomic.of_saveCas_error facts.sound valid saved
      exact outcome

theorem LedgerFacts.lose (facts : LedgerFacts atomic before)
    (known : before.Knows service simulation)
    (left : simulation.currentStep < simulation.totalSteps)
    (lost : before.commit call now simulation = .error e) :
    (atomic.stored before.documents simulation.id = none ∧
        e = simulationNotFound simulation.id) ∨
      ∃ message, e = .conflict message := by
  cases facts.refused known left lost with
  | inl gone => exact .inl gone
  | inr changed =>
      obtain ⟨_, message, -, -, rfl⟩ := changed
      exact .inr ⟨message, rfl⟩

end LedgerFacts

section Snapshots

variable {Chain : Type} {runtime : Runtime Chain} {parameters : SimulationParametersV2}
  {step : Nat} {snapshot : SeriesSnapshot Chain}

/-- A step's snapshot over a freshly built tape. -/
def Runtime.freshSnapshot (runtime : Runtime Chain) (parameters : SimulationParametersV2)
    (step : Nat) : Except Fault (SeriesSnapshot Chain) := do
  let tape ← runtime.build parameters
  snapshotOver runtime.service runtime.upstream parameters tape step

theorem freshSnapshot_eq_ok : runtime.freshSnapshot parameters step = .ok snapshot ↔
    ∃ tape, runtime.build parameters = .ok tape ∧
      snapshotOver runtime.service runtime.upstream parameters tape step = .ok snapshot := by
  simp only [Runtime.freshSnapshot, bind_eq_ok, lift_eq_ok]

theorem build_eq_ok {tape : FactorTape} : runtime.build parameters = .ok tape ↔
    FactorTape.build runtime.service runtime.upstream parameters parameters.method =
      .ok tape := by
  unfold Runtime.build
  cases FactorTape.build runtime.service runtime.upstream parameters parameters.method with
  | ok built => simp [joined]
  | error fault => cases fault <;> simp [joined]

theorem step_of_freshSnapshot (built : runtime.freshSnapshot parameters step = .ok snapshot) :
    snapshot.step = step := by
  obtain ⟨tape, tapeBuilt, priced⟩ := freshSnapshot_eq_ok.mp built
  unfold snapshotOver SeriesBuilder.snapshot at priced
  simp only [bind_eq_ok, lift_eq_ok, okOr_eq_ok, SeriesBuilder.new, pure, Except.pure] at priced
  obtain ⟨builder, made, row, present, active, -, chains, -, equal⟩ := priced
  cases equal
  obtain ⟨_, -, made⟩ := made
  cases made
  exact FactorTape.step_of_row (build_eq_ok.mp tapeBuilt) present

end Snapshots

section ManagerFacts

variable {Chain : Type} {store : SimulationStore} (runtime : Runtime Chain)

def Answer.Backed (ledger : Ledger store) (call : Nat) : Answer Chain → Prop
  | .created simulation | .found simulation | .preconditionFailed simulation =>
      ledger.Knows runtime.service simulation
  | .peeked simulation snapshot =>
      ledger.Knows runtime.service simulation ∧
        runtime.freshSnapshot simulation.parameters simulation.currentStep = .ok snapshot
  | .advanced simulation snapshot =>
      ledger.Knows runtime.service simulation ∧
        ∃ step, simulation.currentStep = step + 1 ∧
          runtime.freshSnapshot simulation.parameters step = .ok snapshot ∧
          ⟨call, simulation.id, step⟩ ∈ ledger.commits
  | .deleted .. | .expired _ => True

/-- The simulation a request holds has a step left. -/
def Ledger.Serving (ledger : Ledger store) (simulation : SessionV2) : Prop :=
  ledger.Knows runtime.service simulation ∧ simulation.currentStep < simulation.totalSteps

def Stage.Backed (manager : Manager Chain store) (call : Nat) : Stage Chain → Prop
  | .looking _ simulation =>
      manager.tapes.Fresh call ∧ manager.ledger.Serving runtime simulation
  | .fetching _ simulation tape =>
      tape.Sound runtime manager.tapes call simulation.id simulation.parameters ∧
        manager.ledger.Serving runtime simulation
  | .saving simulation snapshot =>
      runtime.freshSnapshot simulation.parameters simulation.currentStep = .ok snapshot ∧
        manager.ledger.Serving runtime simulation
  | .evictingTapes _ answer | .evictingSnapshots _ _ answer | .done (.ok answer) =>
      answer.Backed runtime manager.ledger call
  | .done (.error _) => True
  | _ => manager.tapes.Fresh call

/-- The answer a request is sure to give. -/
def Stage.answer? : Stage Chain → Option (Answer Chain)
  | .evictingTapes _ answer | .evictingSnapshots _ _ answer | .done (.ok answer) => some answer
  | _ => none

/-- A call that committed an advance answers it, unless the call is dropped. -/
def Ledger.Settled (ledger : Ledger store) (call : Nat) (phase : SimulationCall Chain) : Prop :=
  ∀ commit ∈ ledger.commits, commit.call = call →
    phase = .dropped ∨
      ∃ stage moved snapshot, phase = .active stage ∧
        stage.answer? = some (.advanced moved snapshot) ∧ moved.id = commit.id ∧
        moved.currentStep = commit.step + 1

/-- What holds of one call. -/
structure SimulationCall.Backed (call : Nat) (manager : Manager Chain store)
    (phase : SimulationCall Chain) : Prop where
  idle : phase = .idle → manager.tapes.Fresh call
  active : ∀ {stage}, phase = .active stage → stage.Backed runtime manager call
  settled : manager.ledger.Settled call phase

structure ManagerFacts (atomic : store.Atomic runtime.service) (manager : Manager Chain store) :
    Prop where
  ledger : LedgerFacts atomic manager.ledger
  tapes : manager.tapes.Sound runtime fun id parameters =>
    manager.ledger.created id = some parameters
  snapshots : manager.snapshots.All fun key snapshot =>
    ∃ parameters, manager.ledger.created key.1 = some parameters ∧
      runtime.freshSnapshot parameters key.2 = .ok snapshot

structure Manager.Grows (others : Nat → Prop) (before after : Manager Chain store) : Prop where
  ledger : before.ledger.Grows others after.ledger
  tapes : before.tapes.Extends others after.tapes

variable {runtime} {atomic : store.Atomic runtime.service} {before after : Manager Chain store}
  {call : Nat} {moment : Moment} {others : Nat → Prop}

theorem Answer.Backed.grow {before after : Ledger store} {answer : Answer Chain}
    (backed : answer.Backed runtime before call) (grows : before.Grows others after) :
    answer.Backed runtime after call := by
  cases answer with
  | created simulation => exact Ledger.Knows.grow backed grows
  | found simulation => exact Ledger.Knows.grow backed grows
  | preconditionFailed simulation => exact Ledger.Knows.grow backed grows
  | peeked simulation snapshot => exact ⟨backed.1.grow grows, backed.2⟩
  | advanced simulation snapshot =>
      obtain ⟨known, step, moved, built, committed⟩ := backed
      obtain ⟨new, more, -⟩ := grows.commits
      refine ⟨known.grow grows, step, moved, built, ?_⟩
      rw [more]
      exact List.mem_append_left _ committed
  | deleted | expired => trivial

theorem Ledger.Serving.grow {before after : Ledger store} {simulation : SessionV2}
    (serving : before.Serving runtime simulation) (grows : before.Grows others after) :
    after.Serving runtime simulation :=
  ⟨serving.1.grow grows, serving.2⟩

theorem Stage.Backed.grow {stage : Stage Chain} (backed : stage.Backed runtime before call)
    (grows : before.Grows others after) (other : others call) :
    stage.Backed runtime after call := by
  cases stage with
  | looking route simulation =>
      exact ⟨grows.tapes.fresh other backed.1, backed.2.grow grows.ledger⟩
  | fetching route simulation tape =>
      exact ⟨backed.1.extends grows.tapes other, backed.2.grow grows.ledger⟩
  | saving simulation snapshot => exact ⟨backed.1, backed.2.grow grows.ledger⟩
  | evictingTapes ids answer => exact Answer.Backed.grow backed grows.ledger
  | evictingSnapshots id rest answer => exact Answer.Backed.grow backed grows.ledger
  | done response =>
      cases response with
      | ok answer => exact Answer.Backed.grow backed grows.ledger
      | error fault => trivial
  | creating | getting | checking | reading | deleting | cleaning =>
      exact grows.tapes.fresh other backed

theorem Ledger.Settled.grow {before after : Ledger store} {phase : SimulationCall Chain}
    (settled : before.Settled call phase) (grows : before.Grows others after)
    (other : others call) : after.Settled call phase := by
  obtain ⟨new, more, foreign⟩ := grows.commits
  intro commit committed named
  rw [more, List.mem_append] at committed
  cases committed with
  | inl earlier => exact settled commit earlier named
  | inr new =>
      subst named
      exact absurd other (foreign commit new)

theorem SimulationCall.Backed.grow {phase : SimulationCall Chain}
    (backed : phase.Backed runtime call before) (grows : before.Grows others after)
    (other : others call) : phase.Backed runtime call after where
  idle quiet := grows.tapes.fresh other (backed.idle quiet)
  active running := (backed.active running).grow grows other
  settled := backed.settled.grow grows.ledger other

variable {manager : Manager Chain store} {ledger : Ledger store} {stage next : Stage Chain}
  {phase nextPhase : SimulationCall Chain} {simulation : SessionV2}
  {snapshot : SeriesSnapshot Chain}

theorem backed_served {route : Route}
    (serving : manager.ledger.Serving runtime simulation)
    (built : runtime.freshSnapshot simulation.parameters simulation.currentStep = .ok snapshot) :
    (route.served simulation snapshot).Backed runtime manager call := by
  cases route with
  | peek => exact ⟨serving.1, built⟩
  | advance => exact ⟨built, serving⟩

theorem backed_committed
    (backed : (Answer.advanced simulation snapshot).Backed runtime manager.ledger call) :
    (committed simulation snapshot).Backed runtime manager call := by
  unfold committed
  split_ifs
  · exact backed
  · exact backed

theorem backed_of_answer {answer : Answer Chain} (backed : stage.Backed runtime manager call)
    (answered : stage.answer? = some answer) : answer.Backed runtime manager.ledger call := by
  cases stage with
  | evictingTapes ids answer =>
      cases answered
      exact backed
  | evictingSnapshots id rest answer =>
      cases answered
      exact backed
  | done response =>
      cases response with
      | ok answer =>
          cases answered
          exact backed
      | error fault => cases answered
  | creating | getting | checking | reading | looking | fetching | saving | deleting |
      cleaning => cases answered

theorem answer?_committed :
    (committed simulation snapshot).answer? = some (.advanced simulation snapshot) := by
  unfold committed
  split_ifs <;> rfl

theorem backed_of_ledgerStep (facts : LedgerFacts atomic manager.ledger)
    (backed : stage.Backed runtime manager call)
    (stepped : LedgerStep call moment manager.ledger stage ledger next) :
    LedgerFacts atomic ledger ∧ manager.ledger.Grows (· ≠ call) ledger ∧
      next.Backed runtime { manager with ledger } call := by
  have same : manager.ledger.Grows (· ≠ call) manager.ledger := .of_same rfl rfl
  cases stepped with
  | create fresh created =>
      obtain ⟨after, known, grows⟩ := facts.create fresh created
      exact ⟨after, grows _, known⟩
  | get found => exact ⟨facts, same, (facts.get found).2.2⟩
  | check found => exact ⟨facts, same, backed⟩
  | mismatch found moved => exact ⟨facts, same, (facts.get found).2.2⟩
  | read found => exact ⟨facts, same, backed, (facts.read found).2.2⟩
  | refuseCreate | missGet | missCheck | refuseRead | lose => exact ⟨facts, same, trivial⟩
  | commit saved =>
      obtain ⟨built, known, left⟩ := backed
      obtain ⟨after, knownAfter, named, own, cursor, created, commits⟩ :=
        facts.commit known left saved
      refine ⟨after, ⟨fun held => by rwa [created], _, commits, by simp⟩, ?_⟩
      apply backed_committed
      refine ⟨knownAfter, _, cursor, by rwa [own], ?_⟩
      simp [commits]
  | delete =>
      obtain ⟨sound, -, update⟩ := atomic.of_delete facts.sound _
      refine ⟨facts.shrink sound fun other => ?_, .of_same rfl rfl, trivial⟩
      rw [update, Function.update_apply]
      split_ifs <;> simp
  | cleanup =>
      obtain ⟨sound, shrunk⟩ := atomic.of_cleanup facts.sound _
      exact ⟨facts.shrink sound shrunk, .of_same rfl rfl, trivial⟩

/-- A call that has no answer yet has committed nothing. -/
theorem Ledger.Settled.uncommitted {ledger : Ledger store}
    (settled : ledger.Settled call (.active stage)) (silent : stage.answer? = none) :
    ∀ commit ∈ ledger.commits, commit.call ≠ call := by
  intro commit committed named
  obtain impossible | ⟨_, moved, snapshot, equal, answer, -⟩ := settled commit committed named
  · cases impossible
  · cases equal
    rw [silent] at answer
    cases answer

theorem settled_of_ledgerStep {before after : Ledger store}
    (settled : before.Settled call (.active stage))
    (stepped : LedgerStep call moment before stage after next) :
    after.Settled call (.active next) := by
  have silent : stage.answer? = none := by cases stepped <;> rfl
  have none_yet := settled.uncommitted silent
  have unchanged : after.commits = before.commits → after.Settled call (.active next) := by
    intro same commit committed named
    rw [same] at committed
    exact absurd named (none_yet commit committed)
  cases stepped with
  | create fresh created =>
      obtain ⟨documents, -, rfl⟩ := create_eq_ok.mp created
      exact unchanged rfl
  | @commit simulation moved snapshot _ saved =>
      obtain ⟨advancing, documents, -, rfl⟩ := commit_eq_ok.mp saved
      obtain ⟨-, -, rfl⟩ := SessionV2.advanced_eq_ok.mp advancing
      intro commit committed named
      cases List.mem_append.mp committed with
      | inl earlier => exact absurd named (none_yet commit earlier)
      | inr new =>
          cases List.mem_singleton.mp new
          exact .inr ⟨_, _, _, rfl, answer?_committed, rfl, rfl⟩
  | refuseCreate | get | missGet | check | mismatch | missCheck | read | refuseRead | lose |
      delete | cleanup => exact unchanged rfl

theorem backed_of_managerStep (facts : ManagerFacts runtime atomic before)
    (backed : stage.Backed runtime before call)
    (stepped : ManagerStep runtime call moment before stage after next) :
    ManagerFacts runtime atomic after ∧ before.Grows (· ≠ call) after ∧
      next.Backed runtime after call := by
  have same : before.ledger.Grows (· ≠ call) before.ledger := .of_same rfl rfl
  have kept : before.tapes.Extends (· ≠ call) before.tapes := .of_same rfl rfl
  cases stepped with
  | ledger moved =>
      obtain ⟨ledger, grows, nextBacked⟩ :=
        backed_of_ledgerStep facts.ledger backed (ledgerStep_of_proceed moved)
      refine ⟨⟨ledger, facts.tapes.mono fun _ _ => grows.created, ?_⟩, ⟨grows, kept⟩, nextBacked⟩
      apply facts.snapshots.mono
      intro key snapshot filed
      obtain ⟨parameters, owned, built⟩ := filed
      exact ⟨parameters, grows.created owned, built⟩
  | hit found =>
      obtain ⟨⟨parameters, owned, built⟩, touched⟩ := facts.snapshots.get found
      obtain ⟨-, known, left⟩ := backed
      rw [known.owned] at owned
      cases owned
      exact ⟨⟨facts.ledger, facts.tapes, touched⟩, ⟨same, kept⟩,
        backed_served ⟨known, left⟩ built⟩
  | miss => exact ⟨facts, ⟨same, kept⟩, backed⟩
  | fetch stepped =>
      obtain ⟨staged, known, left⟩ := backed
      obtain ⟨tapes, nextStaged, extended⟩ := Tapes.tapeStep_sound
        (fun owned other => Option.some.inj (owned.symm.trans other)) facts.tapes known.owned
        staged stepped
      exact ⟨⟨facts.ledger, tapes, facts.snapshots⟩, ⟨same, extended⟩,
        nextStaged, known, left⟩
  | refuseTape => exact ⟨facts, ⟨same, kept⟩, trivial⟩
  | price built =>
      obtain ⟨delivered, known, left⟩ := backed
      have fresh := freshSnapshot_eq_ok.mpr ⟨_, (tape_of_delivered delivered), built⟩
      refine ⟨⟨facts.ledger, facts.tapes, facts.snapshots.insert ⟨_, known.owned, ?_⟩⟩,
        ⟨same, kept⟩, backed_served ⟨known, left⟩ fresh⟩
      rw [step_of_freshSnapshot fresh]
      exact fresh
  | refusePrice failed => exact ⟨facts, ⟨same, kept⟩, trivial⟩
  | evicted => exact ⟨facts, ⟨same, kept⟩, backed⟩
  | evictTape =>
      exact ⟨⟨facts.ledger, facts.tapes.evict, facts.snapshots⟩, ⟨same, Tapes.extends_evict⟩,
        backed⟩
  | evictSnapshots =>
      exact ⟨⟨facts.ledger, facts.tapes, facts.snapshots.evictSimulation⟩, ⟨same, kept⟩, backed⟩

theorem settled_of_managerStep (settled : before.ledger.Settled call (.active stage))
    (stepped : ManagerStep runtime call moment before stage after next) :
    after.ledger.Settled call (.active next) := by
  have passes : after.ledger = before.ledger → (∀ moved snapshot,
      stage.answer? = some (.advanced moved snapshot) →
        next.answer? = some (.advanced moved snapshot)) →
      after.ledger.Settled call (.active next) := by
    intro same answers commit committed named
    rw [same] at committed
    obtain impossible | ⟨_, moved, snapshot, equal, answer, rest⟩ :=
      settled commit committed named
    · cases impossible
    · cases equal
      exact .inr ⟨next, moved, snapshot, rfl, answers moved snapshot answer, rest⟩
  cases stepped with
  | ledger moved => exact settled_of_ledgerStep settled (ledgerStep_of_proceed moved)
  | evicted => exact passes rfl fun _ _ answer => answer
  | evictTape => exact passes rfl fun _ _ answer => answer
  | evictSnapshots => exact passes rfl fun _ _ answer => answer
  | hit | miss | fetch | refuseTape | price | refusePrice =>
      exact passes rfl fun _ _ answer => by cases answer

theorem backed_of_tick {tick : SimulationTick} (facts : ManagerFacts runtime atomic before)
    (ticked : before.tick runtime tick = some after) :
    ManagerFacts runtime atomic after ∧ before.Grows (fun _ => True) after := by
  have same : before.ledger.Grows (fun _ => True) before.ledger := .of_same rfl rfl
  have kept : before.tapes.Extends (fun _ => True) before.tapes := .of_same rfl rfl
  cases tick with
  | runTask call now =>
      obtain ⟨tapes, ran, rfl⟩ := Option.map_eq_some_iff.mp ticked
      exact ⟨⟨facts.ledger, Tapes.runTask_sound facts.tapes ran, facts.snapshots⟩,
        ⟨same, Tapes.runTask_extends ran⟩⟩
  | evictTape id =>
      cases ticked
      exact ⟨⟨facts.ledger, facts.tapes.evict, facts.snapshots⟩, ⟨same, Tapes.extends_evict⟩⟩
  | evictSnapshot id step =>
      cases ticked
      exact ⟨⟨facts.ledger, facts.tapes, facts.snapshots.removeEntry⟩, ⟨same, kept⟩⟩
  | elapse milliseconds =>
      cases ticked
      obtain ⟨sound, shrunk⟩ := atomic.of_elapse facts.ledger.sound milliseconds
      exact ⟨⟨facts.ledger.shrink sound shrunk, facts.tapes, facts.snapshots⟩,
        ⟨.of_same rfl rfl, kept⟩⟩

theorem backed_request {request : SimulationRequest} (fresh : before.tapes.Fresh call) :
    (request.stage : Stage Chain).Backed runtime before call := by
  cases request with
  | advance id expectedStep => cases expectedStep <;> exact fresh
  | create | get | peek | delete | cleanup => exact fresh

theorem backed_of_move {input : SimulationInput} (facts : ManagerFacts runtime atomic before)
    (backed : phase.Backed runtime call before)
    (moved : (managerCalls runtime store).move call input before phase =
      some (after, nextPhase)) :
    ManagerFacts runtime atomic after ∧ before.Grows (· ≠ call) after ∧
      nextPhase.Backed runtime call after := by
  obtain ⟨request, -, rfl, rfl, rfl⟩ | ⟨moment, stage, next, -, rfl, rfl, stepped⟩ |
    ⟨stage, -, rfl, -, rfl, rfl⟩ := staged_cases moved
  · have fresh := backed.idle rfl
    refine ⟨facts, ⟨.of_same rfl rfl, .of_same rfl rfl⟩,
      ⟨fun impossible => (by cases impossible), fun running => ?_, ?_⟩⟩
    · cases running
      exact backed_request fresh
    · intro commit committed named
      obtain impossible | ⟨_, _, _, impossible, -⟩ := backed.settled commit committed named
      · cases impossible
      · cases impossible
  · have stepped := managerStep_of_proceed stepped
    obtain ⟨factsAfter, grows, nextBacked⟩ :=
      backed_of_managerStep facts (backed.active rfl) stepped
    refine ⟨factsAfter, grows, ⟨fun impossible => (by cases impossible), fun running => ?_,
      settled_of_managerStep backed.settled stepped⟩⟩
    cases running
    exact nextBacked
  · exact ⟨facts, ⟨.of_same rfl rfl, .of_same rfl rfl⟩,
      ⟨fun impossible => (by cases impossible), fun impossible => (by cases impossible),
        fun _ _ _ => .inl rfl⟩⟩

theorem backed_free : (managerCalls runtime store).FreeOfInterference (fun _ _ _ _ => True)
    (ManagerFacts runtime atomic) fun call manager phase => phase.Backed runtime call manager where
  move facts backed _ moved := by
    obtain ⟨factsAfter, -, nextBacked⟩ := backed_of_move facts backed moved
    exact ⟨factsAfter, nextBacked⟩
  others facts backed _ moved other different phase held := by
    obtain ⟨-, grows, -⟩ := backed_of_move facts backed moved
    exact held.grow grows different
  tick facts ticked := by
    obtain ⟨factsAfter, grows⟩ := backed_of_tick facts ticked
    exact ⟨factsAfter, fun index phase held => held.grow grows trivial⟩

theorem start_backed : Holds (ManagerFacts runtime atomic)
    (fun call manager phase => SimulationCall.Backed runtime call manager phase)
    ((managerCalls runtime store).start (.new runtime store)) where
  shared :=
    { ledger := ledgerFacts_empty
      tapes := Tapes.sound_empty
      snapshots := SnapshotCache.all_withBounds }
  own _ :=
    { idle := fun _ => ⟨rfl, rfl⟩
      active := fun impossible => (by cases impossible)
      settled := fun _ impossible => (by cases impossible) }

theorem backed_of_run {actions : List SimulationAction} {last : SimulationConfig Chain store}
    (atomic : store.Atomic runtime.service)
    (ran : (managerCalls runtime store).run
      ((managerCalls runtime store).start (.new runtime store)) actions = some last) :
    Holds (ManagerFacts runtime atomic)
      (fun call manager phase => SimulationCall.Backed runtime call manager phase) last :=
  backed_free.holds_of_any_run start_backed ran

end ManagerFacts

/-- The stores a manager runs over, with the retention each is configured with. -/
inductive Backend where
  | memory (retentionSecs : Nat)
  | redis (retentionSecs : Nat)

def Backend.store (service : Service) : Backend → SimulationStore
  | .memory retentionSecs => inMemorySimulationStore service retentionSecs
  | .redis retentionSecs => inRedisSimulationStore service retentionSecs

def Backend.atomic (service : Service) :
    (backend : Backend) → (backend.store service).Atomic service
  | .memory retentionSecs => inMemorySimulationStore.atomic service retentionSecs
  | .redis retentionSecs => inRedisSimulationStore.atomic service retentionSecs

end OptionChainSimulator.Session
