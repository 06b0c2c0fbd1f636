import Mathlib.Tactic
import OptionChainSimulator.Session.CacheFree
import OptionChainSimulator.Session.LockFreedom

namespace OptionChainSimulator.Session

open Foundation Foundation.Protocol Utils Domain

/-! The manager against one that serves each request at one instant, with nothing cached. -/

/-- A request that is yet to take effect, or its answer. -/
inductive AtOnce (Chain : Type) where
  | pending (request : SimulationRequest)
  | answered (response : Response Chain)

section Reference

variable {Chain : Type} (runtime : Runtime Chain) {store : SimulationStore}

def Ledger.peekAtOnce (ledger : Ledger store) (id : Uuid) : Except Fault (Answer Chain) := do
  let simulation ← ledger.read .peek id
  let snapshot ← runtime.freshSnapshot simulation.parameters simulation.currentStep
  return .peeked simulation snapshot

def Ledger.advanceAtOnce (call : Nat) (now : SystemTime) (ledger : Ledger store) (id : Uuid) :
    Except Fault (Ledger store × Answer Chain) := do
  let simulation ← ledger.read .advance id
  let snapshot ← runtime.freshSnapshot simulation.parameters simulation.currentStep
  let (after, moved) ← ledger.commit call now simulation
  return (after, .advanced moved snapshot)

/-- What a request does at the instant it takes effect. An expected step is checked at an instant
of its own. -/
def Ledger.serveAtOnce (call : Nat) (moment : Moment) (ledger : Ledger store) :
    AtOnce Chain → Option (Ledger store × AtOnce Chain)
  | .pending (.create parameters) =>
      if (ledger.created moment.draw).isSome then none
      else
        let simulation := SessionV2.new parameters moment.draw moment.now
        match ledger.create simulation with
        | .ok after => some (after, .answered (.ok (.created simulation)))
        | .error e => some (ledger, .answered (.error (.error e)))
  | .pending (.get id) =>
      match store.get ledger.documents id with
      | .ok simulation => some (ledger, .answered (.ok (.found simulation)))
      | .error e => some (ledger, .answered (.error (.error e)))
  | .pending (.peek id) => some (ledger, .answered (ledger.peekAtOnce runtime id))
  | .pending (.advance id (some expectedStep)) =>
      match store.get ledger.documents id with
      | .ok simulation =>
          if simulation.currentStep ≠ expectedStep then
            some (ledger, .answered (.ok (.preconditionFailed simulation)))
          else some (ledger, .pending (.advance id none))
      | .error e => some (ledger, .answered (.error (.error e)))
  | .pending (.advance id none) =>
      match ledger.advanceAtOnce runtime call moment.now id with
      | .ok (after, answer) => some (after, .answered (.ok answer))
      | .error fault => some (ledger, .answered (.error fault))
  | .pending (.delete id) =>
      let (deleted, documents) := store.delete ledger.documents id
      some ({ ledger with documents }, .answered (.ok (.deleted id deleted)))
  | .pending .cleanup =>
      let (expired, documents) := store.cleanup moment.now ledger.documents
      some ({ ledger with documents }, .answered (.ok (.expired expired)))
  | .answered _ => none

abbrev AtOnceCall (Chain : Type) := StagedCall (AtOnce Chain)

def atOnceCalls (store : SimulationStore) :
    Protocol (Ledger store) (AtOnceCall Chain) SimulationInput SimulationTick :=
  staged AtOnce.pending (fun _ => false) (Ledger.serveAtOnce runtime) Ledger.tick

end Reference

section Effects

variable {Chain : Type} (runtime : Runtime Chain)

/-- The request of a stage that is before its effect. -/
def Stage.request? : Stage Chain → Option SimulationRequest
  | .creating parameters => some (.create parameters)
  | .getting id => some (.get id)
  | .checking id expectedStep => some (.advance id (some expectedStep))
  | .reading .peek id => some (.peek id)
  | .reading .advance id => some (.advance id none)
  | .saving simulation _ => some (.advance simulation.id none)
  | .deleting id => some (.delete id)
  | .cleaning => some .cleanup
  | _ => none

/-- A peek takes effect with its read, and so does an advance without a snapshot; any other
advance takes effect with its save. -/
def Route.afterRead (simulation : SessionV2) : Route → AtOnce Chain
  | .peek =>
      match runtime.freshSnapshot simulation.parameters simulation.currentStep with
      | .ok snapshot => .answered (.ok (.peeked simulation snapshot))
      | .error fault => .answered (.error fault)
  | .advance =>
      match runtime.freshSnapshot simulation.parameters simulation.currentStep with
      | .ok _ => .pending (.advance simulation.id none)
      | .error fault => .answered (.error fault)

/-- Where the request stands that takes effect at one instant. A conflict has no effect. -/
inductive Stage.Effected : Stage Chain → AtOnce Chain → Prop where
  | before {stage : Stage Chain} {request : SimulationRequest}
      (stands : stage.request? = some request) : Effected stage (.pending request)
  | looking {route : Route} {simulation : SessionV2} :
      Effected (.looking route simulation) (route.afterRead runtime simulation)
  | fetching {route : Route} {simulation : SessionV2} {tape : TapeStage} :
      Effected (.fetching route simulation tape) (route.afterRead runtime simulation)
  | evictingTapes {ids : List Uuid} {answer : Answer Chain} :
      Effected (.evictingTapes ids answer) (.answered (.ok answer))
  | evictingSnapshots {id : Uuid} {rest : List Uuid} {answer : Answer Chain} :
      Effected (.evictingSnapshots id rest answer) (.answered (.ok answer))
  | done {response reference : Response Chain} (same : SameResponse response reference) :
      Effected (.done response) (.answered reference)
  | conflict {message : String} {id : Uuid} :
      Effected (.done (.error (.error (.conflict message)))) (.pending (.advance id none))

inductive SimulationCall.Effected : SimulationCall Chain → AtOnceCall Chain → Prop where
  | idle : Effected .idle .idle
  | active {stage : Stage Chain} {reference : AtOnce Chain}
      (stages : stage.Effected runtime reference) : Effected (.active stage) (.active reference)
  | dropped {reference : AtOnceCall Chain} : Effected .dropped reference

theorem lift_ok {α : Type} (value : α) :
    (liftM (Except.ok value : Except ChainError α) : Except Fault α) = .ok value := rfl

variable {runtime} {store : SimulationStore} {call : Nat} {moment : Moment}
  {simulation : SessionV2} {route : Route} {fault : Fault} {snapshot : SeriesSnapshot Chain}

theorem afterRead_of_fault
    (failed : runtime.freshSnapshot simulation.parameters simulation.currentStep = .error fault) :
    route.afterRead runtime simulation = .answered (.error fault) := by
  cases route with
  | peek => simp only [Route.afterRead, failed]
  | advance => simp only [Route.afterRead, failed]

theorem effected_served
    (built : runtime.freshSnapshot simulation.parameters simulation.currentStep = .ok snapshot) :
    (route.served simulation snapshot).Effected runtime (route.afterRead runtime simulation) := by
  cases route with
  | peek =>
      simp only [Route.afterRead, built]
      exact .done (.inl rfl)
  | advance =>
      simp only [Route.afterRead, built]
      exact .before rfl

end Effects

section Versions

variable {service : Service} {store : SimulationStore} {atomic : store.Atomic service}
  {before after : Ledger store} {simulation : SessionV2} {id : Uuid} {now : SystemTime}

/-- A copy of a document, and the only one of its version that is stored now or later. -/
def Ledger.Current (atomic : store.Atomic service) (ledger : Ledger store)
    (simulation : SessionV2) : Prop :=
  ∀ stored, atomic.stored ledger.documents simulation.id = some stored →
    simulation.version ≤ stored.version ∧
      (stored.version = simulation.version → stored = simulation)

/-- Each stored document is the one of before, its successor, or that of a new simulation. -/
def Ledger.Revises (atomic : store.Atomic service) (before after : Ledger store) : Prop :=
  ∀ id stored, atomic.stored after.documents id = some stored →
    atomic.stored before.documents id = some stored ∨
      (∃ old, atomic.stored before.documents id = some old ∧ stored.version = old.version + 1) ∨
      before.created id = none

theorem Ledger.Current.revise {parameters : SimulationParametersV2}
    (current : before.Current atomic simulation)
    (owned : before.created simulation.id = some parameters)
    (revises : before.Revises atomic after) : after.Current atomic simulation := by
  intro stored held
  obtain same | ⟨old, earlier, successor⟩ | fresh := revises _ stored held
  · exact current stored same
  · obtain ⟨older, -⟩ := current old earlier
    exact ⟨by omega, fun same => by omega⟩
  · rw [owned] at fresh
    cases fresh

theorem revises_of_same (same : after.documents = before.documents) :
    before.Revises atomic after := by
  intro id stored held
  rw [same] at held
  exact .inl held

theorem revises_of_shrunk
    (shrunk : Shrunk (atomic.stored before.documents) (atomic.stored after.documents)) :
    before.Revises atomic after := by
  intro id stored held
  cases shrunk id with
  | inl gone =>
      rw [gone] at held
      cases held
  | inr kept => exact .inl (by rwa [← kept])

theorem revises_of_ledgerStep {Chain : Type} {call : Nat} {moment : Moment}
    {stage next : Stage Chain} (sound : atomic.Sound before.documents)
    (stepped : LedgerStep call moment before stage after next) :
    before.Revises atomic after := by
  cases stepped with
  | create fresh created =>
      obtain ⟨documents, stored, rfl⟩ := create_eq_ok.mp created
      obtain ⟨-, -, update⟩ := atomic.of_create sound stored
      intro id held stands
      simp only [update, SessionV2.new] at stands
      by_cases same : id = moment.draw
      · subst same
        exact .inr (.inr fresh)
      · rw [Function.update_of_ne same] at stands
        exact .inl stands
  | @commit simulation moved snapshot _ saved =>
      obtain ⟨advancing, documents, stored, rfl⟩ := commit_eq_ok.mp saved
      obtain ⟨⟨old, earlier, version⟩, -, update⟩ := atomic.of_saveCas sound stored
      obtain ⟨-, -, rfl⟩ := SessionV2.advanced_eq_ok.mp advancing
      intro id held stands
      simp only [update] at stands
      by_cases same : id = simulation.id
      · subst same
        rw [Function.update_self] at stands
        cases stands
        exact .inr (.inl ⟨old, earlier, by rw [version]⟩)
      · rw [Function.update_of_ne same] at stands
        exact .inl stands
  | delete =>
      obtain ⟨-, -, update⟩ := atomic.of_delete sound _
      apply revises_of_shrunk
      intro other
      rw [update, Function.update_apply]
      split_ifs <;> simp
  | cleanup => exact revises_of_shrunk (atomic.of_cleanup sound _).2
  | refuseCreate | get | missGet | check | mismatch | missCheck | read | refuseRead | lose =>
      exact revises_of_same rfl

/-- A save that succeeds finds the very document its call has read. -/
theorem read_of_commit {call : Nat} {moved : SessionV2} (facts : LedgerFacts atomic before)
    (known : before.Knows service simulation)
    (left : simulation.currentStep < simulation.totalSteps)
    (current : before.Current atomic simulation)
    (saved : before.commit call now simulation = .ok (after, moved)) :
    before.read .advance simulation.id = .ok simulation := by
  obtain ⟨advancing, documents, stored, -⟩ := commit_eq_ok.mp saved
  obtain ⟨⟨old, held, version⟩, -⟩ := atomic.of_saveCas facts.sound stored
  obtain ⟨-, -, rfl⟩ := SessionV2.advanced_eq_ok.mp advancing
  obtain rfl := (current old held).2 version
  have accepted : old.rejectTerminal Route.advance.lacking = .ok () :=
    (SessionV2.rejectTerminal_eq_ok known.valid).mpr left
  simp only [Ledger.read, atomic.get_eq facts.sound, held, okOr_some, bind, Except.bind, accepted]
  rfl

end Versions

section Simulation

variable {Chain : Type} {runtime : Runtime Chain} {store : SimulationStore}
  {atomic : store.Atomic runtime.service} {before after : Ledger store} {call : Nat}
  {moment : Moment} {stage next : Stage Chain} {reference : AtOnce Chain} {simulation : SessionV2}

/-- The copy that the request holds, if any, is current. -/
def Stage.HoldsCurrent (atomic : store.Atomic runtime.service) (ledger : Ledger store)
    (stage : Stage Chain) : Prop :=
  ∀ simulation, stage.holding? = some simulation → ledger.Current atomic simulation

/-- A section of the request at once, or none. -/
def Ledger.Matches (runtime : Runtime Chain) (call : Nat) (moment : Moment)
    (before after : Ledger store) (next : Stage Chain) (reference : AtOnce Chain) : Prop :=
  (after = before ∧ next.Effected runtime reference) ∨
    ∃ nextReference, before.serveAtOnce runtime call moment reference =
      some (after, nextReference) ∧ next.Effected runtime nextReference

theorem request_of_effected {request : SimulationRequest} (stands : stage.request? = some request)
    (effected : stage.Effected runtime reference) : reference = .pending request := by
  cases effected with
  | before same =>
      rw [stands] at same
      cases same
      rfl
  | looking | fetching | evictingTapes | evictingSnapshots | done | conflict => cases stands

theorem matches_of_read {route : Route} {id : Uuid} (named : simulation.id = id)
    (found : before.read route id = .ok simulation)
    (effected : (Stage.reading route id : Stage Chain).Effected runtime reference) :
    before.Matches runtime call moment before (.looking route simulation) reference := by
  cases route with
  | peek =>
      rw [request_of_effected rfl effected]
      refine .inr ⟨Route.peek.afterRead runtime simulation, ?_, .looking⟩
      simp only [Ledger.serveAtOnce, Ledger.peekAtOnce, Route.afterRead, found, lift_ok, bind,
        Except.bind]
      cases fresh : runtime.freshSnapshot simulation.parameters simulation.currentStep with
      | ok snapshot => rfl
      | error fault => rfl
  | advance =>
      rw [request_of_effected rfl effected]
      cases fresh : runtime.freshSnapshot simulation.parameters simulation.currentStep with
      | ok snapshot =>
          have waits :
              Route.advance.afterRead runtime simulation = .pending (.advance id none) := by
            simp only [Route.afterRead, fresh, named]
          rw [← waits]
          exact .inl ⟨rfl, .looking⟩
      | error fault =>
          refine .inr ⟨Route.advance.afterRead runtime simulation, ?_, .looking⟩
          simp only [Ledger.serveAtOnce, Ledger.advanceAtOnce, Route.afterRead, found, lift_ok,
            bind, Except.bind, fresh]

theorem matches_of_refusedRead {route : Route} {id : Uuid} {e : ChainError}
    (failed : before.read route id = .error e)
    (effected : (Stage.reading route id : Stage Chain).Effected runtime reference) :
    before.Matches runtime call moment before (refused e) reference := by
  refine .inr ⟨.answered (.error (.error e)), ?_, .done (.inl rfl)⟩
  cases route with
  | peek =>
      rw [request_of_effected rfl effected]
      simp only [Ledger.serveAtOnce, Ledger.peekAtOnce, failed]
      rfl
  | advance =>
      rw [request_of_effected rfl effected]
      simp only [Ledger.serveAtOnce, Ledger.advanceAtOnce, failed]
      rfl

theorem matches_of_commit {moved : SessionV2} {snapshot : SeriesSnapshot Chain}
    (found : before.read .advance simulation.id = .ok simulation)
    (fresh : runtime.freshSnapshot simulation.parameters simulation.currentStep = .ok snapshot)
    (saved : before.commit call moment.now simulation = .ok (after, moved))
    (effected : (Stage.saving simulation snapshot).Effected runtime reference) :
    before.Matches runtime call moment after (committed moved snapshot) reference := by
  rw [request_of_effected rfl effected]
  refine .inr ⟨.answered (.ok (.advanced moved snapshot)), ?_, ?_⟩
  · simp only [Ledger.serveAtOnce, Ledger.advanceAtOnce, found, lift_ok, bind,
      Except.bind, fresh, saved]
    rfl
  · unfold committed
    split_ifs
    · exact .evictingTapes
    · exact .done (.inl rfl)

theorem matches_of_loss {snapshot : SeriesSnapshot Chain} {e : ChainError}
    (facts : LedgerFacts atomic before) (serving : before.Serving runtime simulation)
    (lost : before.commit call moment.now simulation = .error e)
    (effected : (Stage.saving simulation snapshot).Effected runtime reference) :
    before.Matches runtime call moment before (refused e) reference := by
  rw [request_of_effected rfl effected]
  obtain ⟨missing, rfl⟩ | ⟨message, rfl⟩ := facts.lose serving.1 serving.2 lost
  · refine .inr ⟨.answered (.error (.error (simulationNotFound simulation.id))), ?_,
      .done (.inl rfl)⟩
    have unread : before.read .advance simulation.id =
        .error (simulationNotFound simulation.id) := by
      rw [Ledger.read, atomic.get_eq facts.sound, missing]
      rfl
    simp only [Ledger.serveAtOnce, Ledger.advanceAtOnce, unread]
    rfl
  · exact .inl ⟨rfl, .conflict⟩

theorem matches_of_proceed {manager : Manager Chain store}
    (facts : LedgerFacts atomic manager.ledger) (backed : stage.Backed runtime manager call)
    (current : stage.HoldsCurrent atomic manager.ledger)
    (effected : stage.Effected runtime reference)
    (moved : manager.ledger.proceed call moment stage = some (after, next)) :
    manager.ledger.Matches runtime call moment after next reference := by
  have stepped := ledgerStep_of_proceed moved
  cases stepped with
  | create fresh created =>
      rw [request_of_effected rfl effected]
      refine .inr ⟨_, ?_, .done (.inl rfl)⟩
      simp only [Ledger.serveAtOnce, fresh, Option.isSome_none, Bool.false_eq_true, if_false,
        created]
  | refuseCreate failed =>
      rw [request_of_effected rfl effected]
      refine .inr ⟨_, ?_, .done (.inl rfl)⟩
      simp only [Ledger.proceed] at moved
      split_ifs at moved with taken
      simp only [Ledger.serveAtOnce, taken, Bool.false_eq_true, if_false, failed]
  | get found =>
      rw [request_of_effected rfl effected]
      refine .inr ⟨_, ?_, .done (.inl rfl)⟩
      simp only [Ledger.serveAtOnce, found]
  | missGet missing =>
      rw [request_of_effected rfl effected]
      refine .inr ⟨_, ?_, .done (.inl rfl)⟩
      simp only [Ledger.serveAtOnce, missing]
  | check found =>
      rw [request_of_effected rfl effected]
      refine .inr ⟨_, ?_, .before rfl⟩
      simp only [Ledger.serveAtOnce, found, ne_eq, not_true_eq_false, if_false]
  | mismatch found elsewhere =>
      rw [request_of_effected rfl effected]
      refine .inr ⟨_, ?_, .done (.inl rfl)⟩
      simp only [Ledger.serveAtOnce, found, if_pos elsewhere]
  | missCheck missing =>
      rw [request_of_effected rfl effected]
      refine .inr ⟨_, ?_, .done (.inl rfl)⟩
      simp only [Ledger.serveAtOnce, missing]
  | read found => exact matches_of_read (facts.read found).2.1 found effected
  | refuseRead failed => exact matches_of_refusedRead failed effected
  | commit saved =>
      obtain ⟨fresh, known, left⟩ := backed
      exact matches_of_commit (read_of_commit facts known left (current _ rfl) saved) fresh saved
        effected
  | lose lost => exact matches_of_loss facts backed.2 lost effected
  | delete =>
      rw [request_of_effected rfl effected]
      exact .inr ⟨_, rfl, .evictingTapes⟩
  | cleanup =>
      rw [request_of_effected rfl effected]
      exact .inr ⟨_, rfl, .evictingTapes⟩

/-- Whatever the caches and the shared builds do, a section is one of the request at once, or
none. -/
theorem matches_of_managerStep {before after : Manager Chain store}
    (facts : ManagerFacts runtime atomic before) (backed : stage.Backed runtime before call)
    (current : stage.HoldsCurrent atomic before.ledger)
    (effected : stage.Effected runtime reference)
    (stepped : ManagerStep runtime call moment before stage after next) :
    before.ledger.Matches runtime call moment after.ledger next reference := by
  cases stepped with
  | ledger moved => exact matches_of_proceed facts.ledger backed current effected moved
  | hit found =>
      obtain ⟨⟨parameters, owned, built⟩, -⟩ := facts.snapshots.get found
      obtain ⟨-, known, -⟩ := backed
      rw [known.owned] at owned
      cases owned
      cases effected with
      | before stands => cases stands
      | looking => exact .inl ⟨rfl, effected_served built⟩
  | miss =>
      cases effected with
      | before stands => cases stands
      | looking => exact .inl ⟨rfl, .fetching⟩
  | fetch stepped =>
      cases effected with
      | before stands => cases stands
      | fetching => exact .inl ⟨rfl, .fetching⟩
  | refuseTape =>
      obtain ⟨fault, failed, same⟩ := sameResponse_of_delivered backed.1
      cases effected with
      | before stands => cases stands
      | fetching =>
          rw [afterRead_of_fault failed]
          exact .inl ⟨rfl, .done same⟩
  | price built =>
      have fresh := freshSnapshot_eq_ok.mpr ⟨_, tape_of_delivered backed.1, built⟩
      cases effected with
      | before stands => cases stands
      | fetching => exact .inl ⟨rfl, effected_served fresh⟩
  | @refusePrice _ simulation tape fault failed =>
      have fresh : runtime.freshSnapshot simulation.parameters simulation.currentStep =
          .error fault := by
        rw [Runtime.freshSnapshot, tape_of_delivered backed.1]
        exact failed
      cases effected with
      | before stands => cases stands
      | fetching =>
          rw [afterRead_of_fault fresh]
          exact .inl ⟨rfl, .done (.inl rfl)⟩
  | evicted =>
      cases effected with
      | before stands => cases stands
      | evictingTapes => exact .inl ⟨rfl, .done (.inl rfl)⟩
  | evictTape =>
      cases effected with
      | before stands => cases stands
      | evictingTapes => exact .inl ⟨rfl, .evictingSnapshots⟩
  | evictSnapshots =>
      cases effected with
      | before stands => cases stands
      | evictingSnapshots => exact .inl ⟨rfl, .evictingTapes⟩

theorem knows_of_holding {manager : Manager Chain store}
    (backed : stage.Backed runtime manager call) (holding : stage.holding? = some simulation) :
    manager.ledger.Knows runtime.service simulation := by
  cases stage with
  | looking | fetching | saving =>
      cases holding
      exact backed.2.1
  | creating | getting | checking | reading | deleting | cleaning | evictingTapes |
      evictingSnapshots | done => cases holding

theorem Stage.HoldsCurrent.revise {manager : Manager Chain store}
    (current : stage.HoldsCurrent atomic manager.ledger)
    (backed : stage.Backed runtime manager call)
    (revises : manager.ledger.Revises atomic after) : stage.HoldsCurrent atomic after := by
  intro simulation holding
  have known := knows_of_holding backed holding
  exact (current simulation holding).revise known.owned revises

theorem current_of_read {route : Route} {id : Uuid} (facts : LedgerFacts atomic before)
    (found : before.read route id = .ok simulation) : before.Current atomic simulation := by
  obtain ⟨held, rfl, -⟩ := facts.read found
  intro stored stands
  rw [held] at stands
  cases stands
  exact ⟨le_rfl, fun _ => rfl⟩

theorem revises_of_managerStep {before after : Manager Chain store}
    (facts : ManagerFacts runtime atomic before)
    (stepped : ManagerStep runtime call moment before stage after next) :
    before.ledger.Revises atomic after.ledger := by
  cases stepped with
  | ledger moved => exact revises_of_ledgerStep facts.ledger.sound (ledgerStep_of_proceed moved)
  | hit | miss | fetch | refuseTape | price | refusePrice | evicted | evictTape | evictSnapshots =>
      exact revises_of_same rfl

theorem revises_of_tick {before after : Manager Chain store} {tick : SimulationTick}
    (facts : ManagerFacts runtime atomic before)
    (ticked : before.tick runtime tick = some after) :
    before.ledger.Revises atomic after.ledger := by
  cases tick with
  | runTask call now =>
      obtain ⟨tapes, -, rfl⟩ := Option.map_eq_some_iff.mp ticked
      exact revises_of_same rfl
  | evictTape | evictSnapshot =>
      cases ticked
      exact revises_of_same rfl
  | elapse milliseconds =>
      cases ticked
      exact revises_of_shrunk (atomic.of_elapse facts.ledger.sound milliseconds).2

theorem holding?_request (request : SimulationRequest) :
    (request.stage : Stage Chain).holding? = none := by
  cases request with
  | advance id expectedStep => cases expectedStep <;> rfl
  | create | get | peek | delete | cleanup => rfl

theorem request?_stage (request : SimulationRequest) :
    (request.stage : Stage Chain).request? = some request := by
  cases request with
  | advance id expectedStep => cases expectedStep <;> rfl
  | create | get | peek | delete | cleanup => rfl

/-- The copy that the call holds, if any, is current. -/
def SimulationCall.HoldsCurrent (atomic : store.Atomic runtime.service) (ledger : Ledger store)
    (phase : SimulationCall Chain) : Prop :=
  ∀ stage, phase = .active stage → stage.HoldsCurrent atomic ledger

theorem SimulationCall.HoldsCurrent.revise {manager : Manager Chain store}
    {phase : SimulationCall Chain} (current : phase.HoldsCurrent atomic manager.ledger)
    (backed : phase.Backed runtime call manager)
    (revises : manager.ledger.Revises atomic after) : phase.HoldsCurrent atomic after :=
  fun stage running => (current stage running).revise (backed.active running) revises

/-- A section of a call is one of the call at once, or none. -/
theorem effected_of_move {before after : Manager Chain store} {input : SimulationInput}
    {phase nextPhase : SimulationCall Chain} {reference : AtOnceCall Chain}
    (facts : ManagerFacts runtime atomic before) (backed : phase.Backed runtime call before)
    (current : phase.HoldsCurrent atomic before.ledger)
    (effected : phase.Effected runtime reference)
    (moved : (managerCalls runtime store).move call input before phase =
      some (after, nextPhase)) :
    before.ledger.Revises atomic after.ledger ∧ nextPhase.HoldsCurrent atomic after.ledger ∧
      ((after.ledger = before.ledger ∧ nextPhase.Effected runtime reference) ∨
        ∃ nextReference, (atOnceCalls runtime store).move call input before.ledger reference =
          some (after.ledger, nextReference) ∧ nextPhase.Effected runtime nextReference) := by
  obtain ⟨request, rfl, rfl, rfl, rfl⟩ | ⟨moment, stage, nextStage, rfl, rfl, rfl, proceeded⟩ |
    ⟨stage, rfl, rfl, -, rfl, rfl⟩ := staged_cases moved
  · cases effected
    refine ⟨revises_of_same rfl, fun stage running => ?_,
      .inr ⟨.active (.pending request), rfl, .active (.before (request?_stage request))⟩⟩
    cases running
    intro simulation holding
    rw [holding?_request] at holding
    cases holding
  · have own := backed.active rfl
    have stepped := managerStep_of_proceed proceeded
    have revises := revises_of_managerStep facts stepped
    refine ⟨revises, fun stage running => ?_, ?_⟩
    · cases running
      intro simulation holding
      obtain held | ⟨route, id, found, rfl⟩ := holding?_of_managerStep stepped holding
      · exact (current _ rfl).revise own revises simulation held
      · exact current_of_read facts.ledger found
    · cases effected with
      | active stages =>
          obtain ⟨same, silent⟩ | ⟨nextReference, served, stagesNext⟩ :=
            matches_of_managerStep facts own (current _ rfl) stages stepped
          · exact .inl ⟨same, .active silent⟩
          · refine .inr ⟨.active nextReference, ?_, .active stagesNext⟩
            simp only [atOnceCalls, staged, served, Option.map_some]
  · refine ⟨revises_of_same rfl, fun stage running => ?_, .inl ⟨rfl, .dropped⟩⟩
    cases running

/-- What happens beside the calls happens to the store, or to nothing else that lasts. -/
theorem effected_of_tick {before after : Manager Chain store} {tick : SimulationTick}
    (ticked : before.tick runtime tick = some after) :
    after.ledger = before.ledger ∨
      (atOnceCalls runtime store).tick tick before.ledger = some after.ledger := by
  cases tick with
  | runTask call now =>
      obtain ⟨tapes, -, rfl⟩ := Option.map_eq_some_iff.mp ticked
      exact .inl rfl
  | evictTape | evictSnapshot =>
      cases ticked
      exact .inl rfl
  | elapse milliseconds =>
      cases ticked
      exact .inr rfl

/-- The same store, every call where the request at once stands, and every copy held current. -/
structure LinearizedBy (atomic : store.Atomic runtime.service)
    (config : SimulationConfig Chain store) (model : Config (Ledger store) (AtOnceCall Chain)) :
    Prop where
  backed : Holds (ManagerFacts runtime atomic)
    (fun call manager phase => SimulationCall.Backed runtime call manager phase) config
  current : ∀ call, (config.calls call).HoldsCurrent atomic config.shared.ledger
  ledger : model.shared = config.shared.ledger
  calls : ∀ call, (config.calls call).Effected runtime (model.calls call)

variable {config nextConfig : SimulationConfig Chain store}
  {model : Config (Ledger store) (AtOnceCall Chain)}

theorem linearized_of_tick {tick : SimulationTick} (linearized : LinearizedBy atomic config model)
    (stepped : (managerCalls runtime store).step config (.background tick) = some nextConfig) :
    LinearizedBy atomic nextConfig model ∨
      ∃ nextModel, (atOnceCalls runtime store).step model (.background tick) = some nextModel ∧
        LinearizedBy atomic nextConfig nextModel := by
  have backed := backed_free.preserved linearized.backed atCall_unguarded stepped
  obtain ⟨after, ticked, rfl⟩ := step_background_eq_some.mp stepped
  have revises := revises_of_tick linearized.backed.shared ticked
  have current : ∀ call, (config.calls call).HoldsCurrent atomic after.ledger :=
    fun call => (linearized.current call).revise (linearized.backed.own call) revises
  cases effected_of_tick ticked with
  | inl same => exact .inl ⟨backed, current, linearized.ledger.trans same.symm, linearized.calls⟩
  | inr moved =>
      rw [← linearized.ledger] at moved
      exact .inr ⟨_, step_background_eq_some.mpr ⟨_, moved, rfl⟩,
        ⟨backed, current, rfl, linearized.calls⟩⟩

theorem linearized_of_call {input : SimulationInput} {index : Nat}
    (linearized : LinearizedBy atomic config model)
    (stepped : (managerCalls runtime store).step config (.call index input) = some nextConfig) :
    LinearizedBy atomic nextConfig model ∨
      ∃ nextModel, (atOnceCalls runtime store).step model (.call index input) = some nextModel ∧
        LinearizedBy atomic nextConfig nextModel := by
  have backed := backed_free.preserved linearized.backed atCall_unguarded stepped
  obtain ⟨after, phase, moved, rfl⟩ := step_call_eq_some.mp stepped
  obtain ⟨revises, own, matched⟩ := effected_of_move linearized.backed.shared
    (linearized.backed.own index) (linearized.current index) (linearized.calls index) moved
  have current : ∀ call, (Function.update config.calls index phase call).HoldsCurrent atomic
      after.ledger :=
    forall_update own fun call => (linearized.current call).revise (linearized.backed.own call)
      revises
  obtain ⟨same, effected⟩ | ⟨reference, movedModel, effected⟩ := matched
  · exact .inl ⟨backed, current, linearized.ledger.trans same.symm,
      related_update_left linearized.calls effected⟩
  · rw [← linearized.ledger] at movedModel
    exact .inr ⟨_, step_call_eq_some.mpr ⟨_, _, movedModel, rfl⟩,
      ⟨backed, current, rfl, related_update linearized.calls effected⟩⟩

end Simulation

section Theorem

variable {Chain : Type} {runtime : Runtime Chain}

/-- Every call that has answered took effect at one instant, and answered what it found there; or
it is an advance that had no effect and answered a conflict. -/
def AnsweredAtOnce {Shared : Type} {store : SimulationStore}
    (config : Config Shared (SimulationCall Chain))
    (model : Config (Ledger store) (AtOnceCall Chain)) : Prop :=
  ∀ call response, config.calls call = .active (.done response) →
    (∃ reference, model.calls call = .active (.answered reference) ∧
        SameResponse response reference) ∨
      ∃ message id, response = .error (.error (.conflict message)) ∧
        model.calls call = .active (.pending (.advance id none))

theorem answeredAtOnce_of_effected {Shared : Type} {store : SimulationStore}
    {config : Config Shared (SimulationCall Chain)}
    {model : Config (Ledger store) (AtOnceCall Chain)} {runtimes : Nat → Runtime Chain}
    (calls : ∀ call, (config.calls call).Effected (runtimes call) (model.calls call)) :
    AnsweredAtOnce config model := by
  intro call response done
  have effected := calls call
  rw [done] at effected
  generalize held : model.calls call = reference at effected
  cases effected with
  | active stages =>
      cases stages with
      | before stands => cases stands
      | done same => exact .inl ⟨_, rfl, same⟩
      | conflict => exact .inr ⟨_, _, rfl, rfl⟩

/-- The manager is linearizable over either store: of the sections of any run some, taken in
their order, each serve one request at once, and they lead to the same store and the same
answers. -/
theorem calls_take_effect_at_once (backend : Backend) {actions : List SimulationAction}
    {last : SimulationConfig Chain (backend.store runtime.service)}
    (ran : (managerCalls runtime _).run ((managerCalls runtime _).start (.new runtime _)) actions =
      some last) :
    ∃ kept model, List.Sublist kept actions ∧
      (atOnceCalls runtime (backend.store runtime.service)).run
        ((atOnceCalls runtime _).start .empty) kept = some model ∧
      model.shared = last.shared.ledger ∧ AnsweredAtOnce last model := by
  have starts : LinearizedBy (backend.atomic runtime.service)
      ((managerCalls runtime _).start (.new runtime _))
      ((atOnceCalls runtime _).start .empty) := by
    refine ⟨start_backed, fun call stage running => ?_, rfl, fun _ => .idle⟩
    cases running
  obtain ⟨kept, model, within, modelRan, linearized⟩ := simulated_run
    (fun {config action next model} linearized stepped => by
      cases action with
      | call index input => exact linearized_of_call linearized stepped
      | background tick => exact linearized_of_tick linearized stepped) starts ran
  exact ⟨kept, model, within, modelRan, linearized.ledger,
    answeredAtOnce_of_effected linearized.calls⟩

/-- The first of two advances to begin loses its save to the second. -/
def losingToSecond : List SimulationAction :=
  creatingTwoDays ++ racingForFirst ++ sections 1 1

theorem calls_take_effect_at_once_losing :
    ∃ last, kernelCalls.run kernelStart losingToSecond = some last ∧
      ∃ kept model, List.Sublist kept losingToSecond ∧
        (atOnceCalls kernelRuntime (memoryBackend.store utcService)).run
          ((atOnceCalls kernelRuntime _).start .empty) kept = some model ∧
        model.shared = last.shared.ledger ∧ AnsweredAtOnce last model := by
  obtain ⟨last, ran⟩ := Option.isSome_iff_exists.mp
    (by decide +kernel : (kernelCalls.run kernelStart losingToSecond).isSome)
  exact ⟨last, ran, calls_take_effect_at_once memoryBackend ran⟩

end Theorem

end OptionChainSimulator.Session
