import Mathlib.Tactic
import OptionChainSimulator.Foundation.Interleaving
import OptionChainSimulator.Infrastructure.Snapshots.Record
import OptionChainSimulator.Session.TapeCalls

namespace OptionChainSimulator.Session

open Foundation Utils Domain Infrastructure

/-! The queue in front of the warehouse: advances file the snapshots they serve, and one
writer takes them out. -/

def snapshotQueueDepth : Nat := 1024
def snapshotQueueContracts : Nat := 4000000

/-- `fetch_add` and `fetch_sub` of an `AtomicUsize`. -/
def fetchAdd (value amount : Nat) : Nat := (value + amount) % u64Limit
def fetchSub (value amount : Nat) : Nat := (value + (u64Limit - amount % u64Limit)) % u64Limit

/-- The channel, the record its one receiver writes, the counter, and which call sent what. -/
structure SnapshotQueue where
  records : List SnapshotRecord
  writing : Option SnapshotRecord
  queuedContracts : Nat
  sent : List (Nat × SnapshotRecord)

def SnapshotQueue.empty : SnapshotQueue := ⟨[], none, 0, []⟩

/-- A snapshot an advance has served. -/
structure ServedSnapshot (Chain : Type) where
  simulation : Uuid
  symbol : String
  snapshot : SeriesSnapshot Chain

inductive FilingStage (Chain : Type) where
  | filing (served : ServedSnapshot Chain)
  | loaded (served : ServedSnapshot Chain) (queued : Nat)
  | admitted (served : ServedSnapshot Chain)
  | reserved (record : SnapshotRecord) (incoming : Nat)
  | undoing (incoming : Nat)
  | finished

/-- The sections of the writer. -/
inductive WriterMoment where
  | received
  | written
  deriving DecidableEq

abbrev FilingCall (Chain : Type) := StagedCall (FilingStage Chain)
abbrev FilingInput (Chain : Type) := StagedInput (ServedSnapshot Chain) Unit
abbrev FilingConfig (Chain : Type) := Config SnapshotQueue (FilingCall Chain)
abbrev FilingAction (Chain : Type) := Action (FilingInput Chain) WriterMoment

section Filing

variable {Chain : Type} (upstream : Upstream Chain) (options : Chain → List OptionData)

def snapshotQuoteCount (snapshot : SeriesSnapshot Chain) : Nat :=
  (snapshot.chains.map fun chain => upstream.optionCount chain.chain).sum

def ServedSnapshot.record (served : ServedSnapshot Chain) : SnapshotRecord :=
  snapshotRecord options served.simulation served.symbol served.snapshot

/-- `file_snapshot`, one access of the shared counter or channel at a time. -/
def fileSnapshot (call : Nat) (_ : Unit) (queue : SnapshotQueue) :
    FilingStage Chain → Option (SnapshotQueue × FilingStage Chain)
  | .filing served => some (queue, .loaded served queue.queuedContracts)
  | .loaded served queued =>
      if snapshotQueueDepth ≤ queue.records.length ∨ snapshotQueueContracts <
          SnapshotCache.saturatingAdd queued (snapshotQuoteCount upstream served.snapshot) then
        some (queue, .finished)
      else some (queue, .admitted served)
  | .admitted served =>
      let incoming := snapshotQuoteCount upstream served.snapshot
      some ({ queue with queuedContracts := fetchAdd queue.queuedContracts incoming },
        .reserved (served.record options) incoming)
  | .reserved record incoming =>
      if queue.records.length < snapshotQueueDepth then
        some ({ queue with
          records := queue.records ++ [record]
          sent := (call, record) :: queue.sent }, .finished)
      else some (queue, .undoing incoming)
  | .undoing incoming =>
      some ({ queue with queuedContracts := fetchSub queue.queuedContracts incoming }, .finished)
  | .finished => none

/-- The writer receives the oldest record, and once it is persisted, or has failed to be,
releases its quotes. -/
def write : WriterMoment → SnapshotQueue → Option SnapshotQueue
  | .received, queue =>
      match queue.writing, queue.records with
      | none, record :: rest => some { queue with records := rest, writing := some record }
      | _, _ => none
  | .written, queue =>
      queue.writing.map fun record =>
        { queue with
          writing := none
          queuedContracts := fetchSub queue.queuedContracts record.quoteCount }

def filings : Protocol SnapshotQueue (FilingCall Chain) (FilingInput Chain) WriterMoment :=
  staged .filing (fun _ => false) (fileSnapshot upstream options) write

end Filing

section Accounts

variable {Chain : Type} {upstream : Upstream Chain} {options : Chain → List OptionData}

/-- What a call has reserved, and neither sent nor given back. -/
def FilingStage.reservedContracts : FilingStage Chain → Nat
  | .reserved _ incoming | .undoing incoming => incoming
  | .filing _ | .loaded _ _ | .admitted _ | .finished => 0

def callContracts : FilingCall Chain → Nat
  | .active stage => stage.reservedContracts
  | .idle | .dropped => 0

def SnapshotQueue.contracts (queue : SnapshotQueue) : Nat :=
  (queue.records.map SnapshotRecord.quoteCount).sum +
    (queue.writing.map SnapshotRecord.quoteCount).getD 0

/-- The quotes of all records that are reserved, queued or being written, of the calls below
`bound`. -/
def residentContracts (bound : Nat) (config : FilingConfig Chain) : Nat :=
  ∑ call ∈ Finset.range bound, callContracts (config.calls call) + config.shared.contracts

/-- What is known of a call, of the snapshots it was asked to file. -/
def FilingKnown (upstream : Upstream Chain) (options : Chain → List OptionData)
    (asked : Nat → ServedSnapshot Chain → Prop) (call : Nat) (queue : SnapshotQueue) :
    FilingCall Chain → Prop
  | .active (.filing served) | .active (.loaded served _) | .active (.admitted served) =>
      asked call served ∧ call ∉ queue.sent.map Prod.fst
  | .active (.reserved record incoming) =>
      (∃ served, asked call served ∧ record = served.record options ∧
        incoming = snapshotQuoteCount upstream served.snapshot) ∧ call ∉ queue.sent.map Prod.fst
  | .active (.undoing _) | .idle => call ∉ queue.sent.map Prod.fst
  | .active .finished | .dropped => True

/-- No call has sent twice, and each sent what it was asked to. -/
structure SentOnce (options : Chain → List OptionData)
    (asked : Nat → ServedSnapshot Chain → Prop) (queue : SnapshotQueue) : Prop where
  once : (queue.sent.map Prod.fst).Nodup
  served : ∀ entry ∈ queue.sent, ∃ served, asked entry.1 served ∧
    entry.2 = served.record options

theorem FilingKnown.of_sent {asked : Nat → ServedSnapshot Chain → Prop} {call : Nat}
    {before after : SnapshotQueue} {phase : FilingCall Chain}
    (known : FilingKnown upstream options asked call before phase)
    (same : call ∈ after.sent.map Prod.fst → call ∈ before.sent.map Prod.fst) :
    FilingKnown upstream options asked call after phase := by
  cases phase with
  | idle => exact fun sent => known (same sent)
  | dropped => trivial
  | active stage =>
      cases stage with
      | filing served => exact ⟨known.1, fun sent => known.2 (same sent)⟩
      | loaded served queued => exact ⟨known.1, fun sent => known.2 (same sent)⟩
      | admitted served => exact ⟨known.1, fun sent => known.2 (same sent)⟩
      | reserved record incoming => exact ⟨known.1, fun sent => known.2 (same sent)⟩
      | undoing incoming => exact fun sent => known (same sent)
      | finished => trivial

theorem sent_of_fileSnapshot {asked : Nat → ServedSnapshot Chain → Prop} {call : Nat}
    {moment : Unit} {before after : SnapshotQueue} {stage next : FilingStage Chain}
    (once : SentOnce options asked before)
    (known : FilingKnown upstream options asked call before (.active stage))
    (moved : fileSnapshot upstream options call moment before stage = some (after, next)) :
    SentOnce options asked after ∧ FilingKnown upstream options asked call after (.active next) ∧
      ∀ other ≠ call, other ∈ after.sent.map Prod.fst → other ∈ before.sent.map Prod.fst := by
  cases stage with
  | filing served =>
      cases moved
      exact ⟨once, known, fun _ _ sent => sent⟩
  | loaded served queued =>
      simp only [fileSnapshot] at moved
      split_ifs at moved with full
      · cases moved
        exact ⟨once, trivial, fun _ _ sent => sent⟩
      · cases moved
        exact ⟨once, known, fun _ _ sent => sent⟩
  | admitted served =>
      cases moved
      exact ⟨⟨once.once, once.served⟩, ⟨⟨served, known.1, rfl, rfl⟩, known.2⟩, fun _ _ sent => sent⟩
  | reserved record incoming =>
      obtain ⟨⟨served, own, rfl, -⟩, fresh⟩ := known
      simp only [fileSnapshot] at moved
      split_ifs at moved with room
      · cases moved
        refine ⟨⟨List.nodup_cons.mpr ⟨fresh, once.once⟩, ?_⟩, trivial, ?_⟩
        · intro entry member
          obtain rfl | earlier := List.mem_cons.mp member
          · exact ⟨served, own, rfl⟩
          · exact once.served entry earlier
        · intro other different sent
          exact (List.mem_cons.mp sent).resolve_left different
      · cases moved
        exact ⟨once, fresh, fun _ _ sent => sent⟩
  | undoing incoming =>
      cases moved
      exact ⟨⟨once.once, once.served⟩, trivial, fun _ _ sent => sent⟩
  | finished => cases moved

theorem sent_of_write {moment : WriterMoment} {before after : SnapshotQueue}
    (wrote : write moment before = some after) : after.sent = before.sent := by
  cases moment with
  | received =>
      simp only [write] at wrote
      split at wrote
      · cases wrote
        rfl
      · cases wrote
  | written =>
      obtain ⟨record, -, rfl⟩ := Option.map_eq_some_iff.mp wrote
      rfl

/-- Calls are asked what the run asks them. -/
def AskedWithin (asked : Nat → ServedSnapshot Chain → Prop) (call : Nat) :
    FilingInput Chain → SnapshotQueue → FilingCall Chain → Prop
  | .request served, _, _ => asked call served
  | .proceed _, _, _ | .drop, _, _ => True

theorem filings_free {asked : Nat → ServedSnapshot Chain → Prop} :
    (filings upstream options).FreeOfInterference (AskedWithin asked) (SentOnce options asked)
      (FilingKnown upstream options asked) where
  move := by
    intro call input before phase after next once known allowed moved
    obtain ⟨served, rfl, rfl, rfl, rfl⟩ | ⟨moment, stage, nextStage, rfl, rfl, rfl, proceeded⟩ |
      ⟨stage, -, -, awaiting, -⟩ := staged_cases moved
    · exact ⟨once, allowed, known⟩
    · obtain ⟨onceAfter, knownAfter, -⟩ := sent_of_fileSnapshot once known proceeded
      exact ⟨onceAfter, knownAfter⟩
    · cases awaiting
  others := by
    intro call input before phase after next once known allowed moved other different otherPhase
      held
    obtain ⟨served, rfl, rfl, rfl, rfl⟩ | ⟨moment, stage, nextStage, rfl, rfl, rfl, proceeded⟩ |
      ⟨stage, -, -, awaiting, -⟩ := staged_cases moved
    · exact held
    · exact held.of_sent ((sent_of_fileSnapshot once known proceeded).2.2 other different)
    · cases awaiting
  tick := by
    intro moment before after once wrote
    have same := sent_of_write wrote
    refine ⟨⟨same ▸ once.once, same ▸ once.served⟩, fun call phase known => ?_⟩
    exact known.of_sent fun sent => same ▸ sent

/-- What a section does to the records and to the counter. -/
inductive ContractsMove (bound : Nat) (config next : FilingConfig Chain) : Prop
  | keeps : residentContracts bound next = residentContracts bound config →
      next.shared.queuedContracts = config.shared.queuedContracts →
      ContractsMove bound config next
  | releases (amount : Nat) : residentContracts bound next + amount =
        residentContracts bound config →
      next.shared.queuedContracts = fetchSub config.shared.queuedContracts amount →
      ContractsMove bound config next

/-- The section that reserves the contracts of a snapshot. -/
def reserves (config : FilingConfig Chain) : FilingAction Chain → Option (ServedSnapshot Chain)
  | .call call (.proceed _) =>
      match config.calls call with
      | .active (.admitted served) => some served
      | _ => none
  | _ => none

/-- The calls of the run are numbered below a bound. -/
def Below (bound : Nat) : FilingAction Chain → Prop
  | .call call _ => call < bound
  | .background _ => True

theorem quoteCount_snapshotRecord
    (counted : ∀ chain, (options chain).length = upstream.optionCount chain) (simulation : Uuid)
    (symbol : String) (snapshot : SeriesSnapshot Chain) :
    (snapshotRecord options simulation symbol snapshot).quoteCount =
      snapshotQuoteCount upstream snapshot := by
  unfold SnapshotRecord.quoteCount snapshotQuoteCount snapshotRecord
  dsimp only
  rw [List.map_map]
  apply congrArg List.sum
  apply List.map_congr_left
  intro chain _
  exact (List.length_map _).trans (counted chain.chain)

theorem residentContracts_update {bound call : Nat} {config : FilingConfig Chain}
    {after : SnapshotQueue} {phase : FilingCall Chain} (below : call < bound) :
    residentContracts bound ⟨after, Function.update config.calls call phase⟩ +
        callContracts (config.calls call) + config.shared.contracts =
      residentContracts bound config + callContracts phase + after.contracts := by
  have calls := @Protocol.sum_calls_update (FilingCall Chain) callContracts config.calls call bound
    phase below
  unfold residentContracts
  dsimp only
  omega

variable {asked : Nat → ServedSnapshot Chain → Prop} {bound : Nat}
  {config next : FilingConfig Chain} {action : FilingAction Chain}

theorem contracts_of_reserves {served : ServedSnapshot Chain}
    (below : Below bound action) (reserving : reserves config action = some served)
    (stepped : (filings upstream options).step config action = some next) :
    residentContracts bound next =
        residentContracts bound config + snapshotQuoteCount upstream served.snapshot ∧
      next.shared.queuedContracts = fetchAdd config.shared.queuedContracts
        (snapshotQuoteCount upstream served.snapshot) := by
  cases action with
  | background moment => cases reserving
  | call call input =>
      cases input with
      | request served => cases reserving
      | drop => cases reserving
      | proceed moment =>
          obtain ⟨after, phase, moved, rfl⟩ := Protocol.step_call_eq_some.mp stepped
          have resident := @residentContracts_update Chain bound call config after phase below
          simp only [reserves] at reserving
          split at reserving
          · next other standing =>
              cases reserving
              rw [standing] at moved resident
              cases moved
              refine ⟨?_, rfl⟩
              simpa [callContracts, FilingStage.reservedContracts, SnapshotQueue.contracts] using
                resident
          · cases reserving

theorem contracts_of_others
    (counted : ∀ chain, (options chain).length = upstream.optionCount chain)
    (known : ∀ call, FilingKnown upstream options asked call config.shared (config.calls call))
    (below : Below bound action) (idle : reserves config action = none)
    (stepped : (filings upstream options).step config action = some next) :
    ContractsMove bound config next := by
  cases action with
  | background moment =>
      obtain ⟨after, wrote, rfl⟩ := Protocol.step_background_eq_some.mp stepped
      cases moment with
      | received =>
          simp only [filings, staged, write] at wrote
          split at wrote
          · next record rest writing queued =>
              cases wrote
              apply ContractsMove.keeps
              · simp [residentContracts, SnapshotQueue.contracts, writing, queued, add_comm]
              · rfl
          · cases wrote
      | written =>
          obtain ⟨record, writing, rfl⟩ := Option.map_eq_some_iff.mp wrote
          apply ContractsMove.releases record.quoteCount
          · simp [residentContracts, SnapshotQueue.contracts, writing, add_assoc]
          · rfl
  | call call input =>
      obtain ⟨after, phase, moved, rfl⟩ := Protocol.step_call_eq_some.mp stepped
      have resident := @residentContracts_update Chain bound call config after phase below
      have own := known call
      obtain ⟨served, rfl, standing, rfl, rfl⟩ |
        ⟨moment, stage, nextStage, rfl, standing, rfl, proceeded⟩ |
        ⟨stage, -, -, awaiting, -⟩ := staged_cases moved
      · rw [standing] at resident
        refine .keeps ?_ rfl
        simpa [callContracts, FilingStage.reservedContracts] using resident
      · rw [standing] at resident own
        cases stage with
        | filing served =>
            cases proceeded
            refine .keeps ?_ rfl
            simpa [callContracts, FilingStage.reservedContracts] using resident
        | loaded served queued =>
            simp only [fileSnapshot] at proceeded
            split_ifs at proceeded with full
            · cases proceeded
              refine .keeps ?_ rfl
              simpa [callContracts, FilingStage.reservedContracts] using resident
            · cases proceeded
              refine .keeps ?_ rfl
              simpa [callContracts, FilingStage.reservedContracts] using resident
        | admitted served =>
            simp only [reserves, standing] at idle
            cases idle
        | reserved record incoming =>
            obtain ⟨⟨served, -, rfl, rfl⟩, -⟩ := own
            have held : (served.record options).quoteCount =
                snapshotQuoteCount upstream served.snapshot :=
              quoteCount_snapshotRecord counted _ _ _
            simp only [fileSnapshot] at proceeded
            split_ifs at proceeded with room
            · cases proceeded
              refine .keeps ?_ rfl
              simp only [callContracts, FilingStage.reservedContracts, SnapshotQueue.contracts,
                List.map_append, List.map_singleton, List.sum_append, List.sum_singleton, held]
                at resident ⊢
              omega
            · cases proceeded
              refine .keeps ?_ rfl
              simpa [callContracts, FilingStage.reservedContracts] using resident
        | undoing incoming =>
            cases proceeded
            refine .releases incoming ?_ rfl
            simpa [callContracts, FilingStage.reservedContracts, SnapshotQueue.contracts] using
              resident
        | finished => cases proceeded
      · cases awaiting

/-- The counter is what is resident, covers every release to come, and is within the bound. -/
structure QueueAccounted (bound : Nat) (config : FilingConfig Chain) : Prop where
  exact : config.shared.queuedContracts = residentContracts bound config
  writer : ∀ record, config.shared.writing = some record →
    record.quoteCount ≤ config.shared.queuedContracts
  calls : ∀ call < bound, callContracts (config.calls call) ≤ config.shared.queuedContracts
  bounded : config.shared.queuedContracts ≤ snapshotQueueContracts

/-- What a call reserves fits beside what is resident when it does. -/
def FitsQueue (upstream : Upstream Chain) (bound : Nat) (config : FilingConfig Chain)
    (action : FilingAction Chain) : Prop :=
  ∀ served, reserves config action = some served →
    residentContracts bound config + snapshotQuoteCount upstream served.snapshot ≤
      snapshotQueueContracts

theorem queueAccounted_iff
    (counter : config.shared.queuedContracts = residentContracts bound config % u64Limit) :
    QueueAccounted bound config ↔ residentContracts bound config ≤ snapshotQueueContracts := by
  constructor
  · intro accounted
    rw [← accounted.exact]
    exact accounted.bounded
  · intro bounded
    have matched : config.shared.queuedContracts = residentContracts bound config := by
      unfold u64Limit at counter
      unfold snapshotQueueContracts at bounded
      omega
    refine ⟨matched, ?_, ?_, matched.trans_le bounded⟩
    · intro record writing
      rw [matched]
      unfold residentContracts SnapshotQueue.contracts
      rw [writing]
      exact (Nat.le_add_left _ _).trans (Nat.le_add_left _ _)
    · intro call below
      rw [matched]
      have part := Finset.single_le_sum (fun call _ => Nat.zero_le (callContracts
        (config.calls call))) (Finset.mem_range.mpr below)
      exact part.trans (Nat.le_add_right _ _)

/-- The counter follows what is resident, up to the width of its word. -/
theorem counter_of_step
    (counted : ∀ chain, (options chain).length = upstream.optionCount chain)
    (known : ∀ call, FilingKnown upstream options asked call config.shared (config.calls call))
    (counter : config.shared.queuedContracts = residentContracts bound config % u64Limit)
    (below : Below bound action)
    (stepped : (filings upstream options).step config action = some next) :
    next.shared.queuedContracts = residentContracts bound next % u64Limit ∧
      (residentContracts bound config ≤ snapshotQueueContracts →
        (residentContracts bound next ≤ snapshotQueueContracts ↔
          FitsQueue upstream bound config action)) := by
  cases reserving : reserves config action with
  | some served =>
      obtain ⟨resident, added⟩ := contracts_of_reserves below reserving stepped
      rw [added, resident, counter]
      refine ⟨Nat.mod_add_mod _ _ _, fun _ => ?_⟩
      constructor
      · intro fits other same
        rw [reserving] at same
        cases same
        exact fits
      · intro fits
        exact fits served reserving
  | none =>
      have free : FitsQueue upstream bound config action := by
        intro served impossible
        rw [reserving] at impossible
        cases impossible
      cases contracts_of_others counted known below reserving stepped with
      | keeps resident same =>
          rw [same, resident]
          exact ⟨counter, fun bounded => iff_of_true bounded free⟩
      | releases amount resident released =>
          rw [released, counter]
          refine ⟨?_, fun bounded => iff_of_true (by omega) free⟩
          unfold fetchSub u64Limit
          omega

/-- What holds of every state of a run that asks no more than this. -/
structure FilingFacts (upstream : Upstream Chain) (options : Chain → List OptionData)
    (asked : Nat → ServedSnapshot Chain → Prop) (bound : Nat) (config : FilingConfig Chain) :
    Prop where
  holds : Protocol.Holds (SentOnce options asked) (FilingKnown upstream options asked) config
  counter : config.shared.queuedContracts = residentContracts bound config % u64Limit

theorem residentContracts_start :
    residentContracts bound ((filings upstream options).start .empty) = 0 := by
  unfold residentContracts
  exact Nat.add_eq_zero_iff.mpr ⟨Finset.sum_eq_zero fun call _ => rfl, rfl⟩

theorem filingFacts_start : FilingFacts upstream options asked bound
    ((filings upstream options).start .empty) where
  holds := by
    refine ⟨⟨List.nodup_nil, ?_⟩, fun call => ?_⟩
    · intro entry member
      cases member
    · exact List.not_mem_nil
  counter := by
    rw [residentContracts_start]
    rfl

theorem filingFacts_of_step
    (counted : ∀ chain, (options chain).length = upstream.optionCount chain)
    (facts : FilingFacts upstream options asked bound config) (below : Below bound action)
    (within : ∀ call served, action = .call call (.request served) → asked call served)
    (stepped : (filings upstream options).step config action = some next) :
    FilingFacts upstream options asked bound next ∧
      (residentContracts bound config ≤ snapshotQueueContracts →
        (residentContracts bound next ≤ snapshotQueueContracts ↔
          FitsQueue upstream bound config action)) := by
  have allowed : Protocol.atCall (AskedWithin asked) config action := by
    cases action with
    | background moment => trivial
    | call call input =>
        cases input with
        | request served => exact within call served rfl
        | proceed moment => trivial
        | drop => trivial
  obtain ⟨counter, bounded⟩ := counter_of_step counted facts.holds.own facts.counter below stepped
  exact ⟨⟨filings_free.preserved facts.holds allowed stepped, counter⟩, bounded⟩

/-- The counter of a run is exact and within its bound throughout exactly where every
reservation fits; in every run it is exact as an unsigned machine integer and comes back to zero,
and a call sends its record once at most. -/
theorem accounts_throughout_iff
    (counted : ∀ chain, (options chain).length = upstream.optionCount chain)
    {actions : List (FilingAction Chain)} {last : FilingConfig Chain}
    (below : ∀ action ∈ actions, Below bound action)
    (ran : (filings upstream options).run ((filings upstream options).start .empty) actions =
      some last) :
    ((∀ done rest reached, actions = done ++ rest →
        (filings upstream options).run ((filings upstream options).start .empty) done =
          some reached → QueueAccounted bound reached) ↔
      (filings upstream options).Meets (FitsQueue upstream bound)
        ((filings upstream options).start .empty) actions) ∧
    last.shared.queuedContracts = residentContracts bound last % u64Limit ∧
    (residentContracts bound last = 0 → last.shared.queuedContracts = 0) ∧
    (last.shared.sent.map Prod.fst).Nodup ∧
    ∀ entry ∈ last.shared.sent, ∃ served, .call entry.1 (.request served) ∈ actions ∧
      entry.2 = served.record options := by
  have facts : FilingFacts upstream options (fun call served =>
      .call call (.request served) ∈ actions) bound last := by
    have met : (filings upstream options).Meets (fun _ action => action ∈ actions)
        ((filings upstream options).start .empty) actions :=
      Protocol.meets_of_members fun _ member _ => member
    apply Protocol.holds_of_guarded_run _ filingFacts_start met ran
    intro config action next facts member stepped
    apply (filingFacts_of_step counted facts (below action member) _ stepped).1
    intro call served same
    exact same ▸ member
  refine ⟨?_, facts.counter, ?_, facts.holds.shared.once, facts.holds.shared.served⟩
  · have starts : FilingFacts upstream options (fun call served =>
        .call call (.request served) ∈ actions) bound
        ((filings upstream options).start .empty) := filingFacts_start
    apply Protocol.holds_throughout_iff _ starts _ (fun _ member => member) ran
    · intro config action next facts member holds stepped
      obtain ⟨factsNext, bounded⟩ := filingFacts_of_step counted facts (below action member)
        (fun call served same => same ▸ member) stepped
      refine ⟨factsNext, ?_⟩
      rw [queueAccounted_iff factsNext.counter]
      exact bounded ((queueAccounted_iff facts.counter).mp holds)
    · apply (queueAccounted_iff starts.counter).mpr
      rw [residentContracts_start]
      exact Nat.zero_le _
  · intro drained
    rw [facts.counter, drained]
    rfl

end Accounts

/-! ### Two advances that race for the room of one -/

section Race

def wideUpstream : Upstream Unit := { flatUpstream with optionCount := fun _ => 1001 }

def someOption : OptionData :=
  ⟨.one, .one, none, none, none, none, none, none, none, none, none⟩

def wideOptions (_ : Unit) : List OptionData := List.replicate 1001 someOption

/-- As many expirations as a schedule may keep alive, and as many strikes as a chain may have. -/
def widestSnapshot : ServedSnapshot Unit where
  simulation := someId
  symbol := "SPX"
  snapshot := ⟨0, Domain.Expiry.thursdayNoon, .one, .one,
    List.replicate 512 ⟨Domain.Expiry.thursdayFivePm, .one, ["dailies"], ()⟩⟩

def wideFilings : Protocol SnapshotQueue (FilingCall Unit) (FilingInput Unit) WriterMoment :=
  filings wideUpstream wideOptions

/-- The sections of a call that finds room, up to its reservation and after it. -/
def upToReserving (call : Nat) : List (FilingAction Unit) :=
  [.call call (.request widestSnapshot), .call call (.proceed ()), .call call (.proceed ())]

def reservesAndSends (call : Nat) : List (FilingAction Unit) :=
  [.call call (.proceed ()), .call call (.proceed ())]

/-- Six advances in turn, then two at once. -/
def racing : List (FilingAction Unit) :=
  (List.range 6).flatMap (fun call => upToReserving call ++ reservesAndSends call) ++
    upToReserving 6 ++ upToReserving 7 ++ reservesAndSends 6 ++ reservesAndSends 7

theorem wide_counted (chain : Unit) :
    (wideOptions chain).length = wideUpstream.optionCount chain := List.length_replicate

/-- Both found room for one. -/
theorem racing_exceeds :
    (wideFilings.run (wideFilings.start .empty) racing).map
        (fun last => last.shared.queuedContracts) = some 4100096 ∧
      snapshotQueueContracts < 4100096 := by
  decide +kernel

/-- Two calls find room before either reserves, and the writer takes the first record between
their reservations. -/
def filingTwice : List (FilingAction Unit) :=
  upToReserving 0 ++ upToReserving 1 ++ reservesAndSends 0 ++ [.background .received] ++
    reservesAndSends 1 ++ [.background .written, .background .received, .background .written]

theorem accounts_throughout_iff_filingTwice :
    ∃ last, wideFilings.run (wideFilings.start .empty) filingTwice = some last ∧
      ((∀ done rest reached, filingTwice = done ++ rest →
          wideFilings.run (wideFilings.start .empty) done = some reached →
            QueueAccounted 2 reached) ↔
        wideFilings.Meets (FitsQueue wideUpstream 2) (wideFilings.start .empty) filingTwice) := by
  have runs : (wideFilings.run (wideFilings.start .empty) filingTwice).isSome := by
    decide +kernel
  obtain ⟨last, ran⟩ := Option.isSome_iff_exists.mp runs
  have below : ∀ action ∈ filingTwice, Below 2 action := by
    simp [filingTwice, upToReserving, reservesAndSends, Below]
  exact ⟨last, ran, (accounts_throughout_iff wide_counted below ran).1⟩

end Race

end OptionChainSimulator.Session
