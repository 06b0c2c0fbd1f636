import Mathlib.Tactic
import OptionChainSimulator.Session.SessionFacts

namespace OptionChainSimulator.Session

open Foundation Foundation.Protocol Utils Domain Api

/-! Which sessions the cached walks belong to. -/

section Statement

variable {Chain : Type}

/-- Stored, and not completed. -/
def SessionManager.Lives (manager : SessionManager Chain) (id : Uuid) : Prop :=
  ∃ session, manager.sessions.get? id = some session ∧ session.state ≠ .completed

/-- What is left to do is to drop this walk. -/
def SessionStage.Evicts (id : Uuid) (stage : SessionStage Chain) : Prop :=
  ∃ answer, stage = .removing id answer

/-- A call among these is going to drop this walk. -/
def EvictionAhead (config : SessionConfig Chain) (among : Nat → Prop) (id : Uuid) : Prop :=
  ∃ call stage, among call ∧ config.calls call = .active stage ∧ stage.Evicts id

/-- Every cached walk is of a session that lives, or is going to be dropped. -/
def WalksLive (config : SessionConfig Chain) : Prop :=
  ∀ id, config.shared.walks.Holds id →
    config.shared.Lives id ∨ EvictionAhead config (fun _ => True) id

/-- No request is in flight. -/
def Quiescent (config : SessionConfig Chain) : Prop :=
  ∀ call stage, config.calls call = .active stage → ∃ response, stage = .done response

/-- No request that expires sessions. -/
def NoExpiry : SessionAction → Prop
  | .call _ (.request request) => request ≠ .cleanup
  | _ => True

/-- A walk is filed, into a free slot, for a session that still lives or whose walk is yet to be
dropped; and no request that is to drop the walk of one that does not is dropped itself. -/
def FilesLive (service : SessionService Chain) (config : SessionConfig Chain) :
    SessionAction → Prop
  | .call call (.proceed _) =>
      ∀ route session built, config.calls call = .active (.filing route session built) →
        SlotFree service.maxCachedWalks config.shared.walks session.id →
        config.shared.Lives session.id ∨ EvictionAhead config (fun _ => True) session.id
  | .call call .drop =>
      ∀ id answer, config.calls call = .active (.removing id answer) →
        config.shared.walks.Holds id →
        config.shared.Lives id ∨ EvictionAhead config (· ≠ call) id
  | _ => True

end Statement

section Steps

variable {Chain : Type} {service : SessionService Chain} {before after : SessionManager Chain}
  {call : Nat} {moment : SessionMoment} {stage next : SessionStage Chain} {id : Uuid}
  {config : SessionConfig Chain}

theorem not_evicts_answered {route : Route} {served : Except ChainError (Session × Chain)} :
    ¬ (route.answered served).Evicts id := by
  intro evicts
  obtain ⟨answer, same⟩ := evicts
  cases served with
  | error e => cases same
  | ok step => cases route <;> cases same

theorem lives_insert {session : Session} {events : List (SessionEvent Chain)} {issued : List Uuid}
    (lives : before.Lives id) (running : id = session.id → session.state ≠ .completed) :
    SessionManager.Lives { before with
      sessions := before.sessions.insert session.id session
      issued := issued
      events := events } id := by
  obtain ⟨stored, held, active⟩ := lives
  by_cases same : id = session.id
  · subst same
    refine ⟨session, ?_, running rfl⟩
    rw [OrderedMap.get?_insert, Function.update_self]
  · refine ⟨stored, ?_, active⟩
    rw [OrderedMap.get?_insert, Function.update_of_ne same]
    exact held

/-- A walk that is still cached after a section was not what it removed. -/
theorem not_evicts_of_sessionStep
    (stepped : SessionStep service call moment before stage after next)
    (cached : after.walks.Holds id) : ¬ stage.Evicts id := by
  intro evicts
  obtain ⟨answer, same⟩ := evicts
  subst same
  cases stepped with
  | remove => exact (RecencyCache.holds_remove.mp cached).2 rfl

/-- A section that files no walk caches none, and lets no session go whose walk it is not about
to drop. -/
theorem lives_of_sessionStep (backed : stage.Backed before)
    (stepped : SessionStep service call moment before stage after next)
    (unfiled : ∀ route session built, stage ≠ .filing route session built)
    (unexpired : stage ≠ .cleaning) (cached : after.walks.Holds id) :
    before.walks.Holds id ∧ ¬ stage.Evicts id ∧
      (before.Lives id → after.Lives id ∨ next.Evicts id) := by
  suffices kept : before.walks.Holds id ∧ (before.Lives id → after.Lives id ∨ next.Evicts id) by
    exact ⟨kept.1, not_evicts_of_sessionStep stepped cached, kept.2⟩
  cases stepped with
  | create fresh created =>
      obtain ⟨-, rfl⟩ := InMemorySessionStore.create_eq_ok created
      refine ⟨cached, fun lives => .inl ?_⟩
      apply lives_insert lives
      intro same
      simp [Session.withRandomId]
  | refuseCreate | check | mismatch | missCheck | read | refuseRead | begin | reuse | build |
      refuseBuild | lose | merge | refuseMerge | replace | refuseReplace | refuseChange | missHit =>
      exact ⟨cached, .inl⟩
  | renew stale => exact ⟨(RecencyCache.holds_remove.mp cached).1, .inl⟩
  | hit found => exact ⟨RecencyCache.holds_touch.mp cached, .inl⟩
  | @file route session built => exact absurd rfl (unfiled route session built)
  | cleanup => exact absurd rfl unexpired
  | @commit session moved chain after saved =>
      obtain ⟨advancing, stored, held, version, named, rfl⟩ := commit_eq_ok_cases saved
      refine ⟨cached, fun lives => ?_⟩
      rw [← named]
      by_cases completed : id = moved.id ∧ moved.state = .completed
      · refine .inr ?_
        unfold advancedStage
        rw [if_pos completed.2, completed.1]
        exact ⟨_, rfl⟩
      · refine .inl (lives_insert lives fun same => ?_)
        exact fun done => completed ⟨same, done⟩
  | change saved =>
      obtain ⟨stored, held, version, rfl⟩ := change_eq_ok_cases saved
      obtain ⟨-, reinitialized, -⟩ := backed
      refine ⟨cached, fun lives => .inl (lives_insert lives fun _ => ?_)⟩
      rw [reinitialized]
      simp
  | @delete deleted =>
      refine ⟨cached, fun lives => ?_⟩
      by_cases same : id = deleted
      · subst same
        exact .inr ⟨_, rfl⟩
      · obtain ⟨session, held, active⟩ := lives
        refine .inl ⟨session, ?_, active⟩
        rw [InMemorySessionStore.delete, OrderedMap.get?_erase, Function.update_of_ne same]
        exact held
  | remove => exact ⟨(RecencyCache.holds_remove.mp cached).1, .inl⟩

theorem holds_fileWalk {max now : Nat} {walks : WalkCache Chain} {filed : Uuid}
    {built : BuiltWalk Chain} (cached : (fileWalk max walks filed built now).1.Holds id) :
    walks.Holds id ∨ id = filed ∧ SlotFree max walks filed := by
  have kept : ∀ other,
      (walks.evictTo (·.lastAccess) (max - 1)).Holds other → walks.Holds other := by
    have all : walks.All fun other _ => walks.Holds other := fun entry member =>
      ⟨entry, member, rfl⟩
    intro other held
    obtain ⟨entry, member, rfl⟩ := held
    exact all.evictTo entry member
  unfold fileWalk orInsert at cached
  split at cached
  next entry found => exact .inl (kept id (RecencyCache.holds_touch.mp cached))
  next vacant =>
    cases RecencyCache.holds_insert.mp cached with
    | inl same => exact .inr ⟨same, vacant⟩
    | inr earlier => exact .inl (kept id earlier)

theorem holds_fileWalk_self {max now : Nat} {walks : WalkCache Chain} {filed : Uuid}
    {built : BuiltWalk Chain} (free : SlotFree max walks filed) :
    (fileWalk max walks filed built now).1.Holds filed := by
  unfold fileWalk orInsert
  unfold SlotFree at free
  rw [free]
  exact RecencyCache.holds_insert.mpr (.inl rfl)

theorem size_fileWalk_le {max now : Nat} {walks : WalkCache Chain} {filed : Uuid}
    {built : BuiltWalk Chain} (positive : 1 ≤ max) :
    (fileWalk max walks filed built now).1.size ≤ max := by
  have room : (walks.evictTo (·.lastAccess) (max - 1)).size ≤ max - 1 :=
    RecencyCache.size_evictTo_le
  unfold fileWalk orInsert
  split
  next entry found =>
    rw [RecencyCache.size_touch]
    omega
  next vacant =>
    rw [RecencyCache.size_insert (RecencyCache.find?_eq_none.mp vacant)]
    omega

variable {phase : SessionCall Chain} {last nextConfig : SessionConfig Chain}
  {action : SessionAction}

theorem EvictionAhead.update (ahead : EvictionAhead config (· ≠ call) id) :
    EvictionAhead ⟨after, Function.update config.calls call phase⟩ (fun _ => True) id := by
  obtain ⟨other, stage, different, running, evicts⟩ := ahead
  refine ⟨other, stage, trivial, ?_, evicts⟩
  rw [← running]
  exact Function.update_of_ne different ..

theorem evictionAhead_update
    (ahead : EvictionAhead ⟨after, Function.update config.calls call phase⟩ (fun _ => True) id) :
    (∃ stage, phase = .active stage ∧ stage.Evicts id) ∨ EvictionAhead config (· ≠ call) id := by
  obtain ⟨other, stage, -, running, evicts⟩ := ahead
  dsimp only at running
  by_cases same : other = call
  · subst same
    rw [Function.update_self] at running
    exact .inl ⟨stage, running, evicts⟩
  · rw [Function.update_of_ne same] at running
    exact .inr ⟨other, stage, same, running, evicts⟩

theorem EvictionAhead.anywhere (ahead : EvictionAhead config (· ≠ call) id) :
    EvictionAhead config (fun _ => True) id := by
  obtain ⟨other, stage, -, running, evicts⟩ := ahead
  exact ⟨other, stage, trivial, running, evicts⟩

theorem EvictionAhead.others (ahead : EvictionAhead config (fun _ => True) id)
    (idle : ∀ stage, config.calls call = .active stage → ¬ stage.Evicts id) :
    EvictionAhead config (· ≠ call) id := by
  obtain ⟨other, stage, -, running, evicts⟩ := ahead
  refine ⟨other, stage, ?_, running, evicts⟩
  intro same
  subst same
  exact idle stage running evicts

theorem ne_cleaning_answered {route : Route} {served : Except ChainError (Session × Chain)} :
    route.answered served ≠ .cleaning := by
  intro expiring
  cases served with
  | error e => cases expiring
  | ok step => cases route <;> cases expiring

theorem ne_cleaning_of_sessionStep
    (stepped : SessionStep service call moment before stage after next) : next ≠ .cleaning := by
  intro expiring
  cases stepped with
  | file | hit | missHit => exact ne_cleaning_answered expiring
  | commit saved =>
      unfold advancedStage at expiring
      split_ifs at expiring
  | create | refuseCreate | check | mismatch | missCheck | read | refuseRead | renew | begin |
      reuse | build | refuseBuild | lose | merge | refuseMerge | replace | refuseReplace |
      change | refuseChange | delete | cleanup | remove => cases expiring

/-- What the sections of a run without expiry rely on. -/
structure ResidencyFacts (config : SessionConfig Chain) : Prop where
  backed : Holds SessionFacts SessionCall.Backed config
  unexpired : ∀ call, config.calls call ≠ .active .cleaning

theorem residencyFacts_start :
    ResidencyFacts ((sessionCalls service).start (.empty : SessionManager Chain)) where
  backed := start_sessionFacts
  unexpired call expiring := by cases expiring

theorem residencyFacts_of_step (facts : ResidencyFacts config) (unexpired : NoExpiry action)
    (stepped : (sessionCalls service).step config action = some nextConfig) :
    ResidencyFacts nextConfig := by
  refine ⟨sessions_free.preserved facts.backed atCall_unguarded stepped, ?_⟩
  cases action with
  | background input => cases input
  | call index input =>
      obtain ⟨after, phase, moved, rfl⟩ := step_call_eq_some.mp stepped
      have own : phase ≠ .active .cleaning := by
        obtain ⟨request, rfl, -, rfl, rfl⟩ | ⟨moment, stage, next, -, -, rfl, proceeded⟩ |
          ⟨stage, -, -, -, rfl, rfl⟩ := staged_cases moved
        · intro expiring
          cases request with
          | advance id expectedStep => cases expectedStep <;> cases expiring
          | cleanup => exact unexpired rfl
          | create | peek | update | replace | delete => cases expiring
        · intro expiring
          cases expiring
          exact ne_cleaning_of_sessionStep (sessionStep_of_proceed proceeded) rfl
        · intro expiring
          cases expiring
      intro other
      dsimp only
      by_cases same : other = index
      · subst same
        rw [Function.update_self]
        exact own
      · rw [Function.update_of_ne same]
        exact facts.unexpired other

theorem walksLive_of_file {route : Route} {session : Session} {built : BuiltWalk Chain}
    (live : WalksLive config)
    (active : config.calls call = .active (.filing route session built))
    (stepped : SessionStep service call moment config.shared (.filing route session built)
      after next) :
    WalksLive ⟨after, Function.update config.calls call (.active next)⟩ ↔
      FilesLive service config (.call call (.proceed moment)) := by
  cases stepped with
  | @file _ _ _ entry walks filed =>
      have own : ∀ id other, config.calls call = .active other → ¬ other.Evicts id := by
        intro id other running evicts
        rw [active] at running
        cases running
        obtain ⟨answer, same⟩ := evicts
        cases same
      constructor
      · intro after route' session' built' running free
        rw [active] at running
        cases running
        have cached : walks.Holds session.id := by
          have held := @holds_fileWalk_self Chain service.maxCachedWalks moment.instant
            config.shared.walks session.id built free
          rw [filed] at held
          exact held
        refine (after session.id cached).imp_right fun ahead => ?_
        obtain ⟨other, same, evicts⟩ | others := evictionAhead_update ahead
        · cases same
          exact absurd evicts not_evicts_answered
        · exact others.anywhere
      · intro files id cached
        have kept : config.shared.Lives id ∨ EvictionAhead config (fun _ => True) id := by
          have holds := @holds_fileWalk Chain id service.maxCachedWalks moment.instant
            config.shared.walks session.id built
          rw [filed] at holds
          obtain earlier | ⟨rfl, free⟩ := holds cached
          · exact live id earlier
          · exact files route session built active free
        exact kept.imp_right fun ahead => (ahead.others (own id)).update

/-- A section keeps every cached walk with a session exactly where it does not file, or leave
behind, one without. -/
theorem walksLive_of_step (facts : ResidencyFacts config) (live : WalksLive config)
    (stepped : (sessionCalls service).step config action = some nextConfig) :
    WalksLive nextConfig ↔ FilesLive service config action := by
  cases action with
  | background input => cases input
  | call index input =>
      obtain ⟨after, phase, moved, rfl⟩ := step_call_eq_some.mp stepped
      obtain ⟨request, rfl, idle, rfl, rfl⟩ | ⟨moment, stage, next, rfl, active, rfl, proceeded⟩ |
        ⟨stage, rfl, active, -, rfl, rfl⟩ := staged_cases moved
      · refine iff_of_true (fun id cached => ?_) trivial
        refine (live id cached).imp_right fun ahead => (ahead.others fun stage running => ?_).update
        rw [idle] at running
        cases running
      · have step := sessionStep_of_proceed proceeded
        have own : ∀ {id}, ¬ stage.Evicts id → ∀ other, config.calls index = .active other →
            ¬ other.Evicts id := by
          intro id idle other running
          rw [active] at running
          cases running
          exact idle
        by_cases filing : ∃ route session built, stage = .filing route session built
        · obtain ⟨route, session, built, rfl⟩ := filing
          exact walksLive_of_file live active step
        · refine iff_of_true (fun id cached => ?_) ?_
          · obtain ⟨earlier, idle, lives⟩ := lives_of_sessionStep
              ((facts.backed.own index).active active).1 step
              (fun route session built same => filing ⟨route, session, built, same⟩)
              (fun same => facts.unexpired index (same ▸ active)) cached
            cases live id earlier with
            | inl before =>
                refine (lives before).imp_right fun evicts => ?_
                exact ⟨index, next, trivial, Function.update_self .., evicts⟩
            | inr ahead => exact .inr (ahead.others (own idle)).update
          · intro route session built running
            rw [active] at running
            cases running
            exact absurd ⟨route, session, built, rfl⟩ filing
      · constructor
        · intro after id answer running cached
          refine (after id cached).imp_right fun ahead => ?_
          obtain ⟨other, impossible, -⟩ | others := evictionAhead_update ahead
          · cases impossible
          · exact others
        · intro kept id cached
          cases live id cached with
          | inl lives => exact .inl lives
          | inr ahead =>
              by_cases evicts : stage.Evicts id
              · obtain ⟨answer, rfl⟩ := evicts
                exact (kept id answer active cached).imp_right EvictionAhead.update
              · refine .inr (ahead.others fun other running => ?_).update
                rw [active] at running
                cases running
                exact evicts

theorem size_of_sessionStep (bounded : before.walks.size ≤ service.maxCachedWalks)
    (stepped : SessionStep service call moment before stage after next) :
    after.walks.size ≤ service.maxCachedWalks := by
  have removed : ∀ id, (before.walks.remove id).size ≤ service.maxCachedWalks :=
    fun id => (List.length_filter_le _ _).trans bounded
  cases stepped with
  | renew | remove => exact removed _
  | hit found =>
      dsimp only
      rw [RecencyCache.size_touch]
      exact bounded
  | @file route session built entry walks filed =>
      have room := @size_fileWalk_le Chain service.maxCachedWalks moment.instant before.walks
        session.id built service.walksPositive
      rw [filed] at room
      exact room
  | commit saved =>
      obtain ⟨-, _, -, -, -, rfl⟩ := commit_eq_ok_cases saved
      exact bounded
  | change saved =>
      obtain ⟨_, -, -, rfl⟩ := change_eq_ok_cases saved
      exact bounded
  | create | refuseCreate | check | mismatch | missCheck | read | refuseRead | begin | reuse |
      build | refuseBuild | missHit | lose | merge | refuseMerge | replace | refuseReplace |
      refuseChange | delete | cleanup => exact bounded

theorem size_of_run {actions : List SessionAction}
    (ran : (sessionCalls service).run ((sessionCalls service).start .empty) actions = some last) :
    last.shared.walks.size ≤ service.maxCachedWalks := by
  apply holds_of_run (fun config => config.shared.walks.size ≤ service.maxCachedWalks) _ _ ran
  · intro config action next bounded stepped
    cases action with
    | background input => cases input
    | call index input =>
        obtain ⟨after, phase, moved, rfl⟩ := step_call_eq_some.mp stepped
        obtain ⟨request, -, -, rfl, -⟩ | ⟨moment, stage, next, -, -, -, proceeded⟩ |
          ⟨stage, -, -, -, rfl, -⟩ := staged_cases moved
        · exact bounded
        · exact size_of_sessionStep bounded (sessionStep_of_proceed proceeded)
        · exact bounded
  · exact Nat.zero_le _

theorem lives_of_quiescent (live : WalksLive config) (quiet : Quiescent config)
    (cached : config.shared.walks.Holds id) : config.shared.Lives id := by
  obtain lives | ⟨call, stage, -, running, answer, same⟩ := live id cached
  · exact lives
  · obtain ⟨response, done⟩ := quiet call stage running
    rw [done] at same
    cases same

end Steps

section Theorem

variable {Chain : Type} {service : SessionService Chain}

/-- The cache is within its bound in every run, and every cached walk is of a session that lives,
or is going to be dropped, throughout a run exactly where walks are filed for such sessions. -/
theorem walks_within_sessions_iff {actions : List SessionAction} {last : SessionConfig Chain}
    (unexpired : ∀ action ∈ actions, NoExpiry action)
    (ran : (sessionCalls service).run ((sessionCalls service).start .empty) actions = some last) :
    last.shared.walks.size ≤ service.maxCachedWalks ∧
    ((∀ done rest reached, actions = done ++ rest →
        (sessionCalls service).run ((sessionCalls service).start .empty) done = some reached →
          WalksLive reached) ↔
      (sessionCalls service).Meets (FilesLive service) ((sessionCalls service).start .empty)
        actions) ∧
    ((sessionCalls service).Meets (FilesLive service) ((sessionCalls service).start .empty)
        actions →
      Quiescent last → ∀ id, last.shared.walks.Holds id → last.shared.Lives id) := by
  have throughout : (∀ done rest reached, actions = done ++ rest →
        (sessionCalls service).run ((sessionCalls service).start .empty) done = some reached →
          WalksLive reached) ↔
      (sessionCalls service).Meets (FilesLive service) ((sessionCalls service).start .empty)
        actions := by
    apply holds_throughout_iff _ residencyFacts_start _ unexpired ran
    · intro config action next facts allowed live stepped
      exact ⟨residencyFacts_of_step facts allowed stepped, walksLive_of_step facts live stepped⟩
    · intro id cached
      obtain ⟨entry, member, -⟩ := cached
      cases member
  refine ⟨size_of_run ran, throughout, fun met quiet id cached => ?_⟩
  exact lives_of_quiescent (throughout.mpr met actions [] last (List.append_nil _).symm ran) quiet
    cached

end Theorem

/-- Whether a walk is filed for a session that lives, and no call is dropped. -/
def filesLive (config : SessionConfig Nat) : SessionAction → Bool
  | .call call (.proceed _) =>
      match config.calls call with
      | .active (.filing _ session _) =>
          (config.shared.sessions.get? session.id).any fun stored => stored.state ≠ .completed
      | _ => true
  | .call _ .drop => false
  | _ => true

theorem filesLive_of_checked (config : SessionConfig Nat) (action : SessionAction)
    (allowed : filesLive config action) : FilesLive seededService config action := by
  cases action with
  | background input => cases input
  | call call input =>
      cases input with
      | request => trivial
      | drop => cases allowed
      | proceed moment =>
          intro route session built filing free
          simp only [filesLive, filing] at allowed
          obtain ⟨stored, held, running⟩ := (Option.any_eq_true _ _).mp allowed
          exact .inl ⟨stored, held, of_decide_eq_true running⟩

/-- A peek that is served before the session is deleted. -/
def peekedThenDeleted : List SessionAction :=
  sessionCall 0 (.create (seededParameters 1)) 1 ++ sessionCall 1 (.peek someId) 4 ++
    sessionCall 2 (.delete someId) 2

theorem walks_within_sessions_iff_peekedThenDeleted :
    ∃ last, seededCalls.run noSessions peekedThenDeleted = some last ∧
      last.shared.walks.size ≤ 2 ∧
      (Quiescent last → ∀ id, last.shared.walks.Holds id → last.shared.Lives id) := by
  obtain ⟨last, ran⟩ := Option.isSome_iff_exists.mp
    (by decide +kernel : (seededCalls.run noSessions peekedThenDeleted).isSome)
  have unexpired : ∀ action ∈ peekedThenDeleted, NoExpiry action := by
    simp [peekedThenDeleted, sessionCall, sessionSections, NoExpiry]
  have checked : seededCalls.checks filesLive noSessions peekedThenDeleted := by decide +kernel
  obtain ⟨bounded, -, quiet⟩ := walks_within_sessions_iff unexpired ran
  exact ⟨last, ran, bounded, quiet (meets_of_checks filesLive_of_checked checked)⟩

/-- The peek files its walk once the session is gone. -/
def filedAfterDelete : List SessionAction :=
  sessionCall 0 (.create (seededParameters 1)) 1 ++ sessionCall 1 (.peek someId) 3 ++
    sessionCall 2 (.delete someId) 2 ++ sessionSections 1 1

def isDone : SessionCall Nat → Bool
  | .active (.done _) => true
  | _ => false

theorem deleted_session_keeps_its_walk :
    ∃ last, seededCalls.run noSessions filedAfterDelete = some last ∧
      Quiescent last ∧ last.shared.walks.Holds someId ∧ ¬ last.shared.Lives someId := by
  have computed : (seededCalls.run noSessions filedAfterDelete).any (fun last =>
      (last.shared.walks.entries.any fun entry => entry.key = someId) &&
        (last.shared.sessions.get? someId).isNone &&
        (List.range 3).all fun call => isDone (last.calls call)) = true := by
    decide +kernel
  obtain ⟨last, ran, found⟩ := (Option.any_eq_true _ _).mp computed
  rw [Bool.and_eq_true, Bool.and_eq_true] at found
  obtain ⟨⟨cached, deleted⟩, done⟩ := found
  refine ⟨last, ran, ?_, ?_, ?_⟩
  · intro call stage running
    by_cases asked : call < 3
    · have own := List.all_eq_true.mp done call (List.mem_range.mpr asked)
      rw [running] at own
      cases stage with
      | done response => exact ⟨response, rfl⟩
      | creating | checking | reading | probing | building | filing | hitting | saving | merging |
          replacing | storing | deleting | cleaning | removing => cases own
    · have idle : last.calls call = noSessions.calls call := by
        apply calls_of_run _ ran
        intro input
        simp [filedAfterDelete, sessionCall, sessionSections]
        omega
      rw [idle] at running
      cases running
  · obtain ⟨entry, member, named⟩ := List.any_eq_true.mp cached
    exact ⟨entry, member, of_decide_eq_true named⟩
  · intro lives
    obtain ⟨session, held, -⟩ := lives
    rw [held] at deleted
    cases deleted

end OptionChainSimulator.Session
