import Mathlib.Tactic
import Mathlib.Data.List.Sort
import OptionChainSimulator.Foundation.OrderedCollections
import OptionChainSimulator.Session.Store.V2Interface

namespace OptionChainSimulator.Session

open Foundation Utils

/-! The Redis store of v2 simulations: a document, a revision key and an index entry
for each, written by scripts that run as single units. -/

/-- A key's value, and the server time in milliseconds up to which it lives. -/
structure Timed (α : Type) where
  value : α
  expiresAt : Nat

/-- The server's clock, and the keys under the store's prefix. The index scores each
id by its deadline in seconds. -/
structure Keyspace where
  clock : Nat
  documents : OrderedMap Uuid (Timed SessionV2)
  revisions : OrderedMap Uuid (Timed String)
  index : OrderedMap Uuid Nat

namespace Keyspace

variable {α : Type}

/-- `GET`: an expired key is as good as gone. -/
def live (clock : Nat) (keys : OrderedMap Uuid (Timed α)) (id : Uuid) : Option α :=
  (keys.get? id).bind fun held => if clock ≤ held.expiresAt then some held.value else none

/-- `SET key value EX seconds`. -/
def setEx (clock retentionSecs : Nat) (keys : OrderedMap Uuid (Timed α)) (id : Uuid)
    (value : α) : OrderedMap Uuid (Timed α) :=
  keys.insert id ⟨value, clock + retentionSecs * 1000⟩

/-- The two `SET`s and the `ZADD` that a write ends with. -/
def write (retentionSecs : Nat) (keyspace : Keyspace) (simulation : SessionV2) : Keyspace where
  clock := keyspace.clock
  documents := setEx keyspace.clock retentionSecs keyspace.documents simulation.id simulation
  revisions :=
    setEx keyspace.clock retentionSecs keyspace.revisions simulation.id simulation.version.repr
  index := keyspace.index.insert simulation.id (keyspace.clock / 1000 + retentionSecs)

def drop (keyspace : Keyspace) (id : Uuid) : Keyspace where
  clock := keyspace.clock
  documents := keyspace.documents.erase id
  revisions := keyspace.revisions.erase id
  index := keyspace.index.erase id

end Keyspace

namespace InRedisSimulationStore

open Keyspace

def cleanupBatch : Nat := 1000

variable (service : Service) (retentionSecs : Nat)

/-- `CREATE_SCRIPT`. -/
def createScript (keyspace : Keyspace) (simulation : SessionV2) : Int × Keyspace :=
  match live keyspace.clock keyspace.documents simulation.id with
  | some _ => (0, keyspace)
  | none => (1, keyspace.write retentionSecs simulation)

/-- `SAVE_CAS_SCRIPT`: a missing revision counts as `'0'`. -/
def saveCasScript (keyspace : Keyspace) (simulation : SessionV2) (expected : String) :
    Int × Keyspace :=
  match live keyspace.clock keyspace.documents simulation.id with
  | none => (-1, keyspace)
  | some _ =>
      let version := (live keyspace.clock keyspace.revisions simulation.id).getD "0"
      if version ≠ expected then (-2, keyspace) else (1, keyspace.write retentionSecs simulation)

/-- `DELETE_SCRIPT`. -/
def deleteScript (keyspace : Keyspace) (id : Uuid) : Int × Keyspace :=
  (if (live keyspace.clock keyspace.documents id).isSome then 1 else 0, keyspace.drop id)

/-- The ids whose deadline has passed, the earliest first, at most a batch of them. -/
def reapable (keyspace : Keyspace) : List Uuid :=
  let due := keyspace.index.entries.filter fun entry => entry.2 ≤ keyspace.clock / 1000
  ((due.insertionSort fun left right => left.2 ≤ right.2).take cleanupBatch).map (·.1)

/-- `CLEANUP_SCRIPT`. -/
def cleanupScript (keyspace : Keyspace) : List Uuid × Keyspace :=
  (reapable keyspace, (reapable keyspace).foldl drop keyspace)

def mapCasResult (code : Int) (id : Uuid) (expectedVersion : Nat) : Except ChainError Unit :=
  if code = 1 then .ok ()
  else if code = -1 then .error (simulationNotFound id)
  else if code = -2 then
    .error (.conflict <|
      s!"Simulation {id.hyphenated} was modified concurrently" ++
        s!" (expected version {expectedVersion})")
  else
    .error (.internal s!"Unexpected CAS result code {code} for simulation {id.hyphenated}")

/-- A document is checked again when it is decoded. -/
def get (keyspace : Keyspace) (id : Uuid) : Except ChainError SessionV2 :=
  match live keyspace.clock keyspace.documents id with
  | some simulation =>
      match simulation.validate service with
      | .ok () => .ok simulation
      | .error e => .error (.internal s!"Failed to deserialize simulation: {e.toString}")
  | none => .error (simulationNotFound id)

def create (keyspace : Keyspace) (simulation : SessionV2) : Except ChainError Keyspace := do
  simulation.validate service
  let (created, after) := createScript retentionSecs keyspace simulation
  if created = 1 then .ok after else .error (simulationExists simulation.id)

def saveCas (keyspace : Keyspace) (simulation : SessionV2) (expectedVersion : Nat) :
    Except ChainError Keyspace := do
  simulation.validate service
  let (code, after) := saveCasScript retentionSecs keyspace simulation expectedVersion.repr
  mapCasResult code simulation.id expectedVersion
  return after

def delete (keyspace : Keyspace) (id : Uuid) : Bool × Keyspace :=
  let (removed, after) := deleteScript keyspace id
  (removed > 0, after)

end InRedisSimulationStore

open InRedisSimulationStore in
def inRedisSimulationStore (service : Service) (retentionSecs : Nat) : SimulationStore where
  State := Keyspace
  empty := ⟨0, .empty, .empty, .empty⟩
  get := InRedisSimulationStore.get service
  create := create service retentionSecs
  saveCas := saveCas service retentionSecs
  delete := delete
  cleanup _ := cleanupScript
  elapse milliseconds keyspace := { keyspace with clock := keyspace.clock + milliseconds }

namespace InRedisSimulationStore

open Keyspace

/-- Every document is valid, filed under its own id, and has a revision key with its
version that lives exactly as long. -/
def Sound (service : Service) (keyspace : Keyspace) : Prop :=
  ∀ id held, keyspace.documents.get? id = some held →
    held.value.id = id ∧ held.value.validate service = .ok () ∧
      keyspace.revisions.get? id = some ⟨held.value.version.repr, held.expiresAt⟩

def stored (keyspace : Keyspace) : Uuid → Option SessionV2 :=
  live keyspace.clock keyspace.documents

variable {service : Service} {retentionSecs expectedVersion milliseconds : Nat}
  {keyspace after : Keyspace} {simulation : SessionV2} {id : Uuid}

theorem live_eq_some {α : Type} {clock : Nat} {keys : OrderedMap Uuid (Timed α)} {value : α} :
    live clock keys id = some value ↔
      ∃ expiresAt, keys.get? id = some ⟨value, expiresAt⟩ ∧ clock ≤ expiresAt := by
  unfold live
  constructor
  · intro found
    obtain ⟨held, present, alive⟩ := Option.bind_eq_some_iff.mp found
    split_ifs at alive with before
    cases alive
    exact ⟨held.expiresAt, present, before⟩
  · intro found
    obtain ⟨expiresAt, present, before⟩ := found
    simp [present, before]

theorem live_setEx {α : Type} {clock : Nat} {keys : OrderedMap Uuid (Timed α)} {value : α} :
    live clock (setEx clock retentionSecs keys id value) =
      Function.update (live clock keys) id (some value) := by
  funext other
  unfold live setEx
  rw [OrderedMap.get?_insert]
  by_cases same : other = id
  · subst same
    simp
  · simp only [Function.update_of_ne same]

theorem live_erase {α : Type} {clock : Nat} {keys : OrderedMap Uuid (Timed α)} :
    live clock (keys.erase id) = Function.update (live clock keys) id none := by
  funext other
  unfold live
  rw [OrderedMap.get?_erase]
  by_cases same : other = id
  · subst same
    simp
  · simp only [Function.update_of_ne same]

theorem Sound.write (sound : Sound service keyspace)
    (valid : simulation.validate service = .ok ()) :
    Sound service (keyspace.write retentionSecs simulation) := by
  intro id held found
  unfold Keyspace.write setEx at found ⊢
  rw [OrderedMap.get?_insert] at found ⊢
  by_cases same : id = simulation.id
  · subst same
    rw [Function.update_self] at found ⊢
    cases found
    exact ⟨rfl, valid, rfl⟩
  · rw [Function.update_of_ne same] at found ⊢
    exact sound id held found

theorem Sound.drop (sound : Sound service keyspace) : Sound service (keyspace.drop id) := by
  intro other held found
  unfold Keyspace.drop at found ⊢
  rw [OrderedMap.get?_erase] at found ⊢
  by_cases same : other = id
  · subst same
    rw [Function.update_self] at found
    cases found
  · rw [Function.update_of_ne same] at found ⊢
    exact sound other held found

theorem stored_write : stored (keyspace.write retentionSecs simulation) =
    Function.update (stored keyspace) simulation.id (some simulation) := live_setEx

theorem stored_drop : stored (keyspace.drop id) = Function.update (stored keyspace) id none :=
  live_erase

theorem shrunk_drop : Shrunk (stored keyspace) (stored (keyspace.drop id)) := by
  intro other
  rw [stored_drop]
  by_cases same : other = id
  · subst same
    exact .inl (Function.update_self ..)
  · exact .inr (Function.update_of_ne same ..)

theorem Sound.revision (sound : Sound service keyspace)
    (held : stored keyspace id = some simulation) :
    simulation.id = id ∧ simulation.validate service = .ok () ∧
      live keyspace.clock keyspace.revisions id = some simulation.version.repr := by
  obtain ⟨expiresAt, present, alive⟩ := live_eq_some.mp held
  obtain ⟨named, valid, revision⟩ := sound id _ present
  exact ⟨named, valid, live_eq_some.mpr ⟨expiresAt, revision, alive⟩⟩

theorem repr_injective {left right : Nat} (same : left.repr = right.repr) : left = right := by
  have digits : Nat.toDigits 10 left = Nat.toDigits 10 right := by
    rw [← Nat.toList_repr, ← Nat.toList_repr, same]
  rw [← Nat.ofDigitChars_ten_toDigits (n := left), digits, Nat.ofDigitChars_ten_toDigits]

theorem get_eq (sound : Sound service keyspace) (id : Uuid) :
    get service keyspace id = okOr (stored keyspace id) (simulationNotFound id) := by
  unfold get
  change (match stored keyspace id with | some _ => _ | none => _) = _
  cases held : stored keyspace id with
  | none => rfl
  | some simulation =>
      obtain ⟨-, valid, -⟩ := sound.revision held
      simp only [valid, okOr]

theorem of_create (created : create service retentionSecs keyspace simulation = .ok after) :
    simulation.validate service = .ok () ∧ stored keyspace simulation.id = none ∧
      after = keyspace.write retentionSecs simulation := by
  obtain ⟨valid, filed⟩ := bind_unit_eq_ok.mp created
  refine ⟨valid, ?_⟩
  unfold createScript at filed
  unfold stored
  cases held : live keyspace.clock keyspace.documents simulation.id with
  | some other =>
      rw [held] at filed
      cases filed
  | none =>
      rw [held] at filed
      cases filed
      exact ⟨rfl, rfl⟩

/-- What the compare-and-swap script does to a sound keyspace. -/
theorem saveCasScript_eq (sound : Sound service keyspace) :
    saveCasScript retentionSecs keyspace simulation expectedVersion.repr =
      match stored keyspace simulation.id with
      | none => (-1, keyspace)
      | some old =>
          if old.version ≠ expectedVersion then (-2, keyspace)
          else (1, keyspace.write retentionSecs simulation) := by
  unfold saveCasScript
  change (match stored keyspace simulation.id with | none => _ | some _ => _) = _
  cases held : stored keyspace simulation.id with
  | none => rfl
  | some old =>
      obtain ⟨-, -, revision⟩ := sound.revision held
      simp only [revision, Option.getD_some]
      by_cases current : old.version = expectedVersion
      · simp [current]
      · have different : old.version.repr ≠ expectedVersion.repr :=
          fun same => current (repr_injective same)
        simp [current, different]

theorem of_saveCas (sound : Sound service keyspace)
    (saved : saveCas service retentionSecs keyspace simulation expectedVersion = .ok after) :
    simulation.validate service = .ok () ∧
      (∃ old, stored keyspace simulation.id = some old ∧ old.version = expectedVersion) ∧
      after = keyspace.write retentionSecs simulation := by
  obtain ⟨valid, filed⟩ := bind_unit_eq_ok.mp saved
  refine ⟨valid, ?_⟩
  rw [saveCasScript_eq sound] at filed
  cases held : stored keyspace simulation.id with
  | none =>
      rw [held] at filed
      cases filed
  | some old =>
      rw [held] at filed
      dsimp only at filed
      split_ifs at filed with moved
      · cases filed
      · cases filed
        exact ⟨⟨old, rfl, not_not.mp moved⟩, rfl⟩

theorem of_saveCas_error {error : ChainError} (sound : Sound service keyspace)
    (valid : simulation.validate service = .ok ())
    (refused : saveCas service retentionSecs keyspace simulation expectedVersion = .error error) :
    (stored keyspace simulation.id = none ∧ error = simulationNotFound simulation.id) ∨
      ∃ old message, stored keyspace simulation.id = some old ∧
        old.version ≠ expectedVersion ∧ error = .conflict message := by
  unfold saveCas at refused
  rw [valid, saveCasScript_eq sound] at refused
  cases held : stored keyspace simulation.id with
  | none =>
      rw [held] at refused
      cases refused
      exact .inl ⟨rfl, rfl⟩
  | some old =>
      rw [held] at refused
      by_cases moved : old.version = expectedVersion
      · simp only [moved, ne_eq, not_true, if_false] at refused
        cases refused
      · simp only [moved, ne_eq, not_false_eq_true, if_true] at refused
        cases refused
        exact .inr ⟨old, _, rfl, moved, rfl⟩

theorem of_reaped (sound : Sound service keyspace) (ids : List Uuid) :
    Sound service (ids.foldl drop keyspace) ∧
      Shrunk (stored keyspace) (stored (ids.foldl drop keyspace)) := by
  induction ids generalizing keyspace with
  | nil => exact ⟨sound, fun _ => .inr rfl⟩
  | cons id ids ih =>
      obtain ⟨soundAfter, shrunk⟩ := ih sound.drop
      refine ⟨soundAfter, fun other => ?_⟩
      cases shrunk other with
      | inl gone => exact .inl gone
      | inr kept =>
          rw [List.foldl_cons, kept]
          exact shrunk_drop other

theorem shrunk_elapse : Shrunk (stored keyspace)
    (stored { keyspace with clock := keyspace.clock + milliseconds }) := by
  intro id
  unfold stored live
  cases keyspace.documents.get? id with
  | none => exact .inl rfl
  | some held =>
      by_cases later : keyspace.clock + milliseconds ≤ held.expiresAt
      · have earlier : keyspace.clock ≤ held.expiresAt := by omega
        exact .inr (by simp [later, earlier])
      · exact .inl (by simp [later])

end InRedisSimulationStore

open InRedisSimulationStore in
def inRedisSimulationStore.atomic (service : Service) (retentionSecs : Nat) :
    (inRedisSimulationStore service retentionSecs).Atomic service where
  Sound := Sound service
  stored := stored
  sound_empty := by
    intro id held found
    cases found
  stored_empty _ := rfl
  stored_id sound found := (sound.revision found).1
  get_eq sound id := InRedisSimulationStore.get_eq sound id
  of_create sound created := by
    obtain ⟨valid, -, rfl⟩ := InRedisSimulationStore.of_create created
    exact ⟨valid, sound.write valid, stored_write⟩
  of_saveCas sound saved := by
    obtain ⟨valid, current, rfl⟩ := InRedisSimulationStore.of_saveCas sound saved
    exact ⟨current, sound.write valid, stored_write⟩
  of_saveCas_error sound valid refused :=
    InRedisSimulationStore.of_saveCas_error sound valid refused
  of_delete {keyspace} sound id := by
    refine ⟨sound.drop, ?_, stored_drop⟩
    change decide ((if (stored keyspace id).isSome then (1 : Int) else 0) > 0) = _
    cases stored keyspace id <;> rfl
  of_cleanup sound _ := of_reaped sound _
  of_elapse sound _ := ⟨sound, shrunk_elapse⟩

end OptionChainSimulator.Session
