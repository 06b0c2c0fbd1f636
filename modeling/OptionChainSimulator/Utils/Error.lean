import Mathlib.Tactic

namespace OptionChainSimulator.Utils

inductive ChainError where
  | sessionError (message : String)
  | stdError (message : String)
  | invalidState (message : String)
  | internal (message : String)
  | notFound (message : String)
  | alreadyExists (message : String)
  | conflict (message : String)
  | simulatorError (message : String)
  | clickHouseError (message : String)
  | notEnoughData (message : String)
  | validation (field reason : String)
  deriving DecidableEq, Repr

namespace ChainError

/-- `Display for ChainError`. -/
def toString : ChainError → String
  | .sessionError message => "Session Error: " ++ message
  | .stdError message => "Std Error: " ++ message
  | .invalidState message => "Invalid State: " ++ message
  | .internal message => "Internal Error: " ++ message
  | .notFound message => "Not Found: " ++ message
  | .alreadyExists message => "Already Exists: " ++ message
  | .conflict message => "Conflict: " ++ message
  | .simulatorError message => "Simulator Error: " ++ message
  | .clickHouseError message => "ClickHouse Error: " ++ message
  | .notEnoughData message => "Not Enough Data: " ++ message
  | .validation field reason => "Validation Error: " ++ field ++ ": " ++ reason

/-- The variant and the field, without the text. -/
def kind : ChainError → ChainError
  | .sessionError _ => .sessionError ""
  | .stdError _ => .stdError ""
  | .invalidState _ => .invalidState ""
  | .internal _ => .internal ""
  | .notFound _ => .notFound ""
  | .alreadyExists _ => .alreadyExists ""
  | .conflict _ => .conflict ""
  | .simulatorError _ => .simulatorError ""
  | .clickHouseError _ => .clickHouseError ""
  | .notEnoughData _ => .notEnoughData ""
  | .validation field _ => .validation field ""

/-- The HTTP status `map_error` answers with. -/
def status : ChainError → Nat
  | .notFound _ => 404
  | .alreadyExists _ => 409
  | .conflict _ => 409
  | .invalidState _ => 400
  | .validation _ _ => 400
  | .simulatorError _ => 410
  | _ => 500

end ChainError

/-- What ends a call without a value: a typed error, or a panic of the thread. -/
inductive Fault where
  | error (error : ChainError)
  | panic (message : String)
  deriving DecidableEq, Repr

instance : MonadLift (Except ChainError) (Except Fault) where
  monadLift
    | .ok value => .ok value
    | .error error => .error (.error error)

@[simp] theorem monadLift_ok {α : Type} (value : α) :
    (MonadLift.monadLift (Except.ok value : Except ChainError α) : Except Fault α) =
      .ok value := rfl

@[simp] theorem monadLift_error {α : Type} (error : ChainError) :
    (MonadLift.monadLift (Except.error error : Except ChainError α) : Except Fault α) =
      .error (.error error) := rfl

theorem bind_eq_ok {ε α β : Type} {first : Except ε α} {next : α → Except ε β} {result : β} :
    (first >>= next) = .ok result ↔
      ∃ value, first = .ok value ∧ next value = .ok result := by
  cases first with
  | error error =>
      constructor
      · intro impossible
        cases impossible
      · rintro ⟨value, impossible, -⟩
        cases impossible
  | ok value =>
      constructor
      · intro succeeded
        exact ⟨value, rfl, succeeded⟩
      · rintro ⟨other, equal, succeeded⟩
        cases equal
        exact succeeded

theorem bind_eq_error {ε α β : Type} {first : Except ε α} {next : α → Except ε β} {error : ε} :
    (first >>= next) = .error error ↔
      first = .error error ∨ ∃ value, first = .ok value ∧ next value = .error error := by
  cases first with
  | error other => simp [bind, Except.bind]
  | ok value => simp [bind, Except.bind]

theorem bind_unit_eq_ok {ε β : Type} {check : Except ε Unit} {next : Unit → Except ε β}
    {result : β} :
    (check >>= next) = .ok result ↔ check = .ok () ∧ next () = .ok result := by
  rw [bind_eq_ok]
  constructor
  · rintro ⟨_, passed, succeeded⟩
    exact ⟨passed, succeeded⟩
  · rintro ⟨passed, succeeded⟩
    exact ⟨(), passed, succeeded⟩

@[simp] theorem mapError_eq_ok {ε δ α : Type} {convert : ε → δ} {computed : Except ε α}
    {value : α} : computed.mapError convert = .ok value ↔ computed = .ok value := by
  cases computed <;> simp [Except.mapError]

theorem mapError_eq_error {ε δ α : Type} {convert : ε → δ} {computed : Except ε α} {error : δ} :
    computed.mapError convert = .error error ↔
      ∃ cause, computed = .error cause ∧ convert cause = error := by
  cases computed <;> simp [Except.mapError]

theorem map_eq_ok {ε α β : Type} {convert : α → β} {computed : Except ε α} {result : β} :
    convert <$> computed = .ok result ↔ ∃ value, computed = .ok value ∧ convert value = result := by
  cases computed with
  | error error => simp
  | ok value => simp

theorem mapM_eq_ok {ε α β : Type} {convert : α → Except ε β} {values : List α}
    {results : List β} :
    values.mapM convert = .ok results ↔
      List.Forall₂ (fun value result => convert value = .ok result) values results := by
  induction values generalizing results with
  | nil => simp [pure, Except.pure, eq_comm]
  | cons value values ih =>
      simp only [List.mapM_cons, bind_eq_ok, pure, Except.pure, Except.ok.injEq]
      constructor
      · rintro ⟨first, firstOk, others, othersOk, rfl⟩
        exact .cons firstOk (ih.mp othersOk)
      · intro converted
        cases converted with
        | cons firstOk othersOk => exact ⟨_, firstOk, _, ih.mpr othersOk, rfl⟩

theorem exists_of_isOk {ε α : Type} {computed : Except ε α} (passes : computed.isOk = true) :
    ∃ value, computed = .ok value := by
  cases computed with
  | error error => cases passes
  | ok value => exact ⟨value, rfl⟩

theorem exists_forall₂_of_isOk {ε α β : Type} {convert : α → Except ε β} {values : List α}
    (passes : ∀ value ∈ values, (convert value).isOk = true) :
    ∃ results, List.Forall₂ (fun value result => convert value = .ok result) values results := by
  induction values with
  | nil => exact ⟨[], .nil⟩
  | cons value values ih =>
      rw [List.forall_mem_cons] at passes
      obtain ⟨result, converted⟩ := exists_of_isOk passes.1
      obtain ⟨results, others⟩ := ih passes.2
      exact ⟨result :: results, .cons converted others⟩

theorem lift_eq_ok {α : Type} {computed : Except ChainError α} {value : α} :
    (liftM computed : Except Fault α) = .ok value ↔ computed = .ok value := by
  cases computed with
  | error error => simp [liftM, monadLift]
  | ok value => simp [liftM, monadLift]

/-- `Option::ok_or`. -/
def okOr {ε α : Type} (value : Option α) (error : ε) : Except ε α :=
  match value with
  | some value => .ok value
  | none => .error error

@[simp] theorem okOr_eq_ok {ε α : Type} {value : Option α} {error : ε} {result : α} :
    okOr value error = .ok result ↔ value = some result := by
  cases value <;> simp [okOr]

@[simp] theorem okOr_some {ε α : Type} (value : α) (error : ε) :
    okOr (some value) error = .ok value := rfl

end OptionChainSimulator.Utils
