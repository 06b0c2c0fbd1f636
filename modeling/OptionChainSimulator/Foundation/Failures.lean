import Mathlib.Tactic

namespace OptionChainSimulator.Foundation

/-! What a computation can fail with. Whatever is put together from computations that fail only
so fails only so. -/

section Failures

variable {ε δ α β : Type} {allowed wider : ε → Prop}

def FailsOnly (allowed : ε → Prop) (computed : Except ε α) : Prop :=
  ∀ e, computed = .error e → allowed e

@[simp] theorem failsOnly_ok {value : α} : FailsOnly allowed (.ok value : Except ε α) := by
  intro e impossible
  cases impossible

@[simp] theorem failsOnly_pure {value : α} : FailsOnly allowed (pure value : Except ε α) :=
  failsOnly_ok

@[simp] theorem failsOnly_error {e : ε} :
    FailsOnly allowed (.error e : Except ε α) ↔ allowed e := by
  constructor
  · intro fails
    exact fails e rfl
  · intro held other same
    cases same
    exact held

@[simp] theorem failsOnly_throw {e : ε} : FailsOnly allowed (throw e : Except ε α) ↔ allowed e :=
  failsOnly_error

variable {computed : Except ε α} {next : α → Except ε β}

theorem FailsOnly.mono (fails : FailsOnly allowed computed)
    (implied : ∀ e, allowed e → wider e) : FailsOnly wider computed :=
  fun e failed => implied e (fails e failed)

theorem FailsOnly.bind (first : FailsOnly allowed computed)
    (rest : ∀ value, computed = .ok value → FailsOnly allowed (next value)) :
    FailsOnly allowed (computed >>= next) := by
  cases computed with
  | error e => exact failsOnly_error.mpr (failsOnly_error.mp first)
  | ok value => exact rest value rfl

@[simp] theorem failsOnly_bind :
    FailsOnly allowed (computed >>= next) ↔
      FailsOnly allowed computed ∧
        ∀ value, computed = .ok value → FailsOnly allowed (next value) := by
  constructor
  · intro fails
    cases computed with
    | error e => exact ⟨failsOnly_error.mpr (failsOnly_error.mp fails), by simp⟩
    | ok value =>
        refine ⟨failsOnly_ok, fun other same => ?_⟩
        cases same
        exact fails
  · intro each
    exact each.1.bind each.2

@[simp] theorem failsOnly_map {convert : α → β} :
    FailsOnly allowed (convert <$> computed) ↔ FailsOnly allowed computed := by
  cases computed with
  | error e => exact failsOnly_error.trans failsOnly_error.symm
  | ok value => exact iff_of_true failsOnly_ok failsOnly_ok

@[simp] theorem failsOnly_mapError {told : δ → Prop} {convert : ε → δ} :
    FailsOnly told (computed.mapError convert) ↔
      FailsOnly (fun e => told (convert e)) computed := by
  cases computed with
  | error e => simp [Except.mapError]
  | ok value => simp [Except.mapError]

theorem failsOnly_of_forall (all : ∀ e, allowed e) : FailsOnly allowed computed :=
  fun e _ => all e

theorem FailsOnly.mapM {values : List α}
    (each : ∀ value ∈ values, FailsOnly allowed (next value)) :
    FailsOnly allowed (values.mapM next) := by
  induction values with
  | nil => simp
  | cons value values ih =>
      rw [List.forall_mem_cons] at each
      rw [List.mapM_cons]
      apply each.1.bind
      intro first _
      apply (ih each.2).bind
      intro others _
      exact failsOnly_pure

end Failures

end OptionChainSimulator.Foundation
