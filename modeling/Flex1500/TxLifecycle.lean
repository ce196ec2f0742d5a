import Mathlib.Data.List.Basic

/-!
# The cleanup policy

What has to be undone after a transmission, or after a start that got part
of the way, is decided by a pure function of what was attempted and carried
out in a fixed order. Bit masks are predicates here: a partial state says
which of its bits are set, and a plan says which actions it contains.
-/

/-- What has been attempted so far (`flex1500_tx_partial_state`). -/
structure TxPartialState where
  paSelected : Bool
  ampEnableAttempted : Bool
  streamStarted : Bool
  transitionAttempted : Bool
  frequencyAttempted : Bool
  keyAttempted : Bool
  deriving DecidableEq, Repr

/-- The actions of a cleanup (`flex1500_tx_cleanup_action`). -/
inductive TxCleanupAction where
  | transitionMute | unkey | restoreRxFrequency | transitionUnmute
  | stopStream | resetPaFilter | disableAmplifier
  deriving DecidableEq, Repr

/-- A plan: which actions are to be taken. -/
abbrev TxCleanupPlan := TxCleanupAction → Bool

/-- `flex1500_tx_cleanup_plan`. -/
def txCleanupPlan (state : TxPartialState) : TxCleanupPlan
  | .transitionMute | .unkey => state.keyAttempted
  | .restoreRxFrequency | .transitionUnmute =>
    state.transitionAttempted || state.frequencyAttempted
  | .stopStream => state.streamStarted
  | .resetPaFilter => state.paSelected
  | .disableAmplifier => state.ampEnableAttempted

/-- The order of the actions (`order`). -/
def txCleanupOrder : List TxCleanupAction :=
  [.transitionMute, .unkey, .restoreRxFrequency, .transitionUnmute,
    .resetPaFilter, .disableAmplifier, .stopStream]

variable {κ : Type}

/-- The loop of `flex1500_tx_execute_cleanup` over what is left of the
order: the first error, the actions attempted, and the context. -/
def executeCleanupFrom (plan : TxCleanupPlan)
    (callback : TxCleanupAction → κ → Int × κ) :
    List TxCleanupAction → Int → List TxCleanupAction → κ →
      (Int × List TxCleanupAction) × κ
  | [], firstError, attempted, k => ((firstError, attempted), k)
  | action :: rest, firstError, attempted, k =>
    if plan action then
      let called := callback action k
      executeCleanupFrom plan callback rest
        (if firstError = 0 ∧ called.1 ≠ 0 then called.1 else firstError)
        (attempted ++ [action]) called.2
    else executeCleanupFrom plan callback rest firstError attempted k

/-- `flex1500_tx_execute_cleanup`. -/
def txExecuteCleanup (plan : TxCleanupPlan)
    (callback : TxCleanupAction → κ → Int × κ) (k : κ) :
    (Int × List TxCleanupAction) × κ :=
  executeCleanupFrom plan callback txCleanupOrder 0 [] k

/-! ## Every planned action, once, in order -/

/-- A run of a callback over a list of actions: the results and the
context. -/
def cleanupRun (callback : TxCleanupAction → κ → Int × κ) :
    List TxCleanupAction → κ → List Int × κ
  | [], k => ([], k)
  | action :: rest, k =>
    let called := callback action k
    let r := cleanupRun callback rest called.2
    (called.1 :: r.1, r.2)

/-- The first error among results. -/
def firstError (results : List Int) : Int :=
  (results.find? (· ≠ 0)).getD 0

theorem executeCleanupFrom_eq (plan : TxCleanupPlan)
    (callback : TxCleanupAction → κ → Int × κ)
    (order : List TxCleanupAction) (error : Int)
    (attempted : List TxCleanupAction) (k : κ) :
    executeCleanupFrom plan callback order error attempted k
      = ((if error = 0
            then firstError (cleanupRun callback (order.filter plan) k).1
            else error,
          attempted ++ order.filter plan),
        (cleanupRun callback (order.filter plan) k).2) := by
  induction order generalizing error attempted k with
  | nil => simp [executeCleanupFrom, cleanupRun, firstError]
  | cons action rest ih =>
    unfold executeCleanupFrom
    by_cases hp : plan action = true
    · simp only [hp, if_true, List.filter_cons_of_pos, cleanupRun]
      rw [ih]
      by_cases he : error = 0 <;>
        by_cases hc : (callback action k).1 = 0 <;>
          simp [he, hc, firstError]
    · simp only [hp, Bool.false_eq_true, if_false]
      rw [ih, List.filter_cons_of_neg (by simpa using hp)]

/-- **The executor** calls the planned actions in the fixed order, each
once, whatever they answer, and reports the first error. -/
theorem txExecuteCleanup_eq (plan : TxCleanupPlan)
    (callback : TxCleanupAction → κ → Int × κ) (k : κ) :
    txExecuteCleanup plan callback k
      = ((firstError (cleanupRun callback (txCleanupOrder.filter plan) k).1,
          txCleanupOrder.filter plan),
        (cleanupRun callback (txCleanupOrder.filter plan) k).2) := by
  rw [txExecuteCleanup, executeCleanupFrom_eq]
  rfl

/-- No action stands twice in the order. -/
theorem nodup_txCleanupOrder : txCleanupOrder.Nodup := by decide

/-- The order has every action, so a plan is carried out in full. -/
theorem mem_txCleanupOrder (action : TxCleanupAction) :
    action ∈ txCleanupOrder := by
  cases action <;> decide
