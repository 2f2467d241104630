import Molejo.Store.Completion

/-!
# Answering the Agent

The worker in front of the store hands commands to an Agent and takes its results.
Between the two it keeps nothing: a result names the command, the command's name
ends in the fencing token, and the operation is reloaded from the store before the
result is acted on. Which of the completing or failing calls a result leads to
depends only on the reloaded operation and the result, and is `answer`; the call
itself is another transaction, `execute`.
-/

namespace Molejo.Store

/-- `commandOperationID`: the operation a command belongs to, if its name ends in the token. -/
def commandOperationId (commandId : String) (fencingToken : ℕ) : Option String :=
  let suffix := (":" ++ toString fencingToken).toList
  if suffix <:+ commandId.toList ∧ suffix.length ≠ commandId.toList.length then
    some (String.ofList (commandId.toList.take (commandId.toList.length - suffix.length)))
  else none

/-- `RuntimeResult`, what an Agent reports about a command. -/
structure RuntimeResult where
  errorCode : String
  retryable : Bool
  state : String
  message : String
  desiredVersion : ℕ
  specHash : String
  observedRelease : String
  volumeState : String
  volumeMessage : String
  observedSizeGiB : ℤ
deriving DecidableEq

/-- The calls that end a claim. -/
inductive Call
  | completeWorkspace
  | completeVolume (state message : String) (observedSizeGiB : ℤ) (specHash : String)
  | completeAppEnvironmentDeletion (message : String)
  | completeDeployment (message observedRelease specHash : String)
      (volume : Option VolumeCompletion)
  | fail (code message : String) (retry : Bool)
deriving DecidableEq

/-- `sanitizedRuntimeFailure`. -/
def sanitizedRuntimeFailure (code : String) : String :=
  if code = "command_expired" then "runtime command expired before completion"
  else if code ∈ ["command_invalid", "command_incompatible", "command_unsupported"] then
    "runtime command was rejected"
  else if code = "runtime_ownership_conflict" then "runtime object ownership conflict"
  else "runtime operation failed"

/-- `commandProducesRuntimeSpec`. -/
def commandProducesRuntimeSpec (kind : OperationKind) : Prop :=
  kind ∈ [OperationKind.ensureVolume, .expandVolume, .deleteVolume, .applyDeployment]
deriving Decidable

/-- The call for an operation whose result is good. -/
def complete (op : Operation) (result : RuntimeResult) : Call :=
  match op.kind with
  | .ensureWorkspace => .completeWorkspace
  | .ensureVolume | .expandVolume | .deleteVolume =>
    .completeVolume result.volumeState result.volumeMessage result.observedSizeGiB result.specHash
  | .deleteAppEnvironment => .completeAppEnvironmentDeletion result.message
  | .applyDeployment =>
    if result.observedRelease = "" then
      .fail "runtime_observation_failed" "runtime release was not observed" true
    else
      .completeDeployment result.message result.observedRelease result.specHash
        (if result.volumeState ≠ "" then some ⟨result.volumeMessage, result.observedSizeGiB⟩
          else none)

/-- The call `HandleResult` makes. -/
def answer (op : Operation) (result : RuntimeResult) : Call :=
  if result.errorCode ≠ "" then
    .fail result.errorCode (sanitizedRuntimeFailure result.errorCode) result.retryable
  else if result.state ≠ "Ready" then
    .fail "runtime_not_ready" "runtime has not reached the requested state" true
  else if commandProducesRuntimeSpec op.kind ∧
      (result.desiredVersion ≠ op.desiredVersion ∨ ¬ SpecHashValid result.specHash) then
    .fail "runtime_observation_failed" "runtime desired state was not observed" true
  else complete op result

/-- Carry out a call on an operation. -/
def execute (policy : PublicationPolicy) (now : Time) (db : Db) (op : ClaimedOperation) :
    Call → Except Err Db
  | .completeWorkspace => completeWorkspace now db op
  | .completeVolume state message observedSizeGiB specHash =>
    completeVolume now db op state message observedSizeGiB specHash
  | .completeAppEnvironmentDeletion message => completeAppEnvironmentDeletion now db op message
  | .completeDeployment message observedRelease specHash volume =>
    completeDeployment policy now db op message observedRelease specHash volume
  | .fail code message retry => fail now db op code message retry

/-- The call completes the operation, rather than failing it. -/
def Call.Completes : Call → Prop
  | .fail _ _ _ => False
  | _ => True

instance : DecidablePred Call.Completes := fun c =>
  match c with
  | .fail _ _ _ => inferInstanceAs (Decidable False)
  | .completeWorkspace | .completeVolume _ _ _ _ | .completeAppEnvironmentDeletion _
  | .completeDeployment _ _ _ _ => inferInstanceAs (Decidable True)

end Molejo.Store
