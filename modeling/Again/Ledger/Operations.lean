import Again.Ledger.Reads

/-!
# Runs of the ledger

The operations of the task and context part of the store, what they reply, and
the runs they make from an empty schema. Each operation is one transaction with
one reading of the clock. Between them the gateway's own operations may leave
any tables of theirs behind.
-/

namespace Again.Ledger

open Lib Gateway

inductive LedgerOp
  /-- The gateway's operations, seen from the ledger. -/
  | gateway (tables : Gateway.Tables)
  /-- One of them has stored a result, which refreshes the quotas. -/
  | stored (tables : Gateway.Tables)
  | resolve (scope : TaskScope) (requestedTaskId : String) (suppliedPrompt : Option String)
  | start (scope : TaskScope) (requestedTaskId : String) (supplied : TaskDefinitionV1)
  | delete (scope : TaskScope) (requestedTaskId : String)
  | activate (identity : ContextLedgerIdentityV1)
  | retire (identity : ContextLedgerIdentityV1)
  | admitFact (identity : ContextLedgerIdentityV1) (envelopeDigest : String) (factVersion : UInt64)
      (fact : Checked ReasoningFactV1.check) (verifiedSources : List ContextVerifiedObservationV1)
  | append (identity : ContextLedgerIdentityV1) (envelopeDigest : String) (input : ContextLedgerEventInputV1)
  | invalidate (identity : ContextLedgerIdentityV1) (envelopeDigest : String) (changes : List ContextDependencyChangeV1)
  | acknowledge (identity : ContextLedgerIdentityV1) (responseEnvelopeDigest : String)
      (through deliveredBytes bytesOmitted : Nat)
  | gc (identity : ContextLedgerIdentityV1) (maximumEvents : Nat)
  | acquire (uuid : Octets 16) (identity : ContextLedgerIdentityV1) (workKeyDigest summary : String) (ttlMs : UInt64)
      (deadlineMs : Int)
  | observe (identity : ContextLedgerIdentityV1) (workKeyDigest : String)
  | heartbeat (identity : ContextLedgerIdentityV1) (leaseId : String) (ttlMs : UInt64)
  | finish (identity : ContextLedgerIdentityV1) (leaseId : String) (succeeded : Bool)
  | cancel (identity : ContextLedgerIdentityV1) (leaseId : String)
  | claim (uuid : Octets 16) (identity : ContextLedgerIdentityV1) (expectedStateGeneration : Nat) (ttlMs : UInt64)
      (deadlineMs : Int)
  | transition (identity : ContextLedgerIdentityV1) (leaseId : String) (expectedStateGeneration : Nat)
      (target : TaskStateV1) (reason : String)
  | snapshot (identity : ContextLedgerIdentityV1)
  | delta (identity : ContextLedgerIdentityV1) (after limit : Nat)
  | retrieve (identity : ContextLedgerIdentityV1) (gatewayResultId : String) (blobFile : String → Option Bytes)

/-- Who acts. -/
def LedgerOp.identity? : LedgerOp → Option ContextLedgerIdentityV1
  | .gateway _ | .stored _ | .resolve .. | .start .. | .delete .. => none
  | .activate i | .retire i | .admitFact i .. | .append i .. | .invalidate i .. | .acknowledge i .. | .gc i _
  | .acquire _ i .. | .observe i _ | .heartbeat i .. | .finish i .. | .cancel i _ | .claim _ i .. | .transition i ..
  | .snapshot i | .delta i .. | .retrieve i .. => some i

inductive LedgerReply
  | done
  | flag (changed : Bool)
  | resolved (resolution : ContextTaskResolutionV1)
  | started (outcome : TaskStartOutcomeV1)
  | appended (outcome : ContextLedgerAppendOutcomeV1)
  | invalidated (report : ContextInvalidationReportV1)
  | collected (report : ContextLedgerGcReportV1)
  | acquired (acquisition : ContextLeaseAcquisitionV1)
  | observed (observation : ContextLeaseObservationV1)
  | extended (expiresAtMs : Int)
  | claimed (outcome : TaskClaimOutcomeV1)
  | moved (task : TaskRecordV1)
  | snapshot (snapshot : ContextLedgerTaskSnapshotV1)
  | delta (delta : ContextLedgerDeltaV1)
  | result (full : GatewayFullResultV1)
deriving DecidableEq

section
variable (ext : Externals) (now : Int)

def LedgerOp.perform : LedgerOp → LedgerTx LedgerReply
  | .gateway tables => do
    modify fun db => { db with gateway := tables }
    pure .done
  | .stored tables => do
    modify fun db => Tables.refreshWorkspaceStateQuota ext.blake3 { db with gateway := tables }
    pure .done
  | .resolve scope requestedTaskId suppliedPrompt =>
    .resolved <$> resolveContextTaskV1 ext now scope requestedTaskId suppliedPrompt
  | .start scope requestedTaskId supplied => .started <$> startTaskV1 ext now scope requestedTaskId supplied
  | .delete scope requestedTaskId => .flag <$> deleteTaskV1 ext scope requestedTaskId
  | .activate identity => (fun _ => .done) <$> activateContextRecipientV1 now identity
  | .retire identity => .flag <$> retireContextRecipientV1 now identity
  | .admitFact identity envelopeDigest factVersion fact verifiedSources =>
    .appended <$> admitContextFactV1 ext now identity envelopeDigest factVersion fact verifiedSources
  | .append identity envelopeDigest input => .appended <$> appendContextEventV1 ext now identity envelopeDigest input
  | .invalidate identity envelopeDigest changes =>
    .invalidated <$> invalidateContextDependenciesV1 ext now identity envelopeDigest changes
  | .acknowledge identity responseEnvelopeDigest through deliveredBytes bytesOmitted =>
    .flag <$> acknowledgeContextDeliveryV1 ext now identity responseEnvelopeDigest through deliveredBytes bytesOmitted
  | .gc identity maximumEvents => .collected <$> gcContextLedgerV1 ext identity maximumEvents
  | .acquire uuid identity workKeyDigest summary ttlMs deadlineMs =>
    .acquired <$> acquireContextLeaseV1 ext now uuid identity workKeyDigest summary ttlMs deadlineMs
  | .observe identity workKeyDigest => .observed <$> observeContextLeaseV1 now identity workKeyDigest
  | .heartbeat identity leaseId ttlMs => .extended <$> heartbeatContextLeaseV1 now identity leaseId ttlMs
  | .finish identity leaseId succeeded => (fun _ => .done) <$> finishContextLeaseV1 now identity leaseId succeeded
  | .cancel identity leaseId => (fun _ => .done) <$> cancelContextLeaseV1 now identity leaseId
  | .claim uuid identity expectedStateGeneration ttlMs deadlineMs =>
    .claimed <$> claimTaskV1 ext now uuid identity expectedStateGeneration ttlMs deadlineMs
  | .transition identity leaseId expectedStateGeneration target reason =>
    .moved <$> transitionTaskV1 ext now identity leaseId expectedStateGeneration target reason
  | .snapshot identity => .snapshot <$> contextTaskSnapshotV1 now identity
  | .delta identity after limit => .delta <$> contextDeltaAfterV1 identity after limit
  | .retrieve identity gatewayResultId blobFile =>
    .result <$> retrieveContextResultV1 ext.blake3 { now, blobFile } identity gatewayResultId

end

/-- One operation of a run, with the tables it found and left. -/
structure Call where
  now : Int
  op : LedgerOp
  before : Tables
  reply : Except LedgerError LedgerReply
  after : Tables

section
variable (ext : Externals)

/-- The call that an operation makes. -/
def callOf (now : Int) (op : LedgerOp) (db : Tables) : Call :=
  match op.perform ext now db with
  | .ok reply after => { now, op, before := db, reply := .ok reply, after }
  | .error error after => { now, op, before := db, reply := .error error, after }

/-- The runs from an empty schema: what was called, and the tables reached. -/
inductive Run : List Call → Tables → Prop
  | empty : Run [] {}
  | call {calls : List Call} {db : Tables} (h : Run calls db) (now : Int) (op : LedgerOp) :
      Run (calls ++ [callOf ext now op db]) (callOf ext now op db).after

end

end Again.Ledger
