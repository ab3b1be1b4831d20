import IRLight.ControlPlane.Reaper

/-! # The user-facing API

The handlers of the Session and ingest credential routes. What a handler asks of code outside the
authorities (the destination, the entitlement, the ingest endpoint) comes with the request. -/

namespace IRLight
open Interleaving Status Call

namespace Api

def sessionStateUnavailable : Exc := .httpException 503 (.code "SESSION_STATE_UNAVAILABLE")
def unknownSession : Exc := .httpException 404 (.text "unknown session")

/-- The answer to an exception of the store: 404, 503 or 409, and the exception itself otherwise. -/
def storeError : Exc → Exc
  | .keyError _ => unknownSession
  | .sessionStateError _ => sessionStateUnavailable
  | e => if e.isRuntimeError then .httpException 409 (.text e.str) else e

/-- The answer to an exception of `workflow.prepare`. -/
def prepareError : Exc → Exc
  | .sessionStateError _ => sessionStateUnavailable
  | e =>
    if e.isRuntimeError then .httpException 409 (.text e.str)
    else .httpException 500 (.text s!"provisioning failed: {e.str}")

/-- The answer to an exception of `workflow.stop`. -/
def stopError : Exc → Exc
  | .keyError _ => unknownSession
  | .sessionStateError _ => sessionStateUnavailable
  | e => .httpException 409 (.text e.str)

/-- `try: p except Exception as exc: raise answer(exc)`. -/
def answering {α : Type} (p : Control α) (answer : Exc → Exc) : Control α := p.tryExcept fun exc => throw (answer exc)

/-- `_owned_session`. -/
def ownedSession (sessionId userId : String) : Control Session := do
  let session ← (get sessionId).tryExcept fun exc =>
    if let .sessionStateError _ := exc then throw sessionStateUnavailable else throw exc
  match session with
  | some session => if session.userId = userId then return session else throw unknownSession
  | none => throw unknownSession

structure Entitlement where
  id : String
  maxConcurrentSessions : ℤ

/-- A prepare request, with what the destination check and the entitlement store answer it. -/
structure PrepareCall where
  sessionId : String
  userId : String
  request : PrepareRequest
  idempotencyKey : Option String
  destination : Except Exc (Option String)
  entitlement : Except Exc Entitlement

/-- The rest of `prepare_session` once the request is bound. -/
def runPrepare (config : Workflow.WorkflowConfig) (call : PrepareCall) : Control Session :=
  answering (Workflow.prepare config call.sessionId (some call.userId) call.request.environment) prepareError

/-- `prepare_session`. -/
def prepareSession (config : Workflow.WorkflowConfig) (call : PrepareCall) : Control Session := do
  let key ← (match call.idempotencyKey with
    | some "" | none => Uuid.str <$> uuid
    | some key => pure key)
  ofExcept (raiseIf (200 < key.length) (.httpException 400 (.text "Idempotency-Key is too long")))
  match ← answering (store (.getPrepareReplay call.sessionId call.userId call.request key)) storeError with
  | some prepared => if prepared.status ≠ stopped then return prepared else runPrepare config call
  | none =>
    match call.destination, call.entitlement with
    | .error e, _ => throw e
    | .ok _, .error e => throw e
    | .ok destinationId, .ok entitlement =>
      let (prepared, replay) ← answering
        (store (.beginPrepare call.sessionId call.userId { call.request with destinationId := destinationId }
          entitlement.id entitlement.maxConcurrentSessions key))
        fun e => if e.isRuntimeError || e matches .keyError _ then storeError e else prepareError e
      if replay && prepared.status ≠ stopped then return prepared
      runPrepare config call

/-- `stop_session`. -/
def stopSession (sessionId userId : String) : Control Session := do
  let _ ← ownedSession sessionId userId
  answering (Workflow.stop sessionId) stopError

/-- `add_session_event`, for an event type and payload that passed the event policy. -/
def addSessionEvent (sessionId userId eventType : String) (reasonCode : Option String) (payload : Json) :
    Control Unit := do
  let _ ← ownedSession sessionId userId
  answering (appendEvent sessionId eventType reasonCode payload "user-api" none) fun
    | .keyError _ => unknownSession
    | .sessionStateError _ => sessionStateUnavailable
    | e => e

/-- `set_session_audio`. -/
def setSessionAudio (sessionId userId : String) (mode : AudioMode) (expectedVersion : ℕ)
    (idempotencyKey : Option String) : Control MediaControlAudio := do
  let _ ← ownedSession sessionId userId
  match idempotencyKey with
  | some "" | none => throw (.httpException 400 (.text "Idempotency-Key header is required"))
  | some key =>
    answering (store (.setAudioDesired sessionId mode expectedVersion key userId)) fun
      | .keyError _ => unknownSession
      | .mediaControlNotRunning _ => .httpException 409 (.code "SESSION_NOT_RUNNING")
      | .mediaControlIdempotencyConflict _ => .httpException 409 (.code "IDEMPOTENCY_CONFLICT")
      | .mediaControlVersionConflict _ _ => .httpException 409 (.code "VERSION_CONFLICT")
      | .valueError m => .httpException 422 (.text m)
      | .sessionStateError _ => sessionStateUnavailable
      | e => e

/-! ### Ingest credentials -/

def acceptingIngestStates : List Status := [readyWaitIngest, live, degraded, holding]

structure IssueRequest where
  protocols : List Protocol
  ttlSeconds : ℕ
  scope : CredentialScope

/-- `_validated_ingest_clock`. -/
def validatedIngestClock (reading : PyFloat) : Except Exc Timestamp :=
  requireTimestamp reading (.httpException 503 (.text "ingest authority clock unavailable"))

/-- The checks of `issue_ingest_credential` on the Session it read. -/
def checkIssue (session : Session) (request : IssueRequest) (endpoint : Except Exc Unit) : Except Exc Unit := do
  raiseIf (session.status ∉ acceptingIngestStates) (.httpException 409 (.text "session is not ready to accept ingest"))
  raiseIf (request.scope = .relayClient ∧ request.protocols ≠ [.rtmp])
    (.httpException 409 (.text "RELAY_CLIENT supports only rtmp"))
  raiseIf (request.scope = .relayClient ∧ session.egressMode ≠ .relayOnly)
    (.httpException 409 (.text "relay client credentials require RELAY_ONLY mode"))
  endpoint

/-- The lifetime of the new credential: never past the Session's deadline. -/
def issueTtl (session : Session) (request : IssueRequest) (current : Timestamp) : Except Exc ℚ :=
  match session.absoluteDeadlineAt with
  | none => .ok request.ttlSeconds
  | some deadline =>
    if (deadline : ℚ) - current ≤ 0 then .error (.httpException 409 (.text "session deadline has expired"))
    else .ok (min (request.ttlSeconds : ℚ) (deadline - current))

/-- `issue_ingest_credential`. `endpoint` is what resolving the ingest endpoint gives. -/
def issueIngestCredential (sessionId userId : String) (request : IssueRequest) (endpoint : Except Exc Unit) :
    Control Credential := do
  let some session ← get sessionId | throw unknownSession
  ofExcept (raiseIf (session.userId ≠ userId) unknownSession)
  ofExcept (checkIssue session request endpoint)
  let current ← ofExcept (validatedIngestClock (← time))
  let ttl ← ofExcept (issueTtl session request current)
  call (.issue sessionId userId request.scope request.protocols ttl current)

end Api
end IRLight
