import IRLight.ControlPlane.NodeApi

/-! # The Control Plane as a system

Requests arrive in any number and order, and their programs run interleaved, call by call, with whatever
the environment supplies to each call. A request that is never scheduled again stands for a process that
crashed. -/

namespace IRLight
open Interleaving

structure Config where
  workflow : Workflow.WorkflowConfig
  reaper : Reaper.ReaperConfig
  node : NodeApi.NodeConfig

/-- What makes the Control Plane act. `workflowPrepare` and `workflowStop` are the workflow's methods called
    directly, and `prepare` and `stop` the API's routes to them. -/
inductive Request where
  | prepare (call : Api.PrepareCall)
  | reserve (sessionId userId : String) (environment : Environment) (entitlement : Api.Entitlement)
  | stop (sessionId userId : String)
  | issueCredential (sessionId userId : String) (request : Api.IssueRequest) (endpoint : Except Exc Unit)
  | addEvent (sessionId userId eventType : String) (reasonCode : Option String) (payload : Json)
  | setAudio (sessionId userId : String) (mode : AudioMode) (expectedVersion : ℕ) (idempotencyKey : Option String)
  | bootstrap (authorization : NodeApi.Authorization) (request : NodeApi.BootstrapRequest) (delivery : Except Exc Unit)
  | heartbeat (nodeId : String) (authorization : NodeApi.Authorization) (request : NodeApi.HeartbeatRequest)
  | stopNode (nodeId : String)
  | sweep
  | workflowPrepare (sessionId : String) (userId : Option String) (environment : Environment)
  | workflowStop (sessionId : String)

/-- What a request is answered. -/
inductive Response where
  | session (session : Session)
  | credential (credential : Credential)
  | audio (audio : MediaControlAudio)
  | node (node : Node)
  | desiredState (state : DesiredState)
  | sweep (result : Reaper.SweepResult)
  | done

namespace Request

def program (config : Config) : Request → Control Response
  | prepare call => .session <$> Api.prepareSession config.workflow call
  | reserve sid user env entitlement =>
    .session <$> Call.store (.reservePrepareSlot sid user env entitlement.id entitlement.maxConcurrentSessions)
  | stop sid user => .session <$> Api.stopSession sid user
  | issueCredential sid user request endpoint => .credential <$> Api.issueIngestCredential sid user request endpoint
  | addEvent sid user type reason payload => (fun () => .done) <$> Api.addSessionEvent sid user type reason payload
  | setAudio sid user mode version key => .audio <$> Api.setSessionAudio sid user mode version key
  | bootstrap authorization request delivery =>
    .node <$> NodeApi.bootstrap config.node authorization request delivery
  | heartbeat node authorization request =>
    .desiredState <$> NodeApi.heartbeat config.node node authorization request
  | stopNode node => (fun () => .done) <$> NodeApi.stopNode node
  | sweep => .sweep <$> Reaper.run config.reaper
  | workflowPrepare sid user env => .session <$> Workflow.prepare config.workflow sid user env
  | workflowStop sid => .session <$> Workflow.stop sid

/-- Whether the request comes over the API, the Node's channel or the Reaper's timer. -/
def isDeployed : Request → Bool
  | workflowPrepare _ _ _ => false
  | _ => true

end Request

/-- The Control Plane at one moment of a run. -/
abbrev Plane := Pool World Request Op Op.Res Exc Response Input

namespace Plane
variable (config : Config) (stable : Timestamp)

/-- The schedule `cond` allows may reach this moment. -/
abbrev Reaches (cond : Plane → Action Request Input → Prop) (c : Plane) : Prop :=
  Reachable World.exec (Request.program config) cond (World.initial stable) c

/-- The moment that a schedule runs to. -/
def after (schedule : List (Action Request Input)) : Plane :=
  Pool.run World.exec (Request.program config) ⟨World.initial stable, []⟩ schedule

/-- The requests of a deployed system: nobody calls the workflow's `prepare` but the API. -/
def Deployed (_ : Plane) : Action Request Input → Prop
  | .start q => q.isDeployed
  | .step _ _ => True

end Plane

/-! ### A small system

The concrete inputs that the examples of later modules run on. -/

/-- A call that meets no fault, at one clock reading. -/
def Input.quiet (t : Timestamp) : Input := { clock := fun _ => .finite t, fault := none, late := false }

/-- Task `i` makes its next `n` calls at one clock reading. -/
def quietSteps (i n t : ℕ) : List (Action Request Input) := List.replicate n (.step i (.quiet t))

namespace Sample

def config : Config :=
  { workflow := .default
    reaper := .default
    node :=
      { requireSessionAssignment := true, absoluteDeadlineHours := (12 : ℕ), configuredTokenDigests := ["b"]
        mediaHealthFailureGraceSeconds := 60 } }

def sid : String := "11111111-1111-4111-8111-111111111111"
def user : String := "a"

def call (environment : Environment) : Api.PrepareCall :=
  { sessionId := sid
    userId := user
    request := { environment := environment, destinationId := none, egressMode := .directPush }
    idempotencyKey := some "k"
    destination := .ok none
    entitlement := .ok { id := "e", maxConcurrentSessions := 1 } }

def issue : Request :=
  .issueCredential sid user { protocols := [.rtmp], ttlSeconds := 3600, scope := .ingest } (.ok ())

/-- The Node on the server that task 0's prepare creates. -/
def bootstrap : Request :=
  .bootstrap (.bearer "b")
    { providerServerId := "0-12", bootId := "boot", bootstrapRequestId := "1", nodeAccessTokenSha256 := "t" } (.ok ())

/-- A second bootstrap token is configured. -/
def twoTokens : Config :=
  { config with node := { config.node with configuredTokenDigests := ["b", "b2"] } }

/-- A bootstrap with a boot of its own on some server. -/
def bootstrapOn (server boot token : String) : Request :=
  .bootstrap (.bearer token)
    { providerServerId := server, bootId := boot, bootstrapRequestId := boot, nodeAccessTokenSha256 := boot } (.ok ())

/-- The Node's heartbeat once its media stack runs. -/
def ready : Request :=
  .heartbeat "node-0001" (.bearer "t")
    { status := .ready, mediaHealth := "running", ingest := none, egress := none, relayClient := none }

/-- A production Session becomes ready by its Node's heartbeat alone. -/
def readyAfter : List (Action Request Input) :=
  [.start (.prepare (call .prod)), .start bootstrap, .start ready] ++
    quietSteps 0 15 1 ++ quietSteps 1 6 2 ++ quietSteps 2 5 3

end Sample
end IRLight
