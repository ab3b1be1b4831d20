import IRLight.IngestAuth.Authorize
import IRLight.Interleaving.Contract

/-! # The Node's authentication proxy

`IngestAuthProxy.authorize` as a program: it forwards a request to the Control API and works on the cache when the
answer is there. Any number of requests are under way at once, and their answers come back in any order or not at
all. -/

namespace IRLight.IngestAuth
open Interleaving

/-- The bytes of an answer, as `json.loads` reads them. -/
inductive Body where
  | json (value : Json)
  | raw (text : String)

/-- `body or b"{}"`. -/
def Body.orEmpty : Body → Body
  | raw "" => json (.obj [])
  | body => body

/-- An answer to a forwarded request. `decision` is the place of the Control API's decision behind it, if there is
    one; no code reads it. -/
structure HttpReply where
  status : ℕ
  body : Body
  retryAfter : Option String
  decision : Option ℕ

/-- How `urlopen` ends. -/
inductive Upstream where
  | response (reply : HttpReply)
  | httpError (reply : HttpReply)
  | unreachable

structure ProxyResponse where
  status : ℕ
  body : Body
  headers : List (String × String)

/-- An exception of the proxy: one of its own, or one of the HTTP client that nothing catches. -/
inductive ProxyExc where
  | exc (e : Exc)
  | httpClient

/-- What the proxy calls: the observer of the relay's readers, the Control API, and the cache. A call of the cache
    names the decision on whose account it is made. -/
inductive ProxyOp where
  | observeRelay
  | forward (payload : Payload)
  | evict (payload : Payload) (decision : Option ℕ)
  | store (payload : Payload) (upstreamValidUntil : Json) (decision : Option ℕ)
  | allowed (payload : Payload)

abbrev ProxyOp.Res : ProxyOp → Type
  | observeRelay => Option Payload
  | forward _ => Upstream
  | evict _ _ => Unit
  | store _ _ _ | allowed _ => Bool

abbrev ProxyProg := Prog ProxyOp ProxyOp.Res ProxyExc

def ask (o : ProxyOp) : ProxyProg o.Res := .op o

/-- `except RuntimeError`. -/
def onRuntimeError {α : Type} (a : α) : ProxyExc → ProxyProg α
  | .exc (.runtimeError _) => .done (.ok a)
  | e => .done (.error e)

structure ProxyConfig where
  relayMaxReaders : ℕ := 1
  relayPath : String := "output/relay"
  internalMediaSecrets : List ((String × String × String) × String)
  lib : ProxyLib

/-! ### Answers of the proxy itself -/

def jsonResponse (status : ℕ) (value : Json) (headers : List (String × String)) : ProxyResponse :=
  ⟨status, .json value, headers⟩

def detail (text : String) : Json := .obj [("detail", .str text)]

/-- The answer to a request that the cache grants. -/
def cachedGrant : ProxyResponse := jsonResponse 200 (.obj [("authorized", .bool true), ("cached", .bool true)]) []

/-- `{"Retry-After": retry_after} if retry_after else {}`. -/
def retryHeaders (retryAfter : Option String) : List (String × String) :=
  match retryAfter with
  | none | some "" => []
  | some seconds => [("Retry-After", seconds)]

def internalMediaUsername : String := "irlight-internal"

/-- `INTERNAL_MEDIA_ACTIONS`. -/
def internalMediaActions : List (String × String × String) :=
  [("rtmp", "publish", "output/relay"), ("rtsp", "read", "live/input"), ("rtsp", "read", "output/relay")]

section
variable (config : ProxyConfig)

/-- `_authorize_internal_media`. -/
def authorizeInternalMedia (payload : Payload) : Option ProxyResponse :=
  let field := config.lib.field payload
  if field "user" ≠ internalMediaUsername then none
  else
    let action := (config.lib.lower (field "protocol"), config.lib.lower (field "action"), field "path")
    if action ∉ internalMediaActions then some (jsonResponse 403 (detail "unsupported internal media action") [])
    else
      let configured := (config.internalMediaSecrets.lookup action).getD ""
      if configured = "" ∨ configured ≠ field "password" then
        some (jsonResponse 401 (detail "invalid internal media credential") [])
      else some (jsonResponse 200 (.obj [("authorized", .bool true), ("internal", .bool true)]) [])

/-- Whether the request is a read that `_relay_read_limited` bounds. -/
def isRelayRead (payload : Payload) : Bool :=
  let field := config.lib.field payload
  config.lib.lower (field "action") = "read" && config.lib.lower (field "protocol") = "rtmp" &&
    field "path" = config.relayPath

/-- The rest of `_relay_read_limited`, on an observation. An observer that raised has none. -/
def relayLimit (observation : Option Payload) : Option ProxyResponse :=
  let unavailable := jsonResponse 503 (detail "relay reader limiter unavailable") [("Retry-After", "2")]
  match observation with
  | none => some unavailable
  | some fields =>
    match fields.lookup "reason_code", fields.lookup "status", fields.lookup "reader_count" with
    | some (.str "RELAY_SOURCE_OFFLINE"), _, _ => none
    | _, some (.str "UNKNOWN"), _ => some unavailable
    | none, _, some (.int readers) | some .null, _, some (.int readers) =>
      if readers < 0 then some unavailable
      else if (config.relayMaxReaders : ℤ) ≤ readers then some (jsonResponse 403 (detail "relay reader limit reached") [])
      else none
    | _, _, _ => some unavailable

/-- `_cacheable`. -/
def cacheable (payload : Payload) : Bool := config.lib.field payload "action" = "publish"

/-- `_fallback`. -/
def fallback (payload : Payload) : ProxyProg ProxyResponse := do
  let cacheAllowed ←
    if cacheable config payload then (ask (.allowed payload)).tryExcept (onRuntimeError false) else pure false
  if cacheAllowed then return cachedGrant
  else return jsonResponse 503 (detail "ingest auth upstream unavailable") [("Retry-After", "2")]

/-- Whether the body is an object whose `authorized` is `True`, and its fields then. -/
def authorizedFields : Body → Option Payload
  | .json (.obj fields) =>
    match fields.lookup "authorized" with
    | some (.bool true) => some fields
    | _ => none
  | _ => none

/-- What `authorize` does when `urlopen` has ended. -/
def settle (payload : Payload) : Upstream → ProxyProg ProxyResponse
  | .unreachable => fallback config payload
  | .httpError reply =>
    if 400 ≤ reply.status ∧ reply.status < 500 then do
      ask (.evict payload reply.decision)
      return ⟨reply.status, reply.body.orEmpty, retryHeaders reply.retryAfter⟩
    else fallback config payload
  | .response reply =>
    if ¬(200 ≤ reply.status ∧ reply.status < 300) then do
      ask (.evict payload reply.decision)
      return ⟨reply.status, reply.body.orEmpty, []⟩
    else
      match authorizedFields reply.body with
      | none => do
        ask (.evict payload reply.decision)
        return jsonResponse 502 (detail "invalid auth upstream response") []
      | some fields => do
        let validUntil := (fields.lookup "cache_valid_until").getD (.float (.finite 0))
        if cacheable config payload then
          let _ ← (ask (.store payload validUntil reply.decision)).tryExcept (onRuntimeError false)
        return ⟨reply.status, reply.body, retryHeaders reply.retryAfter⟩

/-- `_relay_read_limited`. -/
def relayReadLimited (payload : Payload) : ProxyProg (Option ProxyResponse) := do
  if isRelayRead config payload then
    let observation ← ask .observeRelay
    return relayLimit config observation
  else return none

def authorize (payload : Payload) : ProxyProg ProxyResponse :=
  match authorizeInternalMedia config payload with
  | some response => return response
  | none => do
    match ← relayReadLimited config payload with
    | some response => return response
    | none =>
      let upstream ← ask (.forward payload)
      settle config payload upstream

end

/-! ### Runs -/

/-- A decision of the Control API. -/
structure Decided where
  payload : Payload
  authority : Authority

namespace Decided

/-- The answer to the forwarded request. -/
def answer (d : Decided) : Except ApiError Authorized := d.authority.authorizeMediamtxRequest d.payload

/-- The decision grants the request. -/
def allows (d : Decided) : Bool := d.answer.isOk

/-- The decision refuses the request for good: its answer is a 4xx. -/
def denies (d : Decided) : Bool :=
  match d.answer with
  | .error (.http status _ _) => 400 ≤ status && status < 500
  | _ => false

/-- The answer as it leaves the Control API. -/
def reply (d : Decided) (place : ℕ) : Upstream :=
  match d.answer with
  | .ok r =>
    .response ⟨200, .json (.obj r.fields), none, some place⟩
  | .error (.http status message retryAfter) =>
    .httpError ⟨status, .json (detail message), retryAfter.map toString, some place⟩
  | .error .unhandled => .httpError ⟨500, .raw "Internal Server Error", none, some place⟩

end Decided

/-- A cache entry that was written, on account of which decision and when. -/
structure Stored where
  key : Digest
  decision : Option ℕ
  time : Timestamp

/-- The cache, and what has happened so far: the Control API's decisions in their order, the keys evicted on account
    of which decision, the entries stored, and the latest clock reading. No operation reads the record. -/
structure ProxyWorld where
  cache : PositiveAuthCache
  decisions : List Decided
  evictions : List (Digest × Option ℕ)
  stores : List Stored
  latest : Timestamp

/-- What becomes of an answer on its way. -/
inductive Delivery where
  | delivered
  | lost
  | interrupted
  | replaced (status : ℕ) (body : Body) (retryAfter : Option String)

/-- What the environment supplies: whether a forwarded request reaches the Control API, what it finds there, what
    becomes of the answer, the observation of the relay, and the clock. -/
structure ProxyInput where
  reached : Bool
  authority : Authority
  delivery : Delivery
  observation : Option Payload
  clock : ℕ → PyFloat

/-- The most readings that one call takes. -/
def lastReading : ℕ := 3

/-- The latest reading of the call, which is a time. -/
def ProxyInput.latest (x : ProxyInput) (before : Timestamp) : Timestamp :=
  match requireTimestamp (x.clock lastReading) (.runtimeError "") with
  | .ok now => now
  | .error _ => before

namespace ProxyWorld

/-- An answer that an intermediary puts in the place of the Control API's is an error. -/
def forwardResult (w : ProxyWorld) (d : Decided) (x : ProxyInput) : Except ProxyExc Upstream :=
  match x.delivery, x.reached with
  | .delivered, true => .ok (d.reply w.decisions.length)
  | .delivered, false | .lost, _ => .ok .unreachable
  | .interrupted, _ => .error .httpClient
  | .replaced status body retryAfter, _ => .ok (.httpError ⟨status, body, retryAfter, none⟩)

def exec (lib : ProxyLib) : Exec ProxyOp ProxyOp.Res ProxyExc ProxyInput ProxyWorld := fun _ o x w₀ =>
  let w := { w₀ with latest := x.latest w₀.latest }
  match o with
  | .observeRelay => (.ok x.observation, w)
  | .forward payload =>
    let d : Decided := ⟨payload, { x.authority with clock := x.clock }⟩
    (w.forwardResult d x, if x.reached then { w with decisions := w.decisions ++ [d] } else w)
  | .evict payload decision =>
    let key := lib.cacheKey payload
    (.ok (), { w with cache := w.cache.evict key, evictions := (key, decision) :: w.evictions })
  | .store payload value decision =>
    let key := lib.cacheKey payload
    match w.cache.store key value x.clock, x.clock 0 with
    | .error e, _ => (.error (.exc e), w)
    | .ok (stored, cache), .finite q =>
      (.ok stored, { w with cache := cache, stores := ⟨key, decision, q.toNNRat⟩ :: w.stores })
    | .ok (stored, cache), _ => (.ok stored, { w with cache := cache })
  | .allowed payload =>
    match w.cache.allowed (lib.cacheKey payload) x.clock with
    | .error e => (.error (.exc e), w)
    | .ok (granted, cache) => (.ok granted, { w with cache := cache })

def initial (maxAgeSeconds : Timestamp) (maxEntries : ℕ) : ProxyWorld :=
  ⟨⟨maxAgeSeconds, maxEntries, .empty⟩, [], [], [], 0⟩

end ProxyWorld

end IRLight.IngestAuth
