import IRLight.Formats.Bytes

/-! # The limit on the body of a user event

`UserEventBodyLimitMiddleware` of `session_event_policy.py`: it reads the body of a user's event before the application
does, and refuses one that is too large. -/

namespace IRLight

/-! ### Numbers in headers -/

/-- `int(text)` takes no more digits than this. -/
def maxStrDigits : ℕ := 4300

/-- White space in bytes. -/
def isAsciiSpace (b : UInt8) : Bool := b = 0x20 || (0x09 ≤ b && b ≤ 0x0D)

/-- `value.strip()`. -/
def stripBytes (value : Bytes) : Bytes := ((value.dropWhile isAsciiSpace).reverse.dropWhile isAsciiSpace).reverse

def asciiDigit (b : UInt8) : Option ℕ := if 0x30 ≤ b && b ≤ 0x39 then some (b.toNat - 0x30) else none

/-- Decimal digits, with single underscores between them. -/
def decimalDigits : Bytes → Option (List ℕ)
  | [] => none
  | [b] => (asciiDigit b).map fun d => [d]
  | b :: 0x5F :: rest => do return (← asciiDigit b) :: (← decimalDigits rest)
  | b :: rest => do return (← asciiDigit b) :: (← decimalDigits rest)

def decimalValue (digits : List ℕ) : ℕ := digits.foldl (fun n d => 10 * n + d) 0

/-- Digits that are not too many. -/
def naturalOfBytes (text : Bytes) : Option ℕ := do
  let digits ← decimalDigits text
  if maxStrDigits < digits.length then none else some (decimalValue digits)

/-- `int(text.strip())`, where it raises no exception. -/
def intOfBytes (text : Bytes) : Option ℤ :=
  match stripBytes text with
  | 0x2B :: rest => (naturalOfBytes rest).map fun n => (n : ℤ)
  | 0x2D :: rest => (naturalOfBytes rest).map fun n => -(n : ℤ)
  | text => (naturalOfBytes text).map fun n => (n : ℤ)

/-- `name.lower()`. -/
def lowerBytes (name : Bytes) : Bytes := name.map fun b => if 0x41 ≤ b && b ≤ 0x5A then b + 0x20 else b

namespace BodyLimit

/-! ### Messages -/

/-- The `body` of a message. -/
inductive Body where
  | absent
  | bytes (chunk : Bytes)
  | other

/-- `message.get("body", b"")`, if it is bytes. -/
def Body.chunk? : Body → Option Bytes
  | absent => some []
  | bytes chunk => some chunk
  | other => none

/-- A message that the server hands to the application. -/
inductive Message where
  | request (body : Body) (moreBody : Bool)
  | disconnect
  | other

structure Scope where
  type : String
  method : String
  path : String
  headers : List (Bytes × Bytes)

/-- `_is_user_event_post`. -/
def isUserEventPost (upper : String → String) (scope : Scope) : Bool :=
  if scope.type ≠ "http" || upper scope.method ≠ "POST" then false
  else
    let path := scope.path.toList
    let path := if path.getLast? = some '/' && path ≠ ['/'] then path.dropLast else path
    match path.splitOn '/' with
    | [first, version, collection, sessionId, action] =>
      first = [] && version = "v1".toList && collection = "sessions".toList && sessionId ≠ [] && action = "events".toList
    | _ => false

/-- `b"content-length"`. -/
def contentLength : Bytes := "content-length".toList.map fun c => c.toNat.toUInt8

/-- `_declared_body_exceeds_limit`. -/
def declaredBodyExceedsLimit (scope : Scope) (limit : ℕ) : Bool :=
  scope.headers.any fun header => lowerBytes header.1 = contentLength && (intOfBytes header.2).any fun n => (limit : ℤ) < n

/-- An HTTP response. -/
structure Response where
  status : ℕ
  headers : List (String × String)
  body : String
  deriving DecidableEq

/-- `_send_request_too_large`. -/
def requestTooLarge : Response :=
  { status := 413
    headers := [("content-type", "application/json"), ("content-length", "50")]
    body := "\x7b\"detail\":\x7b\"code\":\"USER_EVENT_REQUEST_TOO_LARGE\"\x7d\x7d" }

/-! ### The middleware -/

/-- How the loop that reads the body goes: it may wait for more messages. -/
inductive Reading where
  | waiting
  | tooLarge
  | over (buffered : Bytes) (disconnected : Bool) (rest : List Message)

/-- The loop over the messages, with the bytes so far. -/
def readBody (limit : ℕ) (buffered : Bytes) : List Message → Reading
  | [] => .waiting
  | .disconnect :: rest => .over buffered true rest
  | .other :: rest => readBody limit buffered rest
  | .request body moreBody :: rest =>
    match body.chunk? with
    | none => .tooLarge
    | some chunk =>
      if limit - buffered.length < chunk.length then .tooLarge
      else if moreBody then readBody limit (buffered ++ chunk) rest
      else .over (buffered ++ chunk) false rest

/-- What a request comes to. The application receives one message after another. -/
inductive Outcome where
  | waiting
  | refused (response : Response)
  | called (received : List Message)

structure UserEventBodyLimitMiddleware where
  maxRequestBytes : ℕ
  maxRequestBytes_pos : 0 < maxRequestBytes

/-- The messages that `buffered_receive` gives. -/
def bufferedReceive (buffered : Bytes) (disconnected : Bool) (rest : List Message) : List Message :=
  .request (.bytes buffered) disconnected :: (if disconnected then .disconnect :: rest else rest)

/-- `__call__`, with the messages of the server. -/
def UserEventBodyLimitMiddleware.call (upper : String → String) (m : UserEventBodyLimitMiddleware) (scope : Scope)
    (messages : List Message) : Outcome :=
  if !isUserEventPost upper scope then .called messages
  else if declaredBodyExceedsLimit scope m.maxRequestBytes then .refused requestTooLarge
  else
    match readBody m.maxRequestBytes [] messages with
    | .waiting => .waiting
    | .tooLarge => .refused requestTooLarge
    | .over buffered disconnected rest => .called (bufferedReceive buffered disconnected rest)

end BodyLimit
end IRLight
