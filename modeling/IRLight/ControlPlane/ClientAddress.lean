import IRLight.Python

/-! # The address of a client

`auth_client_address.py`: the address for which the attempts at authentication are counted, behind proxies that are
trusted by their exact addresses. -/

namespace IRLight.ClientAddress

def defaultMaxForwardedHops : ℕ := 20
def maxForwardedHeaderBytes : ℕ := 2048
def maxAddressChars : ℕ := 64

/-- The peer of the connection, where the transport exposes one, and the values of the `x-forwarded-for` header. -/
structure HttpRequest where
  client : Option String
  forwardedFor : List String

/-- `text.split(",")`. -/
def splitCommas (text : String) : List String := (text.toList.splitOn ',').map String.ofList

section
variable (ipAddress : String → Option String)

/-- `_normalized_address`. `ipAddress` gives the normal form of an address, and `none` for a `ValueError`. -/
def normalizedAddress (value : String) : Option String :=
  let candidate := strip value
  if candidate = "" || maxAddressChars < candidate.length then none else ipAddress candidate

/-- `_normalized_addresses`. -/
def normalizedAddresses (values : List String) : List String := values.filterMap (normalizedAddress ipAddress)

/-- `trusted_proxies_from_env`. -/
def trustedProxiesFromEnv (raw : String) : List String := normalizedAddresses ipAddress (splitCommas raw)

/-- `_scope_address`. -/
def scopeAddress (r : HttpRequest) : Option String := r.client.bind (normalizedAddress ipAddress)

/-- `_forwarded_for_value`. -/
def forwardedForValue (r : HttpRequest) : Option String :=
  match r.forwardedFor with
  | [value] => if maxForwardedHeaderBytes < value.utf8ByteSize then none else some value
  | _ => none

/-- The proxies that a call trusts. -/
def trustedProxies (env : String) (configured : Option (List String)) : List String :=
  match configured with
  | none => trustedProxiesFromEnv ipAddress env
  | some values => normalizedAddresses ipAddress values

/-- `client_address`. -/
def clientAddress (env : String) (configured : Option (List String)) (r : HttpRequest) : Option String := do
  let peer ← scopeAddress ipAddress r
  let trusted := trustedProxies ipAddress env configured
  if peer ∉ trusted then some peer
  else
    match forwardedForValue r with
    | none => some peer
    | some forwarded =>
      let hops := (splitCommas forwarded).map strip
      if defaultMaxForwardedHops < hops.length then some peer
      else
        let candidates := hops.map (normalizedAddress ipAddress)
        if candidates.any Option.isNone then some peer
        else some (((candidates.reverse.filterMap id).find? (· ∉ trusted)).getD peer)

end
end IRLight.ClientAddress
