import IRLight.Python

/-! # Which destination URLs may be stored

`destination_url_safety.py`: an SRT URL may hold only public routing parameters, and no URL may hold credentials. -/

namespace IRLight.Destinations

/-- What `urlsplit` makes of a URL. -/
structure SplitUrl where
  scheme : String
  username : Option String
  password : Option String
  path : String
  query : String
  fragment : String
  deriving DecidableEq

/-- What the destination code calls of the standard library. `urlsplit` gives `none` for a `ValueError`, and `parseQsl`
    keeps blank values. -/
structure UrlLib where
  urlsplit : String → Option SplitUrl
  parseQsl : String → List (String × String)
  unquotePlus : String → String
  casefold : String → String
  lower : String → String

def sensitiveSrtQueryKeys : List String := ["passphrase"]
def publicSrtQueryKeys : List String := ["conntimeo", "latency", "mode", "streamid"]

/-- `ROUTING_VALUE_RE.fullmatch`. -/
def isRoutingValue (value : List Char) : Bool :=
  1 ≤ value.length && value.length ≤ 200 && value.all fun c => c.isAlphanum || c ∈ ['.', '_', '/', '-']

/-- `value.isascii() and value.isdecimal()`. -/
def isAsciiDecimal (value : String) : Bool := value ≠ "" && value.toList.all Char.isDigit

namespace UrlLib
variable (lib : UrlLib)

/-- `_decode_repeated`, with the number of rounds that are left. -/
def decodeRounds (decoded : String) : ℕ → Except String String
  | 0 => .error "SRT destination query is over-encoded"
  | rounds + 1 =>
    let next := lib.unquotePlus decoded
    if next = decoded then .ok decoded else decodeRounds next rounds

def decodeRepeated (value : String) : Except String String := lib.decodeRounds value 8

/-- The loop of `_validate_structured_streamid` and the check after it. -/
def checkFields : List (List Char) → List (String × List Char) → Except String Unit
  | [], fields =>
    if lib.casefold (String.ofList ((fields.lookup "m").getD [])) ≠ "publish" ||
        !isRoutingValue ((fields.lookup "r").getD []) then
      .error "SRT streamid has invalid public routing syntax"
    else .ok ()
  | field :: rest, fields =>
    let key := lib.casefold (strip (String.ofList (field.takeWhile (· ≠ '='))))
    let value := (strip (String.ofList ((field.dropWhile (· ≠ '=')).drop 1))).toList
    if '=' ∉ field || key = "" || (fields.lookup key).isSome then
      .error "SRT streamid has invalid public routing syntax"
    else if key ∉ ["m", "r"] then .error "authenticated SRT streamid must not be embedded in server_url"
    else checkFields rest (fields ++ [(key, value)])

def validateStructuredStreamid (value : List Char) : Except String Unit :=
  lib.checkFields ((value.drop 4).splitOn ',') []

def validateStreamid (value : String) : Except String Unit :=
  let chars := value.toList
  if "#!::".toList.isPrefixOf chars then lib.validateStructuredStreamid chars
  else if ':' ∉ chars || lib.casefold (String.ofList (chars.takeWhile (· ≠ ':'))) ≠ "publish" ||
      !isRoutingValue ((chars.dropWhile (· ≠ ':')).drop 1) then
    .error "authenticated SRT streamid must not be embedded in server_url"
  else .ok ()

def validatePublicQueryValue (key value : String) : Except String Unit :=
  if key = "streamid" then lib.validateStreamid value
  else if key = "mode" then
    if lib.casefold value ≠ "caller" then .error "SRT destination verification requires caller mode" else .ok ()
  else if key ∈ ["latency", "conntimeo"] then
    if !isAsciiDecimal value then .error s!"SRT destination {key} must be a decimal integer" else .ok ()
  else .error "SRT destination contains an unsupported query parameter"

/-- The loop over the query parameters, with the keys seen so far. -/
def checkQuery : List (String × String) → List String → Except String Unit
  | [], _ => .ok ()
  | (rawKey, rawValue) :: rest, seen => do
    let key := lib.casefold (strip (← lib.decodeRepeated rawKey))
    let value := strip (← lib.decodeRepeated rawValue)
    if key ∈ seen then .error "SRT destination must not contain duplicate query parameters"
    else if key ∈ sensitiveSrtQueryKeys then .error "SRT secrets must be configured separately from server_url"
    else if key ∉ publicSrtQueryKeys then .error "SRT destination contains an unsupported query parameter"
    else
      lib.validatePublicQueryValue key value
      checkQuery rest (key :: seen)

/-- `validate_destination_url_secret_safety`: the message of its exception, or nothing. -/
def validateDestinationUrlSecretSafety (url : String) : Except String Unit :=
  match lib.urlsplit url with
  | none => .error "destination URL is invalid"
  | some parsed =>
    if parsed.username.isSome || parsed.password.isSome then
      .error "credentials must not be embedded in destination URL"
    else if lib.casefold parsed.scheme ≠ "srt" then .ok ()
    else if parsed.path ∉ ["", "/"] then .error "SRT destination path is not supported"
    else if parsed.fragment ≠ "" then .error "SRT destination fragments are not supported"
    else lib.checkQuery (lib.parseQsl parsed.query) []

end UrlLib
end IRLight.Destinations
