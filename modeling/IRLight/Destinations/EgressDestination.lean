import IRLight.Destinations.Catalog
import IRLight.Formats.Percent
import IRLight.Formats.Url
import Mathlib.Data.List.DropRight

/-! # The publish URL of a destination

`egress_destination.py`: the stream key goes into the placeholders of the server URL, or is appended to its path. -/

namespace IRLight.Destinations

inductive EgressUrlExc where
  | egressDestinationError (message : String)
  | valueError
  deriving DecidableEq

def streamKeyPlaceholder : List Char := "\x7bstream_key\x7d".toList

/-- `path.rstrip("/")`. -/
def rstripSlashes (path : List Char) : List Char := path.rdropWhile (· = '/')

/-- A component, unless it is empty. -/
def nonempty (text : List Char) : Option (List Char) := if text = [] then none else some text

/-- The components of the URL with the encoded key as another segment of its path. -/
def appendKey (parsed : Url.Parts) (encoded : List Char) : Url.Parts :=
  { parsed with
    path := rstripSlashes parsed.path ++ '/' :: encoded
    query := parsed.query.bind nonempty
    fragment := none }

/-- What `build_egress_url` refuses of a URL. -/
def checkServerUrl (destinationType : String) (parsed : Url.Parts) : Except EgressUrlExc Unit :=
  let scheme := String.ofList (parsed.scheme.getD [])
  let netloc := parsed.netloc.getD []
  if scheme ∉ ["rtmp", "rtmps"] ∨ Url.hostname netloc = none then
    .error (.egressDestinationError "destination server URL is invalid")
  else if scheme ≠ destinationType then
    .error (.egressDestinationError "destination type does not match server URL scheme")
  else if Url.username netloc ≠ none ∨ Url.password netloc ≠ none then
    .error (.egressDestinationError "destination URL must not contain credentials")
  else if parsed.fragment.getD [] ≠ [] then
    .error (.egressDestinationError "destination URL must not contain a fragment")
  else .ok ()

section
variable (lower : String → String) (validNetloc : List Char → Bool)

/-- `build_egress_url`. -/
def buildEgressUrl (destination : Destination) (streamKey : String) : Except EgressUrlExc String :=
  let destinationType := lower destination.type
  let serverUrl := (strip destination.serverUrl).toList
  if streamKey = "" then .error (.egressDestinationError "destination secret is empty")
  else if destinationType ∉ ["rtmp", "rtmps"] then
    .error (.egressDestinationError "egress protocol is not supported yet")
  else
    match Url.split validNetloc serverUrl with
    | none => .error .valueError
    | some parsed => do
      checkServerUrl destinationType parsed
      let encoded := Percent.quote streamKey.toList
      if streamKeyPlaceholder <:+: serverUrl then
        return String.ofList (Template.replace streamKeyPlaceholder encoded serverUrl)
      else return String.ofList (Url.unsplit (appendKey parsed encoded))

end
end IRLight.Destinations
