import IRLight.Destinations.UrlSafety
import IRLight.Formats.Percent
import IRLight.Formats.Url

/-! # The URL functions that the destination code calls

`urlsplit`, `parse_qsl` and `unquote_plus` as the library of the destination code. Case folding stays a parameter, and
so does the check of an authority, which normalises Unicode. -/

namespace IRLight.Destinations

/-- A component, empty where it is absent. -/
def component (text : Option (List Char)) : String := String.ofList (text.getD [])

def SplitUrl.ofParts (p : Url.Parts) : SplitUrl :=
  { scheme := component p.scheme
    username := (p.netloc.bind Url.username).map String.ofList
    password := (p.netloc.bind Url.password).map String.ofList
    path := String.ofList p.path
    query := component p.query
    fragment := component p.fragment }

def unquotePlus (text : String) : String := String.ofList (Percent.unquotePlus text.toList)

/-- The parameters of a query, as they are written. -/
def queryTokens (query : String) : List String := ((query.toList.splitOn '&').filter (· ≠ [])).map String.ofList

def tokenName (token : String) : String := String.ofList (token.toList.takeWhile (· ≠ '='))
def tokenValue (token : String) : String := String.ofList ((token.toList.dropWhile (· ≠ '=')).drop 1)

/-- `parse_qsl(query, keep_blank_values=True)`. -/
def parseQsl (query : String) : List (String × String) :=
  (queryTokens query).map fun token => (unquotePlus (tokenName token), unquotePlus (tokenValue token))

/-- `urllib.parse`, with `str.casefold` and `str.lower`. -/
def urllib (validNetloc : List Char → Bool) (casefold lower : String → String) : UrlLib :=
  { urlsplit := fun url => (Url.split validNetloc url.toList).map SplitUrl.ofParts
    parseQsl := parseQsl
    unquotePlus := unquotePlus
    casefold := casefold
    lower := lower }

end IRLight.Destinations
