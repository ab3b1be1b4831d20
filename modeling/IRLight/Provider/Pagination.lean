import IRLight.Formats.UrlJoin
import IRLight.Python
import Mathlib.Data.List.DropRight

/-! # The pages of a provider listing

`_paginated_items` of `provider_client.py`: pages are read one after another, each from the link of the one before, as
long as the link stays at the endpoint. -/

namespace IRLight.Provider

inductive ListingExc where
  | conohaError (status : ℤ) (body : String)
  | valueError
  | other (name : String)
  deriving DecidableEq

/-- What is listed, and under which keys. -/
structure Listing where
  path : List Char
  itemKey : String
  linksKey : String

/-- `list_volumes`. -/
def volumes : Listing := ⟨"/volumes/detail".toList, "volumes", "volumes_links"⟩

/-- `list_servers`. -/
def servers : Listing := ⟨"/servers/detail".toList, "servers", "servers_links"⟩

def refuse (body : String) : ListingExc := .conohaError (-1) body

/-- `value.get(key)`, of a dictionary. -/
def field (key : String) : Json → Option Json
  | .obj fields => fields.lookup key
  | _ => none

def isDict : Json → Bool
  | .obj _ => true
  | _ => false

namespace Listing
variable (l : Listing)

/-- The items of a page. -/
def pageItems (data : Json) : Except ListingExc (List Json) :=
  match isDict data, (field l.itemKey data).getD (.arr []) with
  | true, .arr items =>
    if items.all isDict then .ok items else .error (refuse s!"invalid {l.itemKey} list item")
  | _, _ => .error (refuse s!"invalid {l.itemKey} list response")

def isNext (link : Json) : Bool :=
  match field "rel" link with
  | some (.str rel) => rel = "next"
  | _ => false

/-- The link to the next page, if there is one. -/
def nextHref (data : Json) : Except ListingExc (Option (List Char)) :=
  match (field l.linksKey data).getD (.arr []) with
  | .arr links =>
    match (links.find? isNext).bind (field "href") with
    | none | some .null => .ok none
    | some (.str href) => if href = "" then .error (refuse "invalid pagination URL") else .ok (some href.toList)
    | some _ => .error (refuse "invalid pagination URL")
  | _ => .error (refuse s!"invalid {l.linksKey} response")

/-- What is read from the answer to a request. -/
def readPage (answer : Except ListingExc Json) : Except ListingExc (List Json × Option (List Char)) := do
  let data ← answer
  let items ← l.pageItems data
  let href ← l.nextHref data
  return (items, href)

end Listing

/-- A page that was requested, and the link that led to it. -/
structure Visit where
  url : List Char
  href : Option (List Char)
  deriving DecidableEq

section
variable (validNetloc : List Char → Bool) (endpoint : Url.Parts)

/-- `endpoint_parts.path.rstrip("/")`. -/
def endpointPath : List Char := endpoint.path.rdropWhile (· = '/')

/-- A URL of the endpoint's origin, at its path or below. -/
def allowed (candidate : Url.Parts) : Prop :=
  candidate.scheme.getD [] = endpoint.scheme.getD [] ∧ candidate.netloc.getD [] = endpoint.netloc.getD [] ∧
    (candidate.path = endpointPath endpoint ∨ endpointPath endpoint ++ ['/'] <+: candidate.path)

instance (candidate : Url.Parts) : Decidable (allowed endpoint candidate) := inferInstanceAs (Decidable (_ ∧ _ ∧ (_ ∨ _)))

/-- The URL of the next page. -/
def followLink (current href : List Char) : Except ListingExc (List Char) :=
  match Url.join validNetloc current href with
  | none => .error .valueError
  | some candidate =>
    match Url.split validNetloc candidate with
    | none => .error .valueError
    | some parts =>
      if allowed endpoint parts then .ok candidate else .error (refuse "cross-origin pagination URL refused")

variable (l : Listing) (answers : ℕ → Except ListingExc Json)

/-- The loop, with the number of pages that may still be read. -/
def readPages : ℕ → List Visit → Visit → List Json → Except ListingExc (List Json) × List Visit
  | 0, visits, _, _ => (.error (refuse "pagination limit exceeded"), visits)
  | pages + 1, visits, next, result =>
    if next.url ∈ visits.map Visit.url then (.error (refuse "pagination loop detected"), visits)
    else
      match l.readPage (answers visits.length) with
      | .error e => (.error e, visits ++ [next])
      | .ok (items, none) => (.ok (result ++ items), visits ++ [next])
      | .ok (items, some href) =>
        match followLink validNetloc endpoint next.url href with
        | .error e => (.error e, visits ++ [next])
        | .ok candidate => readPages pages (visits ++ [next]) ⟨candidate, some href⟩ (result ++ items)

end

/-- `_paginated_items`: what it returns or raises, and the pages it requested. The answer to each request is given. -/
def paginatedItems (validNetloc : List Char → Bool) (endpoint : List Char) (l : Listing)
    (answers : ℕ → Except ListingExc Json) : Except ListingExc (List Json) × List Visit :=
  match Url.split validNetloc endpoint with
  | none => (.error .valueError, [])
  | some parts =>
    readPages validNetloc parts l answers 1000 [] ⟨endpoint.rdropWhile (· = '/') ++ l.path, none⟩ []

end IRLight.Provider
