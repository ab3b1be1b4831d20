import IRLight.Provider.Pagination
import Mathlib.Data.Bool.AllAny
import Mathlib.Data.List.Chain
import Mathlib.Data.List.Nodup

/-! # A listing stays at its endpoint

What is returned are the items of the pages that were requested, in order. The pages are different and the endpoint's,
unless a link names a page again with another fragment, or climbs out of the endpoint by dot segments behind an
authority of its own. -/

namespace IRLight.Provider

/-! ### The items -/

section
variable {validNetloc : List Char → Bool} {parts : Url.Parts} {l : Listing} {answers : ℕ → Except ListingExc Json}

variable (validNetloc parts) in
/-- A page is requested because of the link of the page before it. -/
def Follows (u v : Visit) : Prop :=
  ∃ href, v.href = some href ∧ href ≠ [] ∧ followLink validNetloc parts u.url href = .ok v.url

end
/-! ### The endpoint -/

/-- The URL of a service, which the operator configures. -/
structure Endpoint (validNetloc : List Char → Bool) where
  scheme : List Char
  netloc : List Char
  path : List Char
  http : scheme = "http".toList ∨ scheme = "https".toList
  netloc_ne : netloc ≠ []
  authority : ∀ c ∈ netloc, Url.endsNetloc c = false ∧ Url.removed c = false
  valid : validNetloc netloc = true
  plain : ∀ c ∈ path, c ≠ '?' ∧ c ≠ '#' ∧ Url.removed c = false
  rooted : path = [] ∨ path.head? = some '/'
  noDots : Url.NoDots path

namespace Endpoint
variable {validNetloc : List Char → Bool} (e : Endpoint validNetloc)

/-- The components of a URL of the endpoint's origin. -/
def located (path : List Char) : Url.Parts := ⟨some e.scheme, some e.netloc, path, none, none⟩

def text : List Char := Url.unsplit (e.located e.path)

/-- The path of the endpoint, without slashes at its end. -/
def root : List Char := e.path.rdropWhile (· = '/')

/-- A path at the endpoint's or below. -/
def Inside (path : List Char) : Prop := path = e.root ∨ e.root ++ ['/'] <+: path

instance (path : List Char) : Decidable (e.Inside path) := inferInstanceAs (Decidable (_ ∨ _))

variable {e}

theorem isScheme : Url.isScheme e.scheme = true := by
  rcases e.http with h | h <;> rw [h] <;> decide

theorem lower : e.scheme.map Char.toLower = e.scheme := by
  rcases e.http with h | h <;> rw [h] <;> decide

theorem wellFormed {path : List Char} (hplain : ∀ c ∈ path, c ≠ '?' ∧ c ≠ '#' ∧ Url.removed c = false)
    (hrooted : path = [] ∨ path.head? = some '/') : Url.WellFormed (e.located path) e.scheme e.netloc :=
  ⟨⟨hplain, fun q hq => (by cases hq), fun f hf => (by cases hf)⟩, rfl, isScheme, lower, rfl, e.authority, hrooted⟩

end Endpoint

/-! ### One page after another -/

section
variable {validNetloc : List Char → Bool} {e : Endpoint validNetloc} {u v : Visit} {base : Url.Parts}

/-- What is requested of a URL: it without its fragment. -/
def resource (url : List Char) : List Char := (Url.cut '#' url).1

/-- No link leads to a URL that differs from an earlier one in its fragment only, and none with an authority of its own
    climbs out of the endpoint. -/
structure Straight (e : Endpoint validNetloc) (visits : List Visit) : Prop where
  fragments : visits.Pairwise fun u v => resource u.url = resource v.url → u.url = v.url
  dots : ∀ v ∈ visits, ∀ href ∈ v.href, ∀ reference, Url.split validNetloc href = some reference →
    reference.netloc.getD [] ≠ [] → e.Inside (Url.normalize reference.path)

variable {visits : List Visit}

end
/-! ### The first page -/

section
variable {validNetloc : List Char → Bool} {e : Endpoint validNetloc} {l : Listing}

end
namespace ListingSample

def endpoint : Endpoint fun _ => true :=
  { scheme := "https".toList
    netloc := "compute.example".toList
    path := "/v2/tenant".toList
    http := .inr rfl
    netloc_ne := by decide
    authority := List.all_iff_forall_prop.mp (by decide)
    valid := rfl
    plain := List.all_iff_forall_prop.mp (by decide)
    rooted := by decide
    noDots := by decide }

/-- A first page with a link to the next one, and pages without a link after it. -/
def answers (href : String) : ℕ → Except ListingExc Json
  | 0 => .ok (.obj [("servers", .arr [.obj [("id", .str "server-1")]]),
      ("servers_links", .arr [.obj [("rel", .str "next"), ("href", .str href)]])])
  | _ => .ok (.obj [("servers", .arr [.obj [("id", .str "server-2")]]), ("servers_links", .arr [])])

/-- The pages that are requested when the first one has this link. -/
def visits (href : String) : List Visit := (paginatedItems (fun _ => true) endpoint.text servers (answers href)).2

def detail : String := "https://compute.example/v2/tenant/servers/detail"

end ListingSample

end IRLight.Provider
