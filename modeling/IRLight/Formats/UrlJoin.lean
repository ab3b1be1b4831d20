import IRLight.Formats.Url

/-! # Relative references

A reference is resolved against a base URL. Dot segments are taken out of a path that is resolved, but not out of one
that comes with an authority of its own. -/

namespace Url

/-! ### Dot segments -/

def isDot (segment : List Char) : Bool := segment = ['.'] || segment = ['.', '.']

/-- The segments that are left: one dot is dropped, and two dots drop the segment before them. -/
def dropDots (kept : List (List Char)) : List (List Char) → List (List Char)
  | [] => kept
  | segment :: segments =>
    if segment = ['.', '.'] then dropDots kept.dropLast segments
    else if segment = ['.'] then dropDots kept segments
    else dropDots (kept ++ [segment]) segments

/-- The segments without dots. A dot segment at the end leaves a slash there. -/
def undotted (segments : List (List Char)) : List (List Char) :=
  dropDots [] segments ++ if segments.getLast?.any isDot then [[]] else []

/-- A path without its dot segments. -/
def normalize (path : List Char) : List Char :=
  match path.splitOn '/' with
  | [] => []
  | first :: segments => ['/'].intercalate (first :: undotted segments)

/-! ### Joining -/

def usesRelative : List (List Char) :=
  ["", "ftp", "http", "gopher", "nntp", "imap", "wais", "file", "https", "shttp", "mms", "prospero", "rtsp", "rtsps",
    "rtspu", "sftp", "svn", "svn+ssh", "ws", "wss"].map String.toList

def usesNetloc : List (List Char) :=
  ["", "ftp", "http", "gopher", "nntp", "telnet", "imap", "wais", "file", "mms", "https", "shttp", "snews", "prospero",
    "rtsp", "rtsps", "rtspu", "rsync", "svn", "svn+ssh", "sftp", "nfs", "git", "git+ssh", "ws", "wss"].map String.toList

/-- The segments without the empty ones between the first and the last. -/
def innerNonempty : List (List Char) → List (List Char)
  | [] => []
  | first :: segments => first :: (segments.dropLast.filter (· ≠ []) ++ segments.getLast?.toList)

/-- The segments of a path that is relative to another. -/
def segments (basePath path : List Char) : List (List Char) :=
  let baseSegments := basePath.splitOn '/'
  let directory := if baseSegments.getLast? = some [] then baseSegments else baseSegments.dropLast
  if path.head? = some '/' then path.splitOn '/' else innerNonempty (directory ++ path.splitOn '/')

def resolve (basePath path : List Char) : List Char :=
  let resolved := ['/'].intercalate (undotted (segments basePath path))
  if resolved = [] then ['/'] else resolved

/-- The components of a reference that has been resolved, unless it is kept as it is. -/
def joinParts (base reference : Parts) : Option Parts :=
  let scheme := reference.scheme.or base.scheme
  if scheme ≠ base.scheme ∨ scheme.any (· ∉ usesRelative) then none
  else if scheme.all (· ∈ usesNetloc) ∧ reference.netloc.getD [] ≠ [] then some { reference with scheme := scheme }
  else
    let netloc := if scheme.all (· ∈ usesNetloc) then base.netloc else reference.netloc
    if reference.path = [] then
      let query := reference.query.or base.query
      let fragment := if reference.query.isNone then reference.fragment.or base.fragment else reference.fragment
      some ⟨scheme, netloc, base.path, query, fragment⟩
    else some ⟨scheme, netloc, resolve base.path reference.path, reference.query, reference.fragment⟩

/-- `urljoin`. -/
def join (validNetloc : List Char → Bool) (base reference : List Char) : Option (List Char) :=
  if base = [] then some reference
  else if reference = [] then some base
  else
    match split validNetloc base, split validNetloc reference with
    | some b, some r =>
      match joinParts b r with
      | some p => some (unsplit p)
      | none => some reference
    | _, _ => none

/-! ### Segments -/

section
variable {path basePath s : List Char} {segments kept : List (List Char)} {c : Char}

/-- A path with no dot segment after its first slash. -/
def NoDots (path : List Char) : Prop := ∀ s ∈ (path.splitOn '/').tail, isDot s = false

instance : Decidable (NoDots path) := inferInstanceAs (Decidable (∀ _ ∈ _, _))

end

/-! ### Joining a reference to a well-formed URL -/

section
variable {base reference p : Parts} {scheme netloc : List Char} {validNetloc : List Char → Bool}

end
end Url
