import IRLight.Destinations.Urls

/-! # The parameters of an SRT probe

`_probe_srt` of `destination_probe.py`: the parameters of the destination URL that the command is given, with its own
mode and timeout after them. -/

namespace IRLight.Destinations

/-- The parameters that the probe sets itself. -/
def controlledKeys : List String := ["mode", "conntimeo"]

section
variable (lib : UrlLib)

/-- The mode that the URL asks for. -/
def requestedMode (query : String) : Option String :=
  ((lib.parseQsl query).find? fun p => lib.lower p.1 = "mode").map fun p => lib.lower p.2

/-- The parameters of the URL that are kept. -/
def rawTokens (query : String) : List String :=
  (queryTokens query).filter fun token => lib.lower (lib.unquotePlus (tokenName token)) ∉ controlledKeys

/-- The parameters that the command is given, with the milliseconds that remain for it. -/
def probeParameters (query : String) (remaining : ℕ) : Except String (List String) :=
  match requestedMode lib query with
  | some mode =>
    if mode ≠ "caller" then .error "SRT destination verification requires caller mode"
    else .ok (rawTokens lib query ++ ["mode=caller", s!"conntimeo={max 1 remaining}"])
  | none => .ok (rawTokens lib query ++ ["mode=caller", s!"conntimeo={max 1 remaining}"])

end
end IRLight.Destinations
