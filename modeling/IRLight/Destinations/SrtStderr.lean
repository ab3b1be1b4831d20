import IRLight.Collections.SlidingWindow
import IRLight.Formats.Bytes

/-! # The standard error of an SRT probe

`_read_srt_stderr_event` of `destination_probe.py`: the output of the command is read in chunks, and searched for a marker
of a connection. Nobody asks the reader to stop, and reading does not fail. -/

namespace IRLight.Destinations.SrtStderr
open SlidingWindow

/-- A byte string that is written as text. -/
def ascii (text : String) : Bytes := text.toList.map fun c => c.toNat.toUInt8

/-- `SRT_CONNECTED_MARKERS`. -/
def connectedMarkers : List Bytes :=
  [ascii "SRT target connected", ascii "Target connected (caller)", ascii "Target connected (listener)"]

def readChunkBytes : ℕ := 4096
def maxBytes : ℕ := 64 * 1024

/-- The event that ends the reading. -/
inductive Event where
  | connected
  | eof
  | overflow
  deriving DecidableEq

/-- `max(len(marker) for marker in SRT_CONNECTED_MARKERS) - 1`. -/
def maxTail : ℕ := (connectedMarkers.map List.length).foldl max 0 - 1

/-- How much is asked for when so much was read: at most one byte more than what remains. -/
def readSize (total : ℕ) : ℕ := min readChunkBytes (maxBytes - total + 1)

/-- The loop, with the chunks that the reads will give. An empty chunk is the end, and so is the end of the list. -/
def readLoop (total : ℕ) (tail : Bytes) : List Bytes → Event
  | [] => .eof
  | chunk :: chunks =>
    if chunk = [] then .eof
    else if maxBytes < total + chunk.length then .overflow
    else if ∃ marker ∈ connectedMarkers, marker <:+: tail ++ chunk then .connected
    else readLoop (total + chunk.length) (if maxTail ≠ 0 then lastOf maxTail (tail ++ chunk) else []) chunks

/-- `_read_srt_stderr_event`. -/
def readSrtStderrEvent (chunks : List Bytes) : Event := readLoop 0 [] chunks

/-- The chunks are what reads may give: none is empty, and none is longer than what was asked for. What comes after the
reader has gone is not read. -/
def AsRequested (total : ℕ) : List Bytes → Prop
  | [] => True
  | chunk :: chunks => chunk ≠ [] ∧ chunk.length ≤ readSize total ∧
      (total + chunk.length ≤ maxBytes → AsRequested (total + chunk.length) chunks)

/-- The chunks that are searched: those that end within the budget. -/
def searched (total : ℕ) : List Bytes → List Bytes
  | [] => []
  | chunk :: chunks => if maxBytes < total + chunk.length then [] else chunk :: searched (total + chunk.length) chunks

/-- A marker is in the bytes. -/
def Marked (bytes : Bytes) : Prop := ∃ marker ∈ connectedMarkers, marker <:+: bytes

instance (bytes : Bytes) : Decidable (Marked bytes) := inferInstanceAs (Decidable (∃ _ ∈ _, _))

variable {bytes more tail : Bytes} {chunks : List Bytes} {total : ℕ}

theorem Marked.mono (h : Marked bytes) (hsub : bytes <:+: more) : Marked more := by
  obtain ⟨marker, hmem, hmarker⟩ := h
  exact ⟨marker, hmem, hmarker.trans hsub⟩

theorem maxTail_eq : maxTail = 26 := by
  decide

theorem length_marker {marker : Bytes} (h : marker ∈ connectedMarkers) : marker.length ≤ maxTail + 1 := by
  have hall : connectedMarkers.all (fun m => m.length ≤ 27) = true := by decide
  rw [maxTail_eq]
  exact of_decide_eq_true (List.all_eq_true.mp hall marker h)

theorem marked_window {before chunk : Bytes} (hbefore : ¬Marked before) :
    (∃ marker ∈ connectedMarkers, marker <:+: lastOf maxTail before ++ chunk) ↔ Marked (before ++ chunk) := by
  refine exists_congr fun marker => and_congr_right fun hmem => ?_
  exact infix_window (length_marker hmem) fun hmarker => hbefore ⟨marker, hmem, hmarker⟩

end IRLight.Destinations.SrtStderr
