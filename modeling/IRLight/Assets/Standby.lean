import IRLight.Assets.Processing

/-! # The standby image on the Node

`continuity/standby_asset.py` copies a file, reads the header of an image in its first bytes, and selects the file or
another one. -/

namespace IRLight.Assets
open Bytes

def maxImageHeaderBytes : ℕ := 1024 * 1024

namespace Standby

/-- `_png_dimensions`. -/
def pngDimensions : Bytes → Option (ℕ × ℕ) := Assets.pngDimensions fun fields => crc32 fields (crc32 ihdr 0)

/-- `_supported_image_dimensions`. -/
def supportedImageDimensions (payload : Bytes) (fileSize : ℕ) : Option (ℕ × ℕ) :=
  dimensionsBySignature pngDimensions payload fileSize

/-- `_dimensions_are_safe`. -/
def dimensionsAreSafe (dimensions : ℕ × ℕ) : Bool :=
  let (width, height) := dimensions
  if width ≤ 0 || height ≤ 0 then false
  else if maxImageDimension < width || maxImageDimension < height then false
  else width ≤ maxImagePixels / height

/-- A regular file that does not change while it is copied, in the pieces in which it is read. -/
structure StableFile where
  chunks : List Bytes
  chunks_ne : ∀ chunk ∈ chunks, chunk ≠ []

def StableFile.bytes (file : StableFile) : Bytes := file.chunks.flatten

/-- The first bytes that the copying loop keeps. -/
def keepPrefix : List Bytes → ℕ → Bytes
  | [], _ => []
  | chunk :: chunks, remaining =>
    if 0 < remaining then
      let kept := chunk.take remaining
      kept ++ keepPrefix chunks (remaining - kept.length)
    else keepPrefix chunks remaining

/-- `_snapshot_regular_file_prefix`: the first bytes of the file, and its size. -/
def snapshotRegularFilePrefix (file : StableFile) : Option (Bytes × ℕ) :=
  let size := file.bytes.length
  if size ≤ 0 ∨ maxImageBytes < size then none
  else some (keepPrefix file.chunks (min size maxImageHeaderBytes), size)

/-- `_open_supported_image`: the dimensions with which the file is accepted. -/
def openSupportedImage (file : StableFile) : Option (ℕ × ℕ) := do
  let (header, fileSize) ← snapshotRegularFilePrefix file
  let dimensions ← supportedImageDimensions header fileSize
  if dimensionsAreSafe dimensions then some dimensions else none

inductive Source where
  | custom
  | nodeDefault
  | syntheticBlack
  deriving DecidableEq

structure Selection where
  source : Source
  fallbackReason : Option String
  customConfigured : Bool
  deriving DecidableEq

/-- The file at a path, where one is configured and it is a regular file. -/
structure Candidate where
  configured : Bool
  file : Option StableFile

/-- Whether a candidate can be selected. -/
def Candidate.opens (c : Candidate) : Bool := c.configured && (c.file.bind openSupportedImage).isSome

/-- `resolve_standby_asset`. -/
def resolveStandbyAsset (custom fallback : Candidate) : Selection :=
  if custom.opens then ⟨.custom, none, custom.configured⟩
  else if fallback.opens then
    ⟨.nodeDefault, if custom.configured then some "ASSET_UNAVAILABLE" else none, custom.configured⟩
  else
    ⟨.syntheticBlack,
      some (if custom.configured then "ASSET_AND_NODE_DEFAULT_UNAVAILABLE" else "NODE_DEFAULT_UNAVAILABLE"),
      custom.configured⟩

end Standby
end IRLight.Assets
