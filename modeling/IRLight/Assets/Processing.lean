import IRLight.Assets.ImageHeader
import IRLight.IngestAuth.Guard

/-! # Image processing in the Control API

`asset_processing.py`: what is known of an uploaded standby image before it is ready. -/

namespace IRLight.Assets
open Bytes

def maxImageBytes : ℕ := 32 * 1024 * 1024
def maxImagePixels : ℕ := 16 * 1024 * 1024
def maxImageDimension : ℕ := 16384

namespace Processing

/-- `_png_dimensions`. -/
def pngDimensions : Bytes → Option (ℕ × ℕ) := Assets.pngDimensions fun fields => crc32 (ihdr ++ fields) 0

/-- `image_dimensions`. -/
def imageDimensions (payload : Bytes) : Option (ℕ × ℕ) :=
  if maxImageBytes < payload.length then none
  else dimensionsBySignature pngDimensions payload payload.length

/-- An object that may be the bytes of an image. -/
inductive Payload where
  | bytes (data : Bytes)
  | other

/-- `AssetProcessingError`. -/
inductive Error where
  | assetProcessing (message : String)
  deriving DecidableEq

structure ImageRecord where
  contentType : String
  width : ℕ
  height : ℕ
  sizeBytes : ℕ
  sha256 : Digest

/-- The content type that the first bytes stand for. -/
def contentTypeOf (data : Bytes) : Option String :=
  if startsWith data pngSignature then some "image/png"
  else if startsWith data jpegSignature then some "image/jpeg"
  else if slice data 0 4 = riff ∧ slice data 8 12 = webp then some "image/webp"
  else none

/-- `normalize_image_blob`. -/
def normalizeImageBlob (sha256 : Bytes → Digest) : Payload → Except Error ImageRecord
  | .other => .error (.assetProcessing "image payload must be bytes")
  | .bytes data =>
    if data = [] ∨ maxImageBytes < data.length then .error (.assetProcessing "image size is outside the allowed range")
    else
      match contentTypeOf data with
      | none => .error (.assetProcessing "unsupported standby asset content type")
      | some contentType =>
        match imageDimensions data with
        | none => .error (.assetProcessing "could not determine image dimensions")
        | some (width, height) =>
          if width ≤ 0 ∨ height ≤ 0 then .error (.assetProcessing "image dimensions must be positive")
          else if maxImageDimension < width ∨ maxImageDimension < height then
            .error (.assetProcessing "image dimension exceeds the allowed limit")
          else if maxImagePixels / height < width then
            .error (.assetProcessing "image pixel count exceeds the allowed limit")
          else
            .ok { contentType := contentType, width := width, height := height, sizeBytes := data.length
                  sha256 := sha256 data }

end Processing
end IRLight.Assets
