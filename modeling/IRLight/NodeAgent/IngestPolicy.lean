import IRLight.Egress.Gateway
import Mathlib.Data.Rat.Floor

/-! # The ingest policy of the Node agent

`ingest_policy.py`: on each heartbeat the agent looks at the publisher's tracks and at the bytes it has sent so far, and
reports whether the policy allows them. -/

namespace IRLight.NodeAgent

/-- What an observation raises. -/
inductive InspectError where
  | observationClock
  | mediaMtx (message : String)
  | overflow
  deriving DecidableEq

/-- The conversions whose results depend on texts: `str` of a value that is no text, and `int` of a text. -/
structure Conversions where
  repr : Json → String
  int : String → Option ℤ

/-- `str(value)`. -/
def Conversions.str (conv : Conversions) (value : Json) : String := Egress.text conv.repr value

structure IngestPolicyConfig where
  path : String
  maxBitrateBps : ℤ
  bitrateViolationSamples : ℕ
  one_le_samples : 1 ≤ bitrateViolationSamples

def IngestPolicyConfig.shipped : IngestPolicyConfig := ⟨"live/input", 6000000, 2, by decide⟩

/-- `_safe_int`. An infinite float is not caught. -/
def safeInt (conv : Conversions) : Option Json → Except InspectError (Option ℤ)
  | some (.int n) => .ok (some n)
  | some (.bool b) => .ok (some b.toInt)
  | some (.float (.finite q)) => .ok (some (q.num.tdiv q.den))
  | some (.float (.infinity _)) => .error .overflow
  | some (.str text) => .ok (conv.int text)
  | _ => .ok none

/-! ### Tracks -/

def videoCodecs : List String :=
  ["AV1", "VP9", "VP8", "H265", "H264", "MPEG-4 Video", "MPEG-1/2 Video", "M-JPEG"]

def audioCodecs : List String :=
  ["Opus", "FLAC", "Vorbis", "MPEG-4 Audio", "MPEG-4 Audio LATM", "MPEG-1/2 Audio", "AC3", "Speex", "G726", "G722", "G711",
    "LPCM"]

def allowedResolutions : List (ℤ × ℤ) := [(1280, 720), (1920, 1080)]

structure Track where
  codec : String
  props : List (String × Json)

/-- The properties of a track that are kept. -/
def trackKeys : List String := ["width", "height", "profile", "level", "sampleRate", "channelCount"]

/-- `_normalise_tracks`. -/
def normaliseTracks (conv : Conversions) (tracks : List Json) : List Track :=
  (tracks.take 8).filterMap fun
    | .obj item =>
      let props :=
        match item.lookup "codecProps" with
        | some (.obj props) => props
        | _ => []
      some ⟨conv.str ((item.lookup "codec").getD (.str "")),
        trackKeys.filterMap fun key => (props.lookup key).map fun value => (key, value)⟩
    | _ => none

/-- `_track_metadata_may_be_incomplete`. -/
def trackMetadataMayBeIncomplete (tracks : List Track) : Bool :=
  let codecs := tracks.map Track.codec
  if tracks.isEmpty then true
  else if codecs.any fun codec => codec ∉ ["H264", "MPEG-4 Audio"] then false
  else if 1 < codecs.count "H264" || 1 < codecs.count "MPEG-4 Audio" then false
  else codecs.count "H264" ≠ 1 || codecs.count "MPEG-4 Audio" ≠ 1

/-- The reasons and the warnings for the video tracks. -/
def evaluateVideo (conv : Conversions) : List Track → Except InspectError (List String × List String)
  | [video] =>
    if video.codec ≠ "H264" then .ok (["VIDEO_CODEC_UNSUPPORTED"], [])
    else do
      let width ← safeInt conv (video.props.lookup "width")
      let height ← safeInt conv (video.props.lookup "height")
      match width, height with
      | some width, some height =>
        return if (width, height) ∈ allowedResolutions then ([], []) else (["RESOLUTION_UNSUPPORTED"], [])
      | _, _ => return ([], ["VIDEO_DIMENSIONS_UNKNOWN"])
  | _ => .ok (["VIDEO_CODEC_UNSUPPORTED"], [])

/-- The reasons and the warnings for the audio tracks. -/
def evaluateAudio (conv : Conversions) : List Track → Except InspectError (List String × List String)
  | [audio] =>
    if audio.codec ≠ "MPEG-4 Audio" then .ok (["AUDIO_CODEC_UNSUPPORTED"], [])
    else do
      let sampleRate ← safeInt conv (audio.props.lookup "sampleRate")
      let channels ← safeInt conv (audio.props.lookup "channelCount")
      let rate :=
        match sampleRate with
        | none => ["AUDIO_SAMPLE_RATE_UNKNOWN"]
        | some rate => if rate ≠ 48000 then ["AUDIO_SAMPLE_RATE_NON_PREFERRED"] else []
      match channels with
      | none => return ([], rate ++ ["AUDIO_CHANNELS_UNKNOWN"])
      | some channels => return (if channels ∉ [1, 2] then ["AUDIO_CHANNELS_UNSUPPORTED"] else [], rate)
  | _ => .ok (["AUDIO_CODEC_UNSUPPORTED"], [])

/-- `evaluate_tracks`. -/
def evaluateTracks (conv : Conversions) (tracks : List Track) : Except InspectError (List String × List String) := do
  let (videoReasons, videoWarnings) ← evaluateVideo conv (tracks.filter fun track => track.codec ∈ videoCodecs)
  let (audioReasons, audioWarnings) ← evaluateAudio conv (tracks.filter fun track => track.codec ∈ audioCodecs)
  return (videoReasons ++ audioReasons, videoWarnings ++ audioWarnings)

/-! ### Observations -/

/-- `round(value, 1)`: to the nearest tenth, and to the even one of two that are equally near. -/
def roundTenth (value : ℚ) : ℚ :=
  let tenths := ⌊value * 10⌋
  let rest := value * 10 - tenths
  (if rest < 1 / 2 ∨ rest = 1 / 2 ∧ tenths % 2 = 0 then (tenths : ℚ) else tenths + 1) / 10

structure Observation where
  status : String
  path : String
  online : Bool
  sourceType : Option String
  sourceId : Option String
  bitrateBps : Option ℚ
  maxBitrateBps : Option ℤ
  tracks : List Track
  reasons : List String
  warnings : List String
  enforced : Bool
  observedAt : Timestamp

structure IngestPolicyInspector where
  lastSourceId : Option String
  lastInboundBytes : Option ℤ
  lastSampleAt : Option Timestamp
  overBitrateSamples : ℕ
  lastEnforcedSourceId : Option String

/-- `str(value) or None` of a field of the source. -/
def sourceText (conv : Conversions) (source : List (String × Json)) (key : String) : Option String :=
  let text := conv.str ((source.lookup key).getD (.str ""))
  if text = "" then none else some text

namespace IngestPolicyInspector

def new : IngestPolicyInspector := ⟨none, none, none, 0, none⟩

/-- `_reset_sampling`. -/
def resetSampling (s : IngestPolicyInspector) : IngestPolicyInspector :=
  { s with lastSourceId := none, lastInboundBytes := none, lastSampleAt := none, overBitrateSamples := 0 }

/-- `_path_snapshot`. -/
def pathSnapshot (config : IngestPolicyConfig) (payload : List (String × Json)) : Option (List (String × Json)) :=
  match (payload.lookup "items").getD (.arr []) with
  | .arr items => items.findSome? fun
    | .obj item =>
      match item.lookup "name" with
      | some (.str name) => if name = config.path then some item else none
      | _ => none
    | _ => none
  | _ => none

/-- The path and its source, if it is online. -/
def onlinePath (config : IngestPolicyConfig) (payload : List (String × Json)) :
    Option (List (String × Json) × List (String × Json)) :=
  match pathSnapshot config payload with
  | some path =>
    if (path.lookup "online").any Egress.truthy then
      match path.lookup "source" with
      | some (.obj source) => some (path, source)
      | _ => none
    else none
  | none => none

/-- The bytes of the source so far are sampled. The bitrate is the one since the last sample, if there is one. -/
def sample (s : IngestPolicyInspector) (sourceId : Option String) (inboundBytes : Option ℤ) (observedAt : Timestamp) :
    IngestPolicyInspector × Option ℚ :=
  if sourceId ≠ s.lastSourceId then (⟨sourceId, inboundBytes, some observedAt, 0, none⟩, none)
  else
    match inboundBytes, s.lastInboundBytes, s.lastSampleAt with
    | some bytes, some lastBytes, some lastAt =>
      if lastAt < observedAt ∧ lastBytes ≤ bytes then
        ({ s with lastInboundBytes := some bytes, lastSampleAt := some observedAt },
          some ((bytes - lastBytes) * 8 / ((observedAt : ℚ) - lastAt)))
      else (s, none)
    | _, _, _ => (s, none)

/-- A sampled bitrate is judged: the inspector after it, the reasons and the warnings. -/
def judge (config : IngestPolicyConfig) (s : IngestPolicyInspector) :
    Option ℚ → IngestPolicyInspector × List String × List String
  | none => (s, [], [])
  | some bitrate =>
    if (config.maxBitrateBps : ℚ) < bitrate then
      let samples := s.overBitrateSamples + 1
      ({ s with overBitrateSamples := samples },
        if config.bitrateViolationSamples ≤ samples then (["BITRATE_TOO_HIGH"], []) else ([], ["BITRATE_ABOVE_LIMIT_PENDING"]))
    else ({ s with overBitrateSamples := 0 }, [], [])

def policyStatus (reasons warnings : List String) (bitrate : Option ℚ) : String :=
  if !reasons.isEmpty then "REJECTED"
  else if bitrate.isNone then "PENDING"
  else if !warnings.isEmpty then "WARNING"
  else "ACCEPTED"

/-- `observe`, with the clock and with what the API answers. -/
def observe (conv : Conversions) (config : IngestPolicyConfig) (s : IngestPolicyInspector) (now : PyFloat)
    (response : Except InspectError (List (String × Json))) : IngestPolicyInspector × Except InspectError Observation :=
  match requireTimestamp now (.runtimeError "ingest observation clock is invalid"), response with
  | .error _, _ => (s, .error .observationClock)
  | .ok _, .error error => (s, .error error)
  | .ok observedAt, .ok payload =>
    match onlinePath config payload with
    | none =>
      (s.resetSampling, .ok
        { status := "OFFLINE", path := config.path, online := false, sourceType := none, sourceId := none,
          bitrateBps := none, maxBitrateBps := none, tracks := [], reasons := [], warnings := [], enforced := false,
          observedAt := observedAt })
    | some (path, source) =>
      let sourceId := sourceText conv source "id"
      let tracks := normaliseTracks conv (match path.lookup "tracks2" with | some (.arr tracks) => tracks | _ => [])
      match safeInt conv (path.lookup "inboundBytes") with
      | .error error => (s, .error error)
      | .ok inboundBytes =>
        let sourceChanged := sourceId ≠ s.lastSourceId
        let (s, bitrate) := s.sample sourceId inboundBytes observedAt
        match evaluateTracks conv tracks with
        | .error error => (s, .error error)
        | .ok (reasons, warnings) =>
          let pending := sourceChanged && trackMetadataMayBeIncomplete tracks
          let (s, bitrateReasons, bitrateWarnings) := s.judge config bitrate
          let reasons := (if pending then [] else reasons) ++ bitrateReasons
          let warnings := warnings ++ (if pending then ["TRACK_METADATA_PENDING"] else []) ++ bitrateWarnings
          (s, .ok
            { status := policyStatus reasons warnings bitrate, path := config.path, online := true,
              sourceType := sourceText conv source "type", sourceId := sourceId, bitrateBps := bitrate.map roundTenth,
              maxBitrateBps := some config.maxBitrateBps, tracks := tracks, reasons := reasons, warnings := warnings,
              enforced := false, observedAt := observedAt })

end IngestPolicyInspector

end IRLight.NodeAgent
