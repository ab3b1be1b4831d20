import IRLight.ControlPlane.NodeRecords

/-! # Reports of a heartbeat

What the parts of a heartbeat do to the record of a Node. Of the numbers that a request brings, only the integers without
an upper bound can be too large for a float. -/

namespace IRLight.NodeState
open Json
open Egress (truthy)

/-! ### Unbounded integers of a request -/

def codecIntegers : Option (String ⊕ ℤ) → List ℤ
  | some (.inr n) => [n]
  | _ => []

def IngestObservationRequest.integers (o : IngestObservationRequest) : List ℤ :=
  o.maxBitrateBps.toList.map (fun n : ℕ => (n : ℤ)) ++
    o.tracks.1.flatMap fun t => codecIntegers t.profile ++ codecIntegers t.level

def EgressObservationRequest.integers (o : EgressObservationRequest) : List ℤ := [o.attempt, o.renderedBuffers]

def RelayClientObservationRequest.integers (o : RelayClientObservationRequest) : List ℤ := [o.readerCount]

/-- The integers of a heartbeat that its schema does not bound. -/
def HeartbeatRequest.integers (r : HeartbeatRequest) : List ℤ :=
  r.ingest.toList.flatMap (·.integers) ++ r.egress.toList.flatMap (·.integers) ++
    r.relayClient.toList.flatMap (·.integers)

/-- The integers have floats. -/
def Representable (integers : List ℤ) : Prop := ∀ n ∈ integers, n.natAbs < floatOverflow

theorem representable_append {l l' : List ℤ} : Representable (l ++ l') ↔ Representable l ∧ Representable l' := by
  simp only [Representable, List.mem_append, or_imp, forall_and]

theorem representable_flatMap {α : Type} {l : List α} {f : α → List ℤ} :
    Representable (l.flatMap f) ↔ ∀ a ∈ l, Representable (f a) := by
  constructor
  · intro h a ha n hn
    exact h n (List.mem_flatMap_of_mem ha hn)
  · intro h n hn
    obtain ⟨a, ha, hn⟩ := List.mem_flatMap.mp hn
    exact h a ha n hn

/-! ### Observations as they are stored -/

theorem finiteTree_text {lo hi : ℕ} (text : Text lo hi) : text.json.finiteTree = true := rfl

theorem finiteTree_nonnegative (q : Nonnegative) : q.json.finiteTree = true := rfl

theorem finiteTree_floatIn {bound : ℚ} (q : FloatIn bound) : q.json.finiteTree = true := rfl

theorem finiteTree_intIn {a b : ℤ} (ha : 0 ≤ a) (hb : b ≤ 10000000) (n : IntIn a b) : n.json.finiteTree = true := by
  have hsmall : 10000000 < floatOverflow := by decide +kernel
  obtain ⟨n, hlo, hhi⟩ := n
  refine finiteTree_int.mpr ?_
  change n.natAbs < floatOverflow
  omega

theorem finiteTree_ofOption_of_forall {α : Type} {f : α → Json} (h : ∀ a, (f a).finiteTree = true) (o : Option α) :
    (ofOption f o).finiteTree = true :=
  finiteTree_ofOption.mpr fun a _ => h a

theorem finiteTree_codecValue {o : Option (String ⊕ ℤ)} :
    (ofOption codecValue o).finiteTree = true ↔ Representable (codecIntegers o) := by
  rcases o with _ | text | n
  · simp [ofOption, codecIntegers, Representable]
  · simp [ofOption, codecValue, codecIntegers, Representable]
  · simp [ofOption, codecValue, finiteTree_int, codecIntegers, Representable]

theorem finiteTree_track {t : TrackObservation} :
    t.modelDump.finiteTree = true ↔ Representable (codecIntegers t.profile ++ codecIntegers t.level) := by
  have hwidth := finiteTree_ofOption_of_forall (finiteTree_intIn (by decide) (by decide)) t.width
  have hheight := finiteTree_ofOption_of_forall (finiteTree_intIn (by decide) (by decide)) t.height
  have hrate := finiteTree_ofOption_of_forall (finiteTree_intIn (by decide) (by decide)) t.sampleRate
  have hchannels := finiteTree_ofOption_of_forall (finiteTree_intIn (by decide) (by decide)) t.channelCount
  rw [TrackObservation.modelDump, finiteTree_obj, representable_append]
  simp [finiteTree_text, finiteTree_codecValue, hwidth, hheight, hrate, hchannels]

theorem finiteTree_quality (q : QualityObservation) : q.modelDump.finiteTree = true := by
  have hcount : ∀ o : Option (IntIn 0 1000000), (ofOption IntIn.json o).finiteTree = true :=
    finiteTree_ofOption_of_forall (finiteTree_intIn (by decide) (by decide))
  have haudio := finiteTree_ofOption_of_forall (finiteTree_intIn (by decide) (by decide)) q.audioFrames
  have hspan : ∀ o : Option (FloatIn 60), (ofOption FloatIn.json o).finiteTree = true :=
    finiteTree_ofOption_of_forall finiteTree_floatIn
  have hfps := finiteTree_ofOption_of_forall finiteTree_floatIn q.videoFps
  have herror := finiteTree_ofOption_of_forall finiteTree_text q.error
  rw [QualityObservation.modelDump, finiteTree_obj]
  simp [hcount, haudio, hspan, hfps, herror]

theorem finiteTree_ingest {o : IngestObservationRequest} : o.modelDump.finiteTree = true ↔ Representable o.integers := by
  have htext : ∀ {hi : ℕ} (text : Option (Text 0 hi)), (ofOption Text.json text).finiteTree = true :=
    finiteTree_ofOption_of_forall finiteTree_text
  have hbitrate := finiteTree_ofOption_of_forall finiteTree_nonnegative o.bitrateBps
  have hquality := finiteTree_ofOption_of_forall finiteTree_quality o.quality
  have htexts : ∀ texts : List (Text 1 100), (arr (texts.map Text.json)).finiteTree = true := by
    intro texts
    refine finiteTree_arr.mpr fun v hv => ?_
    obtain ⟨text, -, rfl⟩ := List.mem_map.mp hv
    rfl
  have hmax : (ofOption (fun n : ℕ => int n) o.maxBitrateBps).finiteTree = true ↔
      Representable (o.maxBitrateBps.toList.map fun n : ℕ => (n : ℤ)) := by
    rw [finiteTree_ofOption]
    simp [Representable, finiteTree_int]
  have htracks : (arr (o.tracks.1.map TrackObservation.modelDump)).finiteTree = true ↔
      Representable (o.tracks.1.flatMap fun t => codecIntegers t.profile ++ codecIntegers t.level) := by
    rw [finiteTree_arr, List.forall_mem_map, representable_flatMap]
    exact forall₂_congr fun _ _ => finiteTree_track
  rw [IngestObservationRequest.modelDump, IngestObservationRequest.integers, finiteTree_obj, representable_append]
  simp [finiteTree_text, finiteTree_nonnegative, htext, hbitrate, hquality, htexts, hmax, htracks]

theorem finiteTree_egress {o : EgressObservationRequest} : o.modelDump.finiteTree = true ↔ Representable o.integers := by
  have htext : ∀ {hi : ℕ} (text : Option (Text 0 hi)), (ofOption Text.json text).finiteTree = true :=
    finiteTree_ofOption_of_forall finiteTree_text
  have hretry := finiteTree_ofOption_of_forall finiteTree_nonnegative o.nextRetryAt
  rw [EgressObservationRequest.modelDump, EgressObservationRequest.integers, finiteTree_obj]
  simp [finiteTree_nonnegative, htext, hretry, finiteTree_int, Representable]

theorem finiteTree_relayClient {o : RelayClientObservationRequest} :
    o.modelDump.finiteTree = true ↔ Representable o.integers := by
  have hreason := finiteTree_ofOption_of_forall finiteTree_text o.reasonCode
  rw [RelayClientObservationRequest.modelDump, RelayClientObservationRequest.integers, finiteTree_obj]
  simp [finiteTree_nonnegative, hreason, finiteTree_int, Representable]

theorem nullOr_of {accepts : Json → Bool} {value : Json} (h : accepts value = true) : nullOr accepts value = true := by
  cases value with
  | null => rfl
  | _ => exact h

theorem nullOr_ofOption {α : Type} {f : α → Json} {accepts : Json → Bool} (h : ∀ a, accepts (f a) = true) (o : Option α) :
    nullOr accepts (ofOption f o) = true := by
  cases o with
  | none => rfl
  | some a => exact nullOr_of (h a)

theorem finiteNumber_floatIn {bound : ℚ} (q : FloatIn bound) : finiteNumber (some 0) q.json = true := decide_eq_true q.2.1

theorem finiteNumber_nonnegative (q : Nonnegative) : finiteNumber (some 0) q.json = true := decide_eq_true q.2

theorem finiteNumber_timestamp (t : Timestamp) : finiteNumber (some 0) (.float (.finite t)) = true :=
  decide_eq_true t.2

/-- An observation passes its check when every field that the rules name does. -/
theorem observes_obj {rules : ObservationRules} {fields : List (String × Json)}
    (hstatus : ((obj fields).get? "status").any (oneOf rules.statuses) = true)
    (htime : finiteNumber (some 0) (((obj fields).get? "observed_at").getD .null) = true)
    (hbool : ∀ key ∈ rules.boolFields, ((obj fields).get? key).all isBool = true)
    (hint : ∀ key ∈ rules.intFields, ((obj fields).get? key).all (nullOr nonnegativeInt) = true)
    (hfinite : ∀ key ∈ rules.finiteFields, ((obj fields).get? key).all (nullOr (finiteNumber (some 0))) = true) :
    observes rules (obj fields) = true := by
  refine decide_eq_true (seq_eq_ok.mpr ⟨require_eq_ok.mpr hstatus, seq_eq_ok.mpr ⟨require_eq_ok.mpr htime, ?_⟩⟩)
  refine seq_eq_ok.mpr ⟨forM_eq_ok.mpr fun key hkey => require_eq_ok.mpr (hbool key hkey), ?_⟩
  refine seq_eq_ok.mpr ⟨forM_eq_ok.mpr fun key hkey => require_eq_ok.mpr (hint key hkey), ?_⟩
  exact forM_eq_ok.mpr fun key hkey => require_eq_ok.mpr (hfinite key hkey)

theorem observes_ingest (o : IngestObservationRequest) : observes ingestRules o.modelDump = true := by
  have hmax : nullOr nonnegativeInt (ofOption (fun n : ℕ => int n) o.maxBitrateBps) = true :=
    nullOr_ofOption (by simp [nonnegativeInt]) o.maxBitrateBps
  have hbitrate := nullOr_ofOption finiteNumber_nonnegative o.bitrateBps
  have hstatus : oneOf ingestStatuses (.str o.status.1) = true := decide_eq_true o.status.2
  refine observes_obj ?_ ?_ ?_ ?_ ?_ <;>
    simp [ingestRules, Json.get?_cons, hmax, hbitrate, hstatus, finiteNumber_nonnegative, isBool]

theorem observes_egress (o : EgressObservationRequest) : observes egressRules o.modelDump = true := by
  have hretry := nullOr_ofOption finiteNumber_nonnegative o.nextRetryAt
  have hcount : ∀ n : ℕ, nullOr nonnegativeInt (int n) = true := by simp [nullOr, nonnegativeInt]
  have hstatus : oneOf egressStatuses (.str o.status.1) = true := decide_eq_true o.status.2
  refine observes_obj ?_ ?_ ?_ ?_ ?_ <;>
    simp [egressRules, Json.get?_cons, hretry, hcount, hstatus, finiteNumber_nonnegative, isBool]

theorem observes_relayClient (o : RelayClientObservationRequest) : observes relayClientRules o.modelDump = true := by
  have hcount : nullOr nonnegativeInt (int o.readerCount) = true := by simp [nullOr, nonnegativeInt]
  have hstatus : oneOf relayClientStatuses (.str o.status.1) = true := decide_eq_true o.status.2
  refine observes_obj ?_ ?_ ?_ ?_ ?_ <;>
    simp [relayClientRules, Json.get?_cons, hcount, hstatus, finiteNumber_nonnegative, isBool]

/-! ### Parts of a heartbeat -/

variable {node node' : Fields} {nodeId key errorField : String} {occurredAt : Timestamp} {answer : Except Exc Unit}
  {previous current : Json} {had : Bool}

theorem ingestEventTypes_named : ∀ t ∈ ingestEventTypes previous current had, t ≠ "" := by
  intro t ht
  unfold ingestEventTypes at ht
  grind

theorem egressEventTypes_named : ∀ t ∈ egressEventTypes previous current had, t ≠ "" := by
  intro t ht
  unfold egressEventTypes at ht
  grind

theorem relayClientEventTypes_named : ∀ t ∈ relayClientEventTypes previous current had, t ≠ "" := by
  intro t ht
  unfold relayClientEventTypes at ht
  grind

theorem finiteTree_field (h : current.finiteTree = true) (key : String) : (field current key).finiteTree = true := by
  rw [field]
  cases hvalue : current.get? key with
  | none => rfl
  | some value => exact finiteTree_get? h hvalue

theorem finiteTree_getD (h : current.finiteTree = true) {default : Json} (hdefault : default.finiteTree = true) (key : String) :
    ((current.get? key).getD default).finiteTree = true := by
  cases hvalue : current.get? key with
  | none => exact hdefault
  | some value => exact finiteTree_get? h hvalue

theorem admits_flag (h : key ∈ flagFields) (b : Bool) : Admits key (.bool b) := by
  intro check hcheck
  simp only [flagFields, List.mem_cons, List.not_mem_nil, or_false] at h
  rcases h with rfl | rfl | rfl | rfl | rfl | rfl <;>
    · simp [checks, flagFields, measureFields] at hcheck
      subst hcheck
      rfl

theorem revised_flag (h : Shape nodeId node) (hkey : key ∈ flagFields) (condition : Bool) :
    Revised nodeId [key] 0 True node (flag condition node key) := by
  have hown : key ∉ ownFields := by
    revert key
    decide
  cases condition with
  | false => exact .refl h
  | true => exact (revised_set h _ _ hown (admits_flag hkey true)).mono (List.Subset.refl _) fun _ => rfl

theorem revised_afterReport (h : Shape nodeId node) (hown : errorField ∉ ownFields) (hrequired : errorField ∉ requiredFields)
    (hadmits : ∀ text, Admits errorField (.str text)) (hreport : afterReport node errorField answer = .ok node') :
    Revised nodeId [errorField] 0 True node node' := by
  cases answer with
  | ok u =>
    cases hreport
    exact revised_erase h _ hown hrequired
  | error exc =>
    rw [afterReport] at hreport
    split at hreport
    · cases hreport
      exact (revised_set h _ _ hown (hadmits _)).mono (List.Subset.refl _) fun _ => rfl
    · cases hreport

/-- The events of a report, and a flag that they may set. -/
theorem revised_append_flag {eventTypes : List String} {payload : List (String × Json)} (h : Shape nodeId node)
    (htypes : ∀ t ∈ eventTypes, t ≠ "") (hkey : key ∈ flagFields) (condition : Bool) :
    Revised nodeId ["events", "next_event_seq", key] eventTypes.length
      (nextOf node + eventTypes.length < floatOverflow ∧ (obj payload).finiteTree = true) node
      (flag condition (appendEvents node eventTypes (.obj payload) occurredAt) key) := by
  have happend := revised_append h payload occurredAt htypes
  exact (happend.trans (revised_flag happend.shape hkey condition)).mono (List.Subset.refl _) fun hfits => ⟨hfits, trivial⟩

theorem revised_appendIngestEvents (h : Shape nodeId node) (previous current : Json) (occurredAt : Timestamp) :
    Revised nodeId ["events", "next_event_seq", "ingest_ever_online"]
      (ingestEventTypes previous current (truthy (valueOf node "ingest_ever_online"))).length
      (nextOf node + (ingestEventTypes previous current (truthy (valueOf node "ingest_ever_online"))).length < floatOverflow ∧
        current.finiteTree = true) node (appendIngestEvents node previous current occurredAt).2 := by
  have hnamed : ∀ t ∈ ingestEventTypes previous current (truthy (valueOf node "ingest_ever_online")), t ≠ "" :=
    ingestEventTypes_named
  simp only [appendIngestEvents]
  generalize ingestEventTypes previous current (truthy (valueOf node "ingest_ever_online")) = eventTypes at hnamed ⊢
  by_cases hnone : eventTypes = []
  · simp only [hnone, if_true]
    exact .refl h
  · simp only [if_neg hnone]
    refine (revised_append_flag h hnamed (by decide) _).mono (List.Subset.refl _) fun ⟨hnext, hcurrent⟩ => ?_
    refine ⟨hnext, finiteTree_obj.mpr ?_⟩
    simp [finiteTree_field hcurrent, finiteTree_getD hcurrent (finiteTree_arr.mpr fun _ h => absurd h List.not_mem_nil),
      finiteTree_getD hcurrent (finiteTree_bool false)]

theorem revised_appendEgressEvents (h : Shape nodeId node) (previous current : Json) (occurredAt : Timestamp) :
    Revised nodeId ["events", "next_event_seq", "egress_ever_connected"]
      (egressEventTypes previous current (truthy (valueOf node "egress_ever_connected"))).length
      (nextOf node + (egressEventTypes previous current (truthy (valueOf node "egress_ever_connected"))).length < floatOverflow ∧
        current.finiteTree = true) node (appendEgressEvents node previous current occurredAt).2 := by
  have hnamed : ∀ t ∈ egressEventTypes previous current (truthy (valueOf node "egress_ever_connected")), t ≠ "" :=
    egressEventTypes_named
  simp only [appendEgressEvents]
  generalize egressEventTypes previous current (truthy (valueOf node "egress_ever_connected")) = eventTypes at hnamed ⊢
  by_cases hnone : eventTypes = []
  · simp only [hnone, if_true]
    exact .refl h
  · simp only [if_neg hnone]
    refine (revised_append_flag h hnamed (by decide) _).mono (List.Subset.refl _) fun ⟨hnext, hcurrent⟩ => ?_
    refine ⟨hnext, finiteTree_obj.mpr ?_⟩
    simp [finiteTree_field hcurrent]

theorem revised_appendRelayClientEvents (h : Shape nodeId node) (previous current : Json) (occurredAt : Timestamp) :
    Revised nodeId ["events", "next_event_seq", "relay_client_ever_connected"]
      (relayClientEventTypes previous current (truthy (valueOf node "relay_client_ever_connected"))).length
      (nextOf node + (relayClientEventTypes previous current (truthy (valueOf node "relay_client_ever_connected"))).length <
        floatOverflow ∧ current.finiteTree = true) node (appendRelayClientEvents node previous current occurredAt).2 := by
  have hnamed : ∀ t ∈ relayClientEventTypes previous current (truthy (valueOf node "relay_client_ever_connected")), t ≠ "" :=
    relayClientEventTypes_named
  simp only [appendRelayClientEvents]
  generalize relayClientEventTypes previous current (truthy (valueOf node "relay_client_ever_connected")) = eventTypes at hnamed ⊢
  by_cases hnone : eventTypes = []
  · simp only [hnone, if_true]
    exact .refl h
  · simp only [if_neg hnone]
    refine (revised_append_flag h hnamed (by decide) _).mono (List.Subset.refl _)
      fun ⟨hnext, hcurrent⟩ => ?_
    have hcount : (int (max 0 (intOf (field current "reader_count")))).finiteTree = true := by
      have hzero : (max (0 : ℤ) 0).natAbs < floatOverflow := by decide +kernel
      have hfield := finiteTree_field hcurrent "reader_count"
      refine finiteTree_int.mpr ?_
      cases hvalue : field current "reader_count" with
      | int n =>
        rw [hvalue, finiteTree_int] at hfield
        change (max 0 n).natAbs < _
        omega
      | _ => exact hzero
    refine ⟨hnext, finiteTree_obj.mpr ?_⟩
    simp [finiteTree_field hcurrent, hcount]

theorem admits_of_free (h : key ∉ checks.map Prod.fst) (value : Json) : Admits key value :=
  fun _ hcheck => absurd (List.mem_map_of_mem hcheck) h

theorem admits_of_unique (check : Json → Bool) {value : Json} (h : ∀ check', (key, check') ∈ checks → check' = check)
    (hvalue : check value = true) : Admits key value := by
  intro check' hcheck
  rw [h check' hcheck]
  exact hvalue

theorem admits_ingest (o : IngestObservationRequest) : Admits "ingest" o.modelDump :=
  admits_of_unique _ (by simp [checks, flagFields, measureFields]) (observes_ingest o)

theorem admits_egress (o : EgressObservationRequest) : Admits "egress" o.modelDump :=
  admits_of_unique _ (by simp [checks, flagFields, measureFields]) (observes_egress o)

theorem admits_relayClient (o : RelayClientObservationRequest) : Admits "relay_client" o.modelDump :=
  admits_of_unique _ (by simp [checks, flagFields, measureFields]) (observes_relayClient o)

def ingestFields : List String := ["events", "next_event_seq", "ingest_ever_online", "ingest", "session_event_error"]

def egressFields : List String :=
  ["events", "next_event_seq", "egress_ever_connected", "egress", "egress_connected", "egress_session_event_error"]

def relayClientFields : List String :=
  ["events", "next_event_seq", "relay_client_ever_connected", "relay_client", "relay_client_session_event_error"]

/-- The events that an ingest observation makes. -/
def ingestEventCount (node : Fields) (o : IngestObservationRequest) : ℕ :=
  (ingestEventTypes (valueOf node "ingest") o.modelDump (truthy (valueOf node "ingest_ever_online"))).length

def egressEventCount (node : Fields) (o : EgressObservationRequest) : ℕ :=
  (egressEventTypes (valueOf node "egress") o.modelDump (truthy (valueOf node "egress_ever_connected"))).length

def relayClientEventCount (node : Fields) (o : RelayClientObservationRequest) : ℕ :=
  (relayClientEventTypes (valueOf node "relay_client") o.modelDump (truthy (valueOf node "relay_client_ever_connected"))).length

theorem reportIngest_revised {o : IngestObservationRequest} (h : Shape nodeId node)
    (hreport : reportIngest node o occurredAt answer = .ok node') :
    Revised nodeId ingestFields (ingestEventCount node o)
      (nextOf node + ingestEventCount node o < floatOverflow ∧ o.modelDump.finiteTree = true) node node' ∧
    node'.get? "ingest" = some o.modelDump := by
  have happend := revised_appendIngestEvents h (valueOf node "ingest") o.modelDump occurredAt
  have hset := happend.trans (revised_set happend.shape _ _ (by decide) (admits_ingest o))
  simp only [reportIngest] at hreport
  split at hreport
  · have herror := revised_afterReport hset.shape (by decide) (by decide) (fun _ => admits_of_free (by decide) _) hreport
    refine ⟨(hset.trans herror).mono (List.Subset.refl _) fun hfits => ⟨⟨hfits, hfits.2⟩, trivial⟩, ?_⟩
    rw [herror.frame "ingest" (by decide), Dict.get?_set_self]
  · cases hreport
    exact ⟨hset.mono (by decide) fun hfits => ⟨hfits, hfits.2⟩, Dict.get?_set_self⟩

theorem reportEgress_revised {o : EgressObservationRequest} (h : Shape nodeId node)
    (hreport : reportEgress node o occurredAt answer = .ok node') :
    Revised nodeId egressFields (egressEventCount node o)
      (nextOf node + egressEventCount node o < floatOverflow ∧ o.modelDump.finiteTree = true) node node' ∧
    node'.get? "egress" = some o.modelDump := by
  have happend := revised_appendEgressEvents h (valueOf node "egress") o.modelDump occurredAt
  have hset := happend.trans (revised_set happend.shape _ _ (by decide) (admits_egress o))
  have hflag := revised_set hset.shape "egress_connected" (.bool (truthy (field o.modelDump "connected")))
    (by decide) (admits_flag (by decide) _)
  have hboth := hset.trans hflag
  simp only [reportEgress] at hreport
  split at hreport
  · have herror := revised_afterReport hboth.shape (by decide) (by decide) (fun _ => admits_of_free (by decide) _) hreport
    refine ⟨(hboth.trans herror).mono (by decide) fun hfits => ⟨⟨⟨hfits, hfits.2⟩, rfl⟩, trivial⟩, ?_⟩
    rw [herror.frame "egress" (by decide), hflag.frame "egress" (by decide), Dict.get?_set_self]
  · cases hreport
    refine ⟨hboth.mono (by decide) fun hfits => ⟨⟨hfits, hfits.2⟩, rfl⟩, ?_⟩
    rw [hflag.frame "egress" (by decide), Dict.get?_set_self]

theorem reportRelayClient_revised {o : RelayClientObservationRequest} (h : Shape nodeId node)
    (hreport : reportRelayClient node o occurredAt answer = .ok node') :
    Revised nodeId relayClientFields (relayClientEventCount node o)
      (nextOf node + relayClientEventCount node o < floatOverflow ∧ o.modelDump.finiteTree = true) node node' ∧
    node'.get? "relay_client" = some o.modelDump := by
  have happend := revised_appendRelayClientEvents h (valueOf node "relay_client") o.modelDump occurredAt
  have hset := happend.trans (revised_set happend.shape _ _ (by decide) (admits_relayClient o))
  simp only [reportRelayClient] at hreport
  split at hreport
  · have herror := revised_afterReport hset.shape (by decide) (by decide) (fun _ => admits_of_free (by decide) _) hreport
    refine ⟨(hset.trans herror).mono (List.Subset.refl _) fun hfits => ⟨⟨hfits, hfits.2⟩, trivial⟩, ?_⟩
    rw [herror.frame "relay_client" (by decide), Dict.get?_set_self]
  · cases hreport
    exact ⟨hset.mono (by decide) fun hfits => ⟨hfits, hfits.2⟩, Dict.get?_set_self⟩

/-! ### The fields of every heartbeat -/

def observedFields : List String :=
  ["status", "last_heartbeat_at", "media_health", "active_publisher", "egress_connected", "software_version", "cpu_percent",
    "memory_mb", "deadline_remaining_seconds"]

def pipelineFields : List String :=
  ["media_unhealthy_since", "media_failure_reason", "desired_state", "pipeline_failure_latched_at",
    "pipeline_session_event_error"]

theorem admits_status (status : Choice ["BOOTSTRAPPING", "READY", "STOPPING", "STOPPED", "FAILED"]) :
    Admits "status" (.str status.1) :=
  admits_of_unique (oneOf nodeStatuses) (by simp [checks, flagFields, measureFields]) (decide_eq_true status.2)

theorem admits_measure (h : key ∈ "last_heartbeat_at" :: measureFields) {value : Json}
    (hvalue : finiteNumber (some 0) value = true) : Admits key value := by
  refine admits_of_unique (nullOr (finiteNumber (some 0))) (fun check' hcheck' => ?_) (nullOr_of hvalue)
  simp only [measureFields, List.mem_cons, List.not_mem_nil, or_false] at h
  rcases h with rfl | rfl | rfl | rfl | rfl | rfl <;> simpa [checks, flagFields, measureFields] using hcheck'

theorem revised_setSome (h : Shape nodeId node) (key : String) (value : Option Json) (hkey : key ∉ ownFields)
    (hadmits : ∀ v ∈ value, Admits key v) (hfinite : ∀ v ∈ value, v.finiteTree = true) :
    Revised nodeId [key] 0 True node (setSome node key value) := by
  cases value with
  | none => exact .refl h
  | some v => exact (revised_set h _ _ hkey (hadmits v rfl)).mono (List.Subset.refl _) fun _ => hfinite v rfl

theorem revised_setSome_number {α : Type} {f : α → Json} (h : Shape nodeId node) (key : String) (o : Option α)
    (hown : key ∉ ownFields) (hkey : key ∈ "last_heartbeat_at" :: measureFields) (hnumber : ∀ a, finiteNumber (some 0) (f a) = true)
    (hfinite : ∀ a, (f a).finiteTree = true) : Revised nodeId [key] 0 True node (setSome node key (o.map f)) := by
  refine revised_setSome h _ _ hown (fun v hv => ?_) fun v hv => ?_
  · obtain ⟨a, -, rfl⟩ := Option.mem_map.mp hv
    exact admits_measure hkey (hnumber a)
  · obtain ⟨a, -, rfl⟩ := Option.mem_map.mp hv
    exact hfinite a

theorem observed_revised (h : Shape nodeId node) (request : HeartbeatRequest) (observedAt : Timestamp) :
    Revised nodeId observedFields 0 True node (observed node request observedAt) := by
  have h₁ := revised_set h "status" _ (by decide) (admits_status request.status)
  have h₂ := h₁.trans (revised_set h₁.shape "last_heartbeat_at" _ (by decide)
    (admits_measure (by decide) (finiteNumber_timestamp observedAt)))
  have h₃ := h₂.trans (revised_set h₂.shape "media_health" _ (by decide)
    (admits_of_free (by decide) request.mediaHealth.json))
  have h₄ := h₃.trans (revised_set h₃.shape "active_publisher" _ (by decide)
    (admits_flag (by decide) request.activePublisher))
  have h₅ := h₄.trans (revised_set h₄.shape "egress_connected" _ (by decide)
    (admits_flag (by decide) request.egressConnected))
  have h₆ := h₅.trans (revised_setSome h₅.shape "software_version"
    ((request.softwareVersion.map Text.json).filter truthy) (by decide) (fun v _ => admits_of_free (by decide) v)
    fun v hv => by
      obtain ⟨text, -, rfl⟩ := Option.mem_map.mp (Option.mem_filter_iff.mp hv).1
      rfl)
  have h₇ := h₆.trans (revised_setSome_number h₆.shape "cpu_percent" request.cpuPercent (by decide)
    (by decide) finiteNumber_floatIn finiteTree_floatIn)
  have h₈ := h₇.trans (revised_setSome_number h₇.shape "memory_mb" request.memoryMb (by decide)
    (by decide) finiteNumber_nonnegative finiteTree_nonnegative)
  have h₉ := h₈.trans (revised_setSome_number h₈.shape "deadline_remaining_seconds"
    request.deadlineRemainingSeconds (by decide) (by decide) finiteNumber_nonnegative finiteTree_nonnegative)
  exact h₉.mono (by decide) fun _ => by simp [finiteTree_text]

/-! ### The health of the pipeline -/

theorem admits_desiredState (text : String) (h : text ∈ nodeDesiredStates) : Admits "desired_state" (.str text) :=
  admits_of_unique (oneOf nodeDesiredStates) (by simp [checks, flagFields, measureFields]) (decide_eq_true h)

theorem unhealthySince_revised (h : Shape nodeId node) (current : Timestamp) :
    Revised nodeId ["media_unhealthy_since"] 0 True node (unhealthySince node current).2 := by
  have hset := (revised_set h "media_unhealthy_since" _ (by decide)
    (admits_measure (by decide) (finiteNumber_timestamp current))).mono (List.Subset.refl _) fun (_ : True) => rfl
  unfold unhealthySince
  split
  · split
    · exact hset
    · exact .refl h
  · exact hset

theorem latchPipelineFailure_revised (h : Shape nodeId node) (current : Timestamp) (answers : HeartbeatAnswers) :
    Revised nodeId ["desired_state", "pipeline_failure_latched_at"] 0 True node
      (latchPipelineFailure nodeId node current answers).1 := by
  have hstopped := revised_set h "desired_state" _ (by decide) (admits_desiredState "STOPPED" (by decide))
  have hlatched := hstopped.trans (revised_set hstopped.shape "pipeline_failure_latched_at" _ (by decide)
    (admits_measure (by decide) (finiteNumber_timestamp current)))
  unfold latchPipelineFailure
  split
  · exact .refl h
  · exact .refl h
  · split
    · exact .refl h
    · split
      · exact .refl h
      · split
        · exact .refl h
        · exact hlatched.mono (List.Subset.refl _) fun _ => ⟨rfl, rfl⟩

theorem applyPipelineHealth_revised (h : Shape nodeId node) (status mediaHealth : String) (current : Timestamp)
    (answers : HeartbeatAnswers) :
    Revised nodeId pipelineFields 0 True node (applyPipelineHealth nodeId node status mediaHealth current answers).1 := by
  have hrecovered := revised_erase h "media_unhealthy_since" (by decide) (by decide)
  have hcleared := hrecovered.trans (revised_erase hrecovered.shape "media_failure_reason" (by decide) (by decide))
  have htimer := unhealthySince_revised h current
  have hreason := htimer.trans (revised_set htimer.shape "media_failure_reason" (.str "PIPELINE_CRASHED")
    (by decide) (admits_of_free (by decide) _))
  simp only [applyPipelineHealth]
  split
  · exact hcleared.mono (by decide) fun _ => ⟨trivial, trivial⟩
  · split
    · exact .refl h
    · split
      · exact hreason.mono (by decide) fun _ => ⟨trivial, rfl⟩
      · have hlatch := latchPipelineFailure_revised hreason.shape current answers
        exact (hreason.trans hlatch).mono (by decide) fun _ => ⟨⟨trivial, rfl⟩, trivial⟩

theorem reportPipeline_revised {request : HeartbeatRequest} {observedAt : Timestamp} {answers : HeartbeatAnswers}
    (h : Shape nodeId node) (hreport : reportPipeline nodeId node request observedAt answers = .ok node') :
    Revised nodeId pipelineFields 0 True node node' := by
  have happlied := applyPipelineHealth_revised h request.status.1 request.mediaHealth.1 observedAt answers
  simp only [reportPipeline] at hreport
  split at hreport
  · have herror := revised_afterReport happlied.shape (by decide) (by decide) (fun _ => admits_of_free (by decide) _) hreport
    exact (happlied.trans herror).mono (by decide) fun _ => ⟨trivial, trivial⟩
  · cases hreport
    exact .refl h

/-! ### A heartbeat -/

/-- The events that a heartbeat makes. -/
def newEventCount (node : Fields) (request : HeartbeatRequest) : ℕ :=
  request.ingest.elim 0 (ingestEventCount node) + request.egress.elim 0 (egressEventCount node) +
    request.relayClient.elim 0 (relayClientEventCount node)

def heartbeatFields : List String := observedFields ++ ingestFields ++ egressFields ++ relayClientFields ++ pipelineFields

theorem reportSome_revised {α : Type} {report : Fields → α → Except Exc Fields} {o : Option α} {keys : List String}
    {count : α → ℕ} {fits : α → Prop} {dump : α → Json} (h : Shape nodeId node) (hreport : reportSome report node o = .ok node')
    (hone : ∀ a, report node a = .ok node' →
      Revised nodeId keys (count a) (fits a) node node' ∧ node'.get? key = some (dump a)) :
    Revised nodeId keys (o.elim 0 count) (∀ a ∈ o, fits a) node node' ∧ ∀ a ∈ o, node'.get? key = some (dump a) := by
  cases o with
  | none =>
    cases hreport
    exact ⟨.refl h, fun a ha => absurd ha (Option.not_mem_none a)⟩
  | some a =>
    obtain ⟨hrevised, hvalue⟩ := hone a hreport
    refine ⟨hrevised.mono (List.Subset.refl _) fun hfits => hfits a rfl, fun b hb => ?_⟩
    cases hb
    exact hvalue

theorem representable_integers {request : HeartbeatRequest} : Representable request.integers ↔
    (∀ o ∈ request.ingest, o.modelDump.finiteTree = true) ∧ (∀ o ∈ request.egress, o.modelDump.finiteTree = true) ∧
      ∀ o ∈ request.relayClient, o.modelDump.finiteTree = true := by
  simp only [HeartbeatRequest.integers, representable_append, representable_flatMap, Option.mem_toList, Option.mem_def,
    finiteTree_ingest, finiteTree_egress, finiteTree_relayClient, and_assoc]

/-- What a heartbeat leaves of a Node: its record keeps its shape, has the new events, and holds the observations of the
request. -/
theorem heartbeatNode_revised {request : HeartbeatRequest} {observedAt : Timestamp} {answers : HeartbeatAnswers}
    (h : Shape nodeId node) (hbeat : heartbeatNode nodeId node request observedAt answers = .ok node') :
    Revised nodeId heartbeatFields (newEventCount node request)
      (Representable request.integers ∧ nextOf node + newEventCount node request < floatOverflow) node node' ∧
    (∀ o ∈ request.ingest, node'.get? "ingest" = some o.modelDump) ∧
    (∀ o ∈ request.egress, node'.get? "egress" = some o.modelDump) ∧
    ∀ o ∈ request.relayClient, node'.get? "relay_client" = some o.modelDump := by
  have hobserved := observed_revised h request observedAt
  obtain ⟨-, hbeat⟩ := seq_eq_ok.mp hbeat
  obtain ⟨node₁, hingest, hbeat⟩ := bind_eq_ok.mp hbeat
  obtain ⟨node₂, hegress, hbeat⟩ := bind_eq_ok.mp hbeat
  obtain ⟨node₃, hrelay, hpipeline⟩ := bind_eq_ok.mp hbeat
  have hingestCount : ingestEventCount (observed node request observedAt) = ingestEventCount node := by
    funext o
    rw [ingestEventCount, ingestEventCount, hobserved.valueOf (by decide), hobserved.valueOf (by decide)]
  obtain ⟨hrevised₁, hvalue₁⟩ := reportSome_revised hobserved.shape hingest fun _ => reportIngest_revised hobserved.shape
  rw [hingestCount] at hrevised₁
  have hthrough₁ := hobserved.trans hrevised₁
  have hegressCount : egressEventCount node₁ = egressEventCount node := by
    funext o
    rw [egressEventCount, egressEventCount, hthrough₁.valueOf (by decide), hthrough₁.valueOf (by decide)]
  obtain ⟨hrevised₂, hvalue₂⟩ := reportSome_revised hthrough₁.shape hegress fun _ => reportEgress_revised hthrough₁.shape
  rw [hegressCount] at hrevised₂
  have hthrough₂ := hthrough₁.trans hrevised₂
  have hrelayCount : relayClientEventCount node₂ = relayClientEventCount node := by
    funext o
    rw [relayClientEventCount, relayClientEventCount, hthrough₂.valueOf (by decide), hthrough₂.valueOf (by decide)]
  obtain ⟨hrevised₃, hvalue₃⟩ := reportSome_revised hthrough₂.shape hrelay fun _ => reportRelayClient_revised hthrough₂.shape
  rw [hrelayCount] at hrevised₃
  have hthrough₃ := hthrough₂.trans hrevised₃
  have hlast := reportPipeline_revised hthrough₃.shape hpipeline
  have hall := hthrough₃.trans hlast
  have hnext₀ := hobserved.next
  have hnext₁ := hthrough₁.next
  have hnext₂ := hthrough₂.next
  have hcount : 0 + request.ingest.elim 0 (ingestEventCount node) + request.egress.elim 0 (egressEventCount node) +
      request.relayClient.elim 0 (relayClientEventCount node) + 0 = newEventCount node request := by
    rw [newEventCount]
    omega
  rw [hcount] at hall
  refine ⟨hall.mono (by decide) fun ⟨hintegers, hfits⟩ => ?_, fun o ho => ?_, fun o ho => ?_, fun o ho => ?_⟩
  · obtain ⟨hfinite₁, hfinite₂, hfinite₃⟩ := representable_integers.mp hintegers
    rw [newEventCount] at hfits
    push_cast at hfits hnext₁ hnext₂
    refine ⟨⟨⟨⟨trivial, fun o ho => ⟨?_, hfinite₁ o ho⟩⟩, fun o ho => ⟨?_, hfinite₂ o ho⟩⟩, fun o ho => ⟨?_, hfinite₃ o ho⟩⟩, trivial⟩
    · have hsome : request.ingest.elim 0 (ingestEventCount node) = ingestEventCount node o := by
        rw [Option.mem_def.mp ho]
        rfl
      omega
    · have hsome : request.egress.elim 0 (egressEventCount node) = egressEventCount node o := by
        rw [Option.mem_def.mp ho]
        rfl
      omega
    · have hsome : request.relayClient.elim 0 (relayClientEventCount node) = relayClientEventCount node o := by
        rw [Option.mem_def.mp ho]
        rfl
      omega
  · rw [hlast.frame "ingest" (by decide), hrevised₃.frame "ingest" (by decide), hrevised₂.frame "ingest" (by decide)]
    exact hvalue₁ o ho
  · rw [hlast.frame "egress" (by decide), hrevised₃.frame "egress" (by decide)]
    exact hvalue₂ o ho
  · rw [hlast.frame "relay_client" (by decide)]
    exact hvalue₃ o ho

end IRLight.NodeState
