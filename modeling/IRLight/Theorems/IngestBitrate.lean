import IRLight.Collections.Splits
import IRLight.NodeAgent.IngestPolicy
import Mathlib.Algebra.Order.Ring.NNRat

/-! # The bitrate of a source

Every snapshot with a counter is measured against the latest one before it, if the first snapshot of the source has one.
If it has none, the source is never measured. -/

namespace IRLight.NodeAgent

/-! ### What a source is measured by -/

/-- A snapshot of the source, with what is observed of it. -/
structure Entry where
  time : Timestamp
  counter : Option ℤ
  observation : Observation

def Entry.sample? (e : Entry) : Option (Timestamp × ℤ) := e.counter.map fun bytes => (e.time, bytes)

/-- The snapshots that carry a counter. -/
def counted (trace : List Entry) : List (Timestamp × ℤ) := trace.filterMap Entry.sample?

/-- The bitrate since the latest counter before, in exact arithmetic. -/
def exactBitrate (before : List Entry) (e : Entry) : Option ℚ := do
  let (lastAt, lastBytes) ← (counted before).getLast?
  let bytes ← e.counter
  return (bytes - lastBytes) * 8 / ((e.time : ℚ) - lastAt)

/-- The exact bitrates of the observations that report one. -/
def measuredFrom (before : List Entry) : List Entry → List ℚ
  | [] => []
  | e :: rest =>
    (if e.observation.bitrateBps.isSome then (exactBitrate before e).toList else []) ++ measuredFrom (before ++ [e]) rest

def measured (trace : List Entry) : List ℚ := measuredFrom [] trace

/-- An observation reports the bitrate since the latest counter before, and where it is measured, that it is too high exactly
    when so many of the last measured ones are. -/
def MeasuredAt (config : IngestPolicyConfig) (before : List Entry) (e : Entry) : Prop :=
  (∀ bitrate, exactBitrate before e = some bitrate → e.observation.bitrateBps = some (roundTenth bitrate)) ∧
  (e.observation.bitrateBps.isSome → ("BITRATE_TOO_HIGH" ∈ e.observation.reasons ↔
    ∃ front last, measured (before ++ [e]) = front ++ last ∧ last.length = config.bitrateViolationSamples ∧
      ∀ bitrate ∈ last, (config.maxBitrateBps : ℚ) < bitrate))

def Measures (config : IngestPolicyConfig) (trace : List Entry) : Prop :=
  ∀ before e after, trace = before ++ e :: after → MeasuredAt config before e

/-- A snapshot of the source is observed while it is online. -/
structure Observes (conv : Conversions) (config : IngestPolicyConfig) (sourceId : Option String)
    (s : IngestPolicyInspector) (e : Entry) (s' : IngestPolicyInspector) : Prop where
  shown : ∃ payload path source, IngestPolicyInspector.onlinePath config payload = some (path, source) ∧
    sourceText conv source "id" = sourceId ∧ safeInt conv (path.lookup "inboundBytes") = .ok e.counter ∧
    s.observe conv config (.finite e.time) (.ok payload) = (s', .ok e.observation)

/-- The snapshots of a source that is online all the time, from an inspector on. -/
inductive Watched (conv : Conversions) (config : IngestPolicyConfig) (s₀ : IngestPolicyInspector)
    (sourceId : Option String) : List Entry → IngestPolicyInspector → Prop
  | start : Watched conv config s₀ sourceId [] s₀
  | observe {trace : List Entry} {s s' : IngestPolicyInspector} {e : Entry}
      (before : Watched conv config s₀ sourceId trace s) (h : Observes conv config sourceId s e s') :
      Watched conv config s₀ sourceId (trace ++ [e]) s'

/-- The snapshots follow each other in time, and the counters that they carry do not fall. -/
structure Growing (trace : List Entry) : Prop where
  times : trace.Pairwise fun e e' => e.time < e'.time
  counters : trace.Pairwise fun e e' => ∀ bytes ∈ e.counter, ∀ bytes' ∈ e'.counter, bytes ≤ bytes'

/-- The source has not been seen: another one has been on the path, or none since the sampling was reset. -/
def Unseen (s : IngestPolicyInspector) (sourceId : Option String) : Prop :=
  s.lastSourceId ≠ sourceId ∨ s.lastSourceId = none ∧ s.lastInboundBytes = none

section
variable {conv : Conversions} {config : IngestPolicyConfig} {s s' s₀ : IngestPolicyInspector} {sourceId : Option String}
  {trace before : List Entry} {e : Entry} {payload path source : List (String × Json)} {now : Timestamp}
  {counter : Option ℤ} {o : Observation} {reasons warnings : List String}

theorem unseen_new : Unseen .new sourceId := .inr ⟨rfl, rfl⟩

theorem unseen_offline (h : IngestPolicyInspector.onlinePath config payload = none) :
    Unseen (s.observe conv config (.finite now) (.ok payload)).1 sourceId := by
  have hnow : requireTimestamp (.finite now) (.runtimeError "ingest observation clock is invalid") = .ok now :=
    requireTimestamp_eq_ok.mpr rfl
  unfold IngestPolicyInspector.observe
  rw [hnow]
  dsimp only
  rw [h]
  exact .inr ⟨rfl, rfl⟩

/-! ### One observation -/

theorem evaluateVideo_reasons {tracks : List Track} (h : evaluateVideo conv tracks = .ok (reasons, warnings)) :
    "BITRATE_TOO_HIGH" ∉ reasons := by
  unfold evaluateVideo at h
  split at h
  · split at h
    · rw [← (Prod.mk.inj (Except.ok.inj h)).1]
      decide
    · obtain ⟨width, -, h⟩ := bind_eq_ok.mp h
      obtain ⟨height, -, h⟩ := bind_eq_ok.mp h
      split at h
      · split at h
        · rw [← (Prod.mk.inj (pure_eq_ok.mp h)).1]
          exact List.not_mem_nil
        · rw [← (Prod.mk.inj (pure_eq_ok.mp h)).1]
          decide
      · rw [← (Prod.mk.inj (pure_eq_ok.mp h)).1]
        exact List.not_mem_nil
  · rw [← (Prod.mk.inj (Except.ok.inj h)).1]
    decide

theorem evaluateAudio_reasons {tracks : List Track} (h : evaluateAudio conv tracks = .ok (reasons, warnings)) :
    "BITRATE_TOO_HIGH" ∉ reasons := by
  unfold evaluateAudio at h
  split at h
  · split at h
    · rw [← (Prod.mk.inj (Except.ok.inj h)).1]
      decide
    · obtain ⟨sampleRate, -, h⟩ := bind_eq_ok.mp h
      obtain ⟨channels, -, h⟩ := bind_eq_ok.mp h
      dsimp only at h
      cases channels with
      | none =>
        rw [← (Prod.mk.inj (pure_eq_ok.mp h)).1]
        exact List.not_mem_nil
      | some channels =>
        rw [← (Prod.mk.inj (pure_eq_ok.mp h)).1]
        split <;> decide
  · rw [← (Prod.mk.inj (Except.ok.inj h)).1]
    decide

/-- No track makes the bitrate too high. -/
theorem evaluateTracks_reasons {tracks : List Track} (h : evaluateTracks conv tracks = .ok (reasons, warnings)) :
    "BITRATE_TOO_HIGH" ∉ reasons := by
  unfold evaluateTracks at h
  obtain ⟨⟨videoReasons, videoWarnings⟩, hvideo, h⟩ := bind_eq_ok.mp h
  obtain ⟨⟨audioReasons, audioWarnings⟩, haudio, h⟩ := bind_eq_ok.mp h
  rw [← (Prod.mk.inj (pure_eq_ok.mp h)).1, List.mem_append, not_or]
  exact ⟨evaluateVideo_reasons hvideo, evaluateAudio_reasons haudio⟩

/-- An observation of an online source samples its counter and judges the bitrate. -/
theorem Observes.sample (h : Observes conv config sourceId s e s') :
    ∃ s₁ bitrate, s.sample sourceId e.counter e.time = (s₁, bitrate) ∧ s' = (s₁.judge config bitrate).1 ∧
      e.observation.bitrateBps = bitrate.map roundTenth ∧
      ("BITRATE_TOO_HIGH" ∈ e.observation.reasons ↔ "BITRATE_TOO_HIGH" ∈ (s₁.judge config bitrate).2.1) := by
  obtain ⟨payload, path, source, honline, rfl, hcounter, h⟩ := h.shown
  have hnow : requireTimestamp (.finite e.time) (.runtimeError "ingest observation clock is invalid") = .ok e.time :=
    requireTimestamp_eq_ok.mpr rfl
  unfold IngestPolicyInspector.observe at h
  rw [hnow] at h
  dsimp only at h
  rw [honline] at h
  dsimp only at h
  rw [hcounter] at h
  dsimp only at h
  generalize normaliseTracks conv _ = tracks at h
  generalize s.sample (sourceText conv source "id") e.counter e.time = sampled at h
  obtain ⟨s₁, bitrate⟩ := sampled
  split at h
  · cases (Prod.mk.inj h).2
  · rename_i reasons warnings htracks
    obtain ⟨rfl, ho⟩ := Prod.mk.inj h
    rw [← Except.ok.inj ho]
    refine ⟨s₁, bitrate, rfl, rfl, rfl, ?_⟩
    dsimp only
    rw [List.mem_append]
    refine or_iff_right fun hmem => ?_
    split at hmem
    · exact List.not_mem_nil hmem
    · exact evaluateTracks_reasons htracks hmem

theorem judge_some {bitrate : ℚ} : ∃ samples judged warnings, s.judge config (some bitrate) =
      ({ s with overBitrateSamples := samples }, judged, warnings) ∧
    samples = (if (config.maxBitrateBps : ℚ) < bitrate then s.overBitrateSamples + 1 else 0) ∧
    ("BITRATE_TOO_HIGH" ∈ judged ↔ config.bitrateViolationSamples ≤ samples) := by
  unfold IngestPolicyInspector.judge
  dsimp only
  split
  · split
    · rename_i hle
      exact ⟨_, _, _, rfl, rfl, iff_of_true (List.mem_singleton_self _) hle⟩
    · rename_i hle
      exact ⟨_, _, _, rfl, rfl, iff_of_false List.not_mem_nil hle⟩
  · exact ⟨_, _, _, rfl, rfl, iff_of_false List.not_mem_nil (Nat.not_le.mpr config.one_le_samples)⟩

/-! ### A trace -/

theorem counted_concat : counted (trace ++ [e]) = counted trace ++ e.sample?.toList := by
  unfold counted
  rw [List.filterMap_append]
  cases h : e.sample? with
  | none => rw [List.filterMap_cons_none h]; rfl
  | some sample => rw [List.filterMap_cons_some h]; rfl

theorem measuredFrom_concat : measuredFrom before (trace ++ [e]) = measuredFrom before trace ++
    (if e.observation.bitrateBps.isSome then (exactBitrate (before ++ trace) e).toList else []) := by
  induction trace generalizing before with
  | nil => simp [measuredFrom]
  | cons x trace ih => rw [List.cons_append, measuredFrom, measuredFrom, ih, List.append_assoc, List.append_assoc]; rfl

theorem measured_concat : measured (trace ++ [e]) = measured trace ++
    (if e.observation.bitrateBps.isSome then (exactBitrate trace e).toList else []) := measuredFrom_concat

theorem exactBitrate_eq_none : exactBitrate before e = none ↔ counted before = [] ∨ e.counter = none := by
  unfold exactBitrate
  cases hlast : (counted before).getLast? with
  | none => exact iff_of_true rfl (.inl (List.getLast?_eq_none_iff.mp hlast))
  | some last =>
    have hne : counted before ≠ [] := by
      rintro hnil
      rw [hnil] at hlast
      cases hlast
    rw [or_iff_right hne]
    cases e.counter with
    | none => exact iff_of_true rfl rfl
    | some bytes => exact iff_of_false (Option.some_ne_none _) (Option.some_ne_none _)

/-- Nothing can be measured exactly when at most one snapshot carries a counter. -/
theorem forall_exactBitrate_eq_none : (∀ before e after, trace = before ++ e :: after → exactBitrate before e = none) ↔
    (counted trace).length ≤ 1 := by
  induction trace using List.reverseRecOn with
  | nil =>
    refine iff_of_true (fun before e after h => ?_) (Nat.zero_le _)
    exact absurd h.symm (List.append_ne_nil_of_right_ne_nil _ (List.cons_ne_nil e after))
  | append_singleton trace e ih =>
    rw [@Splits.forall_concat _ trace e fun before e => exactBitrate before e = none, ih, exactBitrate_eq_none, counted_concat,
      List.length_append, Entry.sample?]
    cases e.counter with
    | none => simp
    | some bytes =>
      simp only [reduceCtorEq, or_false, ← List.length_eq_zero_iff, Option.map_some, Option.toList_some, List.length_singleton]
      omega

/-- What the first snapshot brings about, and every other one keeps. -/
theorem Watched.from_first (φ : List Entry → IngestPolicyInspector → Prop) (h : Watched conv config s₀ sourceId trace s)
    (hne : trace ≠ []) (hfirst : ∀ e s', Observes conv config sourceId s₀ e s' → φ [e] s')
    (hnext : ∀ trace s e s', trace ≠ [] → φ trace s → Observes conv config sourceId s e s' → φ (trace ++ [e]) s') :
    φ trace s := by
  induction h with
  | start => exact absurd rfl hne
  | @observe trace s s' e before h ih =>
    by_cases hnil : trace = []
    · subst hnil
      generalize hempty : ([] : List Entry) = trace at before
      cases before with
      | start => exact hfirst e s' h
      | observe => exact absurd hempty.symm (List.append_ne_nil_of_right_ne_nil _ (List.cons_ne_nil _ _))
    · exact hnext trace s e s' hnil (ih hnil) h

theorem sample_new (h : s.lastSourceId ≠ sourceId) :
    s.sample sourceId counter now = (⟨sourceId, counter, some now, 0, none⟩, none) := if_pos h.symm

/-! ### A source that is never measured -/

/-- The source is known, and nothing has been sampled of it. -/
structure Blind (sourceId : Option String) (trace : List Entry) (s : IngestPolicyInspector) : Prop where
  source : s.lastSourceId = sourceId
  bytes : s.lastInboundBytes = none
  unmeasured : ∀ e ∈ trace, e.observation.bitrateBps = none

theorem Blind.observe (h : Blind sourceId trace s) (hobserves : Observes conv config sourceId s e s') :
    Blind sourceId (trace ++ [e]) s' := by
  obtain ⟨s₁, bitrate, hsample, rfl, hbitrate, -⟩ := hobserves.sample
  have hnone : s.sample sourceId e.counter e.time = (s, none) := by
    unfold IngestPolicyInspector.sample
    rw [if_neg (not_not.mpr h.source.symm), h.bytes]
    cases e.counter <;> rfl
  obtain ⟨rfl, rfl⟩ := Prod.mk.inj (hsample.symm.trans hnone)
  refine ⟨h.source, h.bytes, fun x hx => ?_⟩
  rcases List.mem_append.mp hx with hx | hx
  · exact h.unmeasured x hx
  · rw [List.mem_singleton.mp hx]
    exact hbitrate

/-- A source whose first snapshot carries no counter stays unmeasured, and so does one that is taken for no source. -/
theorem Watched.blind (h : Watched conv config s₀ sourceId trace s) (hunseen : Unseen s₀ sourceId)
    (hbad : ¬(s₀.lastSourceId ≠ sourceId ∧ ∀ e ∈ trace.head?, e.counter.isSome)) : Blind sourceId trace s := by
  by_cases hother : s₀.lastSourceId ≠ sourceId
  · have hhead : ¬∀ e ∈ trace.head?, e.counter.isSome := fun hhead => hbad ⟨hother, hhead⟩
    have hne : trace ≠ [] := by
      rintro rfl
      exact hhead fun e he => by cases he
    have hblind : (¬∀ e ∈ trace.head?, e.counter.isSome) → Blind sourceId trace s := by
      refine h.from_first (fun trace s => (¬∀ e ∈ trace.head?, e.counter.isSome) → Blind sourceId trace s) hne (fun e s' hobserves hhead => ?_) fun trace s e s' hne ih hobserves hhead => ?_
      · obtain ⟨s₁, bitrate, hsample, rfl, hbitrate, -⟩ := hobserves.sample
        obtain ⟨rfl, rfl⟩ := Prod.mk.inj (hsample.symm.trans (sample_new hother))
        have hnone : e.counter = none := by
          by_contra hsome
          refine hhead fun x hx => ?_
          rw [← Option.some.inj hx]
          exact Option.isSome_iff_ne_none.mpr hsome
        exact ⟨rfl, hnone, fun x hx => by rw [List.mem_singleton.mp hx]; exact hbitrate⟩
      · rw [List.head?_append_of_ne_nil _ hne] at hhead
        exact (ih hhead).observe hobserves
    exact hblind hhead
  · have hsource := not_not.mp hother
    have hbytes : s₀.lastInboundBytes = none := by
      rcases hunseen with hne | ⟨-, hbytes⟩
      · exact absurd hsource hne
      · exact hbytes
    clear hbad
    induction h with
    | start => exact ⟨hsource, hbytes, fun e he => by cases he⟩
    | observe before h ih => exact ih.observe h

theorem Blind.measures_iff (h : Blind sourceId trace s) : Measures config trace ↔ (counted trace).length ≤ 1 := by
  rw [← forall_exactBitrate_eq_none]
  refine forall_congr' fun before => forall_congr' fun e => forall_congr' fun after => imp_congr_right fun hsplit => ?_
  have hnone : e.observation.bitrateBps = none :=
    h.unmeasured e (by rw [hsplit]; exact List.mem_append_right _ (List.mem_cons_self ..))
  unfold MeasuredAt
  rw [hnone]
  constructor
  · rintro ⟨hexact, -⟩
    rw [Option.eq_none_iff_forall_ne_some]
    intro bitrate hbitrate
    exact absurd (hexact bitrate hbitrate).symm (Option.some_ne_none _)
  · intro hexact
    exact ⟨fun bitrate hbitrate => absurd (hbitrate.symm.trans hexact) (Option.some_ne_none _), fun hsome => by cases hsome⟩

/-! ### A source that is measured -/

def tooHigh (config : IngestPolicyConfig) (bitrate : ℚ) : Bool := (config.maxBitrateBps : ℚ) < bitrate

theorem length_tooHigh_concat {bitrates : List ℚ} {bitrate : ℚ} : ((bitrates ++ [bitrate]).rtakeWhile (tooHigh config)).length =
    if (config.maxBitrateBps : ℚ) < bitrate then (bitrates.rtakeWhile (tooHigh config)).length + 1 else 0 := by
  split
  · rename_i hhigh
    rw [List.rtakeWhile_concat_pos (tooHigh config) _ _ (decide_eq_true hhigh), List.length_append]
    rfl
  · rename_i hlow
    rw [List.rtakeWhile_concat_neg (tooHigh config) _ _ (by rw [tooHigh, decide_eq_true_eq]; exact hlow)]
    rfl

/-- The last counter is the one that the next is measured against, and the measured bitrates above the limit at the end are
    counted. -/
structure Follows (config : IngestPolicyConfig) (sourceId : Option String) (trace : List Entry) (s : IngestPolicyInspector) :
    Prop where
  source : s.lastSourceId = sourceId
  last : ∃ last, (counted trace).getLast? = some last ∧ s.lastSampleAt = some last.1 ∧ s.lastInboundBytes = some last.2
  samples : s.overBitrateSamples = ((measured trace).rtakeWhile (tooHigh config)).length
  measures : Measures config trace

theorem measures_concat : Measures config (trace ++ [e]) ↔ Measures config trace ∧ MeasuredAt config trace e :=
  Splits.forall_concat

theorem mem_counted {sample : Timestamp × ℤ} (h : sample ∈ counted trace) :
    ∃ e ∈ trace, e.time = sample.1 ∧ e.counter = some sample.2 := by
  obtain ⟨e, he, hsample⟩ := List.mem_filterMap.mp h
  obtain ⟨bytes, hbytes, rfl⟩ := Option.map_eq_some_iff.mp hsample
  exact ⟨e, he, rfl, hbytes⟩

/-- A new counter is later than the last one, and not below it. -/
theorem Growing.last (h : Growing (trace ++ [e])) {last : Timestamp × ℤ} (hlast : (counted trace).getLast? = some last)
    {bytes : ℤ} (hbytes : e.counter = some bytes) : last.1 < e.time ∧ last.2 ≤ bytes := by
  obtain ⟨x, hx, htime, hcounter⟩ := mem_counted (List.mem_of_getLast? hlast)
  obtain ⟨-, -, htimes⟩ := List.pairwise_append.mp h.times
  obtain ⟨-, -, hcounters⟩ := List.pairwise_append.mp h.counters
  exact ⟨htime ▸ htimes x hx e (List.mem_singleton_self e),
    hcounters x hx e (List.mem_singleton_self e) _ hcounter _ hbytes⟩

theorem Follows.skip (h : Follows config sourceId trace s) (hcounter : e.counter = none)
    (hbitrate : e.observation.bitrateBps = none) : Follows config sourceId (trace ++ [e]) s := by
  have hcounted : counted (trace ++ [e]) = counted trace := by
    rw [counted_concat, Entry.sample?, hcounter]
    exact List.append_nil _
  have hmeasured : measured (trace ++ [e]) = measured trace := by
    rw [measured_concat, hbitrate]
    exact List.append_nil _
  refine ⟨h.source, by rw [hcounted]; exact h.last, by rw [hmeasured]; exact h.samples, measures_concat.mpr ⟨h.measures, ?_⟩⟩
  refine ⟨fun bitrate hexact => ?_, fun hsome => by rw [hbitrate] at hsome; cases hsome⟩
  rw [exactBitrate_eq_none.mpr (.inr hcounter)] at hexact
  cases hexact

theorem Follows.observe (h : Follows config sourceId trace s) (hobserves : Observes conv config sourceId s e s')
    (hgrowing : Growing (trace ++ [e])) : Follows config sourceId (trace ++ [e]) s' := by
  obtain ⟨s₁, bitrate, hsample, rfl, hbitrate, hreasons⟩ := hobserves.sample
  unfold IngestPolicyInspector.sample at hsample
  rw [if_neg (not_not.mpr h.source.symm)] at hsample
  obtain ⟨last, hlast, hlastAt, hlastBytes⟩ := h.last
  cases hcounter : e.counter with
  | none =>
    rw [hcounter] at hsample
    obtain ⟨rfl, rfl⟩ := Prod.mk.inj hsample
    exact h.skip hcounter hbitrate
  | some bytes =>
    rw [hcounter, hlastAt, hlastBytes] at hsample
    dsimp only at hsample
    rw [if_pos (hgrowing.last hlast hcounter)] at hsample
    obtain ⟨rfl, rfl⟩ := Prod.mk.inj hsample
    have hexact : exactBitrate trace e = some ((bytes - last.2) * 8 / ((e.time : ℚ) - last.1)) := by
      unfold exactBitrate
      rw [hlast, hcounter]
      rfl
    generalize ((bytes : ℚ) - last.2) * 8 / ((e.time : ℚ) - last.1) = exact at hexact hbitrate hreasons ⊢
    obtain ⟨samples, judged, warnings, hjudge, hover, htoo⟩ :=
      @judge_some config { s with lastInboundBytes := some bytes, lastSampleAt := some e.time } exact
    rw [hjudge] at hreasons ⊢
    have hmeasured : measured (trace ++ [e]) = measured trace ++ [exact] := by
      rw [measured_concat, hbitrate, hexact]
      rfl
    have hcount : samples = ((measured (trace ++ [e])).rtakeWhile (tooHigh config)).length := by
      rw [hmeasured, length_tooHigh_concat, ← h.samples]
      exact hover
    refine ⟨h.source, ⟨(e.time, bytes), ?_, rfl, rfl⟩, hcount, measures_concat.mpr ⟨h.measures, ?_, fun _ => ?_⟩⟩
    · rw [counted_concat, Entry.sample?, hcounter]
      exact List.getLast?_concat ..
    · intro b hb
      rw [← Option.some.inj (hexact.symm.trans hb)]
      exact hbitrate
    · rw [hreasons, htoo, hcount, Splits.le_length_rtakeWhile_iff]
      simp only [tooHigh, decide_eq_true_eq]

theorem Watched.follows (h : Watched conv config s₀ sourceId trace s) (hother : s₀.lastSourceId ≠ sourceId)
    (hne : trace ≠ []) (hhead : ∀ e ∈ trace.head?, e.counter.isSome) (hgrowing : Growing trace) :
    Follows config sourceId trace s := by
  revert hhead hgrowing
  refine h.from_first (fun trace s => (∀ e ∈ trace.head?, e.counter.isSome) → Growing trace → Follows config sourceId trace s)
    hne (fun e s' hobserves hhead _ => ?_) fun trace s e s' hne ih hobserves hhead hgrowing => ?_
  · obtain ⟨s₁, bitrate, hsample, rfl, hbitrate, -⟩ := hobserves.sample
    obtain ⟨rfl, rfl⟩ := Prod.mk.inj (hsample.symm.trans (sample_new hother))
    obtain ⟨bytes, hbytes⟩ := Option.isSome_iff_exists.mp (hhead e rfl)
    have hmeasured : measured [e] = [] := by
      unfold measured measuredFrom
      rw [hbitrate]
      rfl
    refine ⟨rfl, ⟨(e.time, bytes), ?_, rfl, hbytes⟩, by rw [hmeasured]; rfl, ?_⟩
    · unfold counted
      rw [List.filterMap_cons_some (show e.sample? = some (e.time, bytes) by rw [Entry.sample?, hbytes]; rfl)]
      rfl
    · have hempty : Measures config [] := fun before x after hsplit =>
        absurd hsplit.symm (List.append_ne_nil_of_right_ne_nil _ (List.cons_ne_nil x after))
      have hexact : exactBitrate [] e = none := exactBitrate_eq_none.mpr (.inl rfl)
      have hat : MeasuredAt config [] e := by
        refine ⟨fun bitrate hmeasured => ?_, fun hsome => ?_⟩
        · cases hmeasured.symm.trans hexact
        · rw [hbitrate] at hsome
          cases hsome
      have hmeasures : Measures config ([] ++ [e]) := measures_concat.mpr ⟨hempty, hat⟩
      exact hmeasures
  · rw [List.head?_append_of_ne_nil _ hne] at hhead
    have hbefore : Growing trace :=
      ⟨(List.pairwise_append.mp hgrowing.times).1, (List.pairwise_append.mp hgrowing.counters).1⟩
    exact (ih hhead hbefore).observe hobserves hgrowing

/-- **A source is measured as the policy says exactly when** its first snapshot carries a counter, and it is taken for a new
    source, unless there is nothing to measure. -/
theorem bitrate_policy_iff (h : Watched conv config s₀ sourceId trace s) (hunseen : Unseen s₀ sourceId)
    (hgrowing : Growing trace) : Measures config trace ↔
      (s₀.lastSourceId ≠ sourceId ∧ ∀ e ∈ trace.head?, e.counter.isSome) ∨ (counted trace).length ≤ 1 := by
  by_cases hgood : s₀.lastSourceId ≠ sourceId ∧ ∀ e ∈ trace.head?, e.counter.isSome
  · refine iff_of_true ?_ (.inl hgood)
    by_cases hne : trace = []
    · subst hne
      exact fun before e after hsplit => absurd hsplit.symm (List.append_ne_nil_of_right_ne_nil _ (List.cons_ne_nil e after))
    · exact (h.follows hgood.1 hne hgood.2 hgrowing).measures
  · rw [or_iff_right hgood]
    exact (h.blind hunseen hgood).measures_iff

end
namespace PublisherSample

def conv : Conversions := ⟨fun _ => "", fun _ => none⟩

def source : List (String × Json) := [("type", .str "rtmpConn"), ("id", .str "source-1")]

def path (counter : Option ℤ) : List (String × Json) :=
  [("name", .str "live/input"), ("online", .bool true), ("source", .obj source)] ++
    counter.toList.map fun bytes => ("inboundBytes", .int bytes)

/-- What MediaMTX answers while the publisher is there, with or without its counter. -/
def payload (counter : Option ℤ) : List (String × Json) := [("items", .arr [.obj (path counter)])]

theorem onlinePath_payload (counter : Option ℤ) :
    IngestPolicyInspector.onlinePath .shipped (payload counter) = some (path counter, source) := by
  cases counter <;> simp [IngestPolicyInspector.onlinePath, IngestPolicyInspector.pathSnapshot, payload, path, List.lookup_cons,
    IngestPolicyConfig.shipped, Egress.truthy]

theorem exists_observes (s : IngestPolicyInspector) (time : Timestamp) (counter : Option ℤ) :
    ∃ o s', Observes conv .shipped (some "source-1") s ⟨time, counter, o⟩ s' := by
  have hnow : requireTimestamp (.finite time) (.runtimeError "ingest observation clock is invalid") = .ok time :=
    requireTimestamp_eq_ok.mpr rfl
  have hcounter : safeInt conv ((path counter).lookup "inboundBytes") = .ok counter := by
    cases counter <;> simp [path, List.lookup_cons, safeInt]
  have htracks : (path counter).lookup "tracks2" = none := by
    cases counter <;> simp [path, List.lookup_cons]
  generalize hresult : s.observe conv .shipped (.finite time) (.ok (payload counter)) = result
  obtain ⟨s', observed⟩ := result
  cases observed with
  | ok o => exact ⟨o, s', ⟨_, _, _, onlinePath_payload counter, by decide +kernel, hcounter, hresult⟩⟩
  | error error =>
    unfold IngestPolicyInspector.observe at hresult
    rw [hnow] at hresult
    dsimp only at hresult
    rw [onlinePath_payload] at hresult
    dsimp only at hresult
    rw [hcounter, htracks] at hresult
    cases (Prod.mk.inj hresult).2

end PublisherSample

open PublisherSample in
theorem bitrate_policy_iff_sample : ∃ trace s, Watched conv .shipped .new (some "source-1") trace s ∧
    trace.map Entry.counter = [some 0, some 1500000] ∧ Measures .shipped trace := by
  obtain ⟨o₁, s₁, h₁⟩ := exists_observes .new 0 (some 0)
  obtain ⟨o₂, s₂, h₂⟩ := exists_observes s₁ 1 (some 1500000)
  have hwatched := (Watched.start.observe h₁).observe h₂
  have hgrowing : Growing ([] ++ [⟨0, some 0, o₁⟩] ++ [⟨1, some 1500000, o₂⟩]) := by
    constructor <;> simp
  refine ⟨_, s₂, hwatched, rfl, (bitrate_policy_iff hwatched unseen_new hgrowing).mpr (.inl ⟨by decide, fun e he => ?_⟩)⟩
  rw [← Option.some.inj he]
  rfl

open PublisherSample in
/-- The first snapshot of a source carries no counter, and a gigabyte in a second is not reported after it. -/
theorem source_never_measured : ∃ trace s, Watched conv .shipped .new (some "source-1") trace s ∧ Growing trace ∧
    trace.map Entry.counter = [none, some 0, some 1000000000] ∧ ¬Measures .shipped trace := by
  obtain ⟨o₁, s₁, h₁⟩ := exists_observes .new 0 none
  obtain ⟨o₂, s₂, h₂⟩ := exists_observes s₁ 1 (some 0)
  obtain ⟨o₃, s₃, h₃⟩ := exists_observes s₂ ((2 : ℕ) : Timestamp) (some 1000000000)
  have hwatched := ((Watched.start.observe h₁).observe h₂).observe h₃
  refine ⟨_, s₃, hwatched, ?_, rfl, fun hmeasures => ?_⟩
  · constructor <;> simp
  · have hblind := hwatched.blind unseen_new fun hgood => by cases hgood.2 _ rfl
    exact absurd (hblind.measures_iff.mp hmeasures) (Nat.not_le.mpr (Nat.lt_succ_self 1))

end IRLight.NodeAgent
