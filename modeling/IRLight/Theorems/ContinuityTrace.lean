import IRLight.Collections.FinalChain
import IRLight.Continuity.State
import Mathlib.Data.List.Induction

/-! # What the continuity decision means

The state keeps two times of the video, and forgets one of them in `decide`. The decision is nevertheless that of the
whole history: live video when the observations without a gap up to now began long enough ago. -/

namespace IRLight.Continuity

/-! ### The history -/

def Call.time? : Call → Option ℚ
  | observeVideo now | observeAudio now | decide now => some now
  | setAudioMode _ => none

def Call.videoAt? : Call → Option ℚ
  | observeVideo now => some now
  | _ => none

def Call.audioAt? : Call → Option ℚ
  | observeAudio now => some now
  | _ => none

def Call.mode? : Call → Option AudioMode
  | setAudioMode mode => (audioModeOf mode).toOption
  | _ => none

def Call.isDecide : Call → Bool
  | decide _ => true
  | _ => false

/-- The times of the calls, of the video observations and of the audio observations. -/
def times (calls : List Call) : List ℚ := calls.filterMap Call.time?
def videoTimes (calls : List Call) : List ℚ := calls.filterMap Call.videoAt?
def audioTimes (calls : List Call) : List ℚ := calls.filterMap Call.audioAt?

/-- The audio mode that was set last. -/
def modeSet (calls : List Call) : AudioMode := ((calls.filterMap Call.mode?).getLast?).getD .live

section
variable (config : ContinuityConfig)

/-- The second observation follows the first within the timeout. -/
def Follows (first second : ℚ) : Prop := config.elapsed.between second first ≤ config.inputTimeout

/-- The last observation is within the timeout. -/
def Recent (now : ℚ) (observed : List ℚ) : Prop := ∃ last ∈ observed.getLast?, Follows config last now

/-- The observations without a gap began the stable window before now. -/
def Stable (now : ℚ) (observed : List ℚ) : Prop := ∃ chain, IsFinalChain (Follows config) observed chain ∧
  ∃ began ∈ chain.head?, config.stableWindow ≤ config.elapsed.between now began

end

/-! ### The state -/

/-- What the state says of the history. -/
structure Tracks (config : ContinuityConfig) (calls : List Call) (s : ContinuityState) : Prop where
  mode : s.desiredAudio = modeSet calls
  video : s.lastVideoAt = (videoTimes calls).getLast?
  audio : s.lastAudioAt = (audioTimes calls).getLast?
  since : ∃ chain, IsFinalChain (Follows config) (videoTimes calls) chain ∧
    -- the start of the chain is known, or the chain was already over at some call
    (s.videoStableSince = chain.head? ∨ ∃ t ∈ times calls, ¬Recent config t (videoTimes calls))

section
variable {config : ContinuityConfig} {calls : List Call} {s : ContinuityState} {now t : ℚ} {observed : List ℚ}

theorem recent_eq_true : ContinuityState.recent config now observed.getLast? = true ↔ Recent config now observed := by
  unfold ContinuityState.recent Recent Follows
  rw [Option.any_eq_true]
  simp only [decide_eq_true_eq, Option.mem_def]

/-- What is over stays over. -/
theorem Recent.of_le (h : Recent config now observed) (hle : t ≤ now) : Recent config t observed := by
  obtain ⟨last, hlast, hfollows⟩ := h
  exact ⟨last, hlast, (config.elapsed.monotone last hle).trans hfollows⟩

theorem tracks_initial : Tracks config [] .initial where
  mode := rfl
  video := rfl
  audio := rfl
  since := ⟨[], .nil, .inl rfl⟩

/-! ### One call -/

theorem times_concat (call : Call) : times (calls ++ [call]) = times calls ++ call.time?.toList := by
  unfold times
  rw [List.filterMap_append]
  rfl

theorem videoTimes_concat (call : Call) : videoTimes (calls ++ [call]) = videoTimes calls ++ call.videoAt?.toList := by
  unfold videoTimes
  rw [List.filterMap_append]
  rfl

theorem videoTimes_concat_none (call : Call) (hcall : call.videoAt? = none) :
    videoTimes (calls ++ [call]) = videoTimes calls := by
  rw [videoTimes_concat, hcall]
  exact List.append_nil _

theorem audioTimes_concat (call : Call) : audioTimes (calls ++ [call]) = audioTimes calls ++ call.audioAt?.toList := by
  unfold audioTimes
  rw [List.filterMap_append]
  rfl

theorem audioTimes_concat_none (call : Call) (hcall : call.audioAt? = none) :
    audioTimes (calls ++ [call]) = audioTimes calls := by
  rw [audioTimes_concat, hcall]
  exact List.append_nil _

theorem modeSet_concat (call : Call) : modeSet (calls ++ [call]) = call.mode?.getD (modeSet calls) := by
  unfold modeSet
  rw [List.filterMap_append, List.getLast?_append]
  cases h : call.mode? with
  | none => simp [h]
  | some mode => simp [h]

/-- A call that observes no video keeps what is known of the video. -/
theorem Tracks.since_concat (h : Tracks config calls s) (call : Call) (hcall : call.videoAt? = none) :
    ∃ chain, IsFinalChain (Follows config) (videoTimes (calls ++ [call])) chain ∧
      (s.videoStableSince = chain.head? ∨ ∃ t ∈ times (calls ++ [call]), ¬Recent config t (videoTimes (calls ++ [call]))) := by
  obtain ⟨chain, hchain, hsince⟩ := h.since
  rw [videoTimes_concat_none call hcall, times_concat]
  exact ⟨chain, hchain, hsince.imp_right fun ⟨t, ht, hover⟩ => ⟨t, List.mem_append_left _ ht, hover⟩⟩

theorem Tracks.observeVideo (h : Tracks config calls s) (hlater : ∀ t ∈ times calls, t ≤ now) :
    Tracks config (calls ++ [.observeVideo now]) (s.observeVideo config now) where
  mode := h.mode.trans (modeSet_concat (.observeVideo now)).symm
  video := by
    rw [videoTimes_concat]
    exact (List.getLast?_concat ..).symm
  audio := h.audio.trans (congrArg _ (audioTimes_concat_none _ rfl).symm)
  since := by
    obtain ⟨chain, hchain, hsince⟩ := h.since
    rw [videoTimes_concat]
    change ∃ chain, IsFinalChain (Follows config) (videoTimes calls ++ [now]) chain ∧ _
    unfold ContinuityState.observeVideo
    rw [h.video]
    cases hlast : (videoTimes calls).getLast? with
    | none =>
      have hnone : ∀ last ∈ (videoTimes calls).getLast?, ¬Follows config last now := by simp [hlast]
      exact ⟨[now], .concat_new hnone, .inl rfl⟩
    | some last =>
      simp only
      by_cases hgap : config.inputTimeout < config.elapsed.between now last
      · rw [if_pos hgap]
        refine ⟨[now], IsFinalChain.concat_new fun last' hmem => ?_, .inl rfl⟩
        obtain rfl := Option.some.inj (hlast.symm.trans hmem)
        exact not_le.mpr hgap
      · rw [if_neg hgap]
        have hfollows : Follows config last now := not_lt.mp hgap
        refine ⟨chain ++ [now], hchain.concat fun last' hmem => ?_, .inl ?_⟩
        · obtain rfl := Option.some.inj (hlast.symm.trans hmem)
          exact hfollows
        · rcases hsince with hsince | ⟨t, ht, hover⟩
          · rw [hsince, List.head?_append]
            rcases chain with _ | ⟨began, rest⟩
            · have hnil := hchain.getLast?_eq.trans hlast
              cases hnil
            · rfl
          -- the video was not over, since this observation follows the last one
          · exact absurd (Recent.of_le ⟨last, hlast, hfollows⟩ (hlater t ht)) hover

theorem Tracks.observeAudio (h : Tracks config calls s) :
    Tracks config (calls ++ [.observeAudio now]) (s.observeAudio now) where
  mode := h.mode.trans (modeSet_concat (.observeAudio now)).symm
  video := h.video.trans (congrArg _ (videoTimes_concat_none _ rfl).symm)
  audio := by
    rw [audioTimes_concat]
    exact (List.getLast?_concat ..).symm
  since := h.since_concat _ rfl

/-- A mode that is not one changes nothing. -/
theorem setAudioMode_eq (mode : String) : (Call.setAudioMode mode).step config s =
    { s with desiredAudio := (Call.setAudioMode mode).mode?.getD s.desiredAudio } := by
  unfold Call.step ContinuityState.setAudioMode Call.mode?
  simp only
  cases audioModeOf mode with
  | ok mode => rfl
  | error e => rfl

theorem Tracks.setAudioMode (h : Tracks config calls s) (mode : String) :
    Tracks config (calls ++ [.setAudioMode mode]) ((Call.setAudioMode mode).step config s) := by
  rw [setAudioMode_eq]
  refine ⟨?_, h.video.trans (congrArg _ (videoTimes_concat_none _ rfl).symm),
    h.audio.trans (congrArg _ (audioTimes_concat_none _ rfl).symm), h.since_concat _ rfl⟩
  rw [modeSet_concat, h.mode]

/-- A decision forgets the start of a chain that is over. -/
theorem Tracks.decide (h : Tracks config calls s) : Tracks config (calls ++ [.decide now]) (s.decide config now).2 := by
  have hmode := h.mode.trans (modeSet_concat (.decide now)).symm
  have hvideo := h.video.trans (congrArg List.getLast? (videoTimes_concat_none (.decide now) rfl).symm)
  have haudio := h.audio.trans (congrArg List.getLast? (audioTimes_concat_none (.decide now) rfl).symm)
  obtain ⟨chain, hchain, hsince⟩ := h.since_concat (.decide now) rfl
  unfold ContinuityState.decide
  by_cases hrecent : ContinuityState.recent config now s.lastVideoAt
  · simp only [hrecent, if_true]
    exact ⟨hmode, hvideo, haudio, chain, hchain, hsince⟩
  · simp only [hrecent]
    refine ⟨hmode, hvideo, haudio, chain, hchain, .inr ⟨now, ?_, ?_⟩⟩
    · rw [times_concat]
      exact List.mem_append_right _ (List.mem_singleton_self _)
    · rwa [← recent_eq_true, ← hvideo]

theorem Tracks.step (h : Tracks config calls s) (call : Call) (hlater : ∀ t ∈ times calls, ∀ now ∈ call.time?, t ≤ now) :
    Tracks config (calls ++ [call]) (call.step config s) := by
  cases call with
  | observeVideo now => exact h.observeVideo fun t ht => hlater t ht now rfl
  | observeAudio now => exact h.observeAudio
  | setAudioMode mode => exact h.setAudioMode mode
  | decide now => exact h.decide

/-! ### Every history -/

theorem tracks_run (hsorted : (times calls).Pairwise (· ≤ ·)) : Tracks config calls (.run config calls) := by
  induction calls using List.reverseRecOn with
  | nil => exact tracks_initial
  | append_singleton calls call ih =>
    rw [times_concat, List.pairwise_append] at hsorted
    unfold ContinuityState.run
    rw [List.foldl_append]
    refine (ih hsorted.1).step call fun t ht now hnow => hsorted.2.2 t ht now ?_
    rw [Option.mem_def.mp hnow]
    exact List.mem_singleton_self _

/-- What a decision is, from the history. -/
structure Decides (config : ContinuityConfig) (calls : List Call) (now : ℚ) (d : Decision) : Prop where
  live : d.videoSource = .live ↔ Recent config now (videoTimes calls) ∧ Stable config now (videoTimes calls)
  statusLive : d.sessionStatus = .live ↔ d.videoSource = .live
  holding : d.sessionStatus = .holding ↔ ¬Recent config now (videoTimes calls)
  stabilizing : d.sessionStatus = .stabilizing ↔
    Recent config now (videoTimes calls) ∧ ¬Stable config now (videoTimes calls)
  muted : d.actualAudio = .muted ↔ modeSet calls = .muted
  audioLive : d.actualAudio = .live ↔ modeSet calls = .live ∧ d.videoSource = .live ∧ Recent config now (audioTimes calls)
  videoRecent : d.videoRecent ↔ Recent config now (videoTimes calls)
  audioRecent : d.audioRecent ↔ Recent config now (audioTimes calls)

/-- The history leaves no choice. -/
theorem Decides.unique {d d' : Decision} (h : Decides config calls now d) (h' : Decides config calls now d') : d = d' := by
  have hstatusLive := h.statusLive.trans (h.live.trans (h'.live.symm.trans h'.statusLive.symm))
  have hholding := h.holding.trans h'.holding.symm
  have hsource := h.live.trans h'.live.symm
  have hmuted := h.muted.trans h'.muted.symm
  have haudioLive := h.audioLive.trans ((and_congr Iff.rfl (and_congr hsource Iff.rfl)).trans h'.audioLive.symm)
  have hvideo := h.videoRecent.trans h'.videoRecent.symm
  have haudio := h.audioRecent.trans h'.audioRecent.symm
  obtain ⟨status, source, audio, videoRecent, audioRecent⟩ := d
  obtain ⟨status', source', audio', videoRecent', audioRecent'⟩ := d'
  simp only at hstatusLive hholding hsource hmuted haudioLive hvideo haudio
  obtain rfl : status = status' := by cases status <;> cases status' <;> simp_all
  obtain rfl : source = source' := by cases source <;> cases source' <;> simp_all
  obtain rfl : audio = audio' := by cases audio <;> cases audio' <;> simp_all
  rw [Bool.eq_iff_iff.mpr hvideo, Bool.eq_iff_iff.mpr haudio]

/-- While the video is there, its start is known. -/
theorem Tracks.stable_eq_true (h : Tracks config calls s) (hlater : ∀ t ∈ times calls, t ≤ now)
    (hrecent : Recent config now (videoTimes calls)) :
    ContinuityState.stable config now s.videoStableSince = true ↔ Stable config now (videoTimes calls) := by
  obtain ⟨chain, hchain, hsince | ⟨t, ht, hover⟩⟩ := h.since
  · unfold ContinuityState.stable
    rw [hsince, Option.any_eq_true]
    simp only [decide_eq_true_eq]
    refine ⟨fun hbegan => ⟨chain, hchain, hbegan⟩, fun ⟨chain', hchain', hbegan⟩ => ?_⟩
    rwa [hchain.unique hchain']
  · exact absurd (hrecent.of_le (hlater t ht)) hover

theorem chooseVideo_spec (videoRecent stable : Bool) :
    ((chooseVideo videoRecent stable).2 = .live ↔ videoRecent ∧ stable) ∧
      ((chooseVideo videoRecent stable).1 = .live ↔ (chooseVideo videoRecent stable).2 = .live) ∧
      ((chooseVideo videoRecent stable).1 = .holding ↔ ¬videoRecent) ∧
      ((chooseVideo videoRecent stable).1 = .stabilizing ↔ videoRecent ∧ ¬stable) := by
  cases videoRecent <;> cases stable <;> decide

theorem chooseAudio_spec (mode : AudioMode) (source : VideoSource) (audioRecent : Bool) :
    (chooseAudio mode source audioRecent = .muted ↔ mode = .muted) ∧
      (chooseAudio mode source audioRecent = .live ↔ mode = .live ∧ source = .live ∧ audioRecent) := by
  cases mode <;> cases source <;> cases audioRecent <;> decide

theorem Tracks.decides (h : Tracks config calls s) (hlater : ∀ t ∈ times calls, t ≤ now) :
    Decides config calls now (s.decide config now).1 := by
  have hvideo : ContinuityState.recent config now s.lastVideoAt = true ↔ Recent config now (videoTimes calls) := by
    rw [h.video, recent_eq_true]
  have haudio : ContinuityState.recent config now s.lastAudioAt = true ↔ Recent config now (audioTimes calls) := by
    rw [h.audio, recent_eq_true]
  obtain ⟨hlive, hstatusLive, hholding, hstabilizing⟩ := chooseVideo_spec
    (ContinuityState.recent config now s.lastVideoAt) (ContinuityState.stable config now s.videoStableSince)
  obtain ⟨hmuted, haudioLive⟩ := chooseAudio_spec s.desiredAudio (s.decide config now).1.videoSource
    (ContinuityState.recent config now s.lastAudioAt)
  rw [hvideo] at hlive hholding hstabilizing
  rw [h.mode] at hmuted haudioLive
  rw [haudio] at haudioLive
  exact
    { live := hlive.trans (and_congr_right fun hrecent => h.stable_eq_true hlater hrecent)
      statusLive := hstatusLive
      holding := hholding
      stabilizing := hstabilizing.trans (and_congr_right fun hrecent => not_congr (h.stable_eq_true hlater hrecent))
      muted := h.mode ▸ hmuted
      audioLive := h.mode ▸ haudioLive
      videoRecent := hvideo
      audioRecent := haudio }

theorem videoTimes_filter (calls : List Call) : videoTimes (calls.filter fun call => !call.isDecide) = videoTimes calls := by
  unfold videoTimes
  rw [List.filterMap_filter]
  congr 1
  funext call
  cases call <;> rfl

theorem audioTimes_filter (calls : List Call) : audioTimes (calls.filter fun call => !call.isDecide) = audioTimes calls := by
  unfold audioTimes
  rw [List.filterMap_filter]
  congr 1
  funext call
  cases call <;> rfl

theorem modeSet_filter (calls : List Call) : modeSet (calls.filter fun call => !call.isDecide) = modeSet calls := by
  unfold modeSet
  rw [List.filterMap_filter]
  congr 3
  funext call
  cases call <;> rfl

/-- Decisions leave no trace in the history. -/
theorem Decides.of_filter {others : List Call} {d : Decision} (h : Decides config others now d)
    (hsame : (others.filter fun call => !call.isDecide) = calls.filter fun call => !call.isDecide) :
    Decides config calls now d := by
  have hvideo : videoTimes others = videoTimes calls := by rw [← videoTimes_filter, hsame, videoTimes_filter]
  have haudio : audioTimes others = audioTimes calls := by rw [← audioTimes_filter, hsame, audioTimes_filter]
  have hmode : modeSet others = modeSet calls := by rw [← modeSet_filter, hsame, modeSet_filter]
  obtain ⟨hlive, hstatusLive, hholding, hstabilizing, hmuted, haudioLive, hvideoRecent, haudioRecent⟩ := h
  rw [hvideo] at hlive hholding hstabilizing hvideoRecent
  rw [haudio] at haudioLive haudioRecent
  rw [hmode] at hmuted haudioLive
  exact ⟨hlive, hstatusLive, hholding, hstabilizing, hmuted, haudioLive, hvideoRecent, haudioRecent⟩

theorem decides_run (hsorted : (times calls ++ [now]).Pairwise (· ≤ ·)) :
    Decides config calls now ((ContinuityState.run config calls).decide config now).1 := by
  obtain ⟨hcalls, -, hlater⟩ := List.pairwise_append.mp hsorted
  exact (tracks_run hcalls).decides fun t ht => hlater t ht now (List.mem_singleton_self _)

/-- **The decision of the whole history.** After calls at non-decreasing times `decide` gives what the history says, and
    it gives the same after any history with the same calls other than decisions. -/
theorem continuity_trace (hsorted : (times calls ++ [now]).Pairwise (· ≤ ·)) :
    Decides config calls now ((ContinuityState.run config calls).decide config now).1 ∧
      ∀ others : List Call, (times others ++ [now]).Pairwise (· ≤ ·) →
        (others.filter fun call => !call.isDecide) = (calls.filter fun call => !call.isDecide) →
        ((ContinuityState.run config others).decide config now).1 = ((ContinuityState.run config calls).decide config now).1 :=
  ⟨decides_run hsorted, fun _ hothers hsame => ((decides_run hothers).of_filter hsame).unique (decides_run hsorted)⟩

/-- A gap of exactly the timeout is none, and a decision in a longer gap changes nothing. -/
theorem continuity_trace_sample :
    let config : ContinuityConfig := ⟨.exact, 2, 4, by decide, by decide⟩
    let calls : List Call := [.observeVideo 0, .observeVideo 3, .observeVideo 5, .observeVideo 7]
    Decides config calls 8 ((ContinuityState.run config calls).decide config 8).1 ∧
      ((ContinuityState.run config (.decide 0 :: calls)).decide config 8).1 =
        ((ContinuityState.run config calls).decide config 8).1 := by
  intro config calls
  have h := @continuity_trace config calls 8 (by decide)
  exact ⟨h.1, h.2 _ (by decide) rfl⟩

end
end IRLight.Continuity
