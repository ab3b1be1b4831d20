import IRLight.Theorems.ContinuityTrace

/-! # Calls that overtake each other

The time of a call is read before the lock of the state is taken, so a decision may be applied before an observation
that read the clock earlier. Such a decision can forget when the video began, and the observation does not restore it. -/

namespace IRLight.Continuity

/-- A decision found the video gone, and the observations applied after it leave no gap to the one before it. -/
def Overtaken (config : ContinuityConfig) (calls : List Call) : Prop :=
  ∃ before t after, calls = before ++ .decide t :: after ∧ ∃ last ∈ (videoTimes before).getLast?,
    ¬Follows config last t ∧ (last :: videoTimes after).IsChain (Follows config)

section
variable {config : ContinuityConfig} {calls before after : List Call} {call : Call} {s : ContinuityState} {now t last : ℚ}

theorem videoTimes_append : videoTimes (before ++ after) = videoTimes before ++ videoTimes after := List.filterMap_append

theorem videoTimes_cons_none (hcall : call.videoAt? = none) : videoTimes (call :: calls) = videoTimes calls :=
  List.filterMap_cons_none hcall

theorem run_concat : ContinuityState.run config (calls ++ [call]) = call.step config (.run config calls) := by
  unfold ContinuityState.run
  rw [List.foldl_append]
  rfl

/-- The last call is the decision, or it comes after the decision. -/
theorem overtaken_concat : Overtaken config (calls ++ [call]) ↔
    (∃ t, call = .decide t ∧ ∃ last ∈ (videoTimes calls).getLast?, ¬Follows config last t) ∨
      ∃ before t after, calls = before ++ .decide t :: after ∧ ∃ last ∈ (videoTimes before).getLast?,
        ¬Follows config last t ∧ (last :: (videoTimes after ++ call.videoAt?.toList)).IsChain (Follows config) := by
  constructor
  · rintro ⟨before, t, after, hcalls, last, hlast, hgap, hchain⟩
    rcases List.eq_nil_or_concat after with rfl | ⟨after, c, rfl⟩
    · obtain ⟨rfl, hcall⟩ := List.append_inj' hcalls rfl
      exact .inl ⟨t, List.singleton_inj.mp hcall, last, hlast, hgap⟩
    · rw [List.concat_eq_append, ← List.cons_append, ← List.append_assoc] at hcalls
      obtain ⟨rfl, hcall⟩ := List.append_inj' hcalls rfl
      obtain rfl := List.singleton_inj.mp hcall
      rw [List.concat_eq_append, videoTimes_concat] at hchain
      exact .inr ⟨before, t, after, rfl, last, hlast, hgap, hchain⟩
  · rintro (⟨t, rfl, last, hlast, hgap⟩ | ⟨before, t, after, rfl, last, hlast, hgap, hchain⟩)
    · exact ⟨calls, t, [], rfl, last, hlast, hgap, .singleton last⟩
    · refine ⟨before, t, after ++ [call], ?_, last, hlast, hgap, ?_⟩
      · rw [List.append_assoc, List.cons_append]
      · rwa [videoTimes_concat]

/-- A call that is neither a decision nor an observation of video. -/
theorem overtaken_concat_other (hvideo : call.videoAt? = none) (hdecide : ∀ t, call ≠ .decide t) :
    Overtaken config (calls ++ [call]) ↔ Overtaken config calls := by
  rw [overtaken_concat, hvideo]
  simp only [Option.toList_none, List.append_nil]
  exact or_iff_right fun ⟨t, ht, _⟩ => hdecide t ht

theorem overtaken_concat_decide : Overtaken config (calls ++ [.decide t]) ↔
    Overtaken config calls ∨ ∃ last ∈ (videoTimes calls).getLast?, ¬Follows config last t := by
  rw [overtaken_concat]
  constructor
  · rintro (⟨t', ht, hgap⟩ | ⟨before, t', after, hcalls, last, hlast, hgap, hchain⟩)
    · rw [Call.decide.inj ht]
      exact .inr hgap
    · exact .inl ⟨before, t', after, hcalls, last, hlast, hgap, by simpa [Call.videoAt?] using hchain⟩
  · rintro (⟨before, t', after, hcalls, last, hlast, hgap, hchain⟩ | hgap)
    · exact .inr ⟨before, t', after, hcalls, last, hlast, hgap, by simpa [Call.videoAt?] using hchain⟩
    · exact .inl ⟨t, rfl, hgap⟩

/-- The video that was seen last, where something was seen before. -/
theorem getLast?_of_split (hcalls : calls = before ++ .decide t :: after) (hlast : last ∈ (videoTimes before).getLast?) :
    (videoTimes calls).getLast? = (last :: videoTimes after).getLast? := by
  rw [hcalls, videoTimes_append, videoTimes_cons_none rfl, List.getLast?_append, List.getLast?_cons, Option.mem_def.mp hlast]
  cases (videoTimes after).getLast? <;> rfl

theorem overtaken_concat_observeVideo : Overtaken config (calls ++ [.observeVideo now]) ↔
    Overtaken config calls ∧ ∀ last ∈ (videoTimes calls).getLast?, Follows config last now := by
  rw [overtaken_concat]
  constructor
  · rintro (⟨t, ht, -⟩ | ⟨before, t, after, hcalls, last, hlast, hgap, hchain⟩)
    · cases ht
    · rw [← List.cons_append] at hchain
      obtain ⟨hchain, -, hfollows⟩ := List.isChain_append.mp hchain
      refine ⟨⟨before, t, after, hcalls, last, hlast, hgap, hchain⟩, fun last' hlast' => ?_⟩
      rw [getLast?_of_split hcalls hlast] at hlast'
      exact hfollows last' hlast' now (Option.mem_some_self now)
  · rintro ⟨⟨before, t, after, hcalls, last, hlast, hgap, hchain⟩, hfollows⟩
    refine .inr ⟨before, t, after, hcalls, last, hlast, hgap, ?_⟩
    rw [← List.cons_append]
    refine List.isChain_append.mpr ⟨hchain, .singleton now, fun last' hlast' y hy => ?_⟩
    obtain rfl := Option.some.inj hy
    exact hfollows last' (by rwa [getLast?_of_split hcalls hlast])

/-! ### What the state forgets -/

/-- The start of the video is unknown when none was seen, or when the calls were overtaken. -/
structure Marks (config : ContinuityConfig) (calls : List Call) (s : ContinuityState) : Prop where
  last : s.lastVideoAt = (videoTimes calls).getLast?
  since : s.videoStableSince = none ↔ videoTimes calls = [] ∨ Overtaken config calls

theorem Marks.initial : Marks config [] .initial := ⟨rfl, iff_of_true rfl (.inl rfl)⟩

/-- A call that neither observes video nor decides. -/
theorem Marks.other (h : Marks config calls s) (hvideo : call.videoAt? = none) (hdecide : ∀ t, call ≠ .decide t)
    {s' : ContinuityState} (hlast : s'.lastVideoAt = s.lastVideoAt) (hsince : s'.videoStableSince = s.videoStableSince) :
    Marks config (calls ++ [call]) s' where
  last := by rw [hlast, h.last, videoTimes_concat_none call hvideo]
  since := by rw [hsince, h.since, videoTimes_concat_none call hvideo, overtaken_concat_other hvideo hdecide]

theorem Marks.observeVideo (h : Marks config calls s) :
    Marks config (calls ++ [.observeVideo now]) (s.observeVideo config now) where
  last := by
    rw [videoTimes_concat]
    exact (List.getLast?_concat ..).symm
  since := by
    have hseen : videoTimes (calls ++ [.observeVideo now]) ≠ [] := by
      rw [videoTimes_concat]
      exact List.append_ne_nil_of_right_ne_nil _ (List.cons_ne_nil now [])
    rw [or_iff_right hseen, overtaken_concat_observeVideo]
    unfold ContinuityState.observeVideo
    rw [h.last]
    cases hlast : (videoTimes calls).getLast? with
    | none =>
      refine iff_of_false (Option.some_ne_none now) ?_
      rintro ⟨⟨before, t, after, hcalls, last, hmem, -⟩, -⟩
      have hnone := (getLast?_of_split hcalls hmem).symm.trans hlast
      exact List.cons_ne_nil _ _ (List.getLast?_eq_none_iff.mp hnone)
    | some last =>
      dsimp only
      split
      · rename_i hgap
        exact iff_of_false (Option.some_ne_none now) fun h => not_le.mpr hgap (h.2 last rfl)
      · rename_i hgap
        have hsome : videoTimes calls ≠ [] := by
          rintro hnil
          rw [hnil] at hlast
          cases hlast
        rw [h.since, or_iff_right hsome, iff_self_and]
        rintro - last' hlast'
        rw [← Option.some.inj hlast']
        exact not_lt.mp hgap

/-- A decision forgets the start when the video is gone. -/
theorem Marks.decide (h : Marks config calls s) : Marks config (calls ++ [.decide t]) (s.decide config t).2 where
  last := h.last.trans (congrArg List.getLast? (videoTimes_concat_none (.decide t) rfl).symm)
  since := by
    rw [videoTimes_concat_none (.decide t) rfl, overtaken_concat_decide]
    have hrecent := @recent_eq_true config t (videoTimes calls)
    rw [← h.last] at hrecent
    unfold ContinuityState.decide
    dsimp only
    split
    · rename_i hr
      obtain ⟨last, hlast, hfollows⟩ := hrecent.mp hr
      rw [h.since, or_iff_left (b := ∃ _, _)]
      rintro ⟨last', hlast', hgap⟩
      exact hgap (Option.some.inj (hlast.symm.trans hlast') ▸ hfollows)
    · rename_i hr
      refine iff_of_true rfl ?_
      cases hlast : (videoTimes calls).getLast? with
      | none => exact .inl (List.getLast?_eq_none_iff.mp hlast)
      | some last => exact .inr (.inr ⟨last, rfl, fun hfollows => hr (hrecent.mpr ⟨last, hlast, hfollows⟩)⟩)

theorem Marks.step (h : Marks config calls s) (call : Call) : Marks config (calls ++ [call]) (call.step config s) := by
  cases call with
  | observeVideo now => exact h.observeVideo
  | observeAudio now => exact h.other rfl (fun _ h => by cases h) rfl rfl
  | setAudioMode mode =>
    rw [setAudioMode_eq]
    exact h.other rfl (fun _ h => by cases h) rfl rfl
  | decide t => exact h.decide

variable (config calls) in
theorem marks_run : Marks config calls (.run config calls) := by
  induction calls using List.reverseRecOn with
  | nil => exact .initial
  | append_singleton calls call ih =>
    rw [run_concat]
    exact ih.step call

/-! ### When the video comes back -/

/-- The start that is known was observed. -/
theorem since_mem (hsince : (ContinuityState.run config calls).videoStableSince = some t) : t ∈ videoTimes calls := by
  induction calls using List.reverseRecOn with
  | nil => cases hsince
  | append_singleton calls call ih =>
    rw [run_concat] at hsince
    rw [videoTimes_concat]
    cases call with
    | observeVideo now =>
      have hcases : t = now ∨ (ContinuityState.run config calls).videoStableSince = some t := by
        unfold Call.step ContinuityState.observeVideo at hsince
        dsimp only at hsince
        split at hsince
        · exact .inl (Option.some.inj hsince).symm
        · split at hsince
          · exact .inl (Option.some.inj hsince).symm
          · exact .inr hsince
      rcases hcases with rfl | hold
      · exact List.mem_append_right _ (List.mem_singleton_self t)
      · exact List.mem_append_left _ (ih hold)
    | observeAudio now => exact List.mem_append_left _ (ih hsince)
    | setAudioMode mode =>
      rw [setAudioMode_eq] at hsince
      exact List.mem_append_left _ (ih hsince)
    | decide now =>
      unfold Call.step ContinuityState.decide at hsince
      dsimp only at hsince
      split at hsince
      · exact List.mem_append_left _ (ih hsince)
      · cases hsince

/-- The video that was seen last, where the video goes on from `began`. -/
theorem getLast?_videoTimes_began {began : ℚ} :
    (videoTimes (before ++ .observeVideo began :: after)).getLast? = (began :: videoTimes after).getLast? := by
  rw [videoTimes_append]
  exact List.getLast?_append_of_ne_nil _ (List.cons_ne_nil began (videoTimes after))

/-- Observations without a gap since `began` leave no later start. -/
theorem since_le {began : ℚ} (hpast : ∀ t ∈ videoTimes before, t ≤ began)
    (hgaps : (began :: videoTimes after).IsChain (Follows config))
    (hsince : (ContinuityState.run config (before ++ .observeVideo began :: after)).videoStableSince = some t) :
    t ≤ began := by
  induction after using List.reverseRecOn with
  | nil =>
    have hmem := since_mem hsince
    rw [videoTimes_append, List.mem_append] at hmem
    rcases hmem with hold | hnew
    · exact hpast t hold
    · exact (List.mem_singleton.mp hnew).le
  | append_singleton after call ih =>
    rw [videoTimes_concat, ← List.cons_append] at hgaps
    obtain ⟨hgaps', -, hfollows⟩ := List.isChain_append.mp hgaps
    rw [← List.cons_append, ← List.append_assoc, run_concat] at hsince
    cases call with
    | observeVideo now =>
      refine ih hgaps' ?_
      have hmem := List.getLast?_eq_getLast_of_ne_nil (List.cons_ne_nil began (videoTimes after))
      have hlast := (marks_run config (before ++ .observeVideo began :: after)).last
      rw [getLast?_videoTimes_began, hmem] at hlast
      unfold Call.step ContinuityState.observeVideo at hsince
      rw [hlast] at hsince
      dsimp only at hsince
      rwa [if_neg (not_lt.mpr (hfollows _ hmem now rfl))] at hsince
    | observeAudio now => exact ih hgaps' hsince
    | setAudioMode mode =>
      rw [setAudioMode_eq] at hsince
      exact ih hgaps' hsince
    | decide now =>
      unfold Call.step ContinuityState.decide at hsince
      dsimp only at hsince
      split at hsince
      · exact ih hgaps' hsince
      · cases hsince

theorem mem_times_of_mem_videoTimes (h : t ∈ videoTimes calls) : t ∈ times calls := by
  obtain ⟨call, hcall, ht⟩ := List.mem_filterMap.mp h
  refine List.mem_filterMap.mpr ⟨call, hcall, ?_⟩
  cases call with
  | observeVideo now => exact ht
  | observeAudio now => cases ht
  | setAudioMode mode => cases ht
  | decide now => cases ht

/-- Calls that are applied in the order of their times do not overtake each other. -/
theorem not_overtaken (hsorted : (times calls ++ [now]).Pairwise (· ≤ ·)) (hrecent : Recent config now (videoTimes calls)) :
    ¬Overtaken config calls := by
  rintro ⟨before, t, after, rfl, last, hlast, hgap, hchain⟩
  obtain ⟨hcalls, -, hlater⟩ := List.pairwise_append.mp hsorted
  have htimes : times (before ++ .decide t :: after) = times before ++ t :: times after := List.filterMap_append
  rw [htimes] at hcalls hlater
  cases hobserved : videoTimes after with
  | nil =>
    obtain ⟨last', hlast', hfollows⟩ := hrecent
    rw [getLast?_of_split rfl hlast, hobserved] at hlast'
    obtain rfl := Option.some.inj hlast'
    have hle := hlater t (List.mem_append_right _ List.mem_cons_self) now (List.mem_singleton_self now)
    exact hgap ((config.elapsed.monotone last hle).trans hfollows)
  | cons t' rest =>
    rw [hobserved] at hchain
    have hmem : t' ∈ times after := mem_times_of_mem_videoTimes (hobserved ▸ List.mem_cons_self)
    have hle := (List.pairwise_cons.mp (List.pairwise_append.mp hcalls).2.1).1 t' hmem
    exact hgap ((config.elapsed.monotone last hle).trans (List.isChain_cons_cons.mp hchain).1)

/-- **The video comes back.** After any history of calls, in any order of their times, the video observations go on
    without a gap for the stable window. Then `decide` goes back to live video unless the calls overtook each other,
    and calls applied in the order of their times never do. -/
theorem video_recovers {began : ℚ} (hpast : ∀ t ∈ videoTimes before, t ≤ began)
    (hgaps : (began :: videoTimes after).IsChain (Follows config)) (hrecent : Recent config now (began :: videoTimes after))
    (hwindow : config.stableWindow ≤ config.elapsed.between now began) :
    (((ContinuityState.run config (before ++ .observeVideo began :: after)).decide config now).1.videoSource = .live ↔
      ¬Overtaken config (before ++ .observeVideo began :: after)) ∧
    ((times (before ++ .observeVideo began :: after) ++ [now]).Pairwise (· ≤ ·) →
      ((ContinuityState.run config (before ++ .observeVideo began :: after)).decide config now).1.videoSource = .live) := by
  have hmarks := marks_run config (before ++ .observeVideo began :: after)
  have hseen : videoTimes (before ++ .observeVideo began :: after) ≠ [] := by
    rw [videoTimes_append]
    exact List.append_ne_nil_of_right_ne_nil _ (List.cons_ne_nil began _)
  have hrecent' : Recent config now (videoTimes (before ++ .observeVideo began :: after)) := by
    unfold Recent
    rwa [getLast?_videoTimes_began]
  obtain ⟨hlive, -⟩ := chooseVideo_spec
    (ContinuityState.recent config now (ContinuityState.run config (before ++ .observeVideo began :: after)).lastVideoAt)
    (ContinuityState.stable config now (ContinuityState.run config (before ++ .observeVideo began :: after)).videoStableSince)
  rw [hmarks.last, recent_eq_true, ← hmarks.last] at hlive
  have hiff : ((ContinuityState.run config (before ++ .observeVideo began :: after)).decide config now).1.videoSource = .live ↔
      ¬Overtaken config (before ++ .observeVideo began :: after) := by
    refine hlive.trans ((and_iff_right hrecent').trans ?_)
    rw [← or_iff_right hseen (b := Overtaken config _), ← hmarks.since]
    unfold ContinuityState.stable
    rw [Option.any_eq_true]
    constructor
    · rintro ⟨t, ht, -⟩ hnone
      rw [ht] at hnone
      cases hnone
    · intro hsome
      obtain ⟨t, ht⟩ := Option.ne_none_iff_exists'.mp hsome
      exact ⟨t, ht, decide_eq_true (hwindow.trans (config.elapsed.antitone now (since_le hpast hgaps ht)))⟩
  exact ⟨hiff, fun hsorted => hiff.mpr (not_overtaken hsorted hrecent')⟩

end

/-- Calls at times in order. -/
theorem video_recovers_sample :
    let config : ContinuityConfig := ⟨.exact, 3 / 2, 3, by decide +kernel, by decide +kernel⟩
    ((ContinuityState.run config [.observeVideo 0, .decide 2, .observeVideo 3, .observeVideo 4, .observeVideo 5]).decide
      config 6).1.videoSource = .live := by
  intro config
  exact (@video_recovers config [.observeVideo 0, .decide 2] [.observeVideo 4, .observeVideo 5] 6 3 (by decide)
    (by unfold Follows; decide +kernel) ⟨5, rfl, by unfold Follows; decide +kernel⟩ (by decide +kernel)).2 (by decide)

/-- A decision at 1.51 s is applied before an observation at 1.49 s. Although the video goes on without a gap, it does not
    come back. -/
theorem overtaken_stays_standby :
    let config : ContinuityConfig := ⟨.exact, 3 / 2, 3, by decide +kernel, by decide +kernel⟩
    let before : List Call := [.observeVideo 0, .decide (151 / 100), .observeVideo (149 / 100)]
    let after : List Call := [.observeVideo 3, .observeVideo 4, .observeVideo 5]
    ¬((∀ t ∈ videoTimes before, t ≤ 2) → ((2 : ℚ) :: videoTimes after).IsChain (Follows config) →
      Recent config 5 (2 :: videoTimes after) → config.stableWindow ≤ config.elapsed.between 5 2 →
      ((ContinuityState.run config (before ++ .observeVideo 2 :: after)).decide config 5).1.videoSource = .live) := by
  intro config before after hlive
  have h := hlive (by decide +kernel) (by unfold Follows; decide +kernel) ⟨5, rfl, by unfold Follows; decide +kernel⟩
    (by decide +kernel)
  revert h
  decide +kernel

end IRLight.Continuity
