import IRLight.Egress.IsolatedAttempt
import Mathlib.Data.List.Induction

/-! # Bringing a child to an end

The loop of `supervise_attempt_child` is left in one iteration, for one reason. The child is then no longer alive, or the
supervision fails; and what is returned is what the child has announced, with few exceptions. -/

namespace IRLight.Egress

section
variable {config : SuperviseConfig} {startedAt now : Timestamp} {process process' : ChildProcess} {e : Reaping}
  {s s' : Supervision} {t : Turn} {turns front : List Turn} {leave : Leave} {result : ChildAttemptResult}
  {error : ChildError} {message : ChildMessage} {payload : Json} {fields : List (String × Json)}
  {outcome : Except ChildError ChildAttemptResult × ChildProcess}

/-! ### Reaping -/

theorem boundedTimeout_finite {q : ℚ} (hq : 0 ≤ q) (name : String) : boundedTimeout (.finite q) name = .ok q.toNNRat :=
  if_neg (not_lt.mpr hq)

/-- A child that is not brought to an end is the only failure. -/
theorem reapChild_error {natural terminate kill : ℚ} (hnatural : 0 ≤ natural) (hterminate : 0 ≤ terminate) (hkill : 0 ≤ kill)
    (h : reapChild (.finite natural) (.finite terminate) (.finite kill) process e = (.error error, process')) :
    error = .attemptSupervisorError "attempt child remained alive after kill" := by
  unfold reapChild at h
  rw [boundedTimeout_finite hnatural, boundedTimeout_finite hterminate, boundedTimeout_finite hkill] at h
  dsimp only at h
  split at h
  · cases (Prod.mk.inj h).1
  · split at h
    · cases (Prod.mk.inj h).1
    · split at h
      · exact (Except.error.inj (Prod.mk.inj h).1).symm
      · cases (Prod.mk.inj h).1

/-! ### Messages -/

/-- The `type` has no hash. -/
def unhashableType : Json → Bool
  | .obj fields =>
    match (fields.lookup "type").getD .null with
    | .arr _ | .obj _ => true
    | _ => false
  | _ => false

/-- The loop does not catch what reading or parsing the message raises. -/
def Turn.uncaught (t : Turn) : Bool :=
  match t.polled with
  | .undecodable => true
  | .message payload => unhashableType payload
  | _ => false

theorem naturalField_error {key : String} {error' : ChildError} (h : naturalField fields key error' = .error error) :
    error = error' := by
  unfold naturalField at h
  split at h
  · split at h
    · exact (Except.error.inj h).symm
    · cases h
  · exact (Except.error.inj h).symm

theorem parseProgress_error (h : parseProgress fields = .error error) : ∃ m, error = .invalidChildMessage m := by
  unfold parseProgress at h
  split at h
  · exact ⟨_, (Except.error.inj h).symm⟩
  · exact ⟨_, naturalField_error h⟩

theorem parseResult_error (h : parseResult fields = .error error) : ∃ m, error = .invalidChildMessage m := by
  unfold parseResult at h
  split at h
  · exact ⟨_, (Except.error.inj h).symm⟩
  · split at h
    · cases h
    · exact ⟨_, (Except.error.inj h).symm⟩

theorem map_error {ε α β : Type} {f : α → β} {x : Except ε α} {e : ε} (h : x.map f = .error e) : x = .error e := by
  cases x with
  | error e' => rw [Except.error.inj h]
  | ok a => cases h

/-- A message that is not accepted is malformed, or its `type` has no hash. -/
theorem parseChildMessage_error (h : parseChildMessage payload = .error error) :
    (∃ m, error = .invalidChildMessage m) ∧ unhashableType payload = false ∨
      (∃ m, error = .typeError m) ∧ unhashableType payload = true := by
  unfold parseChildMessage at h
  split at h
  · rename_i fields
    unfold unhashableType
    dsimp only
    split at h
    · rename_i htype
      rw [htype]
      exact .inr ⟨⟨_, (Except.error.inj h).symm⟩, rfl⟩
    · rename_i htype
      rw [htype]
      exact .inr ⟨⟨_, (Except.error.inj h).symm⟩, rfl⟩
    · rename_i htype
      rw [htype]
      exact .inl ⟨parseProgress_error (map_error h), rfl⟩
    · rename_i htype
      rw [htype]
      exact .inl ⟨parseProgress_error (map_error h), rfl⟩
    · rename_i htype
      rw [htype]
      exact .inl ⟨parseResult_error (map_error h), rfl⟩
    · rename_i htype
      rw [htype]
      exact .inl ⟨parseResult_error (map_error h), rfl⟩
    · rename_i hlist hdict _ _ _ _
      refine .inl ⟨⟨_, (Except.error.inj h).symm⟩, ?_⟩
      split
      · rename_i htype
        exact absurd htype (hlist _)
      · rename_i htype
        exact absurd htype (hdict _)
      · rfl
  · rename_i hobj
    refine .inl ⟨⟨_, (Except.error.inj h).symm⟩, ?_⟩
    unfold unhashableType
    split
    · exact absurd rfl (hobj _)
    · rfl

/-- The message that an iteration accepts. -/
def Turn.message? (t : Turn) : Option ChildMessage :=
  match t.polled with
  | .message payload => (parseChildMessage payload).toOption
  | _ => none

theorem message?_of_polled (h : t.polled = .message payload) : t.message? = (parseChildMessage payload).toOption := by
  unfold Turn.message?
  rw [h]

/-- Why the loop is left in an iteration. -/
inductive Supervision.Leaves (config : SuperviseConfig) (s : Supervision) (t : Turn) : Leave → Prop
  | closed (h : t.polled = .closed) : Leaves config s t (.fenced .closed 0 s.localFailure)
  | malformed (h : t.message? = none) (hcaught : t.uncaught = false) :
      Leaves config s t (.fenced .malformed 0 s.localFailure)
  | uncaught (h : t.uncaught = true) (error : ChildError)
      (hother : error ≠ .attemptSupervisorError "attempt child remained alive after kill") : Leaves config s t (.raised error)
  | answered (result : ChildAttemptResult) (h : t.message? = some (.result result)) :
      Leaves config s t (.fenced .answered naturalReapSeconds result)
  | due (s' : Supervision) (h : (s.noticeStop config t).receive config t = .ok s') (leave : Leave)
      (hdue : s'.checkDeadlines t.checkedAt = .error leave) : Leaves config s t leave
  | exited (s' : Supervision) (h : (s.noticeStop config t).receive config t = .ok s')
      (hexited : (s'.process.join t.exits).isAlive = false) :
      Leaves config s t (.exited (s'.pendingResult.getD s'.localFailure) (s'.process.join t.exits))

theorem bind_eq_error {ε α β : Type} {x : Except ε α} {f : α → Except ε β} {e : ε} :
    (x >>= f) = .error e ↔ x = .error e ∨ ∃ a, x = .ok a ∧ f a = .error e := by
  cases x with
  | error e' =>
    refine ⟨fun h => .inl (congrArg _ (Except.error.inj h)), ?_⟩
    rintro (h | ⟨a, ha, -⟩)
    · exact congrArg _ (Except.error.inj h)
    · cases ha
  | ok a =>
    refine ⟨fun h => .inr ⟨a, rfl, h⟩, ?_⟩
    rintro (h | ⟨a', ha, h⟩)
    · cases h
    · rw [Except.ok.inj ha]
      exact h

theorem localFailure_noticeStop : (s.noticeStop config t).localFailure = s.localFailure := by
  unfold Supervision.noticeStop
  split <;> rfl

/-- Only a result ends the loop when it is accepted. -/
theorem accept_error (h : s.accept config t message = .error leave) :
    ∃ result, message = .result result ∧ leave = .fenced .answered naturalReapSeconds result := by
  cases message with
  | connected n => cases h
  | progress n => cases h
  | teardown result => cases h
  | result result => exact ⟨result, rfl, (Except.error.inj h).symm⟩

/-- **Why the loop is left.** -/
theorem turn_error (h : s.turn config t = .error leave) : s.Leaves config t leave := by
  unfold Supervision.turn at h
  rcases bind_eq_error.mp h with h | ⟨s', hreceive, h⟩
  · unfold Supervision.receive at h
    split at h
    · cases h
    · cases h
    · rename_i hclosed
      rw [← Except.error.inj h, localFailure_noticeStop]
      exact .closed hclosed
    · rename_i hundecodable
      rw [← Except.error.inj h]
      exact .uncaught (by rw [Turn.uncaught, hundecodable]) _ (by decide)
    · rename_i payload hpolled
      have hmessage := message?_of_polled hpolled
      have huncaught : t.uncaught = unhashableType payload := by rw [Turn.uncaught, hpolled]
      split at h
      · rename_i m hparse
        rw [← Except.error.inj h, localFailure_noticeStop]
        rw [hparse] at hmessage
        rcases parseChildMessage_error hparse with ⟨-, hhash⟩ | ⟨⟨m', hm'⟩, -⟩
        · exact .malformed hmessage (huncaught.trans hhash)
        · cases hm'
      · rename_i error hmalformed hparse
        rw [← Except.error.inj h]
        rcases parseChildMessage_error hparse with ⟨⟨m, hm⟩, -⟩ | ⟨⟨m, rfl⟩, hhash⟩
        · exact absurd hm (hmalformed m)
        · exact .uncaught (huncaught.trans hhash) _ ChildError.noConfusion
      · rename_i message hparse
        rcases bind_eq_error.mp h with h | ⟨_, _, h⟩
        · obtain ⟨result, rfl, rfl⟩ := accept_error h
          rw [hparse] at hmessage
          exact .answered result hmessage
        · cases h
  · rcases bind_eq_error.mp h with h | ⟨_, _, h⟩
    · exact .due s' hreceive leave h
    · unfold Supervision.checkExit at h
      dsimp only at h
      split at h
      · cases h
      · rename_i hexited
        rw [← Except.error.inj h]
        rw [Bool.or_eq_true, not_or, Bool.not_eq_true] at hexited
        exact .exited s' hreceive hexited.1

/-- An iteration that does not end the loop. -/
theorem turn_ok (h : s.turn config t = .ok s') : ∃ s₁, (s.noticeStop config t).receive config t = .ok s₁ ∧
    s₁.checkDeadlines t.checkedAt = .ok () ∧ s' = { s₁ with process := s₁.process.join t.exits } := by
  unfold Supervision.turn at h
  obtain ⟨s₁, hreceive, h⟩ := bind_eq_ok.mp h
  obtain ⟨⟨⟩, hdeadlines, h⟩ := bind_eq_ok.mp h
  unfold Supervision.checkExit at h
  dsimp only at h
  split at h
  · exact ⟨s₁, hreceive, hdeadlines, (Except.ok.inj h).symm⟩
  · cases h

/-- What an iteration makes of its message. -/
inductive Supervision.Receives (config : SuperviseConfig) (s : Supervision) (t : Turn) : Supervision → Prop
  | nothing (h : t.message? = none) : Receives config s t s
  | message (message : ChildMessage) (s' : Supervision) (h : t.message? = some message)
      (haccept : s.accept config t message = .ok s') : Receives config s t (s'.refresh config t)

theorem receive_ok (h : s.receive config t = .ok s') : s.Receives config t s' := by
  unfold Supervision.receive at h
  split at h
  · rename_i hidle
    rw [← Except.ok.inj h]
    exact .nothing (by rw [Turn.message?, hidle])
  · rename_i hfailed
    rw [← Except.ok.inj h]
    exact .nothing (by rw [Turn.message?, hfailed])
  · cases h
  · cases h
  · rename_i payload hpolled
    split at h
    · cases h
    · cases h
    · rename_i message hparse
      obtain ⟨s₁, haccept, h⟩ := bind_eq_ok.mp h
      rw [← pure_eq_ok.mp h]
      exact .message message s₁ (by rw [message?_of_polled hpolled, hparse]; rfl) haccept

/-! ### What the child has announced -/

def ChildMessage.result? : ChildMessage → Option ChildAttemptResult
  | .teardown result | .result result => some result
  | .connected _ | .progress _ => none

/-- The message says that the attempt has been connected. -/
def ChildMessage.connects : ChildMessage → Bool
  | .connected _ => true
  | .progress _ => false
  | .teardown result | .result result => result.connectedOnce

def ChildMessage.buffers : ChildMessage → ℕ
  | .connected n | .progress n => n
  | .teardown result | .result result => result.renderedBuffers

/-- The valid messages, the results among them, whether any says that the attempt has been connected, and the greatest
    number of buffers. -/
def messages (turns : List Turn) : List ChildMessage := turns.filterMap Turn.message?
def results (turns : List Turn) : List ChildAttemptResult := (messages turns).filterMap ChildMessage.result?
def connected (turns : List Turn) : Bool := (messages turns).any ChildMessage.connects
def rendered (turns : List Turn) : ℕ := ((messages turns).map ChildMessage.buffers).foldl max 0

/-- The loop's variables are what the child has announced. -/
structure Hears (turns : List Turn) (s : Supervision) : Prop where
  pending : s.pendingResult = (results turns).getLast?
  connected : s.connectedOnce = connected turns
  rendered : s.renderedBuffers = rendered turns

theorem messages_concat : messages (turns ++ [t]) = messages turns ++ t.message?.toList := by
  unfold messages
  rw [List.filterMap_append]
  cases h : t.message? with
  | none => rw [List.filterMap_cons_none h]; rfl
  | some message => rw [List.filterMap_cons_some h]; rfl

theorem results_concat : results (turns ++ [t]) = results turns ++ (t.message?.bind ChildMessage.result?).toList := by
  unfold results
  rw [messages_concat, List.filterMap_append]
  cases t.message? with
  | none => rfl
  | some message => cases message <;> rfl

theorem connected_concat : connected (turns ++ [t]) = (connected turns || t.message?.any ChildMessage.connects) := by
  unfold connected
  rw [messages_concat, List.any_append]
  cases t.message? with
  | none => rfl
  | some message => rw [Option.toList_some, List.any_cons, List.any_nil, Bool.or_false]; rfl

theorem rendered_concat : rendered (turns ++ [t]) = max (rendered turns) ((t.message?.map ChildMessage.buffers).getD 0) := by
  unfold rendered
  rw [messages_concat, List.map_append, List.foldl_append]
  cases t.message? with
  | none => exact (Nat.max_zero _).symm
  | some message => rfl

theorem Hears.start : Hears [] (.start config startedAt process) := ⟨rfl, rfl, rfl⟩

theorem Hears.congr (h : Hears turns s) (hpending : s'.pendingResult = s.pendingResult)
    (hconnected : s'.connectedOnce = s.connectedOnce) (hrendered : s'.renderedBuffers = s.renderedBuffers) : Hears turns s' :=
  ⟨hpending.trans h.pending, hconnected.trans h.connected, hrendered.trans h.rendered⟩

theorem Hears.noticeStop (h : Hears turns s) : Hears turns (s.noticeStop config t) := by
  unfold Supervision.noticeStop
  split
  · exact h.congr rfl rfl rfl
  · exact h

/-- An accepted message is heard. -/
theorem Hears.accept (h : Hears turns s) (hmessage : t.message? = some message) (haccept : s.accept config t message = .ok s') :
    Hears (turns ++ [t]) s' := by
  have hpending : s'.pendingResult = (results (turns ++ [t])).getLast? := by
    rw [results_concat, hmessage]
    cases message with
    | connected n =>
      rw [← Except.ok.inj haccept]
      exact h.pending.trans (by rw [Option.bind_some, ChildMessage.result?, Option.toList_none, List.append_nil])
    | progress n =>
      rw [← Except.ok.inj haccept]
      exact h.pending.trans (by rw [Option.bind_some, ChildMessage.result?, Option.toList_none, List.append_nil])
    | teardown result =>
      rw [← Except.ok.inj haccept]
      exact (List.getLast?_concat ..).symm
    | result result => cases haccept
  have hconnected : s'.connectedOnce = Egress.connected (turns ++ [t]) := by
    rw [connected_concat, hmessage, ← h.connected]
    cases message with
    | connected n =>
      rw [← Except.ok.inj haccept]
      exact (Bool.or_true _).symm
    | progress n =>
      rw [← Except.ok.inj haccept]
      exact (Bool.or_false _).symm
    | teardown result =>
      rw [← Except.ok.inj haccept]
      rfl
    | result result => cases haccept
  have hrendered : s'.renderedBuffers = Egress.rendered (turns ++ [t]) := by
    rw [rendered_concat, hmessage, ← h.rendered]
    cases message with
    | connected n => rw [← Except.ok.inj haccept]; rfl
    | progress n => rw [← Except.ok.inj haccept]; rfl
    | teardown result => rw [← Except.ok.inj haccept]; rfl
    | result result => cases haccept
  exact ⟨hpending, hconnected, hrendered⟩

/-- An iteration without a message. -/
theorem Hears.nothing (h : Hears turns s) (hmessage : t.message? = none) : Hears (turns ++ [t]) s := by
  refine ⟨h.pending.trans ?_, h.connected.trans ?_, h.rendered.trans ?_⟩
  · rw [results_concat, hmessage]
    exact congrArg _ (List.append_nil _).symm
  · rw [connected_concat, hmessage]
    exact (Bool.or_false _).symm
  · rw [rendered_concat, hmessage]
    exact (Nat.max_zero _).symm

theorem Hears.receive (h : Hears turns s) (hreceive : s.receive config t = .ok s') : Hears (turns ++ [t]) s' := by
  cases receive_ok hreceive with
  | nothing hmessage => exact h.nothing hmessage
  | message message s₁ hmessage haccept => exact (h.accept hmessage haccept).congr rfl rfl rfl

/-! ### Runs -/

/-- The state after iterations none of which leaves the loop. -/
def Supervision.through (config : SuperviseConfig) : Supervision → List Turn → Option Supervision
  | s, [] => some s
  | s, t :: turns =>
    match s.turn config t with
    | .ok s => through config s turns
    | .error _ => none

theorem through_append : s.through config (front ++ turns) = (s.through config front).bind (·.through config turns) := by
  induction front generalizing s with
  | nil => rfl
  | cons t front ih =>
    rw [List.cons_append, Supervision.through, Supervision.through]
    cases s.turn config t with
    | ok s' => exact ih
    | error leave => rfl

theorem through_concat (h : s.through config (front ++ [t]) = some s') :
    ∃ s₁, s.through config front = some s₁ ∧ s₁.turn config t = .ok s' := by
  rw [through_append] at h
  obtain ⟨s₁, hfront, hlast⟩ := Option.bind_eq_some_iff.mp h
  refine ⟨s₁, hfront, ?_⟩
  rw [Supervision.through] at hlast
  cases hturn : s₁.turn config t with
  | ok s₂ =>
    rw [hturn] at hlast
    exact congrArg _ (Option.some.inj hlast)
  | error leave =>
    rw [hturn] at hlast
    cases hlast

/-- The loop is left in the iteration after the first ones, where it finds the state. -/
structure Left (config : SuperviseConfig) (s₀ : Supervision) (front : List Turn) (t : Turn) (s : Supervision) (leave : Leave) :
    Prop where
  through : s₀.through config front = some s
  leaves : s.turn config t = .error leave

/-- The deadline or the message for which the child is fenced. -/
def Leave.site? : Leave → Option Site
  | .fenced site _ _ => some site
  | .exited _ _ | .raised _ => none

def Leave.result? : Leave → Option ChildAttemptResult
  | .fenced _ _ result | .exited result _ => some result
  | .raised _ => none

/-- The result is the last one that the child has announced, or a later one, whichever announcement one starts from. -/
def Kept (turns : List Turn) (result : ChildAttemptResult) : Prop :=
  ∀ earlier announced later, results turns = earlier ++ announced :: later → result ∈ announced :: later

theorem checkDeadlines_fenced (h : s.checkDeadlines now = .error leave) : ∃ site result, leave = .fenced site 0 result := by
  unfold Supervision.checkDeadlines at h
  split at h
  · exact ⟨_, _, (Except.error.inj h).symm⟩
  · split at h
    · exact ⟨_, _, (Except.error.inj h).symm⟩
    · split at h
      · exact ⟨_, _, (Except.error.inj h).symm⟩
      · split at h
        · exact ⟨_, _, (Except.error.inj h).symm⟩
        · cases h

theorem fenced_error {site : Site} {naturalTimeout : ℚ} {result' : ChildAttemptResult} (hnatural : 0 ≤ naturalTimeout)
    (h : (Leave.fenced site naturalTimeout result').finish config process e = (.error error, process')) :
    error = .attemptSupervisorError "attempt child remained alive after kill" := by
  unfold Leave.finish at h
  dsimp only at h
  split at h
  · cases (Prod.mk.inj h).1
  · rename_i hreap
    rw [← Except.error.inj (Prod.mk.inj h).1]
    exact reapChild_error hnatural config.terminateTimeout.coe_nonneg config.killTimeout.coe_nonneg hreap

/-- What the loop raises unless a message was not caught. -/
theorem Supervision.Leaves.raises (hleaves : s.Leaves config t leave) (hcaught : t.uncaught = false)
    (h : leave.finish config process e = (.error error, process')) :
    error = .attemptSupervisorError "attempt child remained alive after kill" := by
  cases hleaves with
  | closed _ => exact fenced_error le_rfl h
  | malformed _ _ => exact fenced_error le_rfl h
  | uncaught huncaught error _ =>
    rw [hcaught] at huncaught
    cases huncaught
  | answered answer _ => exact fenced_error (by decide +kernel) h
  | due s' _ leave hdue =>
    obtain ⟨site, result', rfl⟩ := checkDeadlines_fenced hdue
    exact fenced_error le_rfl h
  | exited s' _ hexited => cases (Prod.mk.inj h).1

/-- What an iteration keeps of the deadlines, and the stops that it has passed on. -/
structure Keeps (s s' : Supervision) : Prop where
  teardown : ∀ d, s.teardownDeadline = some d → s'.teardownDeadline = some d
  stop : ∀ d, s.stopDeadline = some d → s'.stopDeadline = some d

theorem Keeps.trans {s₁ : Supervision} (h : Keeps s s₁) (h' : Keeps s₁ s') : Keeps s s' :=
  ⟨fun d hd => h'.teardown d (h.teardown d hd), fun d hd => h'.stop d (h.stop d hd)⟩

end

/-! ### Samples -/

namespace ChildSample

def config : SuperviseConfig :=
  { connectTimeout := (15 : ℕ), livenessTimeout := (20 : ℕ), statusHeartbeat := (5 : ℕ), teardownTimeout := (8 : ℕ)
    terminateTimeout := (2 : ℕ), killTimeout := (2 : ℕ), pollInterval := 1 / (10 : ℕ) }

/-- An iteration in which nothing else happens. -/
def reads (polled : Polled) : Turn :=
  { now := 1, stopRequested := false, polled := polled, acceptedAt := 1, refreshedAt := 1, checkedAt := 1, exits := none
    leftover := false, reaping := ⟨none, false, some (-15), false, none⟩ }

/-- The attempt has timed out after it was connected, and may be tried again. -/
def timedOut : ChildAttemptResult := ⟨"TIMEOUT", true, 7, false, none, none⟩

def envelope (kind : String) : Json :=
  .obj [ ("type", .str kind),
    ("result", .obj [ ("reason_code", .str "TIMEOUT"), ("connected_once", .bool true), ("rendered_buffers", .int 7),
      ("terminal", .bool false), ("error_domain", .null), ("error_code", .null) ]) ]

end ChildSample

end IRLight.Egress
