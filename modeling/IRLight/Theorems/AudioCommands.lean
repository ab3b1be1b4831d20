import IRLight.ControlPlane.Writes

/-! # Audio commands

An audio command is a PUT of the desired mode, with the version that it expects and an idempotency key. Requests
may be delivered again at any later time. The record remembers the key of the latest command alone, and the
version tells all earlier ones apart. -/

namespace IRLight
open Status SessionStore

structure AudioCommand where
  idempotencyKey : String
  expectedVersion : ℕ
  mode : AudioMode
  deriving DecidableEq

/-- A delivery of a command: the clock that it read, its result, and the record before and after it. -/
structure AudioDelivery where
  command : AudioCommand
  reading : PyFloat
  before : Session
  result : Except Exc MediaControlAudio
  after : Session

/-- The result of a command and the store that it leaves. -/
def SessionStore.deliver (s : SessionStore) (sid : String) (c : AudioCommand) (operator : String) (clock : ℕ → PyFloat)
    (fresh : Uuid) : Except Exc MediaControlAudio × SessionStore :=
  match s.setAudioDesired sid c.mode c.expectedVersion c.idempotencyKey operator clock fresh with
  | .ok (audio, s') => (.ok audio, s')
  | .error e => (.error e, s)

/-- The commands that were delivered to the Session in a run that begins in `s₀`, in their order. Other calls of
    the store come in between. -/
inductive Delivered (sid : String) (s₀ : SessionStore) : List AudioDelivery → SessionStore → Prop
  | start : Delivered sid s₀ [] s₀
  | deliver {history : List AudioDelivery} {s : SessionStore} {r r' : Session} {c : AudioCommand} {operator : String}
      {clock : ℕ → PyFloat} {fresh : Uuid} (run : Delivered sid s₀ history s) (found : s.session? sid = some r)
      (left : (s.deliver sid c operator clock fresh).2.session? sid = some r') :
      Delivered sid s₀ (history ++ [⟨c, clock 0, r, (s.deliver sid c operator clock fresh).1, r'⟩])
        (s.deliver sid c operator clock fresh).2
  | other {history : List AudioDelivery} {s s' : SessionStore} {op : StoreOp} {clock : ℕ → PyFloat} {fresh : Uuid}
      {a : op.Res} (run : Delivered sid s₀ history s) (other : op.commands sid = false)
      (call : op.run clock fresh s = .ok (a, s')) : Delivered sid s₀ history s'

namespace AudioDelivery

/-- The command takes effect: it becomes a new version. -/
def takesEffect (d : AudioDelivery) : Bool := d.after.audio.version ≠ d.before.audio.version

def audioRequested : String := "media_control.audio.requested"

/-- The events that the delivery appended. -/
def newEvents (d : AudioDelivery) : List SessionEvent :=
  d.after.log.events.filter fun e => d.before.log.nextEventSeq ≤ e.sequence

def audioEvents (d : AudioDelivery) : List SessionEvent := d.newEvents.filter (·.type = audioRequested)

/-- The Session is running, and the clock gives a time. -/
structure Running (d : AudioDelivery) : Prop where
  status : d.before.status ∉ terminalStates
  clock : ∃ t : Timestamp, d.reading = .finite t

end AudioDelivery

/-- The commands that took effect. -/
def acceptedCommands (history : List AudioDelivery) : List AudioDelivery := history.filter (·.takesEffect)

def latestCommand (history : List AudioDelivery) : Option AudioDelivery := (acceptedCommands history).getLast?

/-- The answer to a conflict. -/
def AudioConflict : Except Exc MediaControlAudio → Prop
  | .error (.mediaControlIdempotencyConflict _) | .error (.mediaControlVersionConflict _ _) => True
  | _ => False

/-- How a delivery is settled after the deliveries before it. -/
structure AudioDelivery.Settled (before : List AudioDelivery) (d : AudioDelivery) : Prop where
  once : d.takesEffect → ∀ e ∈ acceptedCommands before, e.command ≠ d.command
  increment : d.takesEffect → d.after.audio.version = d.before.audio.version + 1 ∧ d.result = .ok d.after.audio
  unchanged : d.takesEffect = false → d.after = d.before
  retry : ∀ e, latestCommand before = some e → d.command = e.command → d.Running →
    d.result = .ok e.after.audio ∧ d.after = d.before
  superseded : ∀ e ∈ acceptedCommands before, ∀ l, latestCommand before = some l → e.command ≠ l.command → d.command = e.command →
    d.Running → d.after = d.before ∧
      if l.command.idempotencyKey = d.command.idempotencyKey ∧ l.command.mode = d.command.mode then
        d.result = .ok l.after.audio
      else AudioConflict d.result

/-! ### One delivery -/

section
variable {s : SessionStore} {sid operator : String} {c : AudioCommand} {clock : ℕ → PyFloat} {fresh : Uuid} {r r' : Session}

/-- The command is a new one for this record. -/
structure AudioCommand.New (c : AudioCommand) (r : Session) : Prop where
  version : c.expectedVersion = r.audio.version
  key : r.audio.idempotencyKey ≠ some c.idempotencyKey
  valid : c.idempotencyKey ≠ "" ∧ c.idempotencyKey.length ≤ 200

/-- A delivery leaves the record as it was, or with the new command. -/
theorem deliver_cases (hr : s.session? sid = some r) (hr' : (s.deliver sid c operator clock fresh).2.session? sid = some r') :
    r' = r ∨ c.New r ∧ (∃ now, r' = commanded r c.mode c.idempotencyKey operator fresh now) ∧
      (s.deliver sid c operator clock fresh).1 = .ok r'.audio := by
  unfold SessionStore.deliver at hr' ⊢
  split at hr'
  · rename_i audio s' hset
    obtain ⟨_, hkey, h⟩ := bind_eq_ok.mp hset
    obtain ⟨now, _, h⟩ := bind_eq_ok.mp h
    obtain ⟨w, hf, rfl⟩ := edit_eq_ok h
    obtain ⟨r₀, hr₀, hf⟩ := bind_eq_ok.mp hf
    obtain ⟨_, _, hf⟩ := bind_eq_ok.mp hf
    rw [requireSession_eq_ok] at hr₀
    obtain rfl := Option.some.inj (hr.symm.trans hr₀)
    rw [raiseIf_eq_ok, not_or, not_lt] at hkey
    split at hf
    · obtain ⟨_, _, hf⟩ := bind_eq_ok.mp hf
      obtain ⟨_, rfl⟩ := Prod.mk.inj (pure_eq_ok.mp hf)
      exact Or.inl (Option.some.inj (hr'.symm.trans hr))
    · rename_i hnew
      obtain ⟨_, hversion, hf⟩ := bind_eq_ok.mp hf
      obtain ⟨rfl, rfl⟩ := Prod.mk.inj (pure_eq_ok.mp hf)
      rw [raiseIf_eq_ok, not_not] at hversion
      have hput := hr'.symm.trans session?_put_self
      obtain rfl := Option.some.inj hput
      exact Or.inr ⟨⟨hversion, hnew, hkey⟩, ⟨now, rfl⟩, rfl⟩
  · exact Or.inl (Option.some.inj (hr'.symm.trans hr))

variable (operator fresh) in
/-- What a command does to a running Session, when its key is a valid one. -/
theorem deliver_running (hr : s.session? sid = some r) (hst : r.status ∉ terminalStates) {t : Timestamp}
    (ht : clock 0 = .finite t) (hvalid : c.idempotencyKey ≠ "" ∧ c.idempotencyKey.length ≤ 200)
    (hold : r.audio.idempotencyKey = some c.idempotencyKey ∨ c.expectedVersion ≠ r.audio.version) :
    s.deliver sid c operator clock fresh =
      if r.audio.idempotencyKey = some c.idempotencyKey then
        if r.audio.desiredMode ≠ c.mode then
          (.error (.mediaControlIdempotencyConflict "Idempotency-Key was already used for another mode"), s)
        else (.ok r.audio, s)
      else (.error (.mediaControlVersionConflict r.audio.version r.audio.desiredMode.str), s) := by
  have hprologue : raiseIf (c.idempotencyKey = "" ∨ 200 < c.idempotencyKey.length)
      (.valueError "Idempotency-Key is required and must be <= 200 chars") = .ok () :=
    raiseIf_eq_ok.mpr (by simpa using hvalid)
  have hnow : validatedNow (clock 0) "Session media-control clock" = .ok t := by
    unfold validatedNow validatedTimestamp
    exact requireTimestamp_eq_ok.mpr ht
  have hrunning : raiseIf (r.status ∈ terminalStates) (.mediaControlNotRunning "session is not running") = .ok () :=
    raiseIf_eq_ok.mpr hst
  unfold SessionStore.deliver setAudioDesired SessionStore.edit
  rw [hprologue, hnow, hr]
  simp only [bind, Except.bind, requireSession, hrunning]
  by_cases hkey : r.audio.idempotencyKey = some c.idempotencyKey
  · rw [if_pos hkey, if_pos hkey]
    by_cases hmode : r.audio.desiredMode = c.mode
    · simp [raiseIf, hmode, pure, Except.pure]
    · simp [raiseIf, hmode]
  · rw [if_neg hkey, if_neg hkey]
    simp [raiseIf, hold.resolve_left hkey]

end

/-! ### The audio-requested event -/

theorem EventLog.no_new (log : EventLog) : log.events.filter (fun e => log.nextEventSeq ≤ e.sequence) = [] :=
  List.filter_eq_nil_iff.mpr fun e he => by simpa using log.below e he

/-- An append adds one event to those from the next sequence number on. -/
theorem EventLog.append_new (log : EventLog) (type : String) (reason : Option String) (payload : Json) (origin : String)
    (now : Timestamp) : (log.append type reason payload origin now).events.filter (fun e => log.nextEventSeq ≤ e.sequence) =
      [log.newEvent type reason payload origin now] := by
  have hevents := EventLog.append_events log type reason payload origin now
  simp only at hevents
  rw [hevents, List.length_append, List.length_singleton, List.drop_append_of_le_length (by rw [sessionEventLimit]; omega),
    List.filter_append, List.filter_eq_nil_iff.mpr fun e he => ?_, List.nil_append]
  · simp [newEvent]
  · exact List.filter_eq_nil_iff.mp log.no_new e (List.mem_of_mem_drop he)

namespace AudioDelivery
variable {d : AudioDelivery}

/-- What a delivery is, apart from the run that it belongs to. -/
inductive Sound (d : AudioDelivery) : Prop
  | idle (unchanged : d.after = d.before)
  | new (new : d.command.New d.before)
      (commanded : ∃ operator fresh now, d.after = commanded d.before d.command.mode d.command.idempotencyKey operator fresh now)
      (result : d.result = .ok d.after.audio)

/-- What an effective command leaves. -/
structure Effective (d : AudioDelivery) : Prop where
  new : d.command.New d.before
  version : d.after.audio.version = d.before.audio.version + 1
  key : d.after.audio.idempotencyKey = some d.command.idempotencyKey
  mode : d.after.audio.desiredMode = d.command.mode
  result : d.result = .ok d.after.audio
  events : d.audioEvents.length = 1

theorem Sound.effective (h : d.Sound) (he : d.takesEffect) : d.Effective := by
  cases h with
  | idle unchanged =>
    rw [takesEffect, unchanged] at he
    simp at he
  | new new commanded result =>
    obtain ⟨operator, fresh, now, hd⟩ := commanded
    have hversion : d.after.audio.version = d.before.audio.version + 1 := by rw [hd]; rfl
    have hkey : d.after.audio.idempotencyKey = some d.command.idempotencyKey := by rw [hd]; rfl
    have hmode : d.after.audio.desiredMode = d.command.mode := by rw [hd]; rfl
    refine ⟨new, hversion, hkey, hmode, result, ?_⟩
    obtain ⟨e, hnew, htype⟩ : ∃ e, d.newEvents = [e] ∧ e.type = clip 100 audioRequested := by
      unfold newEvents
      rw [hd]
      exact ⟨_, EventLog.append_new _ _ _ _ _ _, rfl⟩
    have hclip : clip 100 audioRequested = audioRequested := by decide
    rw [audioEvents, hnew]
    simp [htype, hclip]

theorem Sound.unchanged (h : d.Sound) (he : d.takesEffect = false) : d.after = d.before := by
  cases h with
  | idle unchanged => exact unchanged
  | new _ commanded _ =>
    obtain ⟨operator, fresh, now, hd⟩ := commanded
    have hversion : d.after.audio.version = d.before.audio.version + 1 := by rw [hd]; rfl
    simp [takesEffect, hversion] at he

theorem Sound.no_events (h : d.Sound) (he : d.takesEffect = false) : d.audioEvents = [] := by
  rw [audioEvents, newEvents, h.unchanged he, EventLog.no_new, List.filter_nil]

end AudioDelivery

/-! ### Runs -/

section
variable {sid : String} {s₀ s s' : SessionStore} {history : List AudioDelivery} {d : AudioDelivery} {r r' r₀ : Session}

/-- What the record remembers of the commands delivered so far. -/
structure AudioLedger (r₀ : Session) (history : List AudioDelivery) (r : Session) : Prop where
  sound : ∀ d ∈ history, d.Sound
  latest : ∀ l, latestCommand history = some l → r.audio = l.after.audio
  expected : ∀ e ∈ acceptedCommands history, e.command.expectedVersion < r.audio.version
  events : r.audio.version = r₀.audio.version + (history.map (·.audioEvents.length)).sum

theorem acceptedCommands_append (history : List AudioDelivery) (d : AudioDelivery) :
    acceptedCommands (history ++ [d]) = acceptedCommands history ++ if d.takesEffect then [d] else [] := by
  rw [acceptedCommands, acceptedCommands, List.filter_append, List.filter_singleton]
  cases d.takesEffect <;> rfl

theorem latestCommand_append (history : List AudioDelivery) (d : AudioDelivery) :
    latestCommand (history ++ [d]) = if d.takesEffect then some d else latestCommand history := by
  rw [latestCommand, acceptedCommands_append]
  split
  · exact List.getLast?_concat
  · rw [List.append_nil, latestCommand]

theorem audioLedger_start (r : Session) : AudioLedger r [] r :=
  ⟨by simp, by simp [latestCommand, acceptedCommands], by simp [acceptedCommands], by simp⟩

/-- A record with the same audio command keeps the ledger. -/
theorem AudioLedger.congr (h : AudioLedger r₀ history r) (he : r'.audio = r.audio) : AudioLedger r₀ history r' :=
  ⟨h.sound, by rw [he]; exact h.latest, by rw [he]; exact h.expected, by rw [he]; exact h.events⟩

/-- A delivery keeps the ledger. -/
theorem AudioLedger.append (h : AudioLedger r₀ history d.before) (hd : d.Sound) : AudioLedger r₀ (history ++ [d]) d.after := by
  have hsound : ∀ e ∈ history ++ [d], e.Sound := by
    intro e he
    rcases List.mem_append.mp he with he | he
    · exact h.sound e he
    · obtain rfl := List.mem_singleton.mp he
      exact hd
  cases hte : d.takesEffect with
  | false =>
    have hkept := hd.unchanged hte
    refine ⟨hsound, ?_, ?_, ?_⟩
    · rw [latestCommand_append, hte, hkept]
      exact h.latest
    · rw [acceptedCommands_append, hte, hkept]
      simpa using h.expected
    · rw [List.map_append, List.sum_append, hkept, h.events]
      simp [hd.no_events hte]
  | true =>
    have heff := hd.effective hte
    refine ⟨hsound, ?_, ?_, ?_⟩
    · intro l hl
      rw [latestCommand_append, hte] at hl
      obtain rfl := Option.some.inj hl
      rfl
    · intro e he
      rw [acceptedCommands_append, hte] at he
      rcases List.mem_append.mp he with he | he
      · have := h.expected e he
        rw [heff.version]
        omega
      · obtain rfl := List.mem_singleton.mp he
        rw [heff.version, heff.new.version]
        omega
    · rw [List.map_append, List.sum_append, heff.version, h.events]
      simp [heff.events]
      omega

theorem deliver_sound {operator : String} {clock : ℕ → PyFloat} {fresh : Uuid} {c : AudioCommand}
    (hr : s.session? sid = some r) (hr' : (s.deliver sid c operator clock fresh).2.session? sid = some r') :
    (AudioDelivery.mk c (clock 0) r (s.deliver sid c operator clock fresh).1 r').Sound := by
  rcases deliver_cases hr hr' with rfl | ⟨hnew, ⟨now, hr'⟩, hresult⟩
  · exact .idle rfl
  · exact .new hnew ⟨operator, fresh, now, hr'⟩ hresult

/-- The latest command is the one that the record remembers. -/
theorem AudioLedger.latest_spec {l : AudioDelivery} (h : AudioLedger r₀ history r) (hl : latestCommand history = some l) :
    l ∈ acceptedCommands history ∧ r.audio = l.after.audio ∧ r.audio.idempotencyKey = some l.command.idempotencyKey ∧
      r.audio.desiredMode = l.command.mode := by
  have hmem : l ∈ acceptedCommands history := List.mem_of_getLast? hl
  have heff := (h.sound l (List.mem_of_mem_filter hmem)).effective (List.mem_filter.mp hmem).2
  have haudio := h.latest l hl
  exact ⟨hmem, haudio, haudio ▸ heff.key, haudio ▸ heff.mode⟩

theorem AudioLedger.valid {e : AudioDelivery} (h : AudioLedger r₀ history r) (he : e ∈ acceptedCommands history) :
    e.command.idempotencyKey ≠ "" ∧ e.command.idempotencyKey.length ≤ 200 :=
  ((h.sound e (List.mem_of_mem_filter he)).effective (List.mem_filter.mp he).2).new.valid

/-- How a delivery is settled, by what the record remembers. -/
theorem AudioLedger.settled {operator : String} {clock : ℕ → PyFloat} {fresh : Uuid} {c : AudioCommand}
    (h : AudioLedger r₀ history r) (hr : s.session? sid = some r)
    (hr' : (s.deliver sid c operator clock fresh).2.session? sid = some r') :
    (AudioDelivery.mk c (clock 0) r (s.deliver sid c operator clock fresh).1 r').Settled history := by
  have hsound := deliver_sound hr hr'
  refine ⟨fun hte e he hsame => ?_, fun hte => ⟨(hsound.effective hte).version, (hsound.effective hte).result⟩,
    hsound.unchanged, fun e he hsame hrunning => ?_, fun e he l hl hother hsame hrunning => ?_⟩
  · have hversion : c.expectedVersion = r.audio.version := (hsound.effective hte).new.version
    have hcommand : e.command = c := hsame
    have hbelow := h.expected e he
    rw [hcommand] at hbelow
    omega
  · obtain ⟨hmem, haudio, hkey, hmode⟩ := h.latest_spec he
    have hvalid := h.valid hmem
    obtain ⟨hst, t, ht⟩ := hrunning
    rw [← hsame] at hkey hmode hvalid
    have hrun := deliver_running operator fresh hr hst ht hvalid (Or.inl hkey)
    rw [if_pos hkey, if_neg (not_not.mpr hmode)] at hrun
    rw [hrun] at hr' ⊢
    exact ⟨congrArg Except.ok haudio, Option.some.inj (hr'.symm.trans hr)⟩
  · obtain ⟨_, haudio, hkey, hmode⟩ := h.latest_spec hl
    have hvalid := h.valid he
    have hbelow := h.expected e he
    obtain ⟨hst, t, ht⟩ := hrunning
    rw [← hsame] at hvalid hbelow
    have hrun := deliver_running operator fresh hr hst ht hvalid (Or.inr (Nat.ne_of_lt hbelow))
    rw [hkey, hmode] at hrun
    by_cases hsamekey : l.command.idempotencyKey = c.idempotencyKey
    · rw [if_pos (congrArg some hsamekey)] at hrun
      by_cases hsamemode : l.command.mode = c.mode
      · rw [if_neg (not_not.mpr hsamemode)] at hrun
        rw [hrun] at hr' ⊢
        refine ⟨Option.some.inj (hr'.symm.trans hr), ?_⟩
        rw [if_pos ⟨hsamekey, hsamemode⟩]
        exact congrArg Except.ok haudio
      · rw [if_pos hsamemode] at hrun
        rw [hrun] at hr' ⊢
        refine ⟨Option.some.inj (hr'.symm.trans hr), ?_⟩
        rw [if_neg fun hboth => hsamemode hboth.2]
        exact True.intro
    · rw [if_neg fun hboth => hsamekey (Option.some.inj hboth)] at hrun
      rw [hrun] at hr' ⊢
      refine ⟨Option.some.inj (hr'.symm.trans hr), ?_⟩
      rw [if_neg fun hboth => hsamekey hboth.1]
      exact True.intro

/-! ### Runs -/

/-- The record remembers the commands of every run, and every delivery of the run was settled. -/
theorem Delivered.ledger (h : Delivered sid s₀ history s) (h₀ : s₀.session? sid = some r₀) :
    (∃ r, s.session? sid = some r ∧ AudioLedger r₀ history r) ∧
      ∀ before d after, history = before ++ d :: after → d.Settled before := by
  induction h with
  | start =>
    refine ⟨⟨r₀, h₀, audioLedger_start r₀⟩, fun before d after he => ?_⟩
    simp at he
  | @deliver history s r r' c operator clock fresh run found left ih =>
    obtain ⟨⟨r₁, hr₁, hledger⟩, hsettled⟩ := ih
    obtain rfl := Option.some.inj (hr₁.symm.trans found)
    refine ⟨⟨r', left, hledger.append (deliver_sound found left)⟩, fun before d after he => ?_⟩
    rcases List.eq_nil_or_concat after with rfl | ⟨front, last, rfl⟩
    · obtain ⟨rfl, hd⟩ := List.append_inj' he rfl
      obtain rfl := (List.cons.inj hd).1
      exact hledger.settled found left
    · rw [List.concat_eq_append, ← List.cons_append, ← List.append_assoc] at he
      obtain ⟨rfl, _⟩ := List.append_inj' he rfl
      exact hsettled before d front rfl
  | other run other call ih =>
    obtain ⟨⟨r, hr, hledger⟩, hsettled⟩ := ih
    have hwrites := StoreOp.writes _ _ call
    obtain ⟨r', hr'⟩ := Option.isSome_iff_exists.mp (hwrites.isSome (by rw [hr]; rfl))
    refine ⟨⟨r', hr', ?_⟩, hsettled⟩
    rcases hwrites.record hr' with hold | ⟨hnone, _⟩ | ⟨r₁, hr₁, hw⟩
    · obtain rfl := Option.some.inj (hr.symm.trans hold)
      exact hledger
    · rw [hr] at hnone
      cases hnone
    · obtain rfl := Option.some.inj (hr.symm.trans hr₁)
      exact hledger.congr (hw.terms.1 other)

/-- **Audio commands take effect once**, whatever is delivered when and again, and whatever other calls come in
    between: a command that took effect is never effective again, each effective command is the next version, a
    retry of the latest one is answered as it was, a retry of an earlier one conflicts, unless the latest one has
    the same key and mode and then its answer is given, and a delivery without effect leaves the record as it was.
    The versions count the audio-requested events. -/
theorem audio_commands_once (h₀ : s₀.session? sid = some r₀) (h : Delivered sid s₀ history s) :
    (∀ before d after, history = before ++ d :: after → d.Settled before) ∧
      ∃ r, s.session? sid = some r ∧
        r.audio.version = r₀.audio.version + (history.map (·.audioEvents.length)).sum := by
  obtain ⟨⟨r, hr, hledger⟩, hsettled⟩ := h.ledger h₀
  exact ⟨hsettled, r, hr, hledger.events⟩

end

/-! A Session in which a key is used again for the same mode, after another command. -/

namespace AudioSample

def store : SessionStore where
  sessions := (∅ : AList fun _ : String => Session).insert "s" { newSession "s" "u" .dev .directPush 0 with status := live }
  orphanCleanupLeases := ∅
  authoritative := true
  recoveryStableSeconds := 0

def clock (_ : ℕ) : PyFloat := .finite 1

def record (s : SessionStore) : Session := (s.session? "s").getD (newSession "s" "u" .dev .directPush 0)

def next (s : SessionStore) (c : AudioCommand) : SessionStore := (s.deliver "s" c "u" clock ⟨0, c.expectedVersion⟩).2

def delivery (s : SessionStore) (c : AudioCommand) : AudioDelivery :=
  ⟨c, clock 0, record s, (s.deliver "s" c "u" clock ⟨0, c.expectedVersion⟩).1, record (next s c)⟩

theorem delivered {history : List AudioDelivery} {s : SessionStore} (h : Delivered "s" store history s) (c : AudioCommand)
    (hs : (s.session? "s").isSome) (hs' : ((next s c).session? "s").isSome) :
    Delivered "s" store (history ++ [delivery s c]) (next s c) := by
  obtain ⟨r, hr⟩ := Option.isSome_iff_exists.mp hs
  obtain ⟨r', hr'⟩ := Option.isSome_iff_exists.mp hs'
  have hrecord : record s = r := by rw [record, hr]; rfl
  have hrecord' : record (next s c) = r' := by rw [record, hr']; rfl
  rw [delivery, hrecord, hrecord']
  exact .deliver h hr hr'

def mute : AudioCommand := ⟨"a", 0, .muted⟩
def unmute : AudioCommand := ⟨"b", 1, .live⟩
def muteAgain : AudioCommand := ⟨"a", 2, .muted⟩

def muted : SessionStore := next store mute
def unmuted : SessionStore := next muted unmute
def again : SessionStore := next unmuted muteAgain

end AudioSample

open AudioSample in
/-- The retry of a superseded command is answered when the latest command has its key and mode. -/
theorem superseded_retry_answered : ∃ s e m l d, Delivered "s" store [e, m, l, d] s ∧ e.takesEffect ∧ m.takesEffect ∧
    l.takesEffect ∧ d.command = e.command ∧ e.command ≠ l.command ∧ d.Running ∧ ¬AudioConflict d.result := by
  refine ⟨next again mute, delivery store mute, delivery muted unmute, delivery unmuted muteAgain, delivery again mute, ?_,
    by decide +kernel, by decide +kernel, by decide +kernel, rfl, by decide, ⟨by decide +kernel, 1, rfl⟩, ?_⟩
  · have h₁ := delivered .start mute (by decide +kernel) (by decide +kernel)
    have h₂ := delivered h₁ unmute (by decide +kernel) (by decide +kernel)
    have h₃ := delivered h₂ muteAgain (by decide +kernel) (by decide +kernel)
    exact delivered h₃ mute (by decide +kernel) (by decide +kernel)
  · have hok : (delivery again mute).result.isOk := by decide +kernel
    intro hconflict
    cases hresult : (delivery again mute).result with
    | ok audio =>
      rw [hresult] at hconflict
      exact hconflict
    | error e =>
      rw [hresult] at hok
      cases hok

open AudioSample in
theorem audio_commands_once_sample : (delivery muted mute).Settled [delivery store mute] := by
  have h₁ := delivered .start mute (by decide +kernel) (by decide +kernel)
  have h₂ := delivered h₁ mute (by decide +kernel) (by decide +kernel)
  obtain ⟨r, hr⟩ := Option.isSome_iff_exists.mp (show (store.session? "s").isSome by decide +kernel)
  exact (audio_commands_once hr h₂).1 [delivery store mute] _ [] rfl

end IRLight
