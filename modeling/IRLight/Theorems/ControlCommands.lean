import IRLight.Continuity.ControlState
import Mathlib.Data.List.Induction

/-! # Which control command is in force

In every run of the Control API and the worker, with faults in any call, losses of power and damage to the file: a command
that was acknowledged is never undone, two acknowledged commands never share a version, a file that is missing is never
written anew, and the worker takes up the commands in their order. -/

namespace IRLight
open Persistence

theorem mapError_eq_ok {ε ε' α : Type} {f : ε → ε'} {x : Except ε α} {a : α} : x.mapError f = .ok a ↔ x = .ok a := by
  cases x with
  | error e =>
    constructor
    · intro h
      cases h
    · intro h
      cases h
  | ok b =>
    constructor
    · intro h
      rw [Except.ok.inj h]
    · intro h
      rw [Except.ok.inj h]
      rfl

namespace ControlField
variable {isUuid : String → Bool}

theorem audioModeField_str (mode : AudioMode) : audioModeField (some (.str mode.str)) = .ok mode := by cases mode <;> rfl

theorem timeOf_timestamp (t : Timestamp) : timeOf (.finite t) = .ok t := dif_pos t.2

theorem commandIdField_ofOption {text text' : Option String}
    (h : commandIdField isUuid (some (.ofOption .str text)) = .ok text') : text' = text := by
  cases text with
  | none => exact (Except.ok.inj h).symm
  | some text =>
    change (if isUuid text then Except.ok (some text) else _) = _ at h
    split at h
    · exact (Except.ok.inj h).symm
    · cases h

theorem idempotencyKeyField_ofOption {key key' : Option String}
    (h : idempotencyKeyField (some (.ofOption .str key)) = .ok key') : key' = key := by
  cases key with
  | none => exact (Except.ok.inj h).symm
  | some key =>
    change (if keyAccepted key then Except.ok (some key) else _) = _ at h
    split at h
    · exact (Except.ok.inj h).symm
    · cases h

/-- What is read back of a command is the command. -/
theorem commandOf_json {c c' : ControlCommand} (h : commandOf isUuid c.json = .ok c') : c' = c := by
  obtain ⟨mode, hmode, h⟩ := bind_eq_ok.mp h
  obtain ⟨version, hversion, h⟩ := bind_eq_ok.mp h
  obtain ⟨commandId, hcommandId, h⟩ := bind_eq_ok.mp h
  obtain ⟨key, hkey, h⟩ := bind_eq_ok.mp h
  obtain ⟨time, htime, h⟩ := bind_eq_ok.mp h
  obtain rfl := Except.ok.inj h
  have hmode' : mode = c.audioMode := Except.ok.inj (hmode.symm.trans (audioModeField_str c.audioMode))
  have hversion' : version = c.version := Except.ok.inj (hversion.symm.trans rfl)
  have hcommandId' : commandId = c.commandId := commandIdField_ofOption hcommandId
  have hkey' : key = c.idempotencyKey := idempotencyKeyField_ofOption hkey
  have htime' : time = c.updatedAt := Except.ok.inj (htime.symm.trans (timeOf_timestamp c.updatedAt))
  rw [hmode', hversion', htime', hcommandId', hkey']

end ControlField

namespace ControlStore
variable {isUuid : String → Bool} {file : Option ControlText} {text : ControlText} {c c' current next : ControlCommand}
  {initialized : Bool} {d d' : Disk ControlText} {fault : Option Fault} {m : Method}

/-- The command that the file shows, if it shows a valid one. -/
def shown (isUuid : String → Bool) (file : Option ControlText) : Option ControlCommand := (read isUuid file true).toOption

theorem shown_of_read (initialized : Bool) (h : read isUuid file initialized = .ok c) : shown isUuid file = some c := by
  rcases file with _ | _ | value
  · cases h
  · cases h
  · change (validateControl isUuid value).toOption = some c
    change validateControl isUuid value = .ok c at h
    rw [h]
    rfl

theorem shown_none : shown isUuid none = none := rfl

/-- What is written of a command shows it. -/
theorem shown_serialize (h : serialize isUuid c = .ok text) : shown isUuid (some text) = some c := by
  obtain ⟨validated, hvalidated, hwritten⟩ := bind_eq_ok.mp h
  have hsame := ControlField.commandOf_json (mapError_eq_ok.mp hvalidated)
  subst hsame
  split at hwritten
  · obtain rfl := Except.ok.inj hwritten
    exact shown_of_read true hvalidated
  · cases hwritten

/-! ### What a method does -/

/-- What a method decides on the file and the marker. -/
inductive Decides (isUuid : String → Bool) (file : Option ControlText) (initialized : Bool) :
    Decision ControlText (Option ControlCommand) → Prop
  | marks (present : file.isSome) : Decides isUuid file initialized (.mark none)
  | returns {c : ControlCommand} (before : shown isUuid file = some c) : Decides isUuid file initialized (.answer (some c))
  | creates {text : ControlText} {c : ControlCommand} (missing : file = none) (unmarked : initialized = false)
      (after : shown isUuid (some text) = some c) : Decides isUuid file initialized (.write text none)
  | updates {text : ControlText} {current next : ControlCommand} (before : shown isUuid file = some current)
      (after : shown isUuid (some text) = some next) (version : next.version = current.version + 1) :
      Decides isUuid file initialized (.write text (some next))

theorem ensureBody_ok {reading : PyFloat} {decision : Decision ControlText (Option ControlCommand)}
    (h : ensureBody isUuid reading file initialized = .ok decision) : Decides isUuid file initialized decision := by
  cases file with
  | some text =>
    obtain ⟨_, _, h⟩ := bind_eq_ok.mp h
    obtain rfl := Except.ok.inj h
    exact .marks rfl
  | none =>
    cases initialized with
    | true => cases h
    | false =>
      obtain ⟨updatedAt, _, h⟩ := bind_eq_ok.mp h
      obtain ⟨text, htext, h⟩ := bind_eq_ok.mp h
      obtain rfl := Except.ok.inj h
      exact .creates rfl rfl (shown_serialize htext)

theorem getBody_ok {decision : Decision ControlText (Option ControlCommand)}
    (h : getBody isUuid file initialized = .ok decision) : Decides isUuid file initialized decision := by
  obtain ⟨c, hread, h⟩ := bind_eq_ok.mp h
  obtain rfl := Except.ok.inj h
  exact .returns (shown_of_read initialized hread)

theorem updateBody_ok {mode : AudioMode} {key commandId : String} {expected : Option ℤ} {now : Timestamp}
    {decision : Decision ControlText (Option ControlCommand)}
    (h : updateBody isUuid mode key expected now commandId file initialized = .ok decision) :
    Decides isUuid file initialized decision := by
  obtain ⟨current, hread, h⟩ := bind_eq_ok.mp h
  have hcurrent := shown_of_read initialized hread
  split at h
  · split at h
    · cases h
    · obtain rfl := Except.ok.inj h
      exact .returns hcurrent
  · split at h
    · cases h
    · obtain ⟨text, htext, h⟩ := bind_eq_ok.mp h
      obtain rfl := Except.ok.inj h
      exact .updates hcurrent (shown_serialize htext) rfl

theorem Method.decides {body : Body} {decision : Decision ControlText (Option ControlCommand)}
    (hbody : m.body isUuid = .ok body) (h : body file initialized = .ok decision) : Decides isUuid file initialized decision := by
  cases m with
  | ensure reading =>
    obtain rfl := Except.ok.inj hbody
    exact ensureBody_ok h
  | get =>
    obtain rfl := Except.ok.inj hbody
    exact getBody_ok h
  | update mode key expected reading commandId =>
    change (checkUpdate mode key expected reading).map _ = .ok body at hbody
    cases hcheck : checkUpdate mode key expected reading with
    | error e =>
      rw [hcheck] at hbody
      cases hbody
    | ok checked =>
      rw [hcheck] at hbody
      obtain rfl := Except.ok.inj hbody
      exact updateBody_ok h

/-- What a call does to the disk. -/
inductive Move (isUuid : String → Bool) (d : Disk ControlText) : Disk ControlText → Prop
  | marked (fault : Option Bool) : Move isUuid d (d.markUntil fault)
  | created {text : ControlText} {c : ControlCommand} (missing : d.file = none) (unmarked : d.marker = false)
      (after : shown isUuid (some text) = some c) (fault : Option WriteFault) : Move isUuid d (d.write text fault)
  | updated {text : ControlText} {current next : ControlCommand} (before : shown isUuid d.file = some current)
      (after : shown isUuid (some text) = some next) (version : next.version = current.version + 1)
      (fault : Option WriteFault) : Move isUuid d (d.write text fault)

theorem Method.move (m : Method) (d : Disk ControlText) (fault : Option Fault) : Move isUuid d (m.run isUuid d fault).2 := by
  unfold Method.run
  cases hbody : m.body isUuid with
  | error e => exact .marked (some false)
  | ok body =>
    have heffect := Disk.perform_effect d fault unlocked unread body
    generalize (d.perform fault unlocked unread body).2 = d' at heffect
    cases heffect with
    | nothing => exact .marked (some false)
    | marked _ fault => exact .marked fault
    | written decided fault =>
      cases m.decides hbody decided with
      | creates missing unmarked after => exact .created missing unmarked after fault
      | updates before after version => exact .updated before after version fault

/-- What a call that returns a command has done: the file showed the command already, or the command is the next one and
    is there to stay. -/
inductive Returned (isUuid : String → Bool) (d : Disk ControlText) (c : ControlCommand) : Disk ControlText → Prop
  | same (before : shown isUuid d.file = some c) : Returned isUuid d c d
  | new {current : ControlCommand} {text : ControlText} (before : shown isUuid d.file = some current)
      (after : shown isUuid (some text) = some c) (version : c.version = current.version + 1) :
      Returned isUuid d c (d.write text none)

theorem Method.returned (h : (m.run isUuid d fault).1 = .ok (some c)) : Returned isUuid d c (m.run isUuid d fault).2 := by
  unfold Method.run at h ⊢
  cases hbody : m.body isUuid with
  | error e =>
    rw [hbody] at h
    cases h
  | ok body =>
    rw [hbody] at h
    have hanswers := Disk.perform_ok h
    generalize (d.perform fault unlocked unread body).2 = d' at hanswers
    cases hanswers with
    | answer decided =>
      cases m.decides hbody decided with
      | returns before => exact .same before
    | mark decided => cases m.decides hbody decided
    | write decided =>
      cases m.decides hbody decided with
      | updates before after version => exact .new before after version

end ControlStore

namespace Continuity.ControlSystem
open ControlStore
variable {isUuid : String → Bool} {config : ContinuityConfig} {s : ControlSystem} {d d' : Disk ControlText} {a : Action}
  {actions before between : List Action} {c c₁ c₂ current next : ControlCommand} {P : Option ControlText → Prop}

/-! ### What an action does to the file -/

/-- The action is not one of somebody else on the file. -/
def Action.keepsFile : Action → Bool
  | .remove | .garble => false
  | _ => true

/-- The worker outlives the action. -/
def Action.keepsWorker : Action → Bool
  | .restartWorker | .loss _ _ => false
  | _ => true

/-- What an action does to the disk. -/
inductive Change (isUuid : String → Bool) (a : Action) (d : Disk ControlText) : Disk ControlText → Prop
  | moved {d' : Disk ControlText} (move : Move isUuid d d') : Change isUuid a d d'
  | lost (ends : a.keepsWorker = false) (back : ℕ) (marker : Bool) : Change isUuid a d (d.loss back marker)
  | disturbed {x : Option ControlText} (by_other : a.keepsFile = false) (nothing : shown isUuid x = none) :
      Change isUuid a d (d.disturb x)

theorem step_change (s : ControlSystem) (a : Action) : Change isUuid a s.disk (step isUuid config s a).disk := by
  cases a with
  | call method fault => exact .moved (method.move s.disk fault)
  | loss back marker => exact .lost rfl back marker
  | remove => exact .disturbed rfl rfl
  | garble => exact .disturbed rfl rfl
  | reconcile now unread => exact .moved (.marked (some false))
  | observeVideo now => exact .moved (.marked (some false))
  | observeAudio now => exact .moved (.marked (some false))
  | restartWorker => exact .moved (.marked (some false))

theorem Change.armed (h : Change isUuid a d d') (hd : d.Armed) : d'.Armed := by
  cases h with
  | moved move =>
    cases move with
    | marked fault => exact hd.markUntil fault
    | created _ _ _ fault => exact hd.write _ fault
    | updated _ _ _ fault => exact hd.write _ fault
  | lost _ back marker => exact hd.loss back marker
  | disturbed => exact hd.disturb _

theorem Change.guarded (h : Change isUuid a d d') (hd : d.Guarded) : d'.Guarded := by
  cases h with
  | moved move =>
    cases move with
    | marked fault => exact hd.markUntil fault
    | created _ _ _ fault => exact hd.write _ fault
    | updated _ _ _ fault => exact hd.write _ fault
  | lost _ back marker => exact hd.loss back marker
  | disturbed => exact hd.disturb _

/-- What the file may show stays so, if an update keeps to it, and damage where somebody else has touched the file. -/
theorem Change.shows (h : Change isUuid a d d') (harmed : d.Armed) (hd : d.Shows P)
    (hupdate : ∀ x y current next, P x → shown isUuid x = some current → shown isUuid (some y) = some next →
      next.version = current.version + 1 → P (some y))
    (hother : ∀ x, a.keepsFile = false → shown isUuid x = none → P x) : d'.Shows P := by
  cases h with
  | moved move =>
    cases move with
    | marked fault => exact hd.markUntil fault
    | created _ unmarked _ _ =>
      rw [harmed.1] at unmarked
      cases unmarked
    | updated hcurrent hnext hversion fault => exact hd.write (hupdate _ _ _ _ hd.file hcurrent hnext hversion) fault
  | lost _ back marker => exact hd.loss back marker
  | disturbed by_other nothing => exact hd.disturb (hother _ by_other nothing)

/-! ### Runs -/

theorem after_append_cons (before : List Action) (a : Action) (between : List Action) :
    after isUuid config (before ++ a :: between) = run isUuid config (step isUuid config (after isUuid config before) a) between :=
  List.foldl_append

theorem run_invariant {Inv : Disk ControlText → Prop} (allowed : Action → Prop)
    (hstep : ∀ a d d', allowed a → Change isUuid a d d' → Inv d → Inv d') (hinit : Inv s.disk)
    (hallowed : ∀ a ∈ actions, allowed a) : Inv (run isUuid config s actions).disk := by
  induction actions generalizing s with
  | nil => exact hinit
  | cons a actions ih =>
    refine ih (hstep a _ _ (hallowed a List.mem_cons_self) (step_change s a) hinit) fun b hb => ?_
    exact hallowed b (List.mem_cons_of_mem a hb)

theorem after_guarded (actions : List Action) : (after isUuid config actions).disk.Guarded :=
  run_invariant (fun _ => True) (fun _ _ _ _ hchange => hchange.guarded) Disk.Guarded.initial fun _ _ => trivial

/-! ### Acknowledged commands -/

/-- The command is `c₁`, or a later one. -/
def From (c₁ c : ControlCommand) : Prop := c₁.version < c.version ∨ c = c₁

theorem From.lt_next (h : From c₁ current) (hversion : next.version = current.version + 1) : c₁.version < next.version := by
  rcases h with h | rfl
  · omega
  · omega

/-- The file may show no command before `c₁`. -/
structure Past (isUuid : String → Bool) (c₁ : ControlCommand) (d : Disk ControlText) : Prop where
  armed : d.Armed
  shows : d.Shows fun x => ∀ c, shown isUuid x = some c → From c₁ c

/-- The file shows `c₁` or a later command, whatever is lost. -/
structure Kept (isUuid : String → Bool) (c₁ : ControlCommand) (d : Disk ControlText) : Prop where
  armed : d.Armed
  shows : d.Shows fun x => ∃ c, shown isUuid x = some c ∧ From c₁ c

theorem Kept.past (h : Kept isUuid c₁ d) : Past isUuid c₁ d := by
  refine ⟨h.armed, h.shows.mono fun x hx c hc => ?_⟩
  obtain ⟨c', hc', hfrom⟩ := hx
  rw [hc'] at hc
  exact Option.some.inj hc ▸ hfrom

theorem Past.change (h : Past isUuid c₁ d) (hchange : Change isUuid a d d') : Past isUuid c₁ d' := by
  refine ⟨hchange.armed h.armed, hchange.shows h.armed h.shows ?_ ?_⟩
  · intro x y current next hx hcurrent hnext hversion c hc
    rw [hnext] at hc
    obtain rfl := Option.some.inj hc
    exact .inl ((hx current hcurrent).lt_next hversion)
  · intro x _ hx c hc
    rw [hx] at hc
    cases hc

theorem Kept.change (h : Kept isUuid c₁ d) (ha : a.keepsFile = true) (hchange : Change isUuid a d d') : Kept isUuid c₁ d' := by
  refine ⟨hchange.armed h.armed, hchange.shows h.armed h.shows ?_ ?_⟩
  · rintro x y current next ⟨current', hcurrent', hfrom⟩ hcurrent hnext hversion
    rw [hcurrent'] at hcurrent
    obtain rfl := Option.some.inj hcurrent
    exact ⟨next, hnext, .inl (hfrom.lt_next hversion)⟩
  · intro x hother
    rw [ha] at hother
    cases hother

theorem run_keeps (h : Kept isUuid c s.disk) (hkeeps : ∀ a ∈ actions, a.keepsFile = true) :
    Kept isUuid c (run isUuid config s actions).disk :=
  run_invariant (fun a => a.keepsFile = true) (fun _ _ _ ha hchange h => h.change ha hchange) h hkeeps

/-- A call acknowledges a command: the file showed another one before, or nothing could be undone. A retry may be answered
    from a file whose last rename was never synced. -/
def Acknowledges (isUuid : String → Bool) (d : Disk ControlText) (m : Method) (fault : Option Fault) (c : ControlCommand) : Prop :=
  (m.run isUuid d fault).1 = .ok (some c) ∧ (shown isUuid d.file ≠ some c ∨ d.Settled)

theorem Acknowledges.kept {m : Method} {fault : Option Fault} (h : Acknowledges isUuid d m fault c) (hd : d.Guarded) :
    Kept isUuid c (m.run isUuid d fault).2 := by
  obtain ⟨hok, hkept⟩ := h
  have hreturned := Method.returned hok
  generalize (m.run isUuid d fault).2 = d' at hreturned
  cases hreturned with
  | same before =>
    have hsettled := hkept.resolve_left fun hne => hne before
    refine ⟨hd.armed ?_, Disk.Shows.of_settled hsettled ⟨c, before, .inr rfl⟩⟩
    cases hfile : d.file with
    | none =>
      rw [hfile] at before
      cases before
    | some text => rfl
  | new _ after _ => exact ⟨⟨rfl, rfl⟩, Disk.Shows.of_settled rfl ⟨c, after, .inr rfl⟩⟩

namespace Sample

def ids : List String := ["7d444840-9dc0-11d1-b245-5ffdce74fad2", "e902893a-9d22-3c7e-a7b8-d6e313b71d9f"]

def acceptsId (text : String) : Bool := text ∈ ids

def timing : ContinuityConfig := ⟨.exact, 2, 7, by decide, by decide⟩

def start : Action := .call (.ensure (.finite 0)) none

def mute : Method := .update "MUTED" "first" none (.finite 1) "7d444840-9dc0-11d1-b245-5ffdce74fad2"

def unmute : Method := .update "LIVE" "second" (some 1) (.finite 1) "e902893a-9d22-3c7e-a7b8-d6e313b71d9f"

def muted : ControlCommand := ⟨.muted, 1, some "7d444840-9dc0-11d1-b245-5ffdce74fad2", some "first", 1⟩

def unmuted : ControlCommand := ⟨.live, 2, some "e902893a-9d22-3c7e-a7b8-d6e313b71d9f", some "second", 1⟩

end Sample

/-- A method finds no file where there was one. -/
theorem Method.missing (m : Method) (fault : Option Fault) (hfile : d.file = none) (hmarker : d.marker = true) :
    (∀ answer, (m.run isUuid d fault).1 ≠ .ok answer) ∧ (m.run isUuid d fault).2.file = none := by
  refine ⟨fun answer hok => ?_, ?_⟩
  · unfold Method.run at hok
    cases hbody : m.body isUuid with
    | error e =>
      rw [hbody] at hok
      cases hok
    | ok body =>
      rw [hbody] at hok
      have hanswers := Disk.perform_ok hok
      generalize (d.perform fault unlocked unread body).2 = d' at hanswers
      cases hanswers with
      | answer decided =>
        cases m.decides hbody decided with
        | returns before =>
          rw [hfile] at before
          cases before
      | mark decided =>
        cases m.decides hbody decided with
        | marks present =>
          rw [hfile] at present
          cases present
      | write decided =>
        cases m.decides hbody decided with
        | creates _ unmarked _ =>
          rw [hmarker] at unmarked
          cases unmarked
        | updates before _ _ =>
          rw [hfile] at before
          cases before
  · have hmove : Move isUuid d (m.run isUuid d fault).2 := m.move d fault
    generalize (m.run isUuid d fault).2 = d' at hmove
    cases hmove with
    | marked fault => rw [Disk.file_markUntil, hfile]
    | created _ unmarked _ _ =>
      rw [hmarker] at unmarked
      cases unmarked
    | updated before _ _ _ =>
      rw [hfile] at before
      cases before

/-- **A missing file is never written anew.** Once the file was there, or a first write has come as far as its marker, a file that
is missing later in the run makes every method of the store fail, and no method makes another one. -/
theorem missing_file_not_recreated (hwritten : (after isUuid config before).disk.file.isSome ∨ (after isUuid config before).disk.Armed)
    (hmissing : (after isUuid config (before ++ between)).disk.file = none) (m : Method) (fault : Option Fault) :
    (∀ answer, (m.run isUuid (after isUuid config (before ++ between)).disk fault).1 ≠ .ok answer) ∧
      (m.run isUuid (after isUuid config (before ++ between)).disk fault).2.file = none := by
  have harmed : (after isUuid config before).disk.Armed := hwritten.elim (after_guarded before).armed id
  have hlater : (after isUuid config (before ++ between)).disk.Armed := by
    rw [after, run, List.foldl_append]
    exact run_invariant (fun _ => True) (fun _ _ _ _ hchange h => hchange.armed h) harmed fun _ _ => trivial
  exact Method.missing m fault hmissing hlater.1

theorem missing_file_not_recreated_start :
    (∀ answer, ((Method.ensure (.finite 3)).run Sample.acceptsId
      (after Sample.acceptsId Sample.timing ([Sample.start] ++ [.remove])).disk none).1 ≠ .ok answer) ∧
    ((Method.ensure (.finite 3)).run Sample.acceptsId
      (after Sample.acceptsId Sample.timing ([Sample.start] ++ [.remove])).disk none).2.file = none :=
  missing_file_not_recreated (.inl (by decide +kernel)) (by decide +kernel) (.ensure (.finite 3)) none

/-! ### What the worker reports -/

/-- What a tick of the worker reports. -/
def report (isUuid : String → Bool) (config : ContinuityConfig) (s : ControlSystem) (now : ℚ) (unread : Bool) : Worker.Report :=
  (s.worker.reconcile isUuid config s.disk.file unread now).1

/-- A tick finds a valid command, or it keeps to the last one. -/
inductive Reading (isUuid : String → Bool) (r : ControlStateReader) (file : Option ControlText) :
    ControlCommandState → ControlStateReader → Prop
  | fresh {c : ControlCommand} (shows : shown isUuid file = some c) : Reading isUuid r file (.of c) ⟨some (.of c)⟩
  | kept : Reading isUuid r file r.fallback r

/-- The reader accepts the values that the store accepts. -/
theorem validate_eq_ok {value : Json} {l : ControlCommandState} :
    ControlStateReader.validate isUuid value = .ok l ↔ ∃ c, validateControl isUuid value = .ok c ∧ l = .of c := by
  unfold ControlStateReader.validate
  rw [map_eq_ok]
  constructor
  · rintro ⟨c, hc, rfl⟩
    exact ⟨c, mapError_eq_ok.mpr (mapError_eq_ok.mp hc), rfl⟩
  · rintro ⟨c, hc, rfl⟩
    exact ⟨c, mapError_eq_ok.mpr (mapError_eq_ok.mp hc), rfl⟩

theorem read_valid {r : ControlStateReader} {value : Json} {l : ControlCommandState}
    (h : ControlStateReader.validate isUuid value = .ok l) : r.read isUuid (some (some value)) false = ((l, none), ⟨some l⟩) := by
  simp only [ControlStateReader.read, h]

theorem read_invalid {r : ControlStateReader} {value : Json} {e : Exc}
    (h : ControlStateReader.validate isUuid value = .error e) :
    r.read isUuid (some (some value)) false = ((r.fallback, some "CONTROL_STATE_INVALID"), r) := by
  simp only [ControlStateReader.read, h]

theorem read_reading (r : ControlStateReader) (file : Option ControlText) (unread : Bool) :
    Reading isUuid r file (r.read isUuid file unread).1.1 (r.read isUuid file unread).2 := by
  rcases file with _ | _ | value
  · exact .kept
  · cases unread <;> exact .kept
  · cases unread with
    | true => exact .kept
    | false =>
      cases hvalue : ControlStateReader.validate isUuid value with
      | error e =>
        rw [read_invalid hvalue]
        exact .kept
      | ok l =>
        rw [read_valid hvalue]
        obtain ⟨c, hc, rfl⟩ := validate_eq_ok.mp hvalue
        exact .fresh (@shown_of_read isUuid (some (some value)) c true hc)

theorem report_reading (s : ControlSystem) (now : ℚ) (unread : Bool) :
    Reading isUuid s.worker.reader s.disk.file (report isUuid config s now unread).control
      (step isUuid config s (.reconcile now unread)).worker.reader := read_reading s.worker.reader s.disk.file unread

/-- A reader that has `l` may take up `l'`. -/
def Follows (l l' : ControlCommandState) : Prop := l.version < l'.version ∨ l' = l

@[simp] theorem version_of (c : ControlCommand) : (ControlCommandState.of c).version = c.version := rfl

theorem Follows.trans {l l' l'' : ControlCommandState} (h : Follows l l') (h' : Follows l' l'') : Follows l l'' := by
  rcases h with h | rfl
  · rcases h' with h' | rfl
    · exact .inl (Nat.lt_trans h h')
    · exact .inl h
  · exact h'

theorem From.follows (h : From c₁ c) : Follows (.of c₁) (.of c) := h.imp id fun hsame => by rw [hsame]

/-- The command is not ahead of the file that processes see. -/
structure Behind (isUuid : String → Bool) (l : ControlCommandState) (d : Disk ControlText) : Prop where
  armed : d.Armed
  shows : ∀ c, shown isUuid d.file = some c → Follows l (.of c)

/-- The file goes back only in a loss of power. -/
theorem Behind.change {l : ControlCommandState} (h : Behind isUuid l d) (hchange : Change isUuid a d d')
    (ha : a.keepsWorker = true) : Behind isUuid l d' := by
  refine ⟨hchange.armed h.armed, ?_⟩
  cases hchange with
  | moved move =>
    cases move with
    | marked fault =>
      rw [Disk.file_markUntil]
      exact h.shows
    | created _ unmarked _ _ =>
      rw [h.armed.1] at unmarked
      cases unmarked
    | updated before after version fault =>
      intro c hc
      rcases Disk.file_write d _ fault with hfile | hfile
      · rw [hfile] at hc
        exact h.shows c hc
      · rw [hfile, after] at hc
        obtain rfl := Option.some.inj hc
        refine .inl ?_
        rw [version_of, version]
        rcases h.shows _ before with hlt | hsame
        · exact Nat.lt_succ_of_lt hlt
        · rw [← hsame, version_of]
          exact Nat.lt_succ_self _
  | lost ends _ _ =>
    rw [ha] at ends
    cases ends
  | disturbed by_other nothing =>
    intro c hc
    rw [Disk.disturb] at hc
    split at hc
    · rw [nothing] at hc
      cases hc
    · exact h.shows c hc

/-- The worker has taken up no command that is ahead of the file. -/
def Current (isUuid : String → Bool) (s : ControlSystem) : Prop :=
  ∀ l, s.worker.reader.lastValid = some l → Behind isUuid l s.disk

theorem behind_of_shown (harmed : d.Armed) (hshown : shown isUuid d.file = some c) : Behind isUuid (.of c) d := by
  refine ⟨harmed, fun c' hc' => ?_⟩
  rw [hshown] at hc'
  exact .inr (by rw [Option.some.inj hc'])

theorem armed_of_shown (hguarded : d.Guarded) (hshown : shown isUuid d.file = some c) : d.Armed := by
  refine hguarded.armed ?_
  cases hfile : d.file with
  | none =>
    rw [hfile] at hshown
    cases hshown
  | some text => rfl

theorem step_current (h : Current isUuid s) (hguarded : s.disk.Guarded) (a : Action) :
    Current isUuid (step isUuid config s a) := by
  have hchange : Change isUuid a s.disk (step isUuid config s a).disk := step_change s a
  cases a with
  | restartWorker =>
    intro l hl
    cases hl
  | loss back marker =>
    intro l hl
    cases hl
  | reconcile now unread =>
    intro l hl
    change Behind isUuid l s.disk
    have hreading : Reading isUuid s.worker.reader s.disk.file (report isUuid config s now unread).control
      (step isUuid config s (.reconcile now unread)).worker.reader := report_reading s now unread
    generalize (report isUuid config s now unread).control = control at hreading
    generalize (step isUuid config s (.reconcile now unread)).worker.reader = reader at hreading hl
    cases hreading with
    | fresh shows =>
      obtain rfl := Option.some.inj hl
      exact behind_of_shown (armed_of_shown hguarded shows) shows
    | kept => exact h l hl
  | call method fault => exact fun l hl => (h l hl).change hchange rfl
  | observeVideo now => exact fun l hl => (h l hl).change hchange rfl
  | observeAudio now => exact fun l hl => (h l hl).change hchange rfl
  | remove => exact fun l hl => (h l hl).change hchange rfl
  | garble => exact fun l hl => (h l hl).change hchange rfl

/-- The worker has taken up the command, or a later one. -/
def Taken (l₁ : ControlCommandState) (s : ControlSystem) : Prop :=
  ∃ l, s.worker.reader.lastValid = some l ∧ Follows l₁ l

theorem step_taken {l₁ : ControlCommandState} (h : Taken l₁ s) (hcurrent : Current isUuid s) (ha : a.keepsWorker = true) :
    Taken l₁ (step isUuid config s a) := by
  obtain ⟨l, hl, hfollows⟩ := h
  cases a with
  | restartWorker => cases ha
  | loss back marker => cases ha
  | reconcile now unread =>
    have hreading : Reading isUuid s.worker.reader s.disk.file (report isUuid config s now unread).control
      (step isUuid config s (.reconcile now unread)).worker.reader := report_reading s now unread
    generalize (report isUuid config s now unread).control = control at hreading
    unfold Taken
    generalize (step isUuid config s (.reconcile now unread)).worker.reader = reader at hreading ⊢
    cases hreading with
    | fresh shows => exact ⟨_, rfl, hfollows.trans ((hcurrent l hl).shows _ shows)⟩
    | kept => exact ⟨l, hl, hfollows⟩
  | call method fault => exact ⟨l, hl, hfollows⟩
  | observeVideo now => exact ⟨l, hl, hfollows⟩
  | observeAudio now => exact ⟨l, hl, hfollows⟩
  | remove => exact ⟨l, hl, hfollows⟩
  | garble => exact ⟨l, hl, hfollows⟩

theorem run_current (h : Current isUuid s) (hguarded : s.disk.Guarded) (actions : List Action) :
    Current isUuid (run isUuid config s actions) := by
  induction actions generalizing s with
  | nil => exact h
  | cons a actions ih => exact ih (step_current h hguarded a) ((step_change s a).guarded hguarded)

theorem run_taken {l₁ : ControlCommandState} (h : Taken l₁ s) (hcurrent : Current isUuid s) (hguarded : s.disk.Guarded)
    (hkeeps : ∀ a ∈ actions, a.keepsWorker = true) : Taken l₁ (run isUuid config s actions) := by
  induction actions generalizing s with
  | nil => exact h
  | cons a actions ih =>
    refine ih (step_taken h hcurrent (hkeeps a List.mem_cons_self)) (step_current hcurrent hguarded a)
      ((step_change s a).guarded hguarded) fun b hb => ?_
    exact hkeeps b (List.mem_cons_of_mem a hb)

theorem after_current (actions : List Action) : Current isUuid (after isUuid config actions) := by
  refine run_current ?_ Disk.Guarded.initial actions
  intro l hl
  cases hl

/-- What a tick reports is taken up, unless the worker has never seen a command. -/
theorem report_taken (s : ControlSystem) (now : ℚ) (unread : Bool) :
    (report isUuid config s now unread).control = ControlStateReader.startCommand ∨
      Taken (report isUuid config s now unread).control (step isUuid config s (.reconcile now unread)) := by
  have hreading : Reading isUuid s.worker.reader s.disk.file (report isUuid config s now unread).control
    (step isUuid config s (.reconcile now unread)).worker.reader := report_reading s now unread
  unfold Taken
  generalize (report isUuid config s now unread).control = control at hreading ⊢
  generalize (step isUuid config s (.reconcile now unread)).worker.reader = reader at hreading ⊢
  cases hreading with
  | fresh shows => exact .inr ⟨_, rfl, .inr rfl⟩
  | kept =>
    unfold ControlStateReader.fallback
    cases hlast : s.worker.reader.lastValid with
    | none => exact .inl rfl
    | some l => exact .inr ⟨l, rfl, .inr rfl⟩

theorem Taken.report {l₁ : ControlCommandState} (h : Taken l₁ s) (hcurrent : Current isUuid s) (now : ℚ) (unread : Bool) :
    Follows l₁ (report isUuid config s now unread).control := by
  obtain ⟨l, hl, hfollows⟩ := h
  have hreading : Reading isUuid s.worker.reader s.disk.file (ControlSystem.report isUuid config s now unread).control
    (step isUuid config s (.reconcile now unread)).worker.reader := report_reading s now unread
  generalize (ControlSystem.report isUuid config s now unread).control = control at hreading ⊢
  generalize (step isUuid config s (.reconcile now unread)).worker.reader = reader at hreading
  cases hreading with
  | fresh shows => exact hfollows.trans ((hcurrent l hl).shows _ shows)
  | kept =>
    unfold ControlStateReader.fallback
    rw [hl]
    exact hfollows

/-- **The worker takes up the commands in their order.** A worker that has reported a command goes on to report that one or later
ones, also while the file cannot be read, is missing or damaged. -/
theorem worker_reports_in_order {now₁ now₂ : ℚ} {unread₁ unread₂ : Bool} (hkeeps : ∀ a ∈ between, a.keepsWorker = true) :
    (report isUuid config (after isUuid config before) now₁ unread₁).control = ControlStateReader.startCommand ∨
      Follows (report isUuid config (after isUuid config before) now₁ unread₁).control
        (report isUuid config (after isUuid config (before ++ .reconcile now₁ unread₁ :: between)) now₂ unread₂).control := by
  refine (report_taken (after isUuid config before) now₁ unread₁).imp id fun htaken => ?_
  rw [after_append_cons]
  have hcurrent : Current isUuid (step isUuid config (after isUuid config before) (.reconcile now₁ unread₁)) :=
    step_current (after_current before) (after_guarded before) _
  have hguarded : (step isUuid config (after isUuid config before) (.reconcile now₁ unread₁)).disk.Guarded :=
    (after_guarded before : (after isUuid config before).disk.Guarded)
  exact (run_taken htaken hcurrent hguarded hkeeps).report (run_current hcurrent hguarded between) now₂ unread₂

theorem worker_reports_in_order_garbled :
    (report Sample.acceptsId Sample.timing (after Sample.acceptsId Sample.timing [Sample.start, .call Sample.mute none]) 0
        false).control = ControlStateReader.startCommand ∨
      Follows (report Sample.acceptsId Sample.timing
          (after Sample.acceptsId Sample.timing [Sample.start, .call Sample.mute none]) 0 false).control
        (report Sample.acceptsId Sample.timing (after Sample.acceptsId Sample.timing
          ([Sample.start, .call Sample.mute none] ++ .reconcile 0 false :: [.call Sample.unmute none, .garble])) 1 false).control :=
  worker_reports_in_order (by decide)

/-! ### The audio of the output -/

theorem step_setAudioMode (mode : AudioMode) (model : ContinuityState) :
    (Call.setAudioMode mode.str).step config model = { model with desiredAudio := mode } := by cases mode <;> rfl

/-- The audio of a tick is the one of its command. -/
theorem report_actualAudio (s : ControlSystem) (now : ℚ) (unread : Bool) : ∃ videoSource audioRecent,
    (report isUuid config s now unread).decision.actualAudio =
      chooseAudio (report isUuid config s now unread).control.audioMode videoSource audioRecent := by
  have hdecision : (report isUuid config s now unread).decision = (ContinuityState.decide config
      ((Call.setAudioMode (report isUuid config s now unread).control.audioMode.str).step config s.worker.model) now).1 := rfl
  rw [step_setAudioMode] at hdecision
  rw [hdecision]
  exact ⟨_, _, rfl⟩

/-- The audio is muted exactly when the command says so. -/
theorem report_muted_iff (s : ControlSystem) (now : ℚ) (unread : Bool) :
    (report isUuid config s now unread).decision.actualAudio = .muted ↔
      (report isUuid config s now unread).control.audioMode = .muted := by
  obtain ⟨videoSource, audioRecent, h⟩ :
      ∃ videoSource audioRecent, (report isUuid config s now unread).decision.actualAudio =
        chooseAudio (report isUuid config s now unread).control.audioMode videoSource audioRecent :=
    report_actualAudio s now unread
  rw [h, chooseAudio]
  split
  · rename_i hmuted
    exact ⟨fun _ => hmuted, fun _ => rfl⟩
  · rename_i hmuted
    refine ⟨fun haudio => ?_, fun hmode => absurd hmode hmuted⟩
    split at haudio
    · cases haudio
    · cases haudio

/-- What the worker has taken up was in the file. -/
theorem taken_was_shown (actions : List Action) {l : ControlCommandState}
    (hl : (after isUuid config actions).worker.reader.lastValid = some l) :
    ∃ earlier c, earlier <+: actions ∧ shown isUuid (after isUuid config earlier).disk.file = some c ∧ l = .of c := by
  induction actions using List.reverseRecOn with
  | nil => cases hl
  | append_singleton actions a ih =>
    have hstep : after isUuid config (actions ++ [a]) = step isUuid config (after isUuid config actions) a :=
      after_append_cons actions a []
    rw [hstep] at hl
    have hkept : (after isUuid config actions).worker.reader.lastValid = some l → ∃ earlier c, earlier <+: actions ++ [a] ∧
        shown isUuid (after isUuid config earlier).disk.file = some c ∧ l = .of c := by
      intro hlast
      obtain ⟨earlier, c, hearlier, hshown, hsame⟩ := ih hlast
      exact ⟨earlier, c, hearlier.trans (List.prefix_append actions [a]), hshown, hsame⟩
    cases a with
    | reconcile now unread =>
      have hreading : Reading isUuid (after isUuid config actions).worker.reader (after isUuid config actions).disk.file
        (report isUuid config (after isUuid config actions) now unread).control
        (step isUuid config (after isUuid config actions) (.reconcile now unread)).worker.reader := report_reading _ now unread
      generalize (report isUuid config (after isUuid config actions) now unread).control = control at hreading
      generalize (step isUuid config (after isUuid config actions) (.reconcile now unread)).worker.reader = reader
        at hreading hl
      cases hreading with
      | fresh shows => exact ⟨actions, _, List.prefix_append actions _, shows, (Option.some.inj hl).symm⟩
      | kept => exact hkept hl
    | restartWorker => cases hl
    | loss back marker => cases hl
    | call method fault => exact hkept hl
    | observeVideo now => exact hkept hl
    | observeAudio now => exact hkept hl
    | remove => exact hkept hl
    | garble => exact hkept hl

/-- **The audio is live only on a command.** Whenever a tick leaves the live audio in the output, the command that it reports says
LIVE, and the control file showed that command then or earlier in the run. -/
theorem live_audio_was_commanded {now : ℚ} {unread : Bool}
    (hlive : (report isUuid config (after isUuid config actions) now unread).decision.actualAudio ≠ .muted) :
    ∃ earlier c, earlier <+: actions ∧ shown isUuid (after isUuid config earlier).disk.file = some c ∧
      (report isUuid config (after isUuid config actions) now unread).control = .of c ∧ c.audioMode = .live := by
  have hmode : (report isUuid config (after isUuid config actions) now unread).control.audioMode ≠ .muted :=
    fun hmuted => hlive ((report_muted_iff _ now unread).mpr hmuted)
  have hreading : Reading isUuid (after isUuid config actions).worker.reader (after isUuid config actions).disk.file
    (report isUuid config (after isUuid config actions) now unread).control
    (step isUuid config (after isUuid config actions) (.reconcile now unread)).worker.reader := report_reading _ now unread
  obtain ⟨earlier, c, hearlier, hshown, hsame⟩ : ∃ earlier c, earlier <+: actions ∧
      shown isUuid (after isUuid config earlier).disk.file = some c ∧
      (report isUuid config (after isUuid config actions) now unread).control = .of c := by
    generalize (report isUuid config (after isUuid config actions) now unread).control = control at hreading hmode ⊢
    generalize (step isUuid config (after isUuid config actions) (.reconcile now unread)).worker.reader = reader at hreading
    cases hreading with
    | fresh shows => exact ⟨actions, _, List.prefix_rfl, shows, rfl⟩
    | kept =>
      cases hlast : (after isUuid config actions).worker.reader.lastValid with
      | none =>
        unfold ControlStateReader.fallback at hmode
        rw [hlast] at hmode
        exact absurd rfl hmode
      | some l =>
        unfold ControlStateReader.fallback
        rw [hlast]
        exact taken_was_shown actions hlast
  refine ⟨earlier, c, hearlier, hshown, hsame, ?_⟩
  rw [hsame] at hmode
  cases hc : c.audioMode with
  | live => rfl
  | muted => exact absurd hc hmode

theorem live_audio_was_commanded_unmuted : ∃ earlier c,
    earlier <+: [Sample.start, .call Sample.mute none, .call Sample.unmute none] ∧
      shown Sample.acceptsId (after Sample.acceptsId Sample.timing earlier).disk.file = some c ∧
      (report Sample.acceptsId Sample.timing (after Sample.acceptsId Sample.timing
        [Sample.start, .call Sample.mute none, .call Sample.unmute none]) 0 false).control = .of c ∧ c.audioMode = .live :=
  live_audio_was_commanded (by decide +kernel)

end Continuity.ControlSystem
end IRLight
