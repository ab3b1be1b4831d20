import IRLight.Persistence.Disk

/-! # Registers in a file

A document that is published by replacement holds a register for each key. A call reads the document, and may write another one,
in which it has set some registers. What a register may hold after a run of calls is what the last call on it has set, or, as long
as no call since then was acknowledged, what it may have held before (`Possible`). -/

namespace Persistence

/-- A check of every element. -/
theorem forM_ok {α ε : Type} {l : List α} {f : α → Except ε Unit} : l.forM f = .ok () ↔ ∀ a ∈ l, f a = .ok () := by
  induction l with
  | nil =>
    constructor
    · intro _ a ha
      cases ha
    · intro _
      rfl
  | cons a l ih =>
    rw [List.forall_mem_cons, ← ih]
    change (f a).bind (fun _ => l.forM f) = .ok () ↔ _
    cases hf : f a with
    | error e =>
      constructor
      · intro h
        cases h
      · rintro ⟨h, _⟩
        cases h
    | ok u =>
      constructor
      · intro h
        exact ⟨rfl, h⟩
      · intro h
        exact h.2

theorem forM_error {α ε : Type} {l : List α} {f : α → Except ε Unit} {e : ε} (h : l.forM f = .error e) :
    ∃ a ∈ l, f a = .error e := by
  induction l with
  | nil => cases h
  | cons a l ih =>
    change (f a).bind (fun _ => l.forM f) = .error e at h
    cases hf : f a with
    | error e' =>
      rw [hf] at h
      exact ⟨a, List.mem_cons_self, hf.trans h⟩
    | ok u =>
      rw [hf] at h
      obtain ⟨a', ha', hf'⟩ := ih h
      exact ⟨a', List.mem_cons_of_mem a ha', hf'⟩

/-- A document in a file: what it is before it is first written, what its reader accepts, and what its reader raises. -/
structure Document (α ε : Type) where
  initial : α
  validate : α → Except ε Unit
  unlocked : ε
  unread : ε
  invalid : ε
  disappeared : ε

namespace Document
variable {α β ε : Type} (doc : Document α ε)

/-- The reader. Contents that cannot be parsed are `none`. -/
def load (file : Option (Option α)) (initialized : Bool) : Except ε α :=
  match file with
  | some (some a) => (doc.validate a).map fun () => a
  | some none => .error doc.invalid
  | none => if initialized then .error doc.disappeared else .ok doc.initial

/-- What is done with the outcome of a function. The reader sets the marker of a file that it accepts. -/
def concluded (there : Bool) : Except ε β × Option α → Decision (Option α) (Except ε β)
  | (b, some a) => .write (some a) b
  | (b, none) => if there then .mark b else .answer b

/-- A function under the lock. -/
def method (f : α → Except ε β × Option α) :
    Option (Option α) → Bool → Except ε (Decision (Option α) (Except ε β)) := fun file initialized =>
  (doc.load file initialized).map fun a => concluded file.isSome (f a)

/-- The answer of a call, and the disk after it. -/
def call (d : Disk (Option α)) (fault : Option Fault) (f : α → Except ε β × Option α) : Except ε β × Disk (Option α) :=
  let r := d.perform fault doc.unlocked doc.unread (doc.method f)
  (r.1.bind id, r.2)

variable {doc} {d : Disk (Option α)} {file : Option (Option α)} {initialized : Bool} {a : α} {b : β} {fault : Option Fault}
  {f : α → Except ε β × Option α}

/-- What the reader gives is a valid document in the file, or the one before the first write. -/
theorem load_ok (h : doc.load file initialized = .ok a) :
    file = some (some a) ∧ doc.validate a = .ok () ∨ file = none ∧ initialized = false ∧ a = doc.initial := by
  rcases file with _ | _ | contents
  · cases initialized with
    | true => cases h
    | false => exact .inr ⟨rfl, rfl, (Except.ok.inj h).symm⟩
  · cases h
  · change (doc.validate contents).map (fun () => contents) = .ok a at h
    cases hvalid : doc.validate contents with
    | error e =>
      rw [hvalid] at h
      cases h
    | ok u =>
      rw [hvalid] at h
      obtain rfl := Except.ok.inj h
      exact .inl ⟨rfl, hvalid⟩

/-- What the reader raises. -/
theorem load_error {e : ε} (h : doc.load file initialized = .error e) :
    e = doc.disappeared ∨ e = doc.invalid ∨ ∃ a, doc.validate a = .error e := by
  rcases file with _ | _ | contents
  · cases initialized with
    | true => exact .inl (Except.error.inj h).symm
    | false => cases h
  · exact .inr (.inl (Except.error.inj h).symm)
  · change (doc.validate contents).map (fun () => contents) = .error e at h
    cases hvalid : doc.validate contents with
    | error e' =>
      rw [hvalid] at h
      obtain rfl : e' = e := Except.error.inj h
      exact .inr (.inr ⟨contents, hvalid⟩)
    | ok u =>
      rw [hvalid] at h
      cases h

theorem load_of_valid (h : doc.validate a = .ok ()) : doc.load (some (some a)) initialized = .ok a := by
  change (doc.validate a).map (fun () => a) = _
  rw [h]
  rfl

theorem method_ok {decision : Decision (Option α) (Except ε β)} (h : doc.method f file initialized = .ok decision) :
    ∃ a b, doc.load file initialized = .ok a ∧
      ((∃ a', f a = (b, some a') ∧ decision = .write (some a') b) ∨ f a = (b, none) ∧ (decision = .mark b ∨ decision = .answer b)) := by
  unfold method at h
  cases hload : doc.load file initialized with
  | error e =>
    rw [hload] at h
    cases h
  | ok a =>
    rw [hload] at h
    replace h : concluded file.isSome (f a) = decision := Except.ok.inj h
    generalize hf : f a = outcome at h
    obtain ⟨b, _ | a'⟩ := outcome
    · refine ⟨a, b, rfl, .inr ⟨hf, ?_⟩⟩
      cases hthere : file.isSome with
      | true =>
        rw [hthere] at h
        exact .inl h.symm
      | false =>
        rw [hthere] at h
        exact .inr h.symm
    · exact ⟨a, b, rfl, .inl ⟨a', hf, h.symm⟩⟩

/-- What a call does to the disk. -/
inductive Effect (doc : Document α ε) (d : Disk (Option α)) (f : α → Except ε β × Option α) : Disk (Option α) → Prop
  | marked (fault : Option Bool) : Effect doc d f (d.markUntil fault)
  | written {a a' : α} {b : Except ε β} (loads : doc.load d.file d.marker = .ok a) (decides : f a = (b, some a'))
      (fault : Option WriteFault) : Effect doc d f (d.write (some a') fault)

theorem call_effect (doc : Document α ε) (d : Disk (Option α)) (fault : Option Fault) (f : α → Except ε β × Option α) :
    Effect doc d f (doc.call d fault f).2 := by
  have heffect := Disk.perform_effect d fault doc.unlocked doc.unread (doc.method f)
  unfold call
  dsimp only
  generalize (d.perform fault doc.unlocked doc.unread (doc.method f)).2 = d' at heffect ⊢
  cases heffect with
  | nothing => exact .marked (some false)
  | marked _ fault => exact .marked fault
  | written decides writing =>
    obtain ⟨a, b, hload, ⟨a', hf, h⟩ | ⟨_, h | h⟩⟩ := method_ok decides
    · cases h
      exact .written hload hf writing
    · cases h
    · cases h

/-- What a call that answers has done. -/
inductive Answers (doc : Document α ε) (d : Disk (Option α)) (f : α → Except ε β × Option α) (b : β) : Disk (Option α) → Prop
  | same {a : α} (loads : doc.load d.file d.marker = .ok a) (decides : f a = (.ok b, none)) (fault : Option Bool) :
      Answers doc d f b (d.markUntil fault)
  | written {a a' : α} (loads : doc.load d.file d.marker = .ok a) (decides : f a = (.ok b, some a')) :
      Answers doc d f b (d.write (some a') none)

theorem call_answers (h : (doc.call d fault f).1 = .ok b) : Answers doc d f b (doc.call d fault f).2 := by
  unfold call at h ⊢
  dsimp only at h ⊢
  cases hr : (d.perform fault doc.unlocked doc.unread (doc.method f)).1 with
  | error e =>
    rw [hr] at h
    cases h
  | ok answer =>
    rw [hr] at h
    obtain rfl : answer = .ok b := h
    have hanswers := Disk.perform_ok hr
    generalize (d.perform fault doc.unlocked doc.unread (doc.method f)).2 = d' at hanswers ⊢
    cases hanswers with
    | answer decides =>
      obtain ⟨a, b, hload, ⟨a', _, h⟩ | ⟨hf, h | h⟩⟩ := method_ok decides
      · cases h
      · cases h
      · cases h
        exact .same hload hf (some false)
    | mark decides =>
      obtain ⟨a, b, hload, ⟨a', _, h⟩ | ⟨hf, h | h⟩⟩ := method_ok decides
      · cases h
      · cases h
        exact .same hload hf none
      · cases h
    | write decides =>
      obtain ⟨a, b, hload, ⟨a', hf, h⟩ | ⟨_, h | h⟩⟩ := method_ok decides
      · cases h
        exact .written hload hf
      · cases h
      · cases h

/-- A call answers as its function does on the document that is loaded, unless it fails before. -/
theorem call_answer (doc : Document α ε) (d : Disk (Option α)) (fault : Option Fault) (f : α → Except ε β × Option α) :
    (∃ a, doc.load d.file d.marker = .ok a ∧ (doc.call d fault f).1 = (f a).1) ∨ (doc.call d fault f).1 = .error doc.unlocked ∨
      (doc.call d fault f).1 = .error doc.unread ∨
      ∃ e, doc.load d.file d.marker = .error e ∧ (doc.call d fault f).1 = .error e := by
  cases hload : doc.load d.file d.marker with
  | error e =>
    have hmethod : doc.method f d.file d.marker = .error e := by
      unfold method
      rw [hload]
      rfl
    unfold call Disk.perform
    dsimp only
    rw [hmethod]
    rcases fault with _ | _ | _ | fault
    · exact .inr (.inr (.inr ⟨e, rfl, rfl⟩))
    · exact .inr (.inl rfl)
    · exact .inr (.inr (.inl rfl))
    · exact .inr (.inr (.inr ⟨e, rfl, rfl⟩))
  | ok a =>
    have hmethod : doc.method f d.file d.marker = .ok (concluded d.file.isSome (f a)) := by
      unfold method
      rw [hload]
      rfl
    have hconclude : ∀ fault, ((d.conclude doc.unlocked fault (concluded d.file.isSome (f a))).1.bind id) = (f a).1 ∨
        ((d.conclude doc.unlocked fault (concluded d.file.isSome (f a))).1.bind id) = .error doc.unlocked := by
      intro fault
      rcases f a with ⟨b, _ | a'⟩
      · cases d.file.isSome with
        | true =>
          change ((d.conclude doc.unlocked fault (.mark b)).1.bind id) = b ∨ _
          unfold Disk.conclude
          cases fault.bind WriteFault.marking with
          | none => exact .inl rfl
          | some created => exact .inr rfl
        | false => exact .inl rfl
      · cases fault with
        | none => exact .inl rfl
        | some fault => exact .inr rfl
    unfold call Disk.perform
    dsimp only
    rw [hmethod]
    rcases fault with _ | _ | _ | fault
    · exact (hconclude none).elim (fun h => .inl ⟨a, rfl, h⟩) fun h => .inr (.inl h)
    · exact .inr (.inl rfl)
    · exact .inr (.inr (.inl rfl))
    · exact (hconclude (some fault)).elim (fun h => .inl ⟨a, rfl, h⟩) fun h => .inr (.inl h)

/-- A call without a fault answers as its function does on the document that is loaded. -/
theorem call_none (h : doc.load d.file d.marker = .ok a) : (doc.call d none f).1 = (f a).1 := by
  have hmethod : doc.method f d.file d.marker = .ok (concluded d.file.isSome (f a)) := by
    unfold method
    rw [h]
    rfl
  unfold call Disk.perform
  dsimp only
  rw [hmethod]
  rcases f a with ⟨b, _ | a'⟩
  · cases d.file.isSome <;> rfl
  · rfl

end Document

/-! ### Registers -/

/-- What a register may hold after some calls, the last one first: each comes with whether it was acknowledged. `sets` is what a
    call sets the register to, if it does. -/
def Possible {Q ν : Type} (first : ν) (sets : Q → Option ν) : List (Q × Bool) → ν → Prop
  | [], v => v = first
  | (q, acknowledged) :: calls, v =>
    match sets q with
    | some w => v = w ∨ acknowledged = false ∧ Possible first sets calls v
    | none => Possible first sets calls v

namespace Possible
variable {Q ν μ : Type} {first v w : ν} {sets : Q → Option ν} {calls : List (Q × Bool)} {q : Q} {acknowledged : Bool}

theorem cons_none (h : sets q = none) : Possible first sets ((q, acknowledged) :: calls) v ↔ Possible first sets calls v := by
  rw [Possible, h]

theorem cons_some (h : sets q = some w) :
    Possible first sets ((q, acknowledged) :: calls) v ↔ v = w ∨ acknowledged = false ∧ Possible first sets calls v := by
  rw [Possible, h]

/-- What was possible before a call that is not acknowledged is possible after it. -/
theorem unacknowledged (h : Possible first sets calls v) : Possible first sets ((q, false) :: calls) v := by
  cases hsets : sets q with
  | none => exact (cons_none hsets).mpr h
  | some w => exact (cons_some hsets).mpr (.inr ⟨rfl, h⟩)

/-- What a call sets is possible after it. -/
theorem set (h : Possible first sets calls v) : Possible first sets ((q, acknowledged) :: calls) ((sets q).getD v) := by
  cases hsets : sets q with
  | none => exact (cons_none hsets).mpr h
  | some w => exact (cons_some hsets).mpr (.inl rfl)

/-- Before anything is acknowledged a register may be as it was at first. -/
theorem initial (h : ∀ c ∈ calls, c.2 = false) : Possible first sets calls first := by
  induction calls with
  | nil => rfl
  | cons c calls ih =>
    obtain ⟨q, acknowledged⟩ := c
    obtain rfl : acknowledged = false := h _ List.mem_cons_self
    exact (ih fun c hc => h c (List.mem_cons_of_mem _ hc)).unacknowledged

/-- What a register may hold is what it held at first, or what a call has set it to. -/
theorem source (h : Possible first sets calls v) : v = first ∨ ∃ c ∈ calls, sets c.1 = some v := by
  induction calls with
  | nil => exact .inl h
  | cons c calls ih =>
    have hrest : Possible first sets calls v → v = first ∨ ∃ c' ∈ c :: calls, sets c'.1 = some v := fun h =>
      (ih h).imp_right fun ⟨c', hc', hset⟩ => ⟨c', List.mem_cons_of_mem _ hc', hset⟩
    cases hset : sets c.1 with
    | none => exact hrest ((cons_none hset).mp h)
    | some w =>
      rcases (cons_some hset).mp h with rfl | ⟨_, h⟩
      · exact .inr ⟨c, List.mem_cons_self, hset⟩
      · exact hrest h

/-- Once a call that sets the register is acknowledged, some call has set what it may hold. -/
theorem was_set (hq : (q, true) ∈ calls) (hset : sets q = some w) (h : Possible first sets calls v) :
    ∃ c ∈ calls, sets c.1 = some v := by
  induction calls with
  | nil => cases hq
  | cons c calls ih =>
    obtain ⟨q', acknowledged⟩ := c
    cases hset' : sets q' with
    | none =>
      have hrest : (q, true) ∈ calls := by
        rcases List.mem_cons.mp hq with he | hq
        · obtain ⟨rfl, _⟩ := Prod.mk.inj he
          rw [hset] at hset'
          cases hset'
        · exact hq
      obtain ⟨c', hc', hv⟩ := ih hrest ((cons_none hset').mp h)
      exact ⟨c', List.mem_cons_of_mem _ hc', hv⟩
    | some w' =>
      rcases (cons_some hset').mp h with rfl | ⟨hfalse, h⟩
      · exact ⟨_, List.mem_cons_self, hset'⟩
      · have hrest : (q, true) ∈ calls := by
          rcases List.mem_cons.mp hq with he | hq
          · obtain ⟨_, htrue⟩ := Prod.mk.inj he
            rw [hfalse] at htrue
            cases htrue
          · exact hq
        obtain ⟨c', hc', hv⟩ := ih hrest h
        exact ⟨c', List.mem_cons_of_mem _ hc', hv⟩

/-- A call that was acknowledged is the last word until another one sets the register. -/
theorem last {later earlier : List (Q × Bool)} (hset : sets q = some w) (hlater : ∀ c ∈ later, sets c.1 = none)
    (h : Possible first sets (later ++ (q, true) :: earlier) v) : v = w := by
  induction later with
  | nil =>
    rcases (cons_some hset).mp h with rfl | ⟨hfalse, _⟩
    · rfl
    · cases hfalse
  | cons c later ih =>
    exact ih (fun c hc => hlater c (List.mem_cons_of_mem _ hc)) ((cons_none (hlater c List.mem_cons_self)).mp h)

/-- A register as another one shows it. -/
theorem map {f : ν → μ} {sets' : Q → Option μ} (hsets : ∀ c ∈ calls, sets' c.1 = (sets c.1).map f)
    (h : Possible first sets calls v) : Possible (f first) sets' calls (f v) := by
  induction calls with
  | nil =>
    obtain rfl : v = first := h
    rfl
  | cons c calls ih =>
    obtain ⟨q, acknowledged⟩ := c
    have hq : sets' q = (sets q).map f := hsets _ List.mem_cons_self
    have hrest := ih fun c hc => hsets c (List.mem_cons_of_mem _ hc)
    cases hset : sets q with
    | none =>
      rw [hset] at hq
      exact (cons_none hq).mpr (hrest ((cons_none hset).mp h))
    | some w =>
      rw [hset] at hq
      refine (cons_some hq).mpr ?_
      rcases (cons_some hset).mp h with rfl | ⟨hfalse, h⟩
      · exact .inl rfl
      · exact .inr ⟨hfalse, hrest h⟩

end Possible

/-- The calls of a store, and the registers of its document: what a call does with the document, which of its answers say that it
    has written, and what it sets the registers to. -/
structure Registers (α ε Q β κ ν : Type) where
  document : Document α ε
  body : Q → α → Except ε β × Option α
  done : β → Bool
  cell : α → κ → ν
  sets : Q → κ → Option ν

namespace Registers
variable {α ε Q β κ ν : Type} (R : Registers α ε Q β κ ν)

/-- A call sets what it says, writes what the reader accepts, and has written when it says so. -/
structure Lawful : Prop where
  keeps : ∀ {q a b a'}, R.document.validate a = .ok () ∨ a = R.document.initial → R.body q a = (b, some a') →
    R.document.validate a' = .ok () ∧ ∀ k, R.cell a' k = (R.sets q k).getD (R.cell a k)
  honest : ∀ {q a b}, R.body q a = (.ok b, none) → R.done b = false

/-- What the register of a key may hold. -/
def Possible (calls : List (Q × Bool)) (k : κ) (v : ν) : Prop :=
  Persistence.Possible (R.cell R.document.initial k) (fun q => R.sets q k) calls v

/-- The file, and the calls so far with the last one first. -/
structure Store (α Q : Type) where
  disk : Disk (Option α)
  calls : List (Q × Bool)

/-- What happens to the file. A process that dies in a call is a fault of the call. -/
inductive Action (Q : Type) where
  | call (q : Q) (fault : Option Fault)
  | loss (back : ℕ) (marker : Bool)
  | remove
  | garble

/-- The answer says that the call has written. -/
def acknowledges : Except ε β → Bool
  | .ok b => R.done b
  | .error _ => false

def call (s : Store α Q) (q : Q) (fault : Option Fault) : Except ε β × Disk (Option α) :=
  R.document.call s.disk fault (R.body q)

def step (s : Store α Q) : Action Q → Store α Q
  | .call q fault => ⟨(R.call s q fault).2, (q, R.acknowledges (R.call s q fault).1) :: s.calls⟩
  | .loss back marker => ⟨s.disk.loss back marker, s.calls⟩
  | .remove => ⟨s.disk.disturb none, s.calls⟩
  | .garble => ⟨s.disk.disturb (some none), s.calls⟩

/-- The store after some actions. -/
def after (actions : List (Action Q)) : Store α Q := actions.foldl R.step ⟨.initial, []⟩

section
variable {R} {calls : List (Q × Bool)} {k : κ} {q : Q} {s : Store α Q} {acknowledged : Bool}

/-- The contents of the file are nothing that can be read, or a valid document with possible registers. -/
def Faithful (R : Registers α ε Q β κ ν) (calls : List (Q × Bool)) : Option (Option α) → Prop
  | some (some a) => R.document.validate a = .ok () ∧ ∀ k, R.Possible calls k (R.cell a k)
  | _ => True

/-- What holds in every run. -/
structure Store.Sound (R : Registers α ε Q β κ ν) (s : Store α Q) : Prop where
  armed : s.disk.Armed ∨ ∀ c ∈ s.calls, c.2 = false
  shows : s.disk.Shows (Faithful R s.calls)

/-- What the reader gives has possible registers. -/
theorem Store.Sound.possible (hs : s.Sound R) {a : α} (h : R.document.load s.disk.file s.disk.marker = .ok a) :
    (R.document.validate a = .ok () ∨ a = R.document.initial) ∧ ∀ k, R.Possible s.calls k (R.cell a k) := by
  rcases Document.load_ok h with ⟨hfile, hvalid⟩ | ⟨_, hmarker, rfl⟩
  · have hfaithful := hs.shows.file
    rw [hfile] at hfaithful
    exact ⟨.inl hvalid, hfaithful.2⟩
  · refine ⟨.inr rfl, fun k => Possible.initial ?_⟩
    rcases hs.armed with harmed | hcalls
    · rw [harmed.1] at hmarker
      cases hmarker
    · exact hcalls

theorem Faithful.unacknowledged {x : Option (Option α)} (h : Faithful R calls x) : Faithful R ((q, false) :: calls) x := by
  rcases x with _ | _ | a
  · trivial
  · trivial
  · exact ⟨h.1, fun k => Possible.unacknowledged (h.2 k)⟩

/-- A call that is acknowledged has written a document and synced it. -/
theorem call_cases (hR : R.Lawful) (s : Store α Q) (q : Q) (fault : Option Fault) :
    (∃ a b a', R.document.load s.disk.file s.disk.marker = .ok a ∧ R.body q a = (b, some a') ∧
      R.step s (.call q fault) = ⟨s.disk.write (some a') none, (q, true) :: s.calls⟩) ∨
    ∃ d', Document.Effect R.document s.disk (R.body q) d' ∧ R.step s (.call q fault) = ⟨d', (q, false) :: s.calls⟩ := by
  have hstep : R.step s (.call q fault) = ⟨(R.call s q fault).2, (q, R.acknowledges (R.call s q fault).1) :: s.calls⟩ := rfl
  rw [hstep]
  cases hdone : R.acknowledges (R.call s q fault).1 with
  | false => exact .inr ⟨_, Document.call_effect _ _ _ _, rfl⟩
  | true =>
    cases hanswer : (R.call s q fault).1 with
    | error e =>
      rw [hanswer] at hdone
      cases hdone
    | ok b =>
      rw [hanswer] at hdone
      have hdone : R.done b = true := hdone
      have hwritten : Document.Answers R.document s.disk (R.body q) b (R.call s q fault).2 := Document.call_answers hanswer
      generalize (R.call s q fault).2 = d' at hwritten ⊢
      cases hwritten with
      | same _ decides _ =>
        rw [hR.honest decides] at hdone
        cases hdone
      | written loads decides => exact .inl ⟨_, _, _, loads, decides, rfl⟩

/-- What a call writes is faithful after it, whether or not it is acknowledged. -/
theorem Store.Sound.faithful (hR : R.Lawful) (hs : s.Sound R) {a a' : α} {b : Except ε β}
    (hload : R.document.load s.disk.file s.disk.marker = .ok a) (hbody : R.body q a = (b, some a')) :
    Faithful R ((q, acknowledged) :: s.calls) (some (some a')) := by
  obtain ⟨hvalid, hpossible⟩ := hs.possible hload
  obtain ⟨hvalid', hcell⟩ := hR.keeps hvalid hbody
  refine ⟨hvalid', fun k => ?_⟩
  rw [hcell]
  exact Possible.set (hpossible k)

theorem unacknowledged_cons (h : ∀ c ∈ calls, c.2 = false) : ∀ c ∈ (q, false) :: calls, c.2 = false :=
  List.forall_mem_cons.mpr ⟨rfl, h⟩

theorem Store.Sound.act (hR : R.Lawful) (hs : s.Sound R) (action : Action Q) : (R.step s action).Sound R := by
  cases action with
  | loss back marker => exact ⟨hs.armed.imp_left fun h => h.loss back marker, hs.shows.loss back marker⟩
  | remove => exact ⟨hs.armed.imp_left fun h => h.disturb none, hs.shows.disturb trivial⟩
  | garble => exact ⟨hs.armed.imp_left fun h => h.disturb _, hs.shows.disturb trivial⟩
  | call q fault =>
    rcases call_cases hR s q fault with ⟨a, b, a', hload, hbody, he⟩ | ⟨d', heffect, he⟩
    · rw [he]
      exact ⟨.inl ⟨rfl, rfl⟩, .of_settled rfl (hs.faithful hR hload hbody)⟩
    · rw [he]
      have hkept : s.disk.Shows (Faithful R ((q, false) :: s.calls)) := hs.shows.mono fun _ h => h.unacknowledged
      cases heffect with
      | marked fault => exact ⟨hs.armed.imp (fun h => h.markUntil fault) unacknowledged_cons, hkept.markUntil fault⟩
      | written loads decides fault =>
        exact ⟨hs.armed.imp (fun h => h.write _ fault) unacknowledged_cons, hkept.write (hs.faithful hR loads decides) fault⟩

theorem after_sound (hR : R.Lawful) (actions : List (Action Q)) : (R.after actions).Sound R := by
  refine List.foldlRecOn actions R.step ⟨.inr ?_, Disk.Shows.initial trivial⟩ fun s hs action _ => hs.act hR action
  intro c hc
  cases hc

/-! ### While nobody else touches the file -/

/-- Nobody else touches the file. -/
def Action.own : Action Q → Bool
  | .remove | .garble => false
  | _ => true

/-- The contents of the file are a valid document, or nothing was written for sure. -/
def Kept (R : Registers α ε Q β κ ν) (calls : List (Q × Bool)) : Option (Option α) → Prop
  | some (some a) => R.document.validate a = .ok ()
  | some none => False
  | none => ∀ c ∈ calls, c.2 = false

theorem Kept.unacknowledged {x : Option (Option α)} (h : Kept R calls x) : Kept R ((q, false) :: calls) x := by
  rcases x with _ | _ | a
  · exact unacknowledged_cons h
  · exact h
  · exact h

theorem Store.Sound.keeps (hR : R.Lawful) (hs : s.Sound R) (hk : s.disk.Shows (Kept R s.calls)) {action : Action Q}
    (hown : action.own) : (R.step s action).disk.Shows (Kept R (R.step s action).calls) := by
  cases action with
  | loss back marker => exact hk.loss back marker
  | remove => cases hown
  | garble => cases hown
  | call q fault =>
    have hwrites : ∀ {a a' b}, R.document.load s.disk.file s.disk.marker = .ok a → R.body q a = (b, some a') →
        R.document.validate a' = .ok () := fun hload hbody => (hR.keeps (hs.possible hload).1 hbody).1
    rcases call_cases hR s q fault with ⟨a, b, a', hload, hbody, he⟩ | ⟨d', heffect, he⟩
    · rw [he]
      exact .of_settled rfl (hwrites hload hbody)
    · rw [he]
      have hkept : s.disk.Shows (Kept R ((q, false) :: s.calls)) := hk.mono fun _ h => h.unacknowledged
      cases heffect with
      | marked fault => exact hkept.markUntil fault
      | written loads decides fault =>
        refine hkept.write ?_ fault
        exact hwrites loads decides

/-- Once a call is acknowledged the document can be read, as long as nobody else touches the file. -/
theorem loads_of_acknowledged (hR : R.Lawful) {actions : List (Action Q)} (hown : ∀ a ∈ actions, a.own)
    (hcall : (q, true) ∈ (R.after actions).calls) :
    ∃ a, R.document.load (R.after actions).disk.file (R.after actions).disk.marker = .ok a := by
  have hinv : (R.after actions).Sound R ∧ (R.after actions).disk.Shows (Kept R (R.after actions).calls) := by
    have hinitial : (Disk.initial : Disk (Option α)).Shows (Kept R []) := by
      refine Disk.Shows.initial ?_
      intro c hc
      cases hc
    exact List.foldlRecOn (motive := fun s => s.Sound R ∧ s.disk.Shows (Kept R s.calls)) actions R.step
      ⟨after_sound hR [], hinitial⟩ fun s hs action ha => ⟨hs.1.act hR action, hs.1.keeps hR hs.2 (hown action ha)⟩
  have hkept := hinv.2.file
  rcases hfile : (R.after actions).disk.file with _ | _ | a
  · rw [hfile] at hkept
    have hfalse : true = false := hkept _ hcall
    cases hfalse
  · rw [hfile] at hkept
    cases hkept
  · rw [hfile] at hkept
    exact ⟨a, Document.load_of_valid hkept⟩

end
end Registers
end Persistence
