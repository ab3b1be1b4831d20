import IRLight.ControlPlane.Harmless

/-! # The programs obey the contract

Every program that a request of the deployed system starts makes permitted calls only. Each part is shown
to obey under the facts that its callers hand it. -/

namespace IRLight
open Interleaving Status Call


variable {apiOnly : Prop} {i : ℕ} {F : Assertion} {sid : String}

namespace Obeys
variable {α : Type} {o : Op}

theorem ofExcept_bind {β : Type} {r : Except Exc β} {f : β → Control α} (hf : ∀ b, r = .ok b → Obeys apiOnly i F (f b)) :
    Obeys apiOnly i F ((ofExcept r : Control β).bind f) := by
  rw [Prog.ofExcept_def]
  cases r with
  | ok b => exact hf b rfl
  | error e => exact done _

theorem of_harmless {p : Control α} (hp : p.Only Op.Harmless) : Obeys apiOnly i F p :=
  of_free (hp.mono fun _ => Op.Harmless.free)

theorem of_mild {deletes : Bool} {p : Control α} (hp : p.Only (Op.Mild deletes)) : Obeys apiOnly i F p :=
  of_harmless (hp.mono fun _ => Op.Mild.harmless)

theorem free (ho : o.Free) : Obeys apiOnly i F (Call.call o) := of_free (.op ho)

/-- What a returned record shows, when it is the one in the store. -/
theorem gain_seen (apiOnly : Prop) {h : History} {w : World} {x : Input} (hw : w.Sound) (hp : Permits apiOnly i h o w) {r : Session}
    (hr : (World.exec i o x w).2.store.session? sid = some r) :
    (Assertion.seen sid r).holds (World.exec.event i o x w :: h) (World.exec.state i o x w) :=
  ⟨r, hr, ((hw.exec hp).1.record sid r hr).1, .refl r⟩

theorem get_bind {f : Option Session → Control α} (hf : ∀ r, Obeys apiOnly i (F ⊓ Assertion.found sid r) (f r)) :
    Obeys apiOnly i F ((Call.get sid).bind f) := by
  refine call_bind (o := .store (.get sid)) (fun _ _ _ _ => trivial) (fun h w x a hw _ he => ?_) hf
  obtain ⟨rfl, hs⟩ := Prod.mk.inj (Except.ok.inj (World.exec_store_ok he))
  cases hr : w.store.session? sid with
  | none => trivial
  | some r => exact gain_seen apiOnly (o := .store (.get sid)) hw trivial (by rw [← hs]; exact hr)

theorem revoke_bind {f : ℕ → Control α} (hf : ∀ n, Obeys apiOnly i (F ⊓ Assertion.revoked sid) (f n)) :
    Obeys apiOnly i F ((Call.revokeSession sid).bind f) := by
  refine call_bind (o := .revokeSession sid) (fun _ _ _ _ => trivial) (fun h w x a _ _ he => ?_) hf
  exact ⟨_, List.mem_cons_self, rfl, by simp [Event.isOk, Exec.event, he]⟩

theorem revoke_attempt {f : Except Exc ℕ → Control α} (hok : ∀ n, Obeys apiOnly i (F ⊓ Assertion.revoked sid) (f (.ok n)))
    (herr : ∀ e, Obeys apiOnly i F (f (.error e))) : Obeys apiOnly i F ((Call.revokeSession sid).attempt.bind f) := by
  refine call_attempt (o := .revokeSession sid) (fun _ _ _ _ => trivial) (fun h w x a _ _ he => ?_) hok herr
  exact ⟨_, List.mem_cons_self, rfl, by simp [Event.isOk, Exec.event, he]⟩

end Obeys

namespace Workflow

theorem finishCancelledProvisioning_obeys : Obeys apiOnly i F (finishCancelledProvisioning sid) := by
  unfold finishCancelledProvisioning
  refine .bind (.free fun _ _ _ _ => trivial) fun current => ?_
  split
  · split
    · exact .done _
    · refine .revoke_bind fun _ => .bind (.free fun _ _ _ _ => trivial) fun lease => ?_
      split
      · exact .done _
      · refine .tryFinally ?_ (.free fun _ _ _ _ => trivial)
        refine .bind (.of_mild (cleanupResources_mild _ _)) fun cleaned => .get_bind fun current => ?_
        split
        · dsimp only
          split
          · split
            · exact .call fun h w _ hF => ⟨⟨by simp [released, Change.tame], rfl⟩, Or.inr ⟨Or.inl ⟨rfl, rfl⟩, Or.inl hF.1.2⟩⟩
            · exact .call fun h w _ hF => ⟨⟨by simp [released, Change.tame], rfl⟩, Or.inl ⟨rfl, by simp⟩⟩
          · split
            · split
              · exact .call fun h w _ hF => ⟨⟨by simp [released, Change.tame], rfl⟩, Or.inr ⟨Or.inr ⟨rfl, rfl⟩, Or.inl hF.1.2⟩⟩
              · refine .call fun h w _ hF => Or.inr ⟨⟨by simp [released, Change.tame], rfl⟩, Assertion.late_of_seen hF.2 ?_⟩
                simp_all [Status.phase]
            · exact .done _
        · exact .done _
  · exact .done _

theorem cleanupFailed_obeys : Obeys apiOnly i (Assertion.neverReady sid) (cleanupFailed sid) := by
  unfold cleanupFailed
  refine .bind (.attempt (.free fun _ _ _ _ => trivial)) fun _ => .bind (.free fun _ _ _ _ => trivial) fun lease => ?_
  split
  · exact .done _
  · refine .tryFinally ?_ (.free fun _ _ _ _ => trivial)
    refine .bind (.of_mild (cleanupResources_mild _ _)) fun cleaned => ?_
    split
    · refine .bind (.attempt (.call fun h w _ hF => ?_)) fun _ => .done _
      exact ⟨⟨by simp [Change.tame], rfl⟩, Or.inr ⟨Or.inr ⟨rfl, rfl⟩, Or.inr hF⟩⟩
    · exact .done _

/-- What `prepare` records when it fails: nobody provisions the Session any more, and it was never ready. -/
theorem gain_prepareFailure {h : History} {w : World} {x : Input} {reason : String} {r : Session} (hw : w.Sound)
    (he : (World.exec i (.store (.transition sid failedCleanup [provisioning, bootstrapping]
      ([.cleanupPending true, .failureReason reason] ++ released))) x w).1 = .ok r) :
    (Assertion.neverReady sid).holds h (World.exec i (.store (.transition sid failedCleanup
      [provisioning, bootstrapping] ([.cleanupPending true, .failureReason reason] ++ released))) x w).2 := by
  obtain ⟨r₀, update, now, hr₀, hst, hu, rfl, hs⟩ := SessionStore.effect_transition (World.exec_store_ok he)
  obtain ⟨-, -, -, -, hready, -, -, howner, -⟩ := updateOf_tame hu (by simp [released, Change.tame]) r₀
  have hearly : r₀.readyAt = none := (hw.record sid r₀ hr₀).1.early (by
    revert hst
    cases r₀.status <;> decide)
  refine ⟨SessionStore.transitioned r₀ update failedCleanup now, ?_, le_rfl, howner, hready.trans hearly⟩
  rw [hs]
  exact SessionStore.session?_put_self

theorem handlePrepareError_obeys (claimed : Bool) (exc : Exc) : Obeys apiOnly i F (handlePrepareError sid claimed exc) := by
  unfold handlePrepareError
  split
  · split
    · refine .bind (.free fun _ _ _ _ => trivial) fun session => ?_
      split
      · exact finishCancelledProvisioning_obeys
      · exact .done _
    · exact .done _
  · refine .bind (.free fun _ _ _ _ => trivial) fun session => ?_
    split
    · exact finishCancelledProvisioning_obeys
    · refine .call_attempt (G := fun _ => Assertion.neverReady sid)
        (fun h w _ _ => ⟨⟨by simp [released, Change.tame], rfl⟩, Or.inl ⟨rfl, by decide⟩⟩)
        (fun h w x r hw _ he => gain_prepareFailure hw he) (fun r => ?_) fun e => .done _
      exact .bind (cleanupFailed_obeys.mono fun _ _ h => h.2) fun _ => .done _

theorem sessionMetadata_sessionId {user : String} {env : Environment} {now : PyFloat} {tags : Tags}
    (h : sessionMetadata sid user env now = .ok tags) : tags.sessionId = some sid := by
  obtain ⟨_, _, h⟩ := bind_eq_ok.mp h
  obtain ⟨_, _, h⟩ := bind_eq_ok.mp h
  split at h
  · obtain rfl := pure_eq_ok.mp h
    rfl
  · cases h

theorem ensureVolume_obeys (config : WorkflowConfig) (user : String) (env : Environment) :
    Obeys apiOnly i (Assertion.claims sid) (ensureVolume config sid user env) := by
  unfold ensureVolume
  refine .bind (.free fun _ _ _ _ => trivial) fun volumes => ?_
  split
  · exact .done _
  · refine .bind (.free fun _ _ _ _ => trivial) fun now => ?_
    split
    · rename_i tags htags
      exact .call fun h w _ hF => ⟨sid, sessionMetadata_sessionId htags, hF⟩
    · exact .done _

theorem ensureServer_obeys (config : WorkflowConfig) (user : String) (env : Environment) (volume : ProviderVolume) :
    Obeys apiOnly i (Assertion.claims sid) (ensureServer config sid user env volume) := by
  unfold ensureServer
  refine .bind (.free fun _ _ _ _ => trivial) fun servers => ?_
  split
  · exact .done _
  · refine .bind (.free fun _ _ _ _ => trivial) fun now => ?_
    split
    · rename_i tags htags
      exact .call fun h w _ hF => ⟨sid, sessionMetadata_sessionId htags, hF⟩
    · exact .done _

/-! ### Provisioning -/

theorem awaiting_stable {op : Uuid} {w w' : World} (h : w.Awaiting sid op) (hop : op.owner = i) (hr : w.Rely i w') :
    w'.Awaiting sid op := by
  intro r' hr' ho
  obtain ⟨r, hr₀, ho₀, hst⟩ := hr.owner sid r' op hr' ho hop
  obtain ⟨r₁, hr₁, hl⟩ := hr.later sid r hr₀
  obtain rfl := Option.some.inj (hr₁.symm.trans hr')
  by_cases h2 : r₁.status.phase ≤ 2
  · exact (h r hr₀ ho₀).imp (hst h2).trans hl.phase.trans'
  · exact Or.inr (by omega)

theorem awaiting_of_claim {op : Uuid} {started : PyFloat} {x : Input} {w : World} {r : Session}
    (he : (World.exec i (.store (.claimProvisioning sid op started)) x w).1 = .ok r) :
    (World.exec i (.store (.claimProvisioning sid op started)) x w).2.Awaiting sid op := by
  obtain ⟨r₀, t, now, _, _, _, rfl, hs⟩ := SessionStore.effect_claimProvisioning (World.exec_store_ok he)
  intro r hr _
  rw [hs, SessionStore.session?_put_self] at hr
  obtain rfl := Option.some.inj hr
  exact Or.inl rfl

/-- A checkpoint of a resource leaves the Session where it is. -/
theorem awaiting_of_resource {op : Uuid} {changes : List Change} (hplain : ∀ c ∈ changes, c.plain) {x : Input} {w : World}
    {r : Session} (h : w.Awaiting sid op)
    (he : (World.exec i (.store (.provisioningCheckpoint sid op none false changes)) x w).1 = .ok r) :
    (World.exec i (.store (.provisioningCheckpoint sid op none false changes)) x w).2.Awaiting sid op := by
  obtain ⟨r₀, update, now, hr₀, ho, hu, hs, hcases⟩ := SessionStore.effect_provisioningCheckpoint (World.exec_store_ok he)
  intro r' hr' _
  rw [hs, SessionStore.session?_put_self] at hr'
  obtain rfl := Option.some.inj hr'
  have hst : r.status = r₀.status := by
    rcases hcases with ⟨_, rfl⟩ | ⟨_, r₁, hadv, rfl⟩
    · exact (updateOf_plain hu hplain r₀).status
    · obtain rfl := Except.ok.inj hadv
      exact (updateOf_plain hu hplain r₀).status
  rw [hst]
  exact h r₀ hr₀ ho

/-- The owner's first move leaves the Session past provisioning. -/
theorem begun_of_bootstrapping {op : Uuid} {x : Input} {w : World} {r : Session} (hw : w.Sound)
    (he : (World.exec i (.store (.provisioningCheckpoint sid op (some bootstrapping) false [])) x w).1 = .ok r) :
    (World.exec i (.store (.provisioningCheckpoint sid op (some bootstrapping) false [])) x w).2.Begun sid := by
  obtain ⟨r₀, update, now, hr₀, _, hu, hs, hcases⟩ := SessionStore.effect_provisioningCheckpoint (World.exec_store_ok he)
  obtain rfl := Except.ok.inj hu
  refine ⟨r, by rw [hs]; exact SessionStore.session?_put_self, ?_⟩
  rcases hcases with ⟨hc, rfl⟩ | ⟨_, r₁, hadv, rfl⟩
  · have hlate : 4 ≤ r₀.status.phase := SessionStore.late_of_cancelled (hw.record sid r₀ hr₀).1 hc
    exact (show 2 ≤ 4 by decide).trans hlate
  · obtain ⟨_, rfl⟩ := SessionStore.advanced_eq_ok hadv
    exact le_rfl

/-- A checkpoint, where what the task knows permits it and what it learns permits the rest. -/
theorem checkpoint_meets {op : Uuid} {next : Option Status} {changes : List Change} {k : Session → Control Session}
    {F G : World → Prop} (hop : op.owner = i) (hshape : CheckpointShape next false changes)
    (hstable : ∀ w w', F w → w.Rely i w' → F w') (hfits : ∀ w, F w → CheckpointFits w sid op next)
    (hafter : ∀ w x r, w.Sound → F w → (World.exec i (.store (.provisioningCheckpoint sid op next false changes)) x w).1 = .ok r →
      G (World.exec i (.store (.provisioningCheckpoint sid op next false changes)) x w).2)
    (hk : ∀ r h w, (Assertion.claims sid).holds h w → G w →
      (k r).Meets (discipline apiOnly) i (fun _ _ _ => True) h w) {h : History} {w : World}
    (hclaims : (Assertion.claims sid).holds h w) (hF : F w) :
    (checkpoint sid op next changes k).Meets (discipline apiOnly) i (fun _ _ _ => True) h w := by
  refine .op_bind fun t ht hr => ⟨⟨hop, hshape, hfits t (hstable w t hF hr)⟩, fun x _ => ⟨fun session he => ?_, fun e he => ?_⟩⟩
  · have hclaims' := (Assertion.claims sid).after (World.exec.event i (.store (.provisioningCheckpoint sid op next false
      changes)) x t) hclaims
    split
    · exact finishCancelledProvisioning_obeys (F := .claims sid) _ _ hclaims'
    · exact hk session _ _ hclaims' (hafter t x session ht (hstable w t hF hr) he)
  · exact fun _ _ _ => trivial

/-- Looking for a resource and creating it leave the Session store alone. -/
theorem resource_meets {α β : Type} {op : Uuid} (hop : op.owner = i) {p : Control α} {k : α → Control β}
    (hp : Obeys apiOnly i (Assertion.claims sid) p) (ho : p.Only fun o => ∀ so, o ≠ .store so)
    (hk : ∀ a h w, (Assertion.claims sid).holds h w → w.Awaiting sid op →
      (k a).Meets (discipline apiOnly) i (fun _ _ _ => True) h w) {h : History} {w : World}
    (hclaims : (Assertion.claims sid).holds h w) (hwait : w.Awaiting sid op) :
    (p.bind k).Meets (discipline apiOnly) i (fun _ _ _ => True) h w := by
  refine .bind (((hp.frame hclaims).frame (F := fun _ w => w.Awaiting sid op) ho hwait
    (fun _ _ _ h _ hr => awaiting_stable h hop hr) fun _ w o x hso _ h _ _ => ?_).mono fun r h w _ hF => ?_)
  · rw [Exec.state, World.Awaiting, World.exec_other hso]
    exact h
  · cases r with
    | ok a => exact hk a h w hF.1 hF.2
    | error e => exact fun _ _ _ => trivial

theorem ensureVolume_only (config : WorkflowConfig) (user : String) (env : Environment) :
    (ensureVolume config sid user env).Only fun o => ∀ so, o ≠ .store so := by
  unfold ensureVolume
  refine .bind (.op (by simp)) fun volumes => ?_
  split
  · exact .done _
  · refine .bind (.op (by simp)) fun now => ?_
    split
    · exact .op (by simp)
    · exact .done _

theorem ensureServer_only (config : WorkflowConfig) (user : String) (env : Environment) (volume : ProviderVolume) :
    (ensureServer config sid user env volume).Only fun o => ∀ so, o ≠ .store so := by
  unfold ensureServer
  refine .bind (.op (by simp)) fun servers => ?_
  split
  · exact .done _
  · refine .bind (.op (by simp)) fun now => ?_
    split
    · exact .op (by simp)
    · exact .done _

theorem provision_meets (config : WorkflowConfig) (user : String) (env : Environment) {op : Uuid} (hop : op.owner = i)
    {h : History} {w : World} (hclaims : (Assertion.claims sid).holds h w) (hwait : w.Awaiting sid op) :
    (provision config sid user env op).Meets (discipline apiOnly) i (fun _ _ _ => True) h w := by
  have hstable : ∀ w w' : World, w.Awaiting sid op → w.Rely i w' → w'.Awaiting sid op :=
    fun _ _ h hr => awaiting_stable h hop hr
  have hbegun : ∀ w w' : World, w.Begun sid → w.Rely i w' → w'.Begun sid :=
    fun _ _ h hr => (Assertion.begun sid).later (h := []) h hr.later
  have hresource : ∀ changes : List Change, (∀ c ∈ changes, c.plain) → ∀ w x r, w.Sound → w.Awaiting sid op →
      (World.exec i (.store (.provisioningCheckpoint sid op none false changes)) x w).1 = .ok r →
      (World.exec i (.store (.provisioningCheckpoint sid op none false changes)) x w).2.Awaiting sid op :=
    fun _ hplain _ _ _ _ h he => awaiting_of_resource hplain h he
  unfold provision
  refine resource_meets hop (ensureVolume_obeys _ _ _) (ensureVolume_only _ _ _) (fun volume _ _ hclaims hwait => ?_)
    hclaims hwait
  refine checkpoint_meets hop (.resource (by simp [Change.plain])) hstable (fun _ _ => trivial)
    (hresource _ (by simp [Change.plain])) (fun _ _ _ hclaims hwait => ?_) hclaims hwait
  refine resource_meets hop (ensureServer_obeys _ _ _ _) (ensureServer_only _ _ _ _) (fun server _ _ hclaims hwait => ?_)
    hclaims hwait
  refine checkpoint_meets hop (.resource (by simp [Change.plain])) hstable (fun _ _ => trivial)
    (hresource _ (by simp [Change.plain])) (fun _ _ _ hclaims hwait => ?_) hclaims hwait
  refine checkpoint_meets (G := World.Begun sid) hop .bootstrapping hstable (fun _ h => h)
    (fun _ _ _ hw _ he => begun_of_bootstrapping hw he) (fun session _ _ _ hb => ?_) hclaims hwait
  split
  · exact fun _ _ _ => trivial
  · refine Obeys.bind (F := .begun sid) (p := time) (.free fun _ _ _ _ => trivial) (fun now => ?_) _ _ hb
    exact .call fun _ _ _ hF => ⟨hop, .ready now, hF⟩

/-- What makes an identifier fit for a claim: the task drew it, and it owns nothing. -/
def Fresh (i : ℕ) (op : Uuid) (w : World) : Prop :=
  op.owner = i ∧ op.serial < w.serial ∧ ∀ sid r, w.store.session? sid = some r → r.provisioningOperationId ≠ some op

theorem fresh_of_draw {w : World} (x : Input) (hw : w.Sound) : Fresh i ⟨i, w.serial⟩ (World.exec i .uuid x w).2 :=
  ⟨rfl, Nat.lt_succ_self _, fun sid r hr ho => absurd (hw.drawn sid r _ hr ho) (Nat.lt_irrefl _)⟩

theorem Fresh.time {op : Uuid} {w : World} {x : Input} (h : Fresh i op w) : Fresh i op (World.exec i .time x w).2 :=
  ⟨h.1, h.2.1.trans (Nat.lt_succ_self _), h.2.2⟩

theorem Fresh.stable {op : Uuid} {w w' : World} (h : Fresh i op w) (hr : w.Rely i w') : Fresh i op w' := by
  refine ⟨h.1, h.2.1.trans_le hr.serial, fun sid r hr' ho => ?_⟩
  obtain ⟨r₀, hr₀, ho₀, _⟩ := hr.owner sid r op hr' ho h.1
  exact h.2.2 sid r₀ hr₀ ho₀

/-- The claim of `prepare`, with the identifier that it draws for it. -/
theorem claim_obeys {f : Uuid → Except Exc Session → Control Session}
    (hok : ∀ op r h w, op.owner = i → (Assertion.claims sid).holds h w → w.Awaiting sid op →
      (f op (.ok r)).Meets (discipline apiOnly) i (fun _ _ _ => True) h w)
    (herr : ∀ op e, Obeys apiOnly i ⊤ (f op (.error e))) :
    Obeys apiOnly i (.when apiOnly (.bound sid)) (uuid.bind fun op => time.bind fun startedAt =>
      (store (.claimProvisioning sid op startedAt)).attempt.bind (f op)) := by
  intro h w hF w₁ hw₁ hr₁
  refine ⟨trivial, fun x₁ _ w₂ hw₂ hr₂ => ⟨trivial, fun x₂ _ w₃ hw₃ hr₃ => ?_⟩⟩
  have h₂ : Fresh i ⟨i, w₁.serial⟩ w₂ := (fresh_of_draw x₁ hw₁).stable hr₂
  have h₃ : Fresh i ⟨i, w₁.serial⟩ w₃ := h₂.time.stable hr₃
  -- the uuid and the reading leave the records as they are
  have hb₁ := (Assertion.when apiOnly (.bound sid)).later hF hr₁.later
  have hb₂ : (Assertion.when apiOnly (.bound sid)).holds h w₂ := Assertion.later _ hb₁ hr₂.later
  have hb₃ : (Assertion.when apiOnly (.bound sid)).holds h w₃ := Assertion.later _ hb₂ hr₃.later
  refine ⟨⟨rfl, h₃.2.1, h₃.2.2, hb₃⟩, fun x₃ _ => ?_⟩
  cases he : (World.exec i (.store (.claimProvisioning sid ⟨i, w₁.serial⟩ (x₂.clock 0))) x₃ w₃).1 with
  | ok r =>
    exact hok _ r _ _ rfl ⟨_, List.mem_cons_self, ⟨_, _, rfl, by simp [Event.isOk, Exec.event, he]⟩⟩
      (awaiting_of_claim he)
  | error e => exact herr _ e _ _ trivial

theorem prepare_obeys (config : WorkflowConfig) (user : Option String) (env : Environment) :
    Obeys apiOnly i (.when apiOnly (.bound sid)) (prepare config sid user env) := by
  unfold prepare
  refine .bind (.bind (.free fun _ _ _ _ => trivial) fun existing => ?_) fun session => ?_
  · split
    · exact .done _
    · refine .call fun h w _ hF hapi => ?_
      obtain ⟨r, hr, _⟩ := hF hapi
      simp [hr]
  · split
    · exact .done _
    · rw [Prog.ofExcept_def]
      refine .bind (.done _) fun _ => claim_obeys
        (fun op r h w hop hclaims hwait => .andThen ((provision_meets _ _ _ hop hclaims hwait).mono fun r _ _ _ _ => ?_))
        fun op e => handlePrepareError_obeys _ _
      cases r with
      | ok session => exact fun _ _ _ => trivial
      | error e => exact handlePrepareError_obeys (F := ⊤) _ _ _ _ trivial

theorem stop_obeys : Obeys apiOnly i F (stop sid) := by
  unfold stop
  refine .bind (.free fun _ _ _ _ => trivial) fun session => ?_
  split
  · split
    · exact .bind (.free fun _ _ _ _ => trivial) fun _ => .done _
    · refine .bind (.free fun _ _ _ _ => trivial) fun session => .revoke_bind fun _ => ?_
      split
      · exact .done _
      · refine .bind (.free fun _ _ _ _ => trivial) fun lease => ?_
        split
        · exact .bind (.free fun _ _ _ _ => trivial) fun _ => .done _
        · refine .tryFinally ?_ (.free fun _ _ _ _ => trivial)
          refine .bind (.of_mild (cleanupResources_mild _ _)) fun cleaned => ?_
          split
          · exact .call fun h w _ _ => ⟨⟨by simp [released, Change.tame], rfl⟩, Or.inl ⟨rfl, by simp⟩⟩
          · exact .call fun h w _ hF => ⟨⟨by simp [released, Change.tame], rfl⟩, Or.inr ⟨Or.inl ⟨rfl, rfl⟩, Or.inl hF.2⟩⟩
  · exact .done _

end Workflow

namespace Reaper
variable {sid reasonCode : String} {now : Timestamp}

theorem finishFailed_obeys {reason : Json} : Obeys apiOnly i (Assertion.revoked sid) (finishFailed sid reasonCode reason now) := by
  unfold finishFailed
  refine .bind (.call fun h w _ hF => ?_) fun _ => .free fun _ _ _ _ => trivial
  exact ⟨⟨by simp [Change.tame], rfl⟩, Or.inr ⟨Or.inr ⟨rfl, rfl⟩, Or.inl hF⟩⟩

theorem failAndCleanup_obeys {reason : String} {expected : Status} {fields : List Expected}
    (hexpected : expected ∈ activeStates) :
    Obeys apiOnly i F (failAndCleanup sid reason reasonCode expected fields now) := by
  unfold failAndCleanup
  refine .bind (.attempt (.call fun h w _ _ => ?_)) fun r => ?_
  · exact ⟨⟨by simp [Workflow.released, Change.tame], rfl⟩, rfl, by simpa using hexpected⟩
  · split
    · exact .done _
    · exact .done _
    · refine .revoke_attempt (fun _ => ?_) fun _ => .done _
      refine .bind (.free fun _ _ _ _ => trivial) fun lease => ?_
      split
      · exact .done _
      · refine .bind (.tryFinally ?_ (.free fun _ _ _ _ => trivial)) fun _ => .done _
        refine .bind (.of_mild (cleanupResources_mild _ _)) fun cleaned => ?_
        split
        · exact finishFailed_obeys.mono fun _ _ h => h.2
        · exact .done _

theorem cleanupStopped_obeys : Obeys apiOnly i (Assertion.revoked sid) (cleanupStopped sid reasonCode now) := by
  unfold cleanupStopped
  refine .bind (.free fun _ _ _ _ => trivial) fun lease => ?_
  split
  · exact .done _
  · refine .bind (.tryFinally ?_ (.free fun _ _ _ _ => trivial)) fun _ => .done _
    refine .bind (.of_mild (cleanupResources_mild _ _)) fun cleaned => ?_
    split
    · refine .bind (.call fun h w _ _ => ?_) fun _ => .done _
      exact ⟨⟨by simp [Workflow.released, Change.tame], rfl⟩, Or.inl ⟨rfl, by simp⟩⟩
    · refine .bind (.call fun h w _ hF => ?_) fun _ => .free fun _ _ _ _ => trivial
      exact ⟨⟨by simp [Workflow.released, Change.tame], rfl⟩, Or.inr ⟨Or.inl ⟨rfl, rfl⟩, Or.inl hF⟩⟩

/-- A stop request leaves its Session terminal or past its running states. -/
theorem afterStopRequest_obeys {config : ReaperConfig} {fromState : Option Status} {session : Session}
    (hstatus : session.status ∈ terminalStates ∨ session.status = stopping) :
    Obeys apiOnly i (Assertion.seen sid session) (afterStopRequest config sid reasonCode fromState session now) := by
  unfold afterStopRequest
  split
  · exact .done _
  · refine .revoke_attempt (fun _ => ?_) fun _ => .done _
    refine .bind ?_ fun _ => ?_
    · split
      · exact .free fun _ _ _ _ => trivial
      · exact .done _
    · have hcleanup : Obeys apiOnly i (Assertion.seen sid session ⊓ Assertion.revoked sid) (cleanupStopped sid reasonCode now) :=
        cleanupStopped_obeys.mono fun _ _ h => h.2
      split
      · split
        · exact .done _
        · refine .bind (.call fun h w _ hF => Or.inr ⟨⟨by simp [Workflow.released, Change.tame], rfl⟩, ?_⟩) fun _ => hcleanup
          refine Assertion.late_of_seen hF.1 ?_
          rw [hstatus.resolve_left ‹_›]
          exact le_rfl
      · exact hcleanup

theorem stopAndCleanupIfCurrent_obeys {config : ReaperConfig} {expected : Status} {fields : List Expected}
    (hexpected : expected ∈ activeStates) :
    Obeys apiOnly i F (stopAndCleanupIfCurrent config sid reasonCode expected fields now) := by
  unfold stopAndCleanupIfCurrent
  refine .call_attempt (G := fun r => .found sid r ⊓ .pure (∀ s ∈ r, s.status = stopping)) (fun h w _ _ => hexpected)
    (fun h w x r hw _ he => ?_) (fun r => ?_) fun _ => .done _
  · rcases SessionStore.effect_requestStopIfCurrent (World.exec_store_ok he) with ⟨rfl, _⟩ | ⟨r₀, t, hr₀, _, _, rfl, hs⟩
    · exact ⟨trivial, fun s hs => nomatch hs⟩
    · refine ⟨Obeys.gain_seen apiOnly (o := .store (.requestStopIfCurrent sid expected fields)) hw hexpected ?_, fun s hs => ?_⟩
      · rw [hs]
        exact SessionStore.session?_put_self
      · obtain rfl := Option.some.inj hs
        rfl
  · split
    · rename_i heq
      cases heq
    · exact .done _
    · rename_i session heq
      obtain rfl := Except.ok.inj heq
      intro h w hF
      exact afterStopRequest_obeys (Or.inr (hF.2.2 session rfl)) h w hF.2.1

theorem stopAndCleanup_obeys {config : ReaperConfig} : Obeys apiOnly i F (stopAndCleanup config sid reasonCode now) := by
  unfold stopAndCleanup
  refine .bind (.free fun _ _ _ _ => trivial) fun before => ?_
  refine .call_attempt (G := fun r => .seen sid r ⊓ .pure (r.status ∈ terminalStates ∨ r.status = stopping))
    (fun h w _ _ => trivial) (fun h w x r hw _ he => ?_) (fun r => ?_) fun _ => .done _
  · obtain ⟨r₀, hr₀, hcases⟩ := SessionStore.effect_requestStop (World.exec_store_ok he)
    refine ⟨Obeys.gain_seen apiOnly (o := .store (.requestStop sid)) hw trivial ?_, ?_⟩
    · rcases hcases with ⟨_, rfl, hs⟩ | ⟨_, t, rfl, hs⟩
      · rw [hs]
        exact hr₀
      · rw [hs]
        exact SessionStore.session?_put_self
    · rcases hcases with ⟨hst, rfl, _⟩ | ⟨_, t, rfl, _⟩
      · exact Or.inl hst
      · exact Or.inr rfl
  · intro h w hF
    exact afterStopRequest_obeys hF.2.2 h w hF.2.1

theorem failMissingHeartbeat_obeys {config : ReaperConfig} {session : Session} {last : Option Timestamp} :
    Obeys apiOnly i F (failMissingHeartbeat config session last now) := by
  unfold failMissingHeartbeat
  refine .bind (.attempt (.call fun h w _ _ => ?_)) fun r => ?_
  · exact ⟨⟨by simp [Change.tame], rfl⟩, rfl, fun _ h => h⟩
  · split
    · exact .done _
    · exact .done _
    · refine .bind (.free fun _ _ _ _ => trivial) fun _ => .bind (.attempt (.free fun _ _ _ _ => trivial)) fun r => ?_
      split <;> exact .done _

theorem retryCleanup_obeys {session : Session} : Obeys apiOnly i F (retryCleanup session now) := by
  unfold retryCleanup
  refine .revoke_attempt (fun _ => ?_) fun _ => .done _
  refine .bind (.free fun _ _ _ _ => trivial) fun lease => ?_
  split
  · exact .done _
  · refine .tryFinally ?_ (.free fun _ _ _ _ => trivial)
    refine .bind (.of_mild (cleanupResources_mild _ _)) fun cleaned => ?_
    split
    · exact finishFailed_obeys.mono fun _ _ h => h.2
    · exact .done _

/-- A pass over the Sessions in some states. -/
theorem sweep_obeys {states : List Status} {result : SweepResult} {body : SweepResult → Session → Control SweepResult}
    (hbody : ∀ result session, session.status ∈ states → Obeys apiOnly i ⊤ (body result session)) :
    Obeys apiOnly i ⊤ ((store (.sessionsInStates states)).bind fun sessions => sweep sessions result body) := by
  refine .call_bind (G := fun l => .pure (∀ r ∈ l, r.status ∈ states)) (fun _ _ _ _ => trivial)
    (fun h w x l _ _ he => ?_) fun l h w hF => ?_
  · obtain ⟨rfl, _⟩ := Prod.mk.inj (Except.ok.inj (World.exec_store_ok he))
    intro r hr
    simpa using (List.mem_filter.mp hr).2
  · exact Obeys.forFold (fun result r hr => hbody result r (hF.2 r hr)) h w trivial

theorem stopHolding_obeys {config : ReaperConfig} {result : SweepResult} {session : Session} {deadline : Timestamp} :
    Obeys apiOnly i F (stopHolding config now result session deadline) := by
  unfold stopHolding
  split
  · refine .bind (stopAndCleanupIfCurrent_obeys (by decide)) fun stopped => ?_
    split <;> exact .done _
  · exact .done _

theorem run_obeys (config : ReaperConfig) : Obeys apiOnly i ⊤ (run config) := by
  unfold run
  refine .bind ?_ fun now => .bind ?_ fun r => .bind ?_ fun r => .bind ?_ fun r => .bind ?_ fun r => .bind ?_ fun r =>
    .bind ?_ fun r => .bind ?_ fun r => .bind (.of_harmless (cleanupOrphans_harmless _ _)) fun _ => .done _
  · unfold Reaper.now
    exact .bind (.free fun _ _ _ _ => trivial) fun reading => .of_free (.ofExcept _)
  · refine sweep_obeys fun result session hs => ?_
    dsimp only
    split
    · refine .bind (failAndCleanup_obeys (List.mem_append_left [readyWaitIngest, live, degraded, holding] hs)) fun failed => ?_
      split <;> exact .done _
    · exact .done _
  · refine sweep_obeys fun result session hs => ?_
    split
    · exact .done _
    · split
      · refine .bind (stopAndCleanupIfCurrent_obeys hs) fun stopped => ?_
        split <;> exact .done _
      · exact .done _
  · unfold sweepHeartbeats
    refine .bind (.attempt (.free fun _ _ _ _ => trivial)) fun authority => ?_
    split
    · exact .done _
    · refine sweep_obeys fun result session hs => ?_
      split
      · exact .done _
      · split
        · exact .done _
        · refine .bind failMissingHeartbeat_obeys fun failed => ?_
          split <;> exact .done _
  · refine sweep_obeys fun result session hs => ?_
    dsimp only
    split
    · refine .bind (stopAndCleanupIfCurrent_obeys (by decide)) fun stopped => ?_
      split <;> exact .done _
    · exact .done _
  · refine sweep_obeys fun result session hs => ?_
    split
    · exact stopHolding_obeys
    · refine .bind ?_ fun recovered => ?_
      · unfold recoverHoldDeadline
        exact .bind (.call fun h w _ _ => by simp [Permits, StorePermits, Change.plain]) fun _ => .done _
      · split
        · exact .done _
        · exact stopHolding_obeys
  · exact sweep_obeys fun result session hs => .bind stopAndCleanup_obeys fun _ => .done _
  · exact sweep_obeys fun result session hs => .bind retryCleanup_obeys fun _ => .done _

end Reaper
namespace Api
variable {user : String}

/-- A call whose exceptions are answered, and what its result teaches. -/
theorem call_answering {α : Type} {o : Op} {answer : Exc → Exc} {f : o.Res → Control α} {G : o.Res → Assertion}
    (hperm : ∀ h w, w.Sound → F.holds h w → Permits apiOnly i h o w)
    (hgain : ∀ h w x a, w.Sound → F.holds h w → (World.exec i o x w).1 = .ok a →
      (G a).holds (World.exec.event i o x w :: h) (World.exec.state i o x w))
    (hf : ∀ a, Obeys apiOnly i (F ⊓ G a) (f a)) : Obeys apiOnly i F ((answering (call o) answer).bind f) := by
  refine Obeys.call_andThen (f := fun r => ((Prog.done r).tryExcept fun exc => throw (answer exc)).bind f) (G := fun
    | .ok a => G a
    | .error _ => ⊤) hperm (fun h w x hw hF => ?_) fun r => ?_
  · cases he : (World.exec i o x w).1 with
    | ok a => exact hgain h w x a hw hF he
    | error e => trivial
  · cases r with
    | ok a => exact hf a
    | error e => exact .done _

theorem stopSession_obeys : Obeys apiOnly i F (stopSession sid user) :=
  .bind (.of_mild ownedSession_mild) fun _ => .tryExcept Workflow.stop_obeys fun _ => .done _

theorem prepareSession_obeys (config : Workflow.WorkflowConfig) (c : PrepareCall) :
    Obeys apiOnly i ⊤ (prepareSession config c) := by
  have hrun : Obeys apiOnly i (Assertion.bound c.sessionId) (runPrepare config c) :=
    .tryExcept ((Workflow.prepare_obeys _ _ _).mono fun _ _ h _ => h) fun _ => .done _
  unfold prepareSession
  refine .bind ?_ fun key => .bind (.of_free (.ofExcept _)) fun _ => ?_
  · split
    · exact .bind (.free fun _ _ _ _ => trivial) fun _ => .done _
    · exact .bind (.free fun _ _ _ _ => trivial) fun _ => .done _
    · exact .done _
  · refine call_answering (G := fun r => match r with
      | some _ => .bound c.sessionId
      | none => ⊤) (fun _ _ _ _ => trivial) (fun h w x r hw _ he => ?_) fun r => ?_
    · obtain ⟨r', hr', hp⟩ := map_eq_ok.mp (World.exec_store_ok he)
      obtain ⟨rfl, hs⟩ := Prod.mk.inj hp
      cases r' with
      | none => trivial
      | some r' =>
        obtain ⟨hr, hkey⟩ := SessionStore.effect_getPrepareReplay hr'
        exact ⟨r', hs ▸ hr, by simp [hkey]⟩
    · cases r with
      | some prepared =>
        dsimp only
        split
        · exact .done _
        · exact hrun.mono fun _ _ h => h.2
      | none =>
        dsimp only
        split
        · exact .done _
        · exact .done _
        · refine call_answering (G := fun _ => .bound c.sessionId) (fun _ _ _ _ => trivial)
            (fun h w x r hw _ he => ?_) fun r => ?_
          · obtain ⟨r, replay⟩ := r
            rcases SessionStore.effect_beginPrepare (World.exec_store_ok he) with
              ⟨_, hr, _, hkey, hs⟩ | ⟨_, _, r₀, now, rfl, hs, _⟩
            · exact ⟨r, by rw [Exec.state, hs]; exact hr, hkey⟩
            · exact ⟨_, by rw [Exec.state, hs]; exact SessionStore.session?_put_self, rfl⟩
          · obtain ⟨prepared, replay⟩ := r
            dsimp only
            split
            · exact .done _
            · exact hrun.mono fun _ _ h => h.2

/-- A Session that may be issued a credential has accepted media. -/
theorem phase_of_checkIssue {session : Session} {request : IssueRequest} {endpoint : Except Exc Unit} {a : Unit}
    (h : checkIssue session request endpoint = .ok a) : session.status.phase = 3 := by
  obtain ⟨_, hst, _⟩ := bind_eq_ok.mp h
  rw [raiseIf_eq_ok, not_not] at hst
  revert hst
  cases session.status <;> decide

theorem issueIngestCredential_obeys {request : IssueRequest} {endpoint : Except Exc Unit} :
    Obeys apiOnly i F (issueIngestCredential sid user request endpoint) := by
  unfold issueIngestCredential
  refine .get_bind fun session => ?_
  split
  · rename_i session
    refine .ofExcept_bind fun _ _ => .ofExcept_bind fun _ hcheck => .bind (.free fun _ _ _ _ => trivial) fun reading =>
      .ofExcept_bind fun current _ => .ofExcept_bind fun ttl _ => .call fun _ _ _ hF => ?_
    exact Assertion.accepted_of_seen hF.2 (phase_of_checkIssue hcheck)
  · exact .done _

end Api

/-- Every request starts a program that makes permitted calls only. -/
theorem Request.obeys (config : Config) {q : Request} (hq : apiOnly → q.isDeployed) : Obeys apiOnly i ⊤ (q.program config) := by
  cases q with
  | prepare call => exact .bind (Api.prepareSession_obeys _ _) fun _ => .done _
  | reserve => exact .bind (.free fun _ _ _ _ => trivial) fun _ => .done _
  | stop => exact .bind Api.stopSession_obeys fun _ => .done _
  | issueCredential => exact .bind Api.issueIngestCredential_obeys fun _ => .done _
  | addEvent => exact .bind (.of_mild Api.addSessionEvent_mild) fun _ => .done _
  | setAudio => exact .bind (.of_mild Api.setSessionAudio_mild) fun _ => .done _
  | bootstrap => exact .bind (.of_mild (NodeApi.bootstrap_mild _ _ _ _)) fun _ => .done _
  | heartbeat => exact .bind (.of_mild (NodeApi.heartbeat_mild _ _ _ _)) fun _ => .done _
  | stopNode => exact .bind (.of_mild (NodeApi.stopNode_mild _)) fun _ => .done _
  | sweep => exact .bind (Reaper.run_obeys _) fun _ => .done _
  | workflowPrepare sid user env =>
    exact .bind ((Workflow.prepare_obeys _ _ _).mono fun _ _ _ hapi => nomatch hq hapi) fun _ => .done _
  | workflowStop => exact .bind Workflow.stop_obeys fun _ => .done _

/-! ### Every run -/

theorem World.initial_sound (stable : Timestamp) : (World.initial stable).Sound where
  record sid r hr := by simp [World.initial, SessionStore.session?] at hr
  drawn sid r _ hr := by simp [World.initial, SessionStore.session?] at hr

namespace Plane
variable {config : Config} {stable : Timestamp} {cond : Plane → Action Request Input → Prop} {c : Plane}

/-- Every reachable moment keeps the contract. -/
theorem sound (apiOnly : Prop) (hr : Plane.Reaches config stable cond c)
    (hcond : ∀ c q, cond c (.start q) → apiOnly → q.isDeployed) :
    Pool.Sound (discipline apiOnly) (fun _ _ _ _ => True) c := by
  induction hr with
  | init => exact ⟨World.initial_sound stable, fun i t ht => by simp at ht⟩
  | act a _ ha ih =>
    exact ih.act (fun _ _ _ _ _ _ _ => trivial)
      (fun q i s hq hs => Request.obeys config (hcond _ q hq) [] s trivial) ha

theorem after_reaches (config : Config) (stable : Timestamp) (schedule : List (Action Request Input)) :
    Plane.Reaches config stable (fun _ _ => True) (after config stable schedule) :=
  Reachable.init.run fun _ _ _ => trivial

end Plane
end IRLight
