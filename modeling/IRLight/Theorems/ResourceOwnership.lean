import IRLight.ControlPlane.Conduct
import IRLight.ControlPlane.System
import IRLight.Interleaving.Alone

/-! # Whose resources a Session takes

Session ids are chosen by clients, so a resource that carries a Session's id may belong to another user or another
environment. Of the code that adopts or deletes such resources only one part looks at the other tags. -/

namespace IRLight
open Interleaving Status Call

/-- A managed resource that carries the Session's id. -/
def Tags.Carries (t : Tags) (sid : String) : Prop := t.managed = some "true" ∧ t.sessionId = some sid

/-- The tags name the owner and the environment. -/
def Tags.OwnedBy (t : Tags) (user : String) (env : Environment) : Prop :=
  t.userId = some user ∧ t.environment = some env.str

namespace Inventory

/-- Whatever carries the Session's id is the Session's own. -/
structure AllOwned (inv : Inventory) (sid user : String) (env : Environment) : Prop where
  servers : ∀ s ∈ inv.servers, s.tags.Carries sid → s.tags.OwnedBy user env
  volumes : ∀ v ∈ inv.volumes, v.tags.Carries sid → v.tags.OwnedBy user env

/-- The identifiers of all resources, with their tags. -/
def identified (inv : Inventory) : List (String × Tags) :=
  inv.servers.map (fun s => (s.serverId, s.tags)) ++ inv.volumes.map fun v => (v.volumeId, v.tags)

/-- No two resources have one identifier. -/
def DistinctIds (inv : Inventory) : Prop := (inv.identified.map Prod.fst).Nodup

end Inventory

/-- The call deletes the server, or records it as the Session's. -/
def Op.TakesServer (id : String) : Op → Prop
  | .deleteServer id' => id' = id
  | .store (.provisioningCheckpoint _ _ _ _ changes) => .providerServerId id ∈ changes
  | _ => False

/-- The call deletes the volume, records it as the Session's, or gives it to a server. -/
def Op.TakesVolume (id : String) : Op → Prop
  | .deleteVolume id' => id' = id
  | .createServer _ _ _ id' _ => id' = id
  | .store (.provisioningCheckpoint _ _ _ _ changes) => .providerVolumeId id ∈ changes
  | _ => False

/-- Of the resources that carry the Session's id the call takes only the Session's own. -/
structure Spares (inv : Inventory) (sid user : String) (env : Environment) (o : Op) : Prop where
  servers : ∀ s ∈ inv.servers, s.tags.Carries sid → o.TakesServer s.serverId → s.tags.OwnedBy user env
  volumes : ∀ v ∈ inv.volumes, v.tags.Carries sid → o.TakesVolume v.volumeId → v.tags.OwnedBy user env

/-- The Session has this owner and this environment. -/
def World.Owns (w : World) (sid user : String) (env : Environment) : Prop :=
  ∀ r, w.store.session? sid = some r → r.userId = user ∧ r.environment = env

section
variable (inv : Inventory) (sid user : String) (env : Environment)

/-- What `prepare` does with a claim, as the owner calls it. -/
def PrepareRespects : Prop := ∀ config op i w, w.inventory = inv →
  (Workflow.provision config sid user env op).Alone World.exec i (Spares inv sid user env) (fun _ _ => True) w

def WorkflowCleanupRespects : Prop := ∀ lease i w, w.inventory = inv → w.Owns sid user env →
  (Workflow.cleanupResources sid lease).Alone World.exec i (Spares inv sid user env) (fun _ _ => True) w

def ReaperCleanupRespects : Prop := ∀ lease i w, w.inventory = inv → w.Owns sid user env →
  (Reaper.cleanupResources sid lease).Alone World.exec i (Spares inv sid user env) (fun _ _ => True) w

/-- With this inventory only the Session's own resources are ever adopted or deleted. -/
structure OwnershipRespected : Prop where
  prepare : PrepareRespects inv sid user env
  workflowCleanup : WorkflowCleanupRespects inv sid user env
  reaperCleanup : ReaperCleanupRespects inv sid user env

end

/-! ### The Reaper's cleanup -/

/-- A Session that the Reaper cleans up, with this inventory. -/
def heldStore (sid user : String) (env : Environment) : SessionStore :=
  { sessions := AList.insert sid { newSession sid user env .directPush 0 with status := failedCleanup } ∅
    orphanCleanupLeases := AList.insert sid ⟨⟨0, 0⟩, .session [stopping, failedCleanup], 0, 1⟩ ∅
    authoritative := true
    recoveryStableSeconds := 0 }

def heldWorld (inv : Inventory) (sid user : String) (env : Environment) : World :=
  { World.initial 0 with inventory := inv, store := heldStore sid user env }

section
variable {inv : Inventory} {sid user : String} {env : Environment} {w : World} {i k : ℕ}

theorem session?_held : (heldStore sid user env).session? sid =
    some { newSession sid user env .directPush 0 with status := failedCleanup } :=
  AList.lookup_insert ∅

theorem heldWorld_owns : (heldWorld inv sid user env).Owns sid user env := by
  intro r hr
  obtain rfl := Option.some.inj (session?_held.symm.trans hr)
  exact ⟨rfl, rfl⟩

/-- No fault, and the clock at zero. -/
def quietly : ℕ → Input := fun _ => .quiet 0

theorem activeCleanupLease_held : (heldStore sid user env).activeCleanupLease sid (.finite 0) =
    .ok (some ⟨⟨0, 0⟩, .session [stopping, failedCleanup], 0, 1⟩) := by
  have hlookup : (heldStore sid user env).orphanCleanupLeases.lookup sid =
      some ⟨⟨0, 0⟩, .session [stopping, failedCleanup], 0, 1⟩ := AList.lookup_insert ∅
  have hnow : validatedNow (.finite 0) "Session cleanup lease clock" = .ok 0 := by
    unfold validatedNow validatedTimestamp
    exact requireTimestamp_eq_ok.mpr rfl
  have hlater : ¬(1 : Timestamp) ≤ 0 := by decide +kernel
  unfold SessionStore.activeCleanupLease
  rw [hlookup]
  change (validatedNow (.finite 0) _ >>= fun now => pure (if (1 : Timestamp) ≤ now then none else some _)) = _
  rw [hnow]
  exact congrArg Except.ok (if_neg hlater)

variable (sid user env) in
theorem stillOwned_held (k : ℕ) : (heldStore sid user env).sessionCleanupStillOwned sid ⟨0, 0⟩ (quietly k).clock = .ok true := by
  unfold SessionStore.sessionCleanupStillOwned
  change ((heldStore sid user env).activeCleanupLease sid (.finite 0) >>= _) = _
  rw [activeCleanupLease_held]
  change Except.ok _ = _
  rw [session?_held]
  rfl

/-- The lease is still owned, and asking changes nothing but the serial number. -/
theorem exec_stillOwned (hw : w.store = heldStore sid user env) :
    World.exec i (.store (.sessionCleanupStillOwned sid ⟨0, 0⟩)) (quietly k) w =
      (.ok true, { w with serial := w.serial + 1 }) := by
  have hrun := stillOwned_held sid user env k
  rw [← hw] at hrun
  simp only [World.exec, StoreOp.run, hrun]
  rfl

/-- A cleanup that owns its lease reaches each of its resources. -/
theorem deleteEach_calls {delete : String → Control Unit} {o : Op} {resource : ManagedResource}
    (hcalls : ∀ k w, (delete resource.providerId).Calls World.exec i quietly o k w)
    (hstore : ∀ id k w, w.store = heldStore sid user env →
      ((delete id).eval World.exec i quietly k w).state.store = heldStore sid user env)
    (hw : w.store = heldStore sid user env) {resources : List ManagedResource} (hmem : resource ∈ resources) (ok : Bool) :
    (deleteEach (store (.sessionCleanupStillOwned sid ⟨0, 0⟩)) delete resources ok).Calls World.exec i quietly o k w := by
  induction resources generalizing k w ok with
  | nil => cases hmem
  | cons first rest ih =>
    have howned := exec_stillOwned (i := i) (k := k) hw
    refine .op_bind (congrArg Prod.fst howned) ?_
    have hstate : (World.exec.state i (.store (.sessionCleanupStillOwned sid ⟨0, 0⟩)) (quietly k) w).store =
        heldStore sid user env := by
      rw [Exec.state, howned]
      exact hw
    rcases List.mem_cons.mp hmem with rfl | hmem
    · exact .andThen_left (.andThen_left (hcalls _ _))
    · refine .andThen_right ?_
      rw [Prog.attempt, Prog.eval_andThen, Prog.eval_done]
      simp only
      split
      · exact ih (hstore _ _ _ hstate) hmem _
      · exact ih (hstore _ _ _ hstate) hmem _

/-- Alone and without a fault all deletes succeed. -/
theorem deleteServers_eval (hw : w.store = heldStore sid user env) (resources : List ManagedResource) : ∃ w' k',
    (deleteEach (store (.sessionCleanupStillOwned sid ⟨0, 0⟩)) (fun id => call (.deleteServer id)) resources true).eval
      World.exec i quietly k w = ⟨.ok (some true), w', k'⟩ ∧ w'.store = heldStore sid user env ∧
    w'.inventory = ⟨w.inventory.volumes, w.inventory.servers.filter fun s => s.serverId ∉ resources.map (·.providerId)⟩ := by
  induction resources generalizing k w with
  | nil => exact ⟨w, k, rfl, hw, by simp⟩
  | cons first rest ih =>
    have howned := exec_stillOwned (i := i) (k := k) hw
    let deleted : World := { w with
      serial := w.serial + 1 + 1
      inventory := { w.inventory with servers := w.inventory.servers.filter (·.serverId ≠ first.providerId) } }
    obtain ⟨w', k', heval, hstore, hinventory⟩ := ih (k := k + 1 + 1) (w := deleted) hw
    refine ⟨w', k', ?_, hstore, ?_⟩
    · unfold deleteEach
      refine (Prog.eval_op_bind _ _).trans ?_
      rw [howned]
      simp only [Exec.state, howned]
      exact heval
    · rw [hinventory]
      simp only [deleted, List.filter_filter, List.map_cons, List.mem_cons, not_or, Bool.decide_and, Bool.and_comm]

theorem mem_managedResources_server {s : ProviderServer} (hs : s ∈ inv.servers) (hcarries : s.tags.Carries sid) :
    ∃ resource ∈ inv.managedResources.filter (·.sessionId = some sid),
      resource.kind = .server ∧ resource.providerId = s.serverId := by
  refine ⟨_, List.mem_filter.mpr ⟨List.mem_append_right _ (List.mem_map.mpr ⟨s, List.mem_filter.mpr ⟨hs, ?_⟩, rfl⟩), ?_⟩,
    rfl, rfl⟩
  · exact decide_eq_true hcarries.1
  · exact decide_eq_true hcarries.2

theorem mem_managedResources_volume {v : ProviderVolume} (hv : v ∈ inv.volumes) (hcarries : v.tags.Carries sid) :
    ∃ resource ∈ inv.managedResources.filter (·.sessionId = some sid),
      resource.kind = .volume ∧ resource.providerId = v.volumeId := by
  refine ⟨_, List.mem_filter.mpr ⟨List.mem_append_left _ (List.mem_map.mpr ⟨v, List.mem_filter.mpr ⟨hv, ?_⟩, rfl⟩), ?_⟩,
    rfl, rfl⟩
  · exact decide_eq_true hcarries.1
  · exact decide_eq_true hcarries.2

/-- What the Reaper takes for the Session's resources. -/
def listed (sid : String) (w : World) : List ManagedResource := w.inventory.managedResources.filter (·.sessionId = some sid)

theorem listed_eval : (do return (← listManagedResources).filter (·.sessionId = some sid) :
    Control (List ManagedResource)).eval World.exec i quietly k w =
      ⟨.ok (listed sid w), { w with serial := w.serial + 1 }, k + 1⟩ := rfl

theorem exists_server_of_listed {resource : ManagedResource} (h : resource ∈ listed sid w) (hkind : resource.kind = .server) :
    ∃ s ∈ w.inventory.servers, s.tags.Carries sid := by
  obtain ⟨hmem, hsid⟩ := List.mem_filter.mp h
  rcases List.mem_append.mp hmem with hmem | hmem
  · obtain ⟨v, -, rfl⟩ := List.mem_map.mp hmem
    cases hkind
  · obtain ⟨s, hs, rfl⟩ := List.mem_map.mp hmem
    obtain ⟨hs, hmanaged⟩ := List.mem_filter.mp hs
    exact ⟨s, hs, of_decide_eq_true hmanaged, of_decide_eq_true hsid⟩

/-- The Reaper deletes every server that carries the Session's id, whosever it is. -/
theorem reaper_deletes_server {s : ProviderServer} (hs : s ∈ inv.servers) (hcarries : s.tags.Carries sid) :
    (Reaper.cleanupResources sid ⟨0, 0⟩).Calls World.exec 0 quietly (.deleteServer s.serverId) 0
      (heldWorld inv sid user env) := by
  obtain ⟨resource, hmem, hkind, hid⟩ := mem_managedResources_server hs hcarries
  have hserver : resource ∈ (listed sid (heldWorld inv sid user env)).filter (·.kind = .server) :=
    List.mem_filter.mpr ⟨hmem, decide_eq_true hkind⟩
  refine Prog.Calls.bind_eval listed_eval (.andThen_left ?_)
  refine deleteEach_calls (w := { heldWorld inv sid user env with serial := 1 }) (fun k w => ?_) (fun id k w h => ?_) rfl
    hserver true
  · rw [hid]
    exact .op_self
  · exact h

/-- Once no server carries the Session's id, the volumes that carry it follow. -/
theorem reaper_deletes_volume {v : ProviderVolume} (hv : v ∈ inv.volumes) (hcarries : v.tags.Carries sid) :
    (Reaper.cleanupResources sid ⟨0, 0⟩).Calls World.exec 0 quietly (.deleteVolume v.volumeId) 0
      (heldWorld inv sid user env) := by
  let w := heldWorld inv sid user env
  let servers := (listed sid w).filter (·.kind = .server)
  obtain ⟨w', k', heval, hstore, hinventory⟩ :=
    deleteServers_eval (i := 0) (k := 1) (w := { w with serial := w.serial + 1 }) rfl servers
  have hv' : v ∈ w'.inventory.volumes := by rw [hinventory]; exact hv
  obtain ⟨resource, hmem, hkind, hid⟩ := mem_managedResources_volume hv' hcarries
  refine Prog.Calls.bind_eval listed_eval (Prog.Calls.bind_eval heval (Prog.Calls.bind_eval listed_eval ?_))
  -- a server that is left would have been deleted
  have hnone : (listed sid w').any (·.kind = .server) = false := by
    refine List.any_eq_false.mpr fun resource hmem hkind => ?_
    obtain ⟨s, hs, hcarries⟩ := exists_server_of_listed hmem (of_decide_eq_true hkind)
    rw [hinventory] at hs
    obtain ⟨hs, hleft⟩ := List.mem_filter.mp hs
    obtain ⟨gone, hgone, hserver, hid⟩ := mem_managedResources_server hs hcarries
    have hdeleted : gone ∈ servers := List.mem_filter.mpr ⟨hgone, decide_eq_true hserver⟩
    exact of_decide_eq_true hleft (hid ▸ List.mem_map_of_mem hdeleted)
  rw [hnone]
  have hvolume : resource ∈ (listed sid w').filter (·.kind = .volume) := List.mem_filter.mpr ⟨hmem, decide_eq_true hkind⟩
  refine .andThen_left (deleteEach_calls (w := { w' with serial := w'.serial + 1 }) (fun k w => ?_) (fun id k w h => ?_)
    hstore hvolume true)
  · rw [hid]
    exact .op_self
  · exact h

end

/-! ### The workflow's cleanup -/

section
variable {inv : Inventory} {sid user : String} {env : Environment} {w : World} {i : ℕ}

/-- No resource was added. -/
structure World.Within (inv : Inventory) (w : World) : Prop where
  servers : w.inventory.servers ⊆ inv.servers
  volumes : w.inventory.volumes ⊆ inv.volumes

def Op.creates : Op → Bool
  | .createVolume _ _ _ | .createServer _ _ _ _ _ => true
  | _ => false

theorem callProvider_inventory {α : Type} (w : World) (x : Input) (a : α) (inventory : Inventory) :
    (w.callProvider x a inventory).2.inventory = inventory ∨ (w.callProvider x a inventory).2.inventory = w.inventory := by
  unfold World.callProvider
  split
  · split
    · exact .inl rfl
    · exact .inr rfl
  · exact .inl rfl

theorem transact_inventory {α σ : Type} {fault : Option Exc} {run : Except Exc (α × σ)} {set : σ → World}
    (hset : ∀ s, (set s).inventory = w.inventory) : (w.transact fault run set).2.inventory = w.inventory := by
  unfold World.transact
  split
  · rfl
  · exact hset _
  · rfl

theorem World.Within.exec (h : w.Within inv) {o : Op} (ho : o.creates = false) (x : Input) :
    (World.exec.state i o x w).Within inv := by
  suffices hshrinks : (World.exec.state i o x w).inventory.servers ⊆ w.inventory.servers ∧
      (World.exec.state i o x w).inventory.volumes ⊆ w.inventory.volumes from
    ⟨List.Subset.trans hshrinks.1 h.servers, List.Subset.trans hshrinks.2 h.volumes⟩
  have hsame : ∀ {inventory : Inventory}, inventory = w.inventory →
      inventory.servers ⊆ w.inventory.servers ∧ inventory.volumes ⊆ w.inventory.volumes := by
    rintro _ rfl
    exact ⟨List.Subset.refl _, List.Subset.refl _⟩
  cases o with
  | createVolume name sizeGb tags => cases ho
  | createServer name imageRef flavorRef volumeId tags => cases ho
  | store o => exact hsame (transact_inventory (w := { w with serial := w.serial + 1 }) fun _ => rfl)
  | issue sid user scope protocols ttl now =>
    exact hsame (transact_inventory (w := { w with serial := w.serial + 1 }) fun _ => rfl)
  | revokeSession sid => exact hsame (transact_inventory (w := { w with serial := w.serial + 1 }) fun _ => rfl)
  | readAuthority => exact hsame (transact_inventory (w := { w with serial := w.serial + 1 }) fun _ => rfl)
  | writeTokenFuse digest nodeId sid consumedAt =>
    exact hsame (transact_inventory (w := { w with serial := w.serial + 1 }) fun _ => rfl)
  | writeAuthority a => exact hsame (transact_inventory (w := { w with serial := w.serial + 1 }) fun _ => rfl)
  | time => exact hsame rfl
  | uuid => exact hsame rfl
  | listVolumes => exact hsame ((callProvider_inventory _ x _ _).elim id id)
  | listServers => exact hsame ((callProvider_inventory _ x _ _).elim id id)
  | listManagedResources => exact hsame ((callProvider_inventory _ x _ _).elim id id)
  | deleteVolume id =>
    rcases callProvider_inventory { w with serial := w.serial + 1 } x ()
      { w.inventory with volumes := w.inventory.volumes.filter (·.volumeId ≠ id) } with he | he
    · rw [show (World.exec.state i (.deleteVolume id) x w).inventory = _ from he]
      exact ⟨List.Subset.refl _, List.filter_subset_self _⟩
    · exact hsame he
  | deleteServer id =>
    rcases callProvider_inventory { w with serial := w.serial + 1 } x ()
      { w.inventory with servers := w.inventory.servers.filter (·.serverId ≠ id) } with he | he
    · rw [show (World.exec.state i (.deleteServer id) x w).inventory = _ from he]
      exact ⟨List.filter_subset_self _, List.Subset.refl _⟩
    · exact hsame he

theorem World.Within.identified (h : w.Within inv) : w.inventory.identified ⊆ inv.identified := by
  intro p hp
  rcases List.mem_append.mp hp with hp | hp
  · obtain ⟨s, hs, rfl⟩ := List.mem_map.mp hp
    exact List.mem_append_left _ (List.mem_map_of_mem (h.servers hs))
  · obtain ⟨v, hv, rfl⟩ := List.mem_map.mp hp
    exact List.mem_append_right _ (List.mem_map_of_mem (h.volumes hv))

/-- Calls that neither adopt nor delete. -/
def Op.takes : Op → Bool
  | .deleteServer _ | .deleteVolume _ | .createServer _ _ _ _ _ | .store (.provisioningCheckpoint _ _ _ _ _) => true
  | _ => false

theorem Spares.of_takes {o : Op} (ho : o.takes = false) : Spares inv sid user env o := by
  have hnone : ∀ id, ¬o.TakesServer id ∧ ¬o.TakesVolume id := by
    intro resource
    cases o with
    | store so => cases so <;> first | exact ⟨id, id⟩ | cases ho
    | deleteServer | deleteVolume | createServer => cases ho
    | _ => exact ⟨id, id⟩
  exact ⟨fun s _ _ htakes => absurd htakes (hnone _).1, fun v _ _ htakes => absurd htakes (hnone _).2⟩

/-- A resource with one of the identifiers of the inventory, and the tags under it. -/
def World.Identifies (inv : Inventory) (resource : ManagedResource) (environment : String) : Prop :=
  environment ≠ "" ∧ ∃ t, (resource.providerId, t) ∈ inv.identified ∧ t.environment = some environment

theorem listServers_eq {x : Input} {servers : List ProviderServer} (h : (World.exec i .listServers x w).1 = .ok servers) :
    servers = w.inventory.servers := by
  unfold World.exec World.callProvider at h
  simp only at h
  split at h
  · cases h
  · exact (Except.ok.inj h).symm

theorem listVolumes_eq {x : Input} {volumes : List ProviderVolume} (h : (World.exec i .listVolumes x w).1 = .ok volumes) :
    volumes = w.inventory.volumes := by
  unfold World.exec World.callProvider at h
  simp only at h
  split at h
  · cases h
  · exact (Except.ok.inj h).symm

theorem listManagedResources_eq {x : Input} {resources : List ManagedResource}
    (h : (World.exec i .listManagedResources x w).1 = .ok resources) : resources = w.inventory.managedResources := by
  unfold World.exec World.callProvider at h
  simp only at h
  split at h
  · cases h
  · exact (Except.ok.inj h).symm

/-- The environment that is found for a resource is that of some resource with its identifier. -/
theorem resourceEnvironment_alone (h : w.Within inv) (resource : ManagedResource) (environment : String) :
    (Workflow.resourceEnvironment resource environment).Alone World.exec i (Spares inv sid user env) (fun r w =>
      w.Within inv ∧ (r = .ok true → World.Identifies inv resource environment)) w := by
  unfold Workflow.resourceEnvironment
  split
  · exact .done ⟨h, fun hr => by cases hr⟩
  · rename_i hne
    refine .op_bind (.of_takes rfl) (fun x servers hservers => ?_) fun x e _ => ⟨h.exec rfl x, fun hr => by cases hr⟩
    have h' := h.exec (i := i) (o := .listServers) rfl x
    refine .op_bind (.of_takes rfl) (fun x' volumes hvolumes => ?_) fun x' e _ => ⟨h'.exec rfl x', fun hr => by cases hr⟩
    refine .done ⟨h'.exec rfl x', fun hr => ⟨hne, ?_⟩⟩
    obtain ⟨⟨candidate, tags⟩, hcandidate, henvironment⟩ := (Option.any_eq_true _ _).mp (Except.ok.inj hr)
    have hid := List.find?_some hcandidate
    obtain rfl : candidate = resource.providerId := of_decide_eq_true hid
    refine ⟨tags, ?_, of_decide_eq_true henvironment⟩
    rcases List.mem_append.mp (List.mem_of_find?_eq_some hcandidate) with hmem | hmem
    · obtain ⟨s, hs, heq⟩ := List.mem_map.mp hmem
      rw [listServers_eq hservers] at hs
      exact List.mem_append_left _ (List.mem_map.mpr ⟨s, h.servers hs, heq⟩)
    · obtain ⟨v, hv, heq⟩ := List.mem_map.mp hmem
      rw [listVolumes_eq hvolumes] at hv
      exact List.mem_append_right _ (List.mem_map.mpr ⟨v, h'.volumes hv, heq⟩)

/-- The resource has the identifier of one that the Session owns. -/
def World.Own (inv : Inventory) (resource : ManagedResource) (user environment : String) : Prop :=
  environment ≠ "" ∧ ∃ t, (resource.providerId, t) ∈ inv.identified ∧ t.userId = some user ∧ t.environment = some environment

/-- With distinct identifiers the tags of a listed resource are the ones its environment was found in. -/
theorem own_of_identifies (hdistinct : inv.DistinctIds) (h : w.Within inv) {resource : ManagedResource}
    {expected environment : String} (hmem : resource ∈ w.inventory.managedResources)
    (huser : resource.userId = some expected) (hfound : World.Identifies inv resource environment) :
    World.Own inv resource expected environment := by
  obtain ⟨hne, t, ht, henvironment⟩ := hfound
  refine ⟨hne, t, ht, ?_, henvironment⟩
  have hlisted : ∃ t', (resource.providerId, t') ∈ inv.identified ∧ t'.userId = resource.userId := by
    rcases List.mem_append.mp hmem with hmem | hmem
    · obtain ⟨v, hv, rfl⟩ := List.mem_map.mp hmem
      have hv := h.volumes (List.mem_filter.mp hv).1
      exact ⟨v.tags, List.mem_append_right _ (List.mem_map_of_mem hv), rfl⟩
    · obtain ⟨s, hs, rfl⟩ := List.mem_map.mp hmem
      have hs := h.servers (List.mem_filter.mp hs).1
      exact ⟨s.tags, List.mem_append_left _ (List.mem_map_of_mem hs), rfl⟩
  obtain ⟨t', ht', huser'⟩ := hlisted
  have hsame := List.inj_on_of_nodup_map hdistinct ht ht' rfl
  rw [(Prod.mk.inj hsame).2, huser', huser]

theorem ownedResources_alone (hdistinct : inv.DistinctIds) (h : w.Within inv) (expected environment : String) :
    (Workflow.ownedResources sid expected environment).Alone World.exec i (Spares inv sid user env) (fun r w =>
      w.Within inv ∧ ∀ owned, r = .ok owned → ∀ resource ∈ owned, World.Own inv resource expected environment) w := by
  refine .op_bind (.of_takes rfl) (fun x resources hresources => ?_) fun x e _ => ⟨h.exec rfl x, fun owned hr => by cases hr⟩
  have h' := h.exec (i := i) (o := .listManagedResources) rfl x
  have hnil : ∀ owned, (Except.ok [] : Except Exc (List ManagedResource)) = .ok owned →
      ∀ resource ∈ owned, World.Own inv resource expected environment := by
    intro owned howned resource hresource
    rw [← Except.ok.inj howned] at hresource
    cases hresource
  refine .forFold ⟨h', hnil⟩ fun owned resource hmem w' ⟨hw', howned⟩ => ?_
  have hlisted : resource ∈ w.inventory.managedResources := listManagedResources_eq hresources ▸ hmem
  split
  · rename_i htags
    obtain ⟨-, huser⟩ := Bool.and_eq_true_iff.mp htags
    refine (resourceEnvironment_alone hw' resource environment).bind (fun found w'' ⟨hw'', hfound⟩ => ?_) fun e w'' hw'' =>
      ⟨hw''.1, fun owned hr => by cases hr⟩
    split
    · rename_i htrue
      refine .done ⟨hw'', fun owned' hr resource' hmem' => ?_⟩
      rw [← Except.ok.inj hr] at hmem'
      rcases List.mem_append.mp hmem' with hmem' | hmem'
      · exact howned owned rfl resource' hmem'
      · obtain rfl := List.mem_singleton.mp hmem'
        exact own_of_identifies hdistinct h hlisted (of_decide_eq_true huser) (hfound (by rw [htrue]))
    · exact .done ⟨hw'', howned⟩
  · exact .done ⟨hw', howned⟩

/-- Every delete is of a resource that the Session owns. -/
theorem deleteEach_alone {delete : String → Control Unit} {sid' : String} {lease : Uuid}
    {resources : List ManagedResource}
    (hdelete : ∀ resource ∈ resources, ∀ w, World.Within inv w →
      (delete resource.providerId).Alone World.exec i (Spares inv sid user env) (fun _ w => w.Within inv) w)
    (h : w.Within inv) (ok : Bool) :
    (deleteEach (store (.sessionCleanupStillOwned sid' lease)) delete resources ok).Alone World.exec i
      (Spares inv sid user env) (fun _ w => w.Within inv) w := by
  induction resources generalizing w ok with
  | nil => exact .done h
  | cons first rest ih =>
    have hrest := fun resource hmem => hdelete resource (List.mem_cons_of_mem first hmem)
    refine .op_bind (.of_takes rfl) (fun x owned _ => ?_) fun x e _ => h.exec rfl x
    have h' := h.exec (i := i) (o := .store (.sessionCleanupStillOwned sid' lease)) rfl x
    split
    · exact .done h'
    · refine Prog.Alone.bind (Q := fun _ w => World.Within inv w) (.andThen ?_) (fun r w' hw' => ?_) fun e w' hw' => hw'
      · exact (hdelete first List.mem_cons_self _ h').mono fun r w' hw' => hw'
      · split
        · exact ih hrest hw' ok
        · exact ih hrest hw' false

theorem spares_of_own (hdistinct : inv.DistinctIds) {resource : ManagedResource} (hown : World.Own inv resource user env.str)
    {o : Op} (hserver : ∀ id, o.TakesServer id → resource.providerId = id)
    (hvolume : ∀ id, o.TakesVolume id → resource.providerId = id) : Spares inv sid user env o := by
  obtain ⟨-, t, ht, huser, henvironment⟩ := hown
  have hsame : ∀ {id t'}, resource.providerId = id → (id, t') ∈ inv.identified → t'.OwnedBy user env := by
    rintro _ t' rfl ht'
    rw [← (Prod.mk.inj (List.inj_on_of_nodup_map hdistinct ht ht' rfl)).2]
    exact ⟨huser, henvironment⟩
  refine ⟨fun s hs _ htakes => hsame (hserver _ htakes) ?_, fun v hv _ htakes => hsame (hvolume _ htakes) ?_⟩
  · exact List.mem_append_left _ (List.mem_map_of_mem hs)
  · exact List.mem_append_right _ (List.mem_map_of_mem hv)

theorem deleteServer_alone (hdistinct : inv.DistinctIds) {resource : ManagedResource}
    (hown : World.Own inv resource user env.str) (h : w.Within inv) :
    (call (.deleteServer resource.providerId)).Alone World.exec i (Spares inv sid user env) (fun _ w => w.Within inv) w :=
  ⟨spares_of_own hdistinct hown (fun _ h => h) fun _ h => h.elim, fun x => h.exec rfl x⟩

theorem deleteVolume_alone (hdistinct : inv.DistinctIds) {resource : ManagedResource}
    (hown : World.Own inv resource user env.str) (h : w.Within inv) :
    (call (.deleteVolume resource.providerId)).Alone World.exec i (Spares inv sid user env) (fun _ w => w.Within inv) w :=
  ⟨spares_of_own hdistinct hown (fun _ h => h.elim) fun _ h => h, fun x => h.exec rfl x⟩

/-- A cleanup that lists only what the Session owns deletes nothing else. -/
theorem deleteInOrder_alone (hdistinct : inv.DistinctIds) {inventory : Control (List ManagedResource)} {sid' : String}
    {lease : Uuid} (hinventory : ∀ w, World.Within inv w → inventory.Alone World.exec i (Spares inv sid user env)
      (fun r w => w.Within inv ∧ ∀ owned, r = .ok owned → ∀ resource ∈ owned, World.Own inv resource user env.str) w)
    (h : w.Within inv) :
    (deleteInOrder inventory sid' lease).Alone World.exec i (Spares inv sid user env) (fun _ _ => True) w := by
  refine (hinventory w h).bind (fun servers w₁ ⟨hw₁, hservers⟩ => ?_) fun _ _ _ => trivial
  refine (deleteEach_alone (fun resource hmem w hw => ?_) hw₁ true).bind (fun r w₂ hw₂ => ?_) fun _ _ _ => trivial
  · exact deleteServer_alone hdistinct (hservers servers rfl resource (List.mem_filter.mp hmem).1) hw
  split
  · refine (hinventory w₂ hw₂).bind (fun volumes w₃ ⟨hw₃, hvolumes⟩ => ?_) fun _ _ _ => trivial
    split
    · exact .done trivial
    · refine (deleteEach_alone (fun resource hmem w hw => ?_) hw₃ true).bind (fun r w₄ _ => .done trivial) fun _ _ _ => trivial
      exact deleteVolume_alone hdistinct (hvolumes volumes rfl resource (List.mem_filter.mp hmem).1) hw
  · exact .done trivial

/-- The workflow's own cleanup deletes nothing of others, as long as identifiers tell resources apart. -/
theorem workflowCleanup_respects (hdistinct : inv.DistinctIds) : WorkflowCleanupRespects inv sid user env := by
  rintro lease i w rfl howns
  have h : w.Within w.inventory := ⟨List.Subset.refl _, List.Subset.refl _⟩
  refine .op_bind (.of_takes rfl) (fun x current hcurrent => ?_) fun _ _ _ => trivial
  have h' := h.exec (i := i) (o := .store (.get sid)) rfl x
  cases current with
  | none =>
    -- without a record nothing is found, since no environment is empty
    refine deleteInOrder_alone hdistinct (fun w hw => ?_) h'
    refine (ownedResources_alone hdistinct hw "" "").mono fun r w ⟨hw, howned⟩ => ⟨hw, fun owned hr resource hmem => ?_⟩
    exact absurd rfl (howned owned hr resource hmem).1
  | some r =>
    have hr : w.store.session? sid = some r := (Prod.mk.inj (Except.ok.inj (World.exec_store_ok hcurrent))).1
    obtain ⟨rfl, rfl⟩ := howns r hr
    exact deleteInOrder_alone hdistinct (fun w hw => ownedResources_alone hdistinct hw _ _) h'

/-! ### The whole -/

/-- `prepare` goes on with the first volume that carries the Session's id, whosever it is. -/
theorem provision_adopts {config : Workflow.WorkflowConfig} {op : Uuid} {v : ProviderVolume}
    (hfirst : Workflow.findManaged (·.tags) sid w.inventory.volumes = some v) :
    (Workflow.provision config sid user env op).Calls World.exec i quietly
      (.store (.provisioningCheckpoint sid op none false [.providerVolumeId v.volumeId])) 0 w := by
  have hvolume : (Workflow.ensureVolume config sid user env).eval World.exec i quietly 0 w =
      ⟨.ok v, { w with serial := w.serial + 1 }, 1⟩ := by
    unfold Workflow.ensureVolume
    refine (Prog.eval_op_bind _ _).trans ?_
    have hlist : (World.exec i .listVolumes (quietly 0) w).1 = .ok w.inventory.volumes := rfl
    rw [hlist]
    dsimp only
    rw [hfirst]
    rfl
  exact Prog.Calls.bind_eval hvolume .op_self

/-- **Whose resources a Session takes.** Everything that `prepare` adopts and the two cleanups delete is the Session's
    own exactly when the inventory holds nothing of others under the Session's id. The workflow's cleanup is not to blame:
    as long as identifiers tell resources apart, it deletes nothing of others. -/
theorem ownership_respected_iff (inv : Inventory) (sid user : String) (env : Environment) :
    (OwnershipRespected inv sid user env ↔ inv.AllOwned sid user env) ∧
      (inv.DistinctIds → WorkflowCleanupRespects inv sid user env) := by
  refine ⟨⟨fun h => ⟨fun s hs hcarries => ?_, fun v hv hcarries => ?_⟩, fun h => ?_⟩, workflowCleanup_respects⟩
  · have hspares := (h.reaperCleanup ⟨0, 0⟩ 0 (heldWorld inv sid user env) rfl heldWorld_owns).of_calls
      (reaper_deletes_server hs hcarries)
    exact hspares.servers s hs hcarries rfl
  · have hspares := (h.reaperCleanup ⟨0, 0⟩ 0 (heldWorld inv sid user env) rfl heldWorld_owns).of_calls
      (reaper_deletes_volume hv hcarries)
    exact hspares.volumes v hv hcarries rfl
  · have hspares : ∀ o, Spares inv sid user env o := fun o =>
      ⟨fun s hs hcarries _ => h.servers s hs hcarries, fun v hv hcarries _ => h.volumes v hv hcarries⟩
    exact
      { prepare := fun _ _ _ _ _ => .of_forall hspares
        workflowCleanup := fun _ _ _ _ _ => .of_forall hspares
        reaperCleanup := fun _ _ _ _ _ => .of_forall hspares }

end

/-! ### Resources of another user -/

namespace Foreign

/-- User "b" of another deployment has a Session with the same id. -/
def tags : Tags := ⟨some "true", some Sample.sid, some "b", some "prod", none, none⟩

def volume : ProviderVolume := ⟨"volume-b", "boot", 20, tags⟩
def server : ProviderServer := ⟨"server-b", "node", "ubuntu-24.04", "g2", "volume-b", none, tags⟩
def inventory : Inventory := ⟨[volume], [server]⟩

theorem carries : tags.Carries Sample.sid := ⟨rfl, rfl⟩

end Foreign

/-- User "a" prepares with the other user's volume, and the Reaper deletes the other user's server for user "a". -/
theorem foreign_resources_taken :
    (Workflow.provision .default Sample.sid "a" .prod ⟨0, 0⟩).Calls World.exec 0 quietly
        (.store (.provisioningCheckpoint Sample.sid ⟨0, 0⟩ none false [.providerVolumeId "volume-b"])) 0
        (heldWorld Foreign.inventory Sample.sid "a" .prod) ∧
      (Reaper.cleanupResources Sample.sid ⟨0, 0⟩).Calls World.exec 0 quietly (.deleteServer "server-b") 0
        (heldWorld Foreign.inventory Sample.sid "a" .prod) ∧
      ¬OwnershipRespected Foreign.inventory Sample.sid "a" .prod := by
  have hdeleted : (Reaper.cleanupResources Sample.sid ⟨0, 0⟩).Calls World.exec 0 quietly (.deleteServer "server-b") 0
      (heldWorld Foreign.inventory Sample.sid "a" .prod) :=
    reaper_deletes_server (s := Foreign.server) (List.mem_singleton_self _) Foreign.carries
  refine ⟨provision_adopts (v := Foreign.volume) rfl, hdeleted, fun h => ?_⟩
  have hspares := (h.reaperCleanup ⟨0, 0⟩ 0 _ rfl heldWorld_owns).of_calls hdeleted
  obtain ⟨huser, -⟩ := hspares.servers Foreign.server (List.mem_singleton_self _) Foreign.carries rfl
  exact absurd huser (by decide)

end IRLight
