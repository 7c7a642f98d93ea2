import AlertDistributor.Analysis.Answers
import AlertDistributor.System.SnsPush

/-!
# What the removal of a rejected endpoint hits

A delivery works on a copy of the device that the dispatch took from the cache, and the
removal goes by the id of the device.  `copies_stored` says where every copy comes from:
the cache held it in some earlier state of the run.  The cache is the last write per device
(`mem_devicesFor_pushRun`), so a removal takes out another endpoint exactly when an UPSERT that was
applied after the copy was taken still stands (`Overtaken`).
-/

set_option autoImplicit false

namespace AlertDistributor.Analysis

open AlertDistributor.Model AlertDistributor.Interface AlertDistributor.System LastWrite

variable {Payload Json Time : Type} {env : PushEnv Payload Json} {views : Views}

/-! ## What each action does -/

section Cases

variable {s s' : PushState Json Time}

/-- A dispatch begins with the people who see the unit. -/
theorem dispatchEvent_cases {event : AlertEvent Json Time}
    (hstep : pushStep env s (.dispatchEvent event) = some s') :
    s' = { s with dispatch := PushDispatch.start env.parseUuid s.cache event } := by
  rw [pushStep] at hstep
  split at hstep
  · cases hstep
  · exact (Option.some.inj hstep).symm

/-- A turn of the dispatch reads the devices of the next person. -/
theorem readDevices_cases
    (hstep : pushStep env s (.readDevices : PushAction Payload Json Time) = some s') :
    ∃ dispatch p rest metrics, s.dispatch = some dispatch ∧ dispatch.users = p :: rest ∧
      s' = { s with
        dispatch := some { dispatch with
          users := rest
          snsTargets := dispatch.snsTargets ++
            (s.cache.devicesFor (ofLex p).2).filter UserDevice.isTarget }
        metrics := metrics } := by
  rw [pushStep] at hstep
  split at hstep
  · cases hstep
  · rename_i dispatch hdispatch
    split at hstep
    · cases hstep
    · rename_i next metrics hnext
      rw [PushDispatch.readDevices] at hnext
      split at hnext
      · cases hnext
      · rename_i p rest husers
        obtain ⟨rfl, rfl⟩ := Prod.mk.inj (Option.some.inj hnext)
        exact ⟨dispatch, p, rest, _, hdispatch, husers, (Option.some.inj hstep).symm⟩

/-- A dispatch that has read everybody queues its targets. -/
theorem sendAlert_cases (hstep : sendAlert s = some s') :
    ∃ event targets metrics, s.dispatch = some ⟨event, [], targets⟩ ∧
      s' = { s with
        dispatch := none
        queued := s.queued ++ targets.map fun device => (device, event)
        metrics := metrics } := by
  rw [sendAlert] at hstep
  split at hstep
  · rename_i event targets hdispatch
    exact ⟨event, targets, _, hdispatch, (Option.some.inj hstep).symm⟩
  · cases hstep

/-- A delivery takes its pair off the queue, and keeps the device only if SNS rejected the
endpoint. -/
theorem processSnsDelivery_cases {i : ℕ} {outcome : Except SnsError Unit}
    (hstep : processSnsDelivery s i outcome = some s') :
    ∃ device event, s.queued[i]? = some (device, event) ∧ s'.cache = s.cache ∧
      s'.dispatch = s.dispatch ∧ s'.queued = s.queued.eraseIdx i ∧ s'.marked = s.marked ∧
        (s'.rejected = s.rejected ∨ s'.rejected = s.rejected ++ [device]) := by
  rw [processSnsDelivery] at hstep
  split at hstep
  · cases hstep
  · rename_i device event hpair
    refine ⟨device, event, hpair, ?_⟩
    split at hstep
    · obtain rfl := Option.some.inj hstep
      exact ⟨rfl, rfl, rfl, rfl, .inl rfl⟩
    · obtain rfl := Option.some.inj hstep
      exact ⟨rfl, rfl, rfl, rfl, .inr rfl⟩
    · obtain rfl := Option.some.inj hstep
      exact ⟨rfl, rfl, rfl, rfl, .inl rfl⟩

/-- The worker marks a device that was rejected. -/
theorem markRejected_cases {device : UserDevice} {ok : Bool}
    (hstep : pushStep env s (.markInactive device ok : PushAction Payload Json Time) =
      some s') :
    device ∈ s.rejected ∧ s' = { s with
      rejected := s.rejected.erase device
      marked := if ok then s.marked ++ [device] else s.marked } := by
  rw [pushStep] at hstep
  split at hstep
  · rename_i hrejected
    exact ⟨hrejected, (Option.some.inj hstep).symm⟩
  · cases hstep

/-- The worker removes a device that it has marked. -/
theorem removeMarked_cases {device : UserDevice}
    (hstep : pushStep env s (.deactivate device : PushAction Payload Json Time) = some s') :
    device ∈ s.marked ∧ s' = { s with
      cache := (s.cache.deactivateDevice device.id).1
      marked := s.marked.erase device } := by
  rw [pushStep] at hstep
  split at hstep
  · rename_i hmarked
    exact ⟨hmarked, (Option.some.inj hstep).symm⟩
  · cases hstep

end Cases

/-! ## The cache of a run -/

/-- An action leaves the cache alone or applies its write operation. -/
theorem cache_pushStep {s s' : PushState Json Time} {a : PushAction Payload Json Time}
    (hstep : pushStep env s a = some s') :
    s'.cache = match a.op env.decoder with
      | some op => s.cache.apply op
      | none => s.cache := by
  cases a with
  | controlEvent payload =>
    obtain rfl := Option.some.inj hstep
    have hop : (PushAction.controlEvent payload : PushAction Payload Json Time).op env.decoder =
        (decodeEvent env.decoder payload).map Event.op := rfl
    rw [hop]
    cases h : decodeEvent env.decoder payload with
    | none => exact (applyEvent_of_not_decoded s.cache h).1
    | some e => exact congrArg Prod.fst (applyEvent_of_decoded s.cache h)
  | dispatchEvent event =>
    rw [dispatchEvent_cases hstep]
    rfl
  | readDevices =>
    obtain ⟨_, _, _, _, -, -, rfl⟩ := readDevices_cases hstep
    rfl
  | sendAlert =>
    obtain ⟨_, _, _, -, rfl⟩ := sendAlert_cases hstep
    rfl
  | deliver i outcome =>
    obtain ⟨_, _, -, hcache, -⟩ := processSnsDelivery_cases hstep
    exact hcache
  | markInactive device ok =>
    obtain ⟨-, rfl⟩ := markRejected_cases hstep
    rfl
  | deactivate device =>
    obtain ⟨-, rfl⟩ := removeMarked_cases hstep
    rfl

/-- The cache is a run of the writes of the snapshot and of the actions. -/
def CacheReplays (env : PushEnv Payload Json) (views : Views)
    (actions : List (PushAction Payload Json Time)) (s : PushState Json Time) : Prop :=
  s.cache = State.run (pushOps env.decoder views actions)

/-- In every run the cache is the replay of the operations. -/
theorem cacheReplays_pushRun {actions : List (PushAction Payload Json Time)}
    {s : PushState Json Time} (hrun : pushRun env views actions = some s) :
    CacheReplays env views actions s := by
  refine Runs.history_of_step ?_ ?_ hrun
  · unfold CacheReplays
    have hinit : (PushState.init views : PushState Json Time).cache =
        loadControlPlaneSnapshot views := rfl
    rw [hinit, loadControlPlaneSnapshot_eq, pushOps, List.filterMap_nil, List.append_nil]
  · intro actions mid a s' _ hmid hstep
    have hops : pushOps env.decoder views (actions ++ [a]) =
        pushOps env.decoder views actions ++ (a.op env.decoder).toList := by
      rw [pushOps, List.filterMap_append, ← List.append_assoc]
      cases h : a.op env.decoder <;> simp [pushOps, h]
    unfold CacheReplays at hmid ⊢
    rw [cache_pushStep hstep, hops, State.run_append, ← hmid]
    cases a.op env.decoder <;> rfl

/-- The device store of a run: the last write about each device. -/
theorem mem_devicesFor_pushRun {actions : List (PushAction Payload Json Time)}
    {s : PushState Json Time} (hrun : pushRun env views actions = some s) (u : UserId)
    (d : UserDevice) :
    d ∈ s.cache.devicesFor u ↔ d.userId = u ∧
      (Tables.ofOps (pushOps env.decoder views actions)).userDevices d.id = some d ∧
        Pushable d := by
  rw [cacheReplays_pushRun hrun]
  exact mem_devicesFor_iff (indexed_run _) (represents_run _) u d

/-- The actions after a point of the run replay their writes on what was stored there. -/
theorem userDevices_pushOps_append (read later : List (PushAction Payload Json Time)) :
    (Tables.ofOps (pushOps env.decoder views (read ++ later))).userDevices =
      replay (Tables.ofOps (pushOps env.decoder views read)).userDevices
        (deviceWrites env.decoder later) := by
  have hops : pushOps env.decoder views (read ++ later) =
      pushOps env.decoder views read ++ later.filterMap (PushAction.op env.decoder) := by
    rw [pushOps, pushOps, List.filterMap_append, List.append_assoc]
  rw [hops]
  simp only [Tables.ofOps, Tables.replayOps, List.filterMap_append, replay_append]
  rfl

/-! ## Where the copies come from -/

/-- Every copy of a device that some task holds. -/
def copies (s : PushState Json Time) : List UserDevice :=
  (s.dispatch.elim [] PushDispatch.snsTargets) ++ s.queued.map Prod.fst ++ s.rejected ++ s.marked

/-- After these actions the cache holds the device. -/
def StoredAfter (env : PushEnv Payload Json) (views : Views)
    (actions : List (PushAction Payload Json Time)) (device : UserDevice) : Prop :=
  ∃ s, pushRun env views actions = some s ∧ ∃ u, device ∈ s.cache.devicesFor u

/-- The four places where a copy of a device can be. -/
theorem mem_copies {s : PushState Json Time} {device : UserDevice} :
    device ∈ copies s ↔
      (∃ dispatch, s.dispatch = some dispatch ∧ device ∈ dispatch.snsTargets) ∨
        (∃ event, (device, event) ∈ s.queued) ∨ device ∈ s.rejected ∨ device ∈ s.marked := by
  unfold copies
  cases s.dispatch <;> simp

/-- One turn of the dispatch copies devices of the cache. -/
theorem mem_copies_readDevices {s s' : PushState Json Time}
    (hstep : pushStep env s (.readDevices : PushAction Payload Json Time) = some s')
    {device : UserDevice} (hcopy : device ∈ copies s') :
    device ∈ copies s ∨ ∃ u, device ∈ s.cache.devicesFor u := by
  obtain ⟨dispatch, p, rest, metrics, hdispatch, -, rfl⟩ := readDevices_cases hstep
  rw [mem_copies] at hcopy
  obtain ⟨_, heq, htarget⟩ | hrest := hcopy
  · obtain rfl := Option.some.inj heq
    rw [List.mem_append, List.mem_filter] at htarget
    obtain hold | ⟨hread, -⟩ := htarget
    · exact .inl (mem_copies.mpr (.inl ⟨dispatch, hdispatch, hold⟩))
    · exact .inr ⟨_, hread⟩
  · exact .inl (mem_copies.mpr (.inr hrest))

/-- `send_alert` passes the targets on to the channel. -/
theorem mem_copies_sendAlert {s s' : PushState Json Time} (hstep : sendAlert s = some s')
    {device : UserDevice} (hcopy : device ∈ copies s') : device ∈ copies s := by
  obtain ⟨event, targets, metrics, hdispatch, rfl⟩ := sendAlert_cases hstep
  rw [mem_copies] at hcopy ⊢
  obtain ⟨_, heq, -⟩ | ⟨event', hqueued⟩ | hrest := hcopy
  · cases heq
  · rw [List.mem_append, List.mem_map] at hqueued
    obtain hold | ⟨target, htarget, heq⟩ := hqueued
    · exact .inr (.inl ⟨event', hold⟩)
    · obtain ⟨rfl, -⟩ := Prod.mk.inj heq
      exact .inl ⟨_, hdispatch, htarget⟩
  · exact .inr (.inr hrest)

/-- A rejected device was queued. -/
theorem mem_copies_deliver {s s' : PushState Json Time} {i : ℕ}
    {outcome : Except SnsError Unit} (hstep : processSnsDelivery s i outcome = some s')
    {device : UserDevice} (hcopy : device ∈ copies s') : device ∈ copies s := by
  obtain ⟨target, event, hpair, -, hdispatch, hqueue, hmarked, hrejected⟩ :=
    processSnsDelivery_cases hstep
  rw [mem_copies, hdispatch, hqueue, hmarked] at hcopy
  rw [mem_copies]
  obtain htarget | ⟨event', hqueued⟩ | hcopy | hcopy := hcopy
  · exact .inl htarget
  · exact .inr (.inl ⟨event', List.mem_of_mem_eraseIdx hqueued⟩)
  · obtain hkept | hmore := hrejected
    · rw [hkept] at hcopy
      exact .inr (.inr (.inl hcopy))
    · rw [hmore, List.mem_append, List.mem_singleton] at hcopy
      obtain hold | rfl := hcopy
      · exact .inr (.inr (.inl hold))
      · exact .inr (.inl ⟨event, List.mem_of_getElem? hpair⟩)
  · exact .inr (.inr (.inr hcopy))

/-- A marked device was rejected. -/
theorem mem_copies_markInactive {s s' : PushState Json Time} {rejected : UserDevice}
    {ok : Bool}
    (hstep : pushStep env s (.markInactive rejected ok : PushAction Payload Json Time) =
      some s')
    {device : UserDevice} (hcopy : device ∈ copies s') : device ∈ copies s := by
  obtain ⟨hrejected, rfl⟩ := markRejected_cases hstep
  rw [mem_copies] at hcopy ⊢
  obtain htarget | hqueued | hold | hmarked := hcopy
  · exact .inl htarget
  · exact .inr (.inl hqueued)
  · exact .inr (.inr (.inl (List.mem_of_mem_erase hold)))
  · cases ok with
    | false => exact .inr (.inr (.inr hmarked))
    | true =>
      rw [if_pos rfl, List.mem_append, List.mem_singleton] at hmarked
      obtain hold | rfl := hmarked
      · exact .inr (.inr (.inr hold))
      · exact .inr (.inr (.inl hrejected))

/-- A step copies devices of the cache and passes on the copies that are there. -/
theorem mem_copies_pushStep {s s' : PushState Json Time} {a : PushAction Payload Json Time}
    (hstep : pushStep env s a = some s') {device : UserDevice} (hcopy : device ∈ copies s') :
    device ∈ copies s ∨ ∃ u, device ∈ s.cache.devicesFor u := by
  cases a with
  | controlEvent payload =>
    obtain rfl := Option.some.inj hstep
    exact .inl hcopy
  | dispatchEvent event =>
    rw [dispatchEvent_cases hstep, mem_copies] at hcopy
    obtain ⟨dispatch, hdispatch, htarget⟩ | hrest := hcopy
    · -- a dispatch starts with no target
      obtain ⟨unitId, -, rfl⟩ := Option.map_eq_some_iff.mp hdispatch
      cases htarget
    · exact .inl (mem_copies.mpr (.inr hrest))
  | readDevices => exact mem_copies_readDevices hstep hcopy
  | sendAlert => exact .inl (mem_copies_sendAlert hstep hcopy)
  | deliver i outcome => exact .inl (mem_copies_deliver hstep hcopy)
  | markInactive rejected ok => exact .inl (mem_copies_markInactive hstep hcopy)
  | deactivate removed =>
    obtain ⟨-, rfl⟩ := removeMarked_cases hstep
    rw [mem_copies] at hcopy
    left
    rw [mem_copies]
    obtain htarget | hqueued | hrejected | hmarked := hcopy
    · exact .inl htarget
    · exact .inr (.inl hqueued)
    · exact .inr (.inr (.inl hrejected))
    · exact .inr (.inr (.inr (List.mem_of_mem_erase hmarked)))

/-- Every copy was taken from the cache, in the state after some first part of the run. -/
def CopiesStored (env : PushEnv Payload Json) (views : Views)
    (actions : List (PushAction Payload Json Time)) (s : PushState Json Time) : Prop :=
  ∀ device ∈ copies s, ∃ read later, actions = read ++ later ∧
    StoredAfter env views read device

/-- In every run each copy was stored once. -/
theorem copiesStored_pushRun {actions : List (PushAction Payload Json Time)}
    {s : PushState Json Time} (hrun : pushRun env views actions = some s) :
    CopiesStored env views actions s := by
  refine Runs.history_of_step ?_ ?_ hrun
  · intro device hcopy
    cases hcopy
  · intro actions mid a s' hmid ih hstep device hcopy
    obtain hold | hread := mem_copies_pushStep hstep hcopy
    · obtain ⟨read, later, rfl, hstored⟩ := ih device hold
      exact ⟨read, later ++ [a], List.append_assoc _ _ _, hstored⟩
    · exact ⟨actions, [a], rfl, mid, hmid, hread⟩

/-! ## Removals -/

/-- Every cache entry that the step takes out has this endpoint. -/
def RemovesOnly (before after : PushState Json Time) (arn : String) : Prop :=
  ∀ u entry, entry ∈ before.cache.devicesFor u → entry ∉ after.cache.devicesFor u →
    entry.endpointArn = arn

/-- The copy is out of date: after the cache held it, an UPSERT gave the device another
endpoint, and nothing was written about the device since. -/
def Overtaken (env : PushEnv Payload Json) (views : Views)
    (actions : List (PushAction Payload Json Time)) (device : UserDevice) : Prop :=
  ∃ read later, actions = read ++ later ∧ StoredAfter env views read device ∧
    ∃ newer, lastWrite? (deviceWrites env.decoder later) device.id = some ⟨device.id, some newer⟩ ∧
      Pushable newer ∧ newer.endpointArn ≠ device.endpointArn

/-- A write about a device that gives it a record names the device. -/
theorem id_of_userDeviceWrite {op : WriteOp} {id : DeviceId} {device : UserDevice}
    (h : userDeviceWrite op = some ⟨id, some device⟩) : device.id = id := by
  cases op with
  | upsertUserDevice d =>
    obtain ⟨rfl, hvalue⟩ := Write.mk.inj (Option.some.inj h)
    obtain rfl := Option.some.inj hvalue
    rfl
  | deactivateDevice id' => cases h
  | _ => cases h

/-- The last write about an id is that of a device with the id. -/
theorem id_of_lastWrite? {actions : List (PushAction Payload Json Time)} {id : DeviceId}
    {device : UserDevice} {decoder : Decoder Payload Json}
    (h : lastWrite? (deviceWrites decoder actions) id = some ⟨id, some device⟩) :
    device.id = id := by
  have hmem : (⟨id, some device⟩ : Write DeviceId UserDevice) ∈ deviceWrites decoder actions :=
    (List.mem_filter.mp (List.mem_of_getLast? h)).1
  obtain ⟨op, -, hop⟩ := List.mem_filterMap.mp hmem
  exact id_of_userDeviceWrite hop

/-- What the removal of a device takes out: its entries. -/
theorem removesOnly_iff {s s' : PushState Json Time} {device : UserDevice}
    (hstep : pushStep env s (.deactivate device : PushAction Payload Json Time) = some s')
    (arn : String) :
    RemovesOnly s s' arn ↔
      ∀ u entry, entry ∈ s.cache.devicesFor u → entry.id = device.id →
        entry.endpointArn = arn := by
  obtain ⟨-, rfl⟩ := removeMarked_cases hstep
  have hremoved : ∀ u entry, entry ∈ s.cache.devicesFor u →
      (entry ∉ (s.cache.deactivateDevice device.id).1.devicesFor u ↔ entry.id = device.id) := by
    intro u entry hentry
    have hmem := mem_devicesFor_withoutDevice s.cache device.id u entry
    rw [State.deactivateDevice, hmem]
    simp [hentry]
  constructor
  · intro honly u entry hentry hid
    exact honly u entry hentry ((hremoved u entry hentry).mpr hid)
  · intro hid u entry hentry hgone
    exact hid u entry hentry ((hremoved u entry hentry).mp hgone)

/-- **One removal**: it hits the endpoint that was rejected exactly when the copy was not
overtaken. -/
theorem removesOnly_deactivate {pre : List (PushAction Payload Json Time)}
    {device : UserDevice} {s s' : PushState Json Time} (hrun : pushRun env views pre = some s)
    (hstep : pushStep env s (.deactivate device : PushAction Payload Json Time) = some s') :
    RemovesOnly s s' device.endpointArn ↔ ¬ Overtaken env views pre device := by
  rw [removesOnly_iff hstep]
  constructor
  · rintro honly ⟨read, later, rfl, -, newer, hlast, hpush, hother⟩
    have hid : newer.id = device.id := id_of_lastWrite? hlast
    have hstored : newer ∈ s.cache.devicesFor newer.userId := by
      rw [mem_devicesFor_pushRun hrun, userDevices_pushOps_append, replay_apply, hid, hlast]
      exact ⟨rfl, rfl, hpush⟩
    exact hother (honly _ newer hstored hid)
  · intro hcurrent u entry hentry hid
    by_contra hother
    obtain ⟨hmarked, -⟩ := removeMarked_cases hstep
    obtain ⟨read, later, rfl, hstored⟩ := copiesStored_pushRun hrun device
      (mem_copies.mpr (.inr (.inr (.inr hmarked))))
    obtain ⟨-, hentry, hpush⟩ := (mem_devicesFor_pushRun hrun u entry).mp hentry
    rw [userDevices_pushOps_append, replay_apply, hid] at hentry
    cases hlast : lastWrite? (deviceWrites env.decoder later) device.id with
    | none =>
      -- nothing was written since, so the entry is the copy
      rw [hlast] at hentry
      obtain ⟨mid, hmid, v, hcopy⟩ := hstored
      obtain ⟨-, hcopy, -⟩ := (mem_devicesFor_pushRun hmid v device).mp hcopy
      obtain rfl : device = entry := Option.some.inj (hcopy.symm.trans hentry)
      exact hother rfl
    | some w =>
      rw [hlast] at hentry
      have hkey : w.key = device.id := key_of_lastWrite? hlast
      have hvalue : w.value = some entry := hentry
      have hw : w = ⟨device.id, some entry⟩ := by rw [← hkey, ← hvalue]
      rw [hw] at hlast
      exact hcurrent ⟨read, later, rfl, hstored, entry, hlast, hpush, hother⟩

/-- **Every removal of a run hits the endpoint that SNS rejected exactly when no removal
works on an overtaken copy.**
SRC: main.rs:265-288, permissions/cache.rs:279-306 -/
theorem removals_hit_rejected_iff (env : PushEnv Payload Json) (views : Views)
    (actions : List (PushAction Payload Json Time)) (s : PushState Json Time)
    (hrun : pushRun env views actions = some s) :
    (∀ pre device post before after, actions = pre ++ .deactivate device :: post →
        pushRun env views pre = some before →
        pushStep env before (.deactivate device : PushAction Payload Json Time) = some after →
        RemovesOnly before after device.endpointArn) ↔
      ∀ pre device post, actions = pre ++ .deactivate device :: post →
        ¬ Overtaken env views pre device := by
  constructor
  · intro hall pre device post heq
    have hprefix : ∃ after, Runs.exec (pushStep env) (PushState.init views)
        (pre ++ [.deactivate device]) = some after := by
      have hsplit : actions = (pre ++ [.deactivate device]) ++ post := by simp [heq]
      rw [hsplit] at hrun
      obtain ⟨after, hafter, -⟩ := Runs.exec_prefix hrun
      exact ⟨after, hafter⟩
    obtain ⟨after, hafter⟩ := hprefix
    obtain ⟨before, hbefore, hstep⟩ := Runs.exec_concat_eq_some.mp hafter
    exact (removesOnly_deactivate hbefore hstep).mp
      (hall pre device post before after heq hbefore hstep)
  · intro hnone pre device post before after heq hbefore hstep
    exact (removesOnly_deactivate hbefore hstep).mpr (hnone pre device post heq)

/-! ## A phone that registers again while a push to it fails -/

/-- Messages are events, and one unit id is known. -/
def phoneEnv : PushEnv Event Event where
  decoder := typedDecoder
  parseUuid s := if s = "1" then some 1 else none

/-- An alert of unit 1. -/
def phoneAlert : AlertEvent Event ℕ where
  id := 900
  organizationId := 10
  unitId := "1"
  unitName := none
  ruleId := 901
  sourceType := "event"
  sourceId := 902
  alertType := "off"
  alertName := none
  payload := .userDelete 0
  occurredAt := 0

/-- The phone of user 5, registered with this endpoint. -/
def phone (arn : String) : UserDevice :=
  ⟨7, 5, "t", "ios", arn, true⟩

/-- Unit 1 has a device under organization 10, whose owner has a phone. -/
def phoneEvents : List Event :=
  [.unitDeviceUpsert "a" 1 10, .membershipUpsert 10 5 "owner" "ACTIVE",
    .userDeviceUpsert (phone "e/APNS/x")]

/-- The owner sees the unit. -/
theorem usersForUnit_phoneEvents :
    (State.run (phoneEvents.map Event.op)).usersForUnit 1 = [toLex (10, 5)] := by
  have hunit : (State.run (phoneEvents.map Event.op)).unitOrg.lookup 1 = some 10 := by decide
  have howners : (State.run (phoneEvents.map Event.op)).activeOwners 10 = {5} := by decide
  have hgranted : (State.run (phoneEvents.map Event.op)).activeGranted 10 1 = ∅ := by decide
  unfold State.usersForUnit
  rw [hunit]
  simp only [howners, hgranted, Finset.union_empty, Finset.image_singleton,
    Finset.sort_singleton]

/-- The alert is dispatched and the phone is on the channel. -/
def queuedRun : List (PushAction Event Event ℕ) :=
  (phoneEvents.map fun e => .controlEvent e) ++
    [.dispatchEvent phoneAlert, .readDevices, .sendAlert]

def noViews : Views :=
  ⟨[], [], [], [], []⟩

/-- The push of the phone is queued. -/
theorem pushRun_queuedRun :
    pushRun phoneEnv noViews queuedRun = some
      ⟨State.run (phoneEvents.map Event.op), ⟨1, 1, 0, 0, 0⟩, none,
        [(phone "e/APNS/x", phoneAlert)], [], []⟩ := by
  have hevents : Runs.exec (pushStep phoneEnv) (PushState.init noViews : PushState Event ℕ)
      (phoneEvents.map fun e => .controlEvent e) = some
        { (PushState.init noViews : PushState Event ℕ) with
          cache := State.run (phoneEvents.map Event.op) } := rfl
  have hstart : PushDispatch.start phoneEnv.parseUuid
      (State.run (phoneEvents.map Event.op)) phoneAlert =
        some ⟨phoneAlert, [toLex (10, 5)], []⟩ := by
    rw [← usersForUnit_phoneEvents]
    rfl
  rw [pushRun, queuedRun, Runs.exec_append, hevents, Option.bind_some, Runs.exec_cons]
  simp only [pushStep, PushState.init, hstart, Option.bind_some]
  rfl

/-- SNS rejects the endpoint and the phone leaves the cache. -/
def rejectedRun : List (PushAction Event Event ℕ) :=
  queuedRun ++ [.deliver 0 (.error (.invalidEndpoint "")), .markInactive (phone "e/APNS/x") true,
    .deactivate (phone "e/APNS/x")]

/-- The phone has one endpoint in the whole run. -/
theorem not_overtaken_rejectedRun (pre : List (PushAction Event Event ℕ)) (device : UserDevice)
    (post : List (PushAction Event Event ℕ))
    (heq : rejectedRun = pre ++ .deactivate device :: post) :
    ¬ Overtaken phoneEnv noViews pre device := by
  rintro ⟨read, later, rfl, -, newer, hlast, -, hother⟩
  have hdevice : device = phone "e/APNS/x" := by
    have hmem : PushAction.deactivate device ∈ rejectedRun := by simp [heq]
    simpa [rejectedRun, queuedRun, phoneEvents] using hmem
  have hlater : (⟨device.id, some newer⟩ : Write DeviceId UserDevice) ∈
      deviceWrites typedDecoder later :=
    (List.mem_filter.mp (List.mem_of_getLast? hlast)).1
  have hwrite : (⟨device.id, some newer⟩ : Write DeviceId UserDevice) ∈
      deviceWrites typedDecoder rejectedRun := by
    rw [heq, deviceWrites, List.filterMap_append, List.filterMap_append, List.filterMap_append,
      List.filterMap_append]
    exact List.mem_append_left _ (List.mem_append_right _ hlater)
  have hwrites : deviceWrites typedDecoder rejectedRun =
      [⟨7, some (phone "e/APNS/x")⟩, ⟨7, none⟩] := rfl
  have hnewer : device.id = 7 ∧ newer = phone "e/APNS/x" := by
    rw [hwrites] at hwrite
    simpa using hwrite
  exact hother (by rw [hnewer.2, hdevice])

/-- A rejected endpoint that is still stored is the only thing removed. -/
theorem removals_hit_rejected_iff_rejected :
    ∃ s, pushRun phoneEnv noViews rejectedRun = some s ∧ s.cache.devicesFor 5 = [] ∧
      ∀ pre device post before after, rejectedRun = pre ++ .deactivate device :: post →
        pushRun phoneEnv noViews pre = some before →
        pushStep phoneEnv before (.deactivate device : PushAction Event Event ℕ) = some after →
        RemovesOnly before after device.endpointArn := by
  have hqueued := pushRun_queuedRun
  rw [pushRun] at hqueued
  have hrun : ∃ s, pushRun phoneEnv noViews rejectedRun = some s ∧
      s.cache.devicesFor 5 = [] := by
    rw [rejectedRun, pushRun, Runs.exec_append, hqueued, Option.bind_some]
    exact ⟨_, rfl, by decide⟩
  obtain ⟨s, hs, hgone⟩ := hrun
  have hhits := (removals_hit_rejected_iff phoneEnv noViews rejectedRun s hs).mpr
    not_overtaken_rejectedRun
  exact ⟨s, hs, hgone, hhits⟩

/-- The phone registers again, with another endpoint, before the removal. -/
def reregisteredRun : List (PushAction Event Event ℕ) :=
  queuedRun ++ [.controlEvent (.userDeviceUpsert (phone "e/APNS/y")),
    .deliver 0 (.error (.invalidEndpoint "")), .markInactive (phone "e/APNS/x") true]

/-- The removal takes out the new endpoint, which SNS never saw. -/
theorem removal_hits_new_endpoint :
    ∃ before after, pushRun phoneEnv noViews reregisteredRun = some before ∧
      pushStep phoneEnv before (.deactivate (phone "e/APNS/x") : PushAction Event Event ℕ) =
        some after ∧
      before.cache.devicesFor 5 = [phone "e/APNS/y"] ∧ after.cache.devicesFor 5 = [] ∧
        ¬ RemovesOnly before after (phone "e/APNS/x").endpointArn := by
  have hqueued := pushRun_queuedRun
  rw [pushRun] at hqueued
  rw [reregisteredRun, pushRun, Runs.exec_append, hqueued, Option.bind_some]
  have hruns : ∃ before after,
      Runs.exec (pushStep phoneEnv) (⟨State.run (phoneEvents.map Event.op), ⟨1, 1, 0, 0, 0⟩, none,
        [(phone "e/APNS/x", phoneAlert)], [], []⟩ : PushState Event ℕ)
        [.controlEvent (.userDeviceUpsert (phone "e/APNS/y")),
          .deliver 0 (.error (.invalidEndpoint "")), .markInactive (phone "e/APNS/x") true] =
        some before ∧
      pushStep phoneEnv before (.deactivate (phone "e/APNS/x") : PushAction Event Event ℕ) =
        some after ∧
      before.cache.devicesFor 5 = [phone "e/APNS/y"] ∧ after.cache.devicesFor 5 = [] :=
    ⟨_, _, rfl, rfl, by decide, by decide⟩
  obtain ⟨before, after, hbefore, hafter, hthere, hgone⟩ := hruns
  refine ⟨before, after, hbefore, hafter, hthere, hgone, ?_⟩
  intro honly
  have harn := honly 5 (phone "e/APNS/y") (by rw [hthere]; exact List.mem_singleton_self _)
    (by rw [hgone]; exact List.not_mem_nil)
  exact absurd harn (by decide)

end AlertDistributor.Analysis
