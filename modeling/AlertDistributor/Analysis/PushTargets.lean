import AlertDistributor.Analysis.StaleCopies

/-!
# The targets of a push

A dispatch reads the people of the unit once and then the devices of one person after the
other.  On a cache that stays as it is, it selects every reachable device of the permitted
people once (`push_targets_exact`): a device is stored once, under one person, and the
people are listed once.  Each read is a lock of its own, though, and the uniqueness of the
device lists holds within one state only.  A device that an UPSERT hands from a person who
was read to one who was not is selected twice, and nothing else makes a device appear twice
(`one_push_per_device_iff`).
-/

set_option autoImplicit false

namespace AlertDistributor.Analysis

open AlertDistributor.Model AlertDistributor.Interface AlertDistributor.System LastWrite

/-! ## The devices of one person -/

/-- What a turn of the loop over the people selects. -/
def targetsOf (cache : State) (p : OrganizationId ×ₗ UserId) : List UserDevice :=
  (cache.devicesFor (ofLex p).2).filter UserDevice.isTarget

/-- A target is a device that passes every check of the loop. -/
theorem isTarget_iff (d : UserDevice) : d.isTarget = true ↔ d.considered = .resolved := by
  unfold UserDevice.isTarget UserDevice.considered
  split
  · simp
  · split
    · simp
    · cases d.endpointIsSupportedForPlatform <;> simp

/-- A stored device is active and has an endpoint, so it is left out for its platform only. -/
theorem considered_of_stored {cache : State} (h : Indexed cache) {u : UserId} {d : UserDevice}
    (hd : d ∈ cache.devicesFor u) :
    d.considered ≠ .inactive ∧ d.considered ≠ .emptyEndpoint ∧
      (d.isTarget = true ↔ d.endpointIsSupportedForPlatform = true) := by
  obtain ⟨-, hactive, harn⟩ := h.userDevices_kept u d hd
  have hactive' : (!d.isActive) = false := by rw [hactive]; rfl
  have harn' : d.endpointArn.isEmpty = false := by simpa using harn
  unfold UserDevice.considered UserDevice.isTarget
  simp only [hactive', harn', Bool.false_eq_true, if_false]
  cases d.endpointIsSupportedForPlatform <;> simp

/-- The targets of a person are the stored devices whose endpoint fits their platform. -/
theorem mem_targetsOf {cache : State} (h : Indexed cache) {p : OrganizationId ×ₗ UserId}
    {d : UserDevice} :
    d ∈ targetsOf cache p ↔
      d ∈ cache.devicesFor (ofLex p).2 ∧ d.endpointIsSupportedForPlatform = true := by
  rw [targetsOf, List.mem_filter]
  exact and_congr_right fun hd => (considered_of_stored h hd).2.2

/-- A person's devices have different ids. -/
theorem nodup_targetsOf {cache : State} (h : Indexed cache) (p : OrganizationId ×ₗ UserId) :
    ((targetsOf cache p).map UserDevice.id).Nodup := by
  refine ((h.userDevices_nodup _).filter _).map_on ?_
  intro d hd d' hd' hid
  exact h.userDevices_unique _ _ d (List.mem_of_mem_filter hd) d' (List.mem_of_mem_filter hd')
    hid

/-- The people of a unit are different users: all pairs have the organization of the unit. -/
theorem eq_of_user {cache : State} (h : Indexed cache) {U : UnitId}
    {p q : OrganizationId ×ₗ UserId} (hp : p ∈ cache.usersForUnit U)
    (hq : q ∈ cache.usersForUnit U) (huser : (ofLex p).2 = (ofLex q).2) : p = q := by
  have horg : ∀ r ∈ cache.usersForUnit U, cache.unitOrg.lookup U = some (ofLex r).1 :=
    fun r hr => ((mem_usersForUnit_iff h (ofLex r).1 (ofLex r).2 U).mp hr).1
  have hsame : (ofLex p).1 = (ofLex q).1 :=
    Option.some.inj ((horg p hp).symm.trans (horg q hq))
  exact ofLex_inj.mp (Prod.ext hsame huser)

/-- `users_for_unit` lists a person once. -/
theorem nodup_usersForUnit (cache : State) (U : UnitId) : (cache.usersForUnit U).Nodup :=
  (usersForUnit_pairwise cache U).imp fun hlt => ne_of_lt hlt

/-! ## A call that nothing interrupts -/

/-- The loop over devices counts and collects the targets among them. -/
theorem foldl_considerDevice (devices : List UserDevice) (acc : SnsMetrics × List UserDevice) :
    devices.foldl considerDevice acc =
      ({ acc.1 with resolved :=
          acc.1.resolved + (devices.filter UserDevice.isTarget).length },
        acc.2 ++ devices.filter UserDevice.isTarget) := by
  induction devices generalizing acc with
  | nil => simp
  | cons d devices ih =>
    rw [List.foldl_cons, ih]
    by_cases hd : d.isTarget = true
    · have hconsidered : considerDevice acc d =
          ({ acc.1 with resolved := acc.1.resolved + 1 }, acc.2 ++ [d]) := by
        rw [considerDevice, (isTarget_iff d).mp hd]
      rw [hconsidered, List.filter_cons_of_pos hd]
      simp only [List.length_cons, List.append_assoc, List.singleton_append]
      congr 2
      omega
    · have hconsidered : considerDevice acc d = acc := by
        unfold considerDevice
        split
        · rename_i heq
          exact absurd ((isTarget_iff d).mpr heq) hd
        · rfl
      rw [hconsidered, List.filter_cons_of_neg hd]

/-- The loop over the people counts and collects the targets of each. -/
theorem foldl_users (cache : State) (users : List (OrganizationId ×ₗ UserId))
    (acc : SnsMetrics × List UserDevice) :
    users.foldl (fun acc p => (cache.devicesFor (ofLex p).2).foldl considerDevice acc) acc =
      ({ acc.1 with resolved := acc.1.resolved + (users.flatMap (targetsOf cache)).length },
        acc.2 ++ users.flatMap (targetsOf cache)) := by
  induction users generalizing acc with
  | nil => simp
  | cons p users ih =>
    rw [List.foldl_cons, ih, foldl_considerDevice, List.flatMap_cons]
    simp only [List.length_append, List.append_assoc, targetsOf]
    congr 2
    omega

/-- What the call selects, and what it calls `send_alert` with. -/
theorem dispatchEventAlone_eq {Json Time : Type} {parseUuid : String → Option Uuid}
    {event : AlertEvent Json Time} {U : UnitId} (hU : parseUuid event.unitId = some U)
    (cache : State) (metrics : SnsMetrics) :
    dispatchEventAlone parseUuid cache metrics event =
      ({ metrics with resolved := metrics.resolved +
          ((cache.usersForUnit U).flatMap (targetsOf cache)).length },
        if (cache.usersForUnit U).flatMap (targetsOf cache) = [] then none
        else some ((cache.usersForUnit U).flatMap (targetsOf cache))) := by
  unfold dispatchEventAlone
  simp only [hU, foldl_users, List.nil_append, List.isEmpty_iff]
  split <;> rfl

/-- The permitted people's devices have different ids. -/
theorem nodup_flatMap_targetsOf {cache : State} (h : Indexed cache) (U : UnitId) :
    (((cache.usersForUnit U).flatMap (targetsOf cache)).map UserDevice.id).Nodup := by
  rw [List.map_flatMap, List.nodup_flatMap]
  refine ⟨fun p _ => nodup_targetsOf h p, ?_⟩
  refine (nodup_usersForUnit cache U).imp_of_mem ?_
  intro p q hp hq hne
  show List.Disjoint _ _
  intro id hid hid'
  obtain ⟨d, hd, rfl⟩ := List.mem_map.mp hid
  obtain ⟨d', hd', heq⟩ := List.mem_map.mp hid'
  -- one id is one record, of one person
  have hstored := List.mem_of_mem_filter hd
  have hstored' := List.mem_of_mem_filter hd'
  obtain rfl := h.userDevices_unique _ _ d' hstored' d hstored heq
  have huser : (ofLex p).2 = (ofLex q).2 :=
    (h.userDevices_kept _ d' hstored).1.symm.trans (h.userDevices_kept _ d' hstored').1
  exact hne (eq_of_user h hp hq huser)

/-- **The selection of push targets is complete and exact.**  On a reachable cache that does
not change during the call, `dispatch_event` calls `send_alert` with a list, unless it is
empty, in which a device occurs exactly when it is stored under a permitted person of the
unit and its platform supports its endpoint, and no device id occurs twice.  `resolved`
grows by the length of the list, and no device it looks at is inactive or has an empty ARN.
SRC: sns/dispatcher.rs:32-140, permissions/cache.rs:101-171, 279-306 -/
theorem push_targets_exact {Json Time : Type} (parseUuid : String → Option Uuid)
    (ops : List WriteOp) (metrics : SnsMetrics) (event : AlertEvent Json Time) (U : UnitId)
    (hU : parseUuid event.unitId = some U) :
    ∃ targets, dispatchEventAlone parseUuid (State.run ops) metrics event =
        ({ metrics with resolved := metrics.resolved + targets.length },
          if targets = [] then none else some targets) ∧
      (targets.map UserDevice.id).Nodup ∧
      (∀ d, d ∈ targets ↔ ∃ O u, toLex (O, u) ∈ (State.run ops).usersForUnit U ∧
        d ∈ (State.run ops).devicesFor u ∧ d.endpointIsSupportedForPlatform = true) ∧
      ∀ O u, toLex (O, u) ∈ (State.run ops).usersForUnit U →
        ∀ d ∈ (State.run ops).devicesFor u,
          d.considered ≠ .inactive ∧ d.considered ≠ .emptyEndpoint := by
  have h : Indexed (State.run ops) := indexed_run ops
  refine ⟨_, dispatchEventAlone_eq hU _ metrics, nodup_flatMap_targetsOf h U, ?_, ?_⟩
  · intro d
    rw [List.mem_flatMap]
    constructor
    · rintro ⟨p, hp, hd⟩
      exact ⟨(ofLex p).1, (ofLex p).2, hp, (mem_targetsOf h).mp hd⟩
    · rintro ⟨O, u, hp, hd⟩
      exact ⟨toLex (O, u), hp, (mem_targetsOf h).mpr hd⟩
  · intro O u _ d hd
    obtain ⟨hactive, harn, -⟩ := considered_of_stored h hd
    exact ⟨hactive, harn⟩

/-- The owner of unit 1 has one phone. -/
theorem push_targets_exact_phone :
    ∃ targets, dispatchEventAlone phoneEnv.parseUuid (State.run (phoneEvents.map Event.op))
        SnsMetrics.default phoneAlert =
          ({ SnsMetrics.default with resolved := 0 + targets.length },
            if targets = [] then none else some targets) ∧ phone "e/APNS/x" ∈ targets := by
  obtain ⟨targets, hcall, -, hmem, -⟩ := push_targets_exact phoneEnv.parseUuid
    (phoneEvents.map Event.op) SnsMetrics.default phoneAlert 1 (by decide)
  refine ⟨targets, hcall, (hmem _).mpr ⟨10, 5, ?_, by decide, by decide⟩⟩
  rw [usersForUnit_phoneEvents]
  exact List.mem_singleton_self _

/-! ## A call between whose reads other tasks write -/

section Reads

variable {Payload Json Time : Type}

/-- Neither the start nor the end of a dispatch. -/
def During : PushAction Payload Json Time → Prop
  | .dispatchEvent _ | .sendAlert => False
  | _ => True

/-- A turn of the loop over the people. -/
def isRead : PushAction Payload Json Time → Bool
  | .readDevices => true
  | _ => false

/-- How many people have been read. -/
def reads (actions : List (PushAction Payload Json Time)) : ℕ :=
  actions.countP isRead

/-- A further action is a further read, or none. -/
theorem reads_concat (actions : List (PushAction Payload Json Time))
    (a : PushAction Payload Json Time) :
    reads (actions ++ [a]) = reads actions + if isRead a then 1 else 0 := by
  rw [reads, List.countP_append, List.countP_singleton]
  rfl

/-- There are fewer reads before a read than with it. -/
theorem reads_lt (a b : List (PushAction Payload Json Time)) :
    reads a < reads (a ++ .readDevices :: b) := by
  have hread : (isRead (.readDevices : PushAction Payload Json Time)) = true := rfl
  rw [reads, reads, List.countP_append, List.countP_cons_of_pos hread]
  omega

/-- At some read of the actions, of the person `p` after the actions `a`, `Q a p` holds. -/
def AtRead (users : List (OrganizationId ×ₗ UserId))
    (Q : List (PushAction Payload Json Time) → OrganizationId ×ₗ UserId → Prop)
    (rest : List (PushAction Payload Json Time)) : Prop :=
  ∃ a b p, rest = a ++ .readDevices :: b ∧ users[reads a]? = some p ∧ Q a p

variable (env : PushEnv Payload Json) (views : Views)

/-- The cache after the writes of some actions. -/
def cacheAfter (actions : List (PushAction Payload Json Time)) : State :=
  State.run (pushOps env.decoder views actions)

/-- The cache that a read meets is a reachable one. -/
theorem indexed_cacheAfter (actions : List (PushAction Payload Json Time)) :
    Indexed (cacheAfter env views actions) :=
  indexed_run _

/-- What a read of a person finds, from the last writes before it. -/
theorem mem_devicesFor_cacheAfter (actions : List (PushAction Payload Json Time)) (u : UserId)
    (d : UserDevice) :
    d ∈ (cacheAfter env views actions).devicesFor u ↔ d.userId = u ∧
      (Tables.ofOps (pushOps env.decoder views actions)).userDevices d.id = some d ∧
        Pushable d :=
  mem_devicesFor_iff (indexed_run _) (represents_run _) u d

variable (pre : List (PushAction Payload Json Time)) (event : AlertEvent Json Time) (U : UnitId)

/-- The people a dispatch reads: those of the unit when it starts. -/
def people : List (OrganizationId ×ₗ UserId) :=
  (cacheAfter env views pre).usersForUnit U

/-- Some read of the dispatch selected the device. -/
def SelectedIn (rest : List (PushAction Payload Json Time)) (d : UserDevice) : Prop :=
  AtRead (people env views pre U)
    (fun a p => d ∈ targetsOf (cacheAfter env views (pre ++ .dispatchEvent event :: a)) p) rest

/-- A device that a read has selected was handed to `p` since: the last write about it is an
UPSERT of a reachable device of `p`. -/
def HandedTo (rest : List (PushAction Payload Json Time)) (p : OrganizationId ×ₗ UserId) : Prop :=
  ∃ a b q, rest = a ++ .readDevices :: b ∧ (people env views pre U)[reads a]? = some q ∧
    ∃ device ∈ targetsOf (cacheAfter env views (pre ++ .dispatchEvent event :: a)) q,
      ∃ newer, lastWrite? (deviceWrites env.decoder b) device.id =
          some ⟨device.id, some newer⟩ ∧
        newer.userId = (ofLex p).2 ∧ newer.isTarget = true

/-- At some read, a device selected earlier had been handed to the person read. -/
def MovedBetweenReads (rest : List (PushAction Payload Json Time)) : Prop :=
  AtRead (people env views pre U) (HandedTo env views pre event U) rest

/-! ### What one more action does to these -/

variable {env views pre event U}

/-- A record that can be reached is one that the cache keeps. -/
theorem pushable_of_isTarget {d : UserDevice} (h : d.isTarget = true) : Pushable d := by
  unfold UserDevice.isTarget at h
  split at h
  · cases h
  · split at h
    · cases h
    · rename_i hactive harn
      exact ⟨by simpa using hactive, by simpa using harn⟩

/-- The people are listed once. -/
theorem people_ne {a b : List (PushAction Payload Json Time)}
    {p q : OrganizationId ×ₗ UserId}
    (hq : (people env views pre U)[reads a]? = some q)
    (hp : (people env views pre U)[reads (a ++ .readDevices :: b)]? = some p) :
    (ofLex q).2 ≠ (ofLex p).2 := by
  intro huser
  have hsame : q = p := eq_of_user (indexed_cacheAfter env views pre)
    (List.mem_of_getElem? hq) (List.mem_of_getElem? hp) huser
  have hlt : reads (a ++ .readDevices :: b) < (people env views pre U).length :=
    (List.getElem?_eq_some_iff.mp hp).1
  have hne := List.nodup_iff_getElem?_ne_getElem?.mp
    (nodup_usersForUnit (cacheAfter env views pre) U) _ _ (reads_lt a b) hlt
  exact hne (hq.trans (hsame ▸ hp.symm))

/-- **A person has a device that was selected before exactly when it was handed over.** -/
theorem selected_again_iff {rest : List (PushAction Payload Json Time)}
    {p : OrganizationId ×ₗ UserId}
    (hp : (people env views pre U)[reads rest]? = some p) :
    (∃ d, SelectedIn env views pre event U rest d ∧
        ∃ d' ∈ targetsOf (cacheAfter env views (pre ++ .dispatchEvent event :: rest)) p,
          d.id = d'.id) ↔
      HandedTo env views pre event U rest p := by
  have htable : ∀ a b, (Tables.ofOps (pushOps env.decoder views
      (pre ++ .dispatchEvent event :: (a ++ .readDevices :: b)))).userDevices =
        replay (Tables.ofOps (pushOps env.decoder views
          (pre ++ .dispatchEvent event :: a))).userDevices (deviceWrites env.decoder b) := by
    intro a b
    rw [← List.cons_append, ← List.append_assoc, userDevices_pushOps_append]
    rfl
  constructor
  · rintro ⟨d, ⟨a, b, q, rfl, hq, hd⟩, d', hd', hid⟩
    refine ⟨a, b, q, rfl, hq, d, hd, d', ?_, ?_, (List.mem_filter.mp hd').2⟩
    · obtain ⟨huser, hstored, -⟩ :=
        (mem_devicesFor_cacheAfter env views _ _ d).mp (List.mem_of_mem_filter hd)
      obtain ⟨huser', hstored', -⟩ :=
        (mem_devicesFor_cacheAfter env views _ _ d').mp (List.mem_of_mem_filter hd')
      rw [htable, replay_apply, ← hid] at hstored'
      cases hlast : lastWrite? (deviceWrites env.decoder b) d.id with
      | none =>
        -- nothing was written about it, so it would be one record under two people
        rw [hlast] at hstored'
        obtain rfl : d = d' := Option.some.inj (hstored.symm.trans hstored')
        exact absurd (huser.symm.trans huser') (people_ne hq hp)
      | some w =>
        rw [hlast] at hstored'
        have hkey : w.key = d.id := key_of_lastWrite? hlast
        have hvalue : w.value = some d' := hstored'
        rw [← hkey, ← hvalue]
    · exact ((mem_devicesFor_cacheAfter env views _ _ d').mp (List.mem_of_mem_filter hd')).1
  · rintro ⟨a, b, q, rfl, hq, device, hdevice, newer, hlast, huser, htarget⟩
    have hid : newer.id = device.id := id_of_lastWrite? hlast
    refine ⟨device, ⟨a, b, q, rfl, hq, hdevice⟩, newer, ?_, hid.symm⟩
    rw [targetsOf, List.mem_filter, mem_devicesFor_cacheAfter, htable, replay_apply, hid, hlast]
    exact ⟨⟨huser, rfl, pushable_of_isTarget htarget⟩, htarget⟩

section Concat

variable {users : List (OrganizationId ×ₗ UserId)}
  {Q : List (PushAction Payload Json Time) → OrganizationId ×ₗ UserId → Prop}
  {rest : List (PushAction Payload Json Time)}

/-- An action that reads nobody is no read. -/
theorem atRead_concat_of_not_read {a : PushAction Payload Json Time} (ha : isRead a = false) :
    AtRead users Q (rest ++ [a]) ↔ AtRead users Q rest := by
  unfold AtRead
  simp only [Runs.concat_eq_append_cons_iff]
  constructor
  · rintro ⟨c, post, p, ⟨-, rfl, -⟩ | ⟨post', -, heq⟩, hp, hQ⟩
    · cases ha
    · exact ⟨c, post', p, heq, hp, hQ⟩
  · rintro ⟨c, post, p, heq, hp, hQ⟩
    exact ⟨c, post ++ [a], p, .inr ⟨post, rfl, heq⟩, hp, hQ⟩

/-- One more read is the last of them. -/
theorem atRead_concat_read {p : OrganizationId ×ₗ UserId} (hp : users[reads rest]? = some p) :
    AtRead users Q (rest ++ [.readDevices]) ↔ AtRead users Q rest ∨ Q rest p := by
  unfold AtRead
  simp only [Runs.concat_eq_append_cons_iff]
  constructor
  · rintro ⟨c, post, q, ⟨rfl, -, -⟩ | ⟨post', -, heq⟩, hq, hQ⟩
    · obtain rfl := Option.some.inj (hp.symm.trans hq)
      exact .inr hQ
    · exact .inl ⟨c, post', q, heq, hq, hQ⟩
  · rintro (⟨c, post, q, heq, hq, hQ⟩ | hQ)
    · exact ⟨c, post ++ [.readDevices], q, .inr ⟨post, rfl, heq⟩, hq, hQ⟩
    · exact ⟨rest, [], p, .inl ⟨rfl, trivial, rfl⟩, hp, hQ⟩

end Concat

/-! ### The dispatch along its actions -/

/-- What a dispatch has in hand after some actions: the people who are left, the devices
that were selected, and when one of them appears twice. -/
structure Collected (env : PushEnv Payload Json) (views : Views)
    (pre : List (PushAction Payload Json Time)) (event : AlertEvent Json Time) (U : UnitId)
    (rest : List (PushAction Payload Json Time)) (dispatch : PushDispatch Json Time) : Prop where
  event_eq : dispatch.event = event
  users_eq : dispatch.users = (people env views pre U).drop (reads rest)
  mem_targets : ∀ d, d ∈ dispatch.snsTargets ↔ SelectedIn env views pre event U rest d
  nodup_iff : (dispatch.snsTargets.map UserDevice.id).Nodup ↔
    ¬ MovedBetweenReads env views pre event U rest

/-- An action that reads nobody leaves what was collected. -/
theorem Collected.concat_of_not_read {rest : List (PushAction Payload Json Time)}
    {dispatch : PushDispatch Json Time} (h : Collected env views pre event U rest dispatch)
    {a : PushAction Payload Json Time} (ha : isRead a = false) :
    Collected env views pre event U (rest ++ [a]) dispatch where
  event_eq := h.event_eq
  users_eq := by rw [h.users_eq, reads_concat, ha]; rfl
  mem_targets d := by
    rw [h.mem_targets, SelectedIn, SelectedIn, atRead_concat_of_not_read ha]
  nodup_iff := by
    rw [h.nodup_iff, MovedBetweenReads, MovedBetweenReads, atRead_concat_of_not_read ha]

/-- A read adds the reachable devices of the next person. -/
theorem Collected.concat_read {rest : List (PushAction Payload Json Time)}
    {dispatch : PushDispatch Json Time} (h : Collected env views pre event U rest dispatch)
    {p : OrganizationId ×ₗ UserId} {remaining : List (OrganizationId ×ₗ UserId)}
    (husers : dispatch.users = p :: remaining) :
    Collected env views pre event U (rest ++ [.readDevices])
      { dispatch with
        users := remaining
        snsTargets := dispatch.snsTargets ++
          targetsOf (cacheAfter env views (pre ++ .dispatchEvent event :: rest)) p } := by
  have hdrop : (people env views pre U).drop (reads rest) = p :: remaining :=
    h.users_eq.symm.trans husers
  have hp : (people env views pre U)[reads rest]? = some p := by
    rw [← List.head?_drop, hdrop, List.head?_cons]
  have hread : isRead (.readDevices : PushAction Payload Json Time) = true := rfl
  refine ⟨h.event_eq, ?_, ?_, ?_⟩
  · rw [reads_concat, if_pos hread, ← List.tail_drop, hdrop, List.tail_cons]
  · intro d
    rw [List.mem_append, h.mem_targets, SelectedIn, SelectedIn, atRead_concat_read hp]
  · have hnew := nodup_targetsOf (indexed_cacheAfter env views
      (pre ++ .dispatchEvent event :: rest)) p
    have hdisjoint : (∀ id ∈ dispatch.snsTargets.map UserDevice.id,
        ∀ id' ∈ (targetsOf (cacheAfter env views (pre ++ .dispatchEvent event :: rest)) p).map
          UserDevice.id, id ≠ id') ↔ ¬ HandedTo env views pre event U rest p := by
      rw [← selected_again_iff hp]
      constructor
      · rintro hne ⟨d, hd, d', hd', hid⟩
        exact hne d.id (List.mem_map_of_mem ((h.mem_targets d).mpr hd)) d'.id
          (List.mem_map_of_mem hd') hid
      · rintro hnone _ hid _ hid' heq
        obtain ⟨d, hd, rfl⟩ := List.mem_map.mp hid
        obtain ⟨d', hd', rfl⟩ := List.mem_map.mp hid'
        exact hnone ⟨d, (h.mem_targets d).mp hd, d', hd', heq⟩
    have hlast : MovedBetweenReads env views pre event U (rest ++ [.readDevices]) ↔
        MovedBetweenReads env views pre event U rest ∨ HandedTo env views pre event U rest p :=
      atRead_concat_read hp
    rw [List.map_append, List.nodup_append, hdisjoint, hlast, h.nodup_iff, not_or]
    simp only [hnew, true_and]

/-- **Induction along a dispatch**: what holds when it starts, stays under the actions of the
other tasks and is carried over a read, holds of the dispatch of the run. -/
theorem dispatch_induction
    {P : List (PushAction Payload Json Time) → PushDispatch Json Time → Prop}
    (hU : env.parseUuid event.unitId = some U)
    (hstart : P [] ⟨event, people env views pre U, []⟩)
    (hother : ∀ rest a dispatch, isRead a = false → P rest dispatch → P (rest ++ [a]) dispatch)
    (hread : ∀ rest dispatch p remaining, dispatch.users = p :: remaining → P rest dispatch →
      P (rest ++ [.readDevices]) { dispatch with
        users := remaining
        snsTargets := dispatch.snsTargets ++
          targetsOf (cacheAfter env views (pre ++ .dispatchEvent event :: rest)) p })
    {rest : List (PushAction Payload Json Time)} (hrest : ∀ a ∈ rest, During a)
    {s : PushState Json Time}
    (hrun : pushRun env views (pre ++ .dispatchEvent event :: rest) = some s) :
    ∃ dispatch, s.dispatch = some dispatch ∧ P rest dispatch := by
  induction rest using List.reverseRecOn generalizing s with
  | nil =>
    obtain ⟨mid, hmid, hstep⟩ := Runs.exec_concat_eq_some.mp hrun
    have hcache : mid.cache = cacheAfter env views pre := cacheReplays_pushRun hmid
    rw [dispatchEvent_cases hstep, hcache, PushDispatch.start, hU]
    exact ⟨_, rfl, hstart⟩
  | append_singleton rest a ih =>
    have hsplit : pre ++ .dispatchEvent event :: (rest ++ [a]) =
        (pre ++ .dispatchEvent event :: rest) ++ [a] := by simp
    rw [hsplit] at hrun
    obtain ⟨mid, hmid, hstep⟩ := Runs.exec_concat_eq_some.mp hrun
    obtain ⟨dispatch, hdispatch, h⟩ :=
      ih (fun b hb => hrest b (List.mem_append_left _ hb)) hmid
    have hcache : mid.cache = cacheAfter env views (pre ++ .dispatchEvent event :: rest) :=
      cacheReplays_pushRun hmid
    have hsame : isRead a = false → s.dispatch = mid.dispatch →
        ∃ dispatch, s.dispatch = some dispatch ∧ P (rest ++ [a]) dispatch :=
      fun ha heq => ⟨dispatch, heq.trans hdispatch, hother rest a dispatch ha h⟩
    have hduring : During a := hrest a (List.mem_append_right _ (List.mem_singleton_self a))
    cases a with
    | dispatchEvent event' => exact hduring.elim
    | sendAlert => exact hduring.elim
    | readDevices =>
      obtain ⟨dispatch', p, remaining, metrics, hdispatch', husers, rfl⟩ := readDevices_cases hstep
      obtain rfl : dispatch' = dispatch := Option.some.inj (hdispatch'.symm.trans hdispatch)
      refine ⟨_, rfl, ?_⟩
      rw [hcache]
      exact hread rest dispatch' p remaining husers h
    | controlEvent payload =>
      obtain rfl := Option.some.inj hstep
      exact hsame rfl rfl
    | deliver i outcome =>
      obtain ⟨_, _, -, -, heq, -⟩ := processSnsDelivery_cases hstep
      exact hsame rfl heq
    | markInactive device ok =>
      obtain ⟨-, rfl⟩ := markRejected_cases hstep
      exact hsame rfl rfl
    | deactivate device =>
      obtain ⟨-, rfl⟩ := removeMarked_cases hstep
      exact hsame rfl rfl

/-- What the dispatch of a run has collected. -/
theorem collected_pushRun (hU : env.parseUuid event.unitId = some U)
    {rest : List (PushAction Payload Json Time)} (hrest : ∀ a ∈ rest, During a)
    {s : PushState Json Time}
    (hrun : pushRun env views (pre ++ .dispatchEvent event :: rest) = some s) :
    ∃ dispatch, s.dispatch = some dispatch ∧
      Collected env views pre event U rest dispatch := by
  have hnone : ∀ Q, ¬ AtRead (people env views pre U) Q
      ([] : List (PushAction Payload Json Time)) := by
    rintro Q ⟨a, b, p, heq, -⟩
    simp at heq
  refine dispatch_induction hU ⟨rfl, rfl, ?_, ?_⟩ (fun _ _ _ ha h => h.concat_of_not_read ha)
    (fun _ _ _ _ husers h => h.concat_read husers) hrest hrun
  · intro d
    simp [SelectedIn, hnone]
  · simp [MovedBetweenReads, hnone]

/-- Without a write, the dispatch has collected the devices of the people read so far. -/
def CollectedQuietly (env : PushEnv Payload Json) (views : Views)
    (pre : List (PushAction Payload Json Time)) (event : AlertEvent Json Time) (U : UnitId)
    (rest : List (PushAction Payload Json Time)) (dispatch : PushDispatch Json Time) : Prop :=
  (∀ a ∈ rest, a.op env.decoder = none) →
    dispatch = ⟨event, (people env views pre U).drop (reads rest),
      ((people env views pre U).take (reads rest)).flatMap (targetsOf (cacheAfter env views pre))⟩

/-- In a run without other reads the dispatch has collected what it met. -/
theorem collectedQuietly_pushRun (hU : env.parseUuid event.unitId = some U)
    {rest : List (PushAction Payload Json Time)} (hrest : ∀ a ∈ rest, During a)
    {s : PushState Json Time}
    (hrun : pushRun env views (pre ++ .dispatchEvent event :: rest) = some s) :
    ∃ dispatch, s.dispatch = some dispatch ∧
      CollectedQuietly env views pre event U rest dispatch := by
  refine dispatch_induction hU (fun _ => rfl) ?_ ?_ hrest hrun
  · intro rest a dispatch ha h hquiet
    rw [h fun b hb => hquiet b (List.mem_append_left _ hb), reads_concat, ha]
    rfl
  · intro rest dispatch p remaining husers h hquiet
    have hquiet' : ∀ b ∈ rest, b.op env.decoder = none :=
      fun b hb => hquiet b (List.mem_append_left _ hb)
    have hcache : cacheAfter env views (pre ++ .dispatchEvent event :: rest) =
        cacheAfter env views pre := by
      have hops : rest.filterMap (PushAction.op env.decoder) = [] :=
        List.filterMap_eq_nil_iff.mpr hquiet'
      have hnone : (PushAction.dispatchEvent event : PushAction Payload Json Time).op
          env.decoder = none := rfl
      simp only [cacheAfter, pushOps, List.filterMap_append, List.filterMap_cons, hnone, hops,
        List.append_nil]
    have hread : isRead (.readDevices : PushAction Payload Json Time) = true := rfl
    obtain rfl := h hquiet'
    have hdrop : (people env views pre U).drop (reads rest) = p :: remaining := husers
    have hnext : (people env views pre U)[reads rest]? = some p := by
      rw [← List.head?_drop, hdrop, List.head?_cons]
    rw [hcache, reads_concat, if_pos hread, ← List.tail_drop, hdrop, List.tail_cons,
      List.take_add_one, hnext]
    simp

/-- **Without a write between its reads, the dispatch of a run is the uninterrupted call.** -/
theorem dispatchEventAlone_of_quiet (hU : env.parseUuid event.unitId = some U)
    {rest : List (PushAction Payload Json Time)} (hrest : ∀ a ∈ rest, During a)
    (hquiet : ∀ a ∈ rest, a.op env.decoder = none) {s : PushState Json Time}
    (hrun : pushRun env views (pre ++ .dispatchEvent event :: rest) = some s)
    {targets : List UserDevice} (hdone : s.dispatch = some ⟨event, [], targets⟩)
    (metrics : SnsMetrics) :
    (dispatchEventAlone env.parseUuid (cacheAfter env views pre) metrics event).2 =
      if targets = [] then none else some targets := by
  obtain ⟨dispatch, hdispatch, h⟩ := collectedQuietly_pushRun hU hrest hrun
  have heq := (Option.some.inj (hdone.symm.trans hdispatch)).trans (h hquiet)
  obtain ⟨-, husers, htargets⟩ := PushDispatch.mk.inj heq
  rw [List.take_of_length_le (List.drop_eq_nil_iff.mp husers.symm)] at htargets
  rw [dispatchEventAlone_eq hU, htargets]
  rfl

/-- Where the dispatch of a state was started. -/
def Started (env : PushEnv Payload Json) (actions : List (PushAction Payload Json Time))
    (s : PushState Json Time) : Prop :=
  ∀ dispatch, s.dispatch = some dispatch → ∃ pre event U rest,
    actions = pre ++ .dispatchEvent event :: rest ∧ env.parseUuid event.unitId = some U ∧
      ∀ a ∈ rest, During a

/-- Every dispatch under way was started in the run. -/
theorem started_pushRun {actions : List (PushAction Payload Json Time)}
    {s : PushState Json Time} (hrun : pushRun env views actions = some s) :
    Started env actions s := by
  refine Runs.history_of_step ?_ ?_ hrun
  · intro dispatch hdispatch
    cases hdispatch
  · intro actions mid a s' _ ih hstep
    have hother : During a → (∀ dispatch, s'.dispatch = some dispatch →
        ∃ dispatch', mid.dispatch = some dispatch') → Started env (actions ++ [a]) s' := by
      intro ha hsame dispatch hdispatch
      obtain ⟨dispatch', hdispatch'⟩ := hsame dispatch hdispatch
      obtain ⟨pre, event, U, rest, rfl, hU, hrest⟩ := ih dispatch' hdispatch'
      refine ⟨pre, event, U, rest ++ [a], by simp, hU, ?_⟩
      intro b hb
      rw [List.mem_append, List.mem_singleton] at hb
      obtain hb | rfl := hb
      · exact hrest b hb
      · exact ha
    cases a with
    | dispatchEvent event =>
      intro dispatch hdispatch
      rw [dispatchEvent_cases hstep] at hdispatch
      obtain ⟨U, hU, -⟩ := Option.map_eq_some_iff.mp hdispatch
      exact ⟨actions, event, U, [], rfl, hU, by simp⟩
    | sendAlert =>
      obtain ⟨_, _, _, -, rfl⟩ := sendAlert_cases hstep
      intro dispatch hdispatch
      cases hdispatch
    | readDevices =>
      obtain ⟨dispatch', _, _, _, hdispatch', -, rfl⟩ := readDevices_cases hstep
      exact hother trivial fun _ _ => ⟨dispatch', hdispatch'⟩
    | controlEvent payload =>
      obtain rfl := Option.some.inj hstep
      exact hother trivial fun dispatch hdispatch => ⟨dispatch, hdispatch⟩
    | deliver i outcome =>
      obtain ⟨_, _, -, -, hsame, -⟩ := processSnsDelivery_cases hstep
      exact hother trivial fun dispatch hdispatch => ⟨dispatch, hsame ▸ hdispatch⟩
    | markInactive device ok =>
      obtain ⟨-, rfl⟩ := markRejected_cases hstep
      exact hother trivial fun dispatch hdispatch => ⟨dispatch, hdispatch⟩
    | deactivate device =>
      obtain ⟨-, rfl⟩ := removeMarked_cases hstep
      exact hother trivial fun dispatch hdispatch => ⟨dispatch, hdispatch⟩

/-- Between two reads of the last dispatch of the run, an UPSERT handed a selected device to
a person who was read later. -/
def MovedDuringDispatch (env : PushEnv Payload Json) (views : Views)
    (actions : List (PushAction Payload Json Time)) : Prop :=
  ∃ pre event U rest, actions = pre ++ .dispatchEvent event :: rest ∧
    env.parseUuid event.unitId = some U ∧ (∀ a ∈ rest, During a) ∧
      MovedBetweenReads env views pre event U rest

/-- **One push per device, unless a device is handed over between two reads.**  In every run
the list of targets that is handed to `send_alert` contains each device id at most once
exactly when no device that was selected at one read was handed, by the last write about it,
to a person of the unit who was read later.
SRC: sns/dispatcher.rs:44-111, permissions/cache.rs:164-171, 279-306, sns/metrics.rs:7-13 -/
theorem one_push_per_device_iff (env : PushEnv Payload Json) (views : Views)
    (actions : List (PushAction Payload Json Time)) (s : PushState Json Time)
    (hrun : pushRun env views actions = some s) (event : AlertEvent Json Time)
    (targets : List UserDevice) (hdone : s.dispatch = some ⟨event, [], targets⟩) :
    (targets.map UserDevice.id).Nodup ↔ ¬ MovedDuringDispatch env views actions := by
  have hcollected : ∀ pre event' U rest, actions = pre ++ .dispatchEvent event' :: rest →
      env.parseUuid event'.unitId = some U → (∀ a ∈ rest, During a) →
        ((targets.map UserDevice.id).Nodup ↔ ¬ MovedBetweenReads env views pre event' U rest) := by
    rintro pre event' U rest rfl hU hrest
    obtain ⟨dispatch, hdispatch, h⟩ := collected_pushRun hU hrest hrun
    obtain rfl := Option.some.inj (hdone.symm.trans hdispatch)
    exact h.nodup_iff
  constructor
  · rintro hnodup ⟨pre, event', U, rest, heq, hU, hrest, hmoved⟩
    exact (hcollected pre event' U rest heq hU hrest).mp hnodup hmoved
  · intro hnone
    obtain ⟨pre, event', U, rest, heq, hU, hrest⟩ := started_pushRun hrun _ hdone
    refine (hcollected pre event' U rest heq hU hrest).mpr fun hmoved => ?_
    exact hnone ⟨pre, event', U, rest, heq, hU, hrest, hmoved⟩

end Reads

/-! ## A phone that changes hands during a dispatch -/

/-- The phone of user 5 after user 6 registered it. -/
def handedPhone : UserDevice :=
  { phone "e/APNS/x" with userId := 6 }

/-- Unit 1 has a device under organization 10, of which users 5 and 6 are owners; user 5 has
a phone. -/
def ownersEvents : List Event :=
  [.unitDeviceUpsert "a" 1 10, .membershipUpsert 10 5 "owner" "ACTIVE",
    .membershipUpsert 10 6 "owner" "ACTIVE", .userDeviceUpsert (phone "e/APNS/x")]

/-- Both owners see the unit. -/
theorem usersForUnit_ownersEvents :
    (State.run (ownersEvents.map Event.op)).usersForUnit 1 = [toLex (10, 5), toLex (10, 6)] := by
  have hunit : (State.run (ownersEvents.map Event.op)).unitOrg.lookup 1 = some 10 := by decide
  have howners : (State.run (ownersEvents.map Event.op)).activeOwners 10 = {5, 6} := by decide
  have hgranted : (State.run (ownersEvents.map Event.op)).activeGranted 10 1 = ∅ := by decide
  have hlt : [toLex ((10 : OrganizationId), (5 : UserId)), toLex (10, 6)].Pairwise (· < ·) :=
    List.pairwise_pair.mpr (Prod.Lex.toLex_lt_toLex.mpr (.inr ⟨rfl, by decide⟩))
  refine (usersForUnit_pairwise _ 1).eq_of_mem_iff hlt ?_
  intro p
  unfold State.usersForUnit
  rw [hunit]
  simp [howners, hgranted, Finset.mem_sort]

/-- After the devices of user 5 are read and before those of user 6, the phone is registered
by user 6. -/
def handedRun : List (PushAction Event Event ℕ) :=
  (ownersEvents.map fun e => .controlEvent e) ++
    [.dispatchEvent phoneAlert, .readDevices, .controlEvent (.userDeviceUpsert handedPhone),
      .readDevices]

/-- The phone is collected from both owners. -/
theorem pushRun_handedRun :
    ∃ s, pushRun phoneEnv noViews handedRun = some s ∧
      s.dispatch = some ⟨phoneAlert, [], [phone "e/APNS/x", handedPhone]⟩ := by
  have hevents : Runs.exec (pushStep phoneEnv) (PushState.init noViews : PushState Event ℕ)
      (ownersEvents.map fun e => .controlEvent e) = some
        { (PushState.init noViews : PushState Event ℕ) with
          cache := State.run (ownersEvents.map Event.op) } := rfl
  have hstart : PushDispatch.start phoneEnv.parseUuid
      (State.run (ownersEvents.map Event.op)) phoneAlert =
        some ⟨phoneAlert, [toLex (10, 5), toLex (10, 6)], []⟩ := by
    rw [← usersForUnit_ownersEvents]
    rfl
  rw [pushRun, handedRun, Runs.exec_append, hevents, Option.bind_some, Runs.exec_cons]
  simp only [pushStep, PushState.init, hstart, Option.bind_some]
  exact ⟨_, rfl, rfl⟩

/-- So by the condition it has moved during the dispatch. -/
theorem one_push_per_device_iff_handed :
    MovedDuringDispatch phoneEnv noViews handedRun := by
  obtain ⟨s, hs, hdone⟩ := pushRun_handedRun
  by_contra hnone
  have hnodup := (one_push_per_device_iff phoneEnv noViews handedRun s hs phoneAlert _ hdone).mpr
    hnone
  exact absurd hnodup (by decide)

/-- The phone is handed to `send_alert` twice for one alert. -/
theorem phone_selected_twice :
    ∃ s targets, pushRun phoneEnv noViews handedRun = some s ∧
      s.dispatch = some ⟨phoneAlert, [], targets⟩ ∧
        ¬ (targets.map UserDevice.id).Nodup := by
  obtain ⟨s, hs, hdone⟩ := pushRun_handedRun
  exact ⟨s, _, hs, hdone, by decide⟩

end AlertDistributor.Analysis
