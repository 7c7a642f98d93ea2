import AlertDistributor.Analysis.ControlPlane

/-!
# Caches that answer alike

Two caches that represent the same tables answer every query alike as soon as their
entries in `unit_org` agree, and their counts are equal in any case.  Only what the cache
keeps of the mobile devices matters, so the tables are compared up to `Tables.pushable`.
-/

set_option autoImplicit false

namespace AlertDistributor.Analysis

open AlertDistributor.Model AlertDistributor.Interface FiniteMap LastWrite

/-- Every recipient query has one answer in both caches; the order of the devices of a
person is free. -/
structure SameAnswers (s s' : State) : Prop where
  usersForUnit : ∀ U, s.usersForUnit U = s'.usersForUnit U
  unitsFor : ∀ O u, s.unitsFor O u = s'.unitsFor O u
  devicesFor : ∀ u d, d ∈ s.devicesFor u ↔ d ∈ s'.devicesFor u

/-- The tables without the mobile devices that the cache does not keep. -/
def pushableOnly (t : Tables) : Tables :=
  { t with userDevices := fun id => (t.userDevices id).filter fun d => decide (Pushable d) }

/-- The mobile devices that cannot be pushed to leave no trace. -/
theorem represents_pushableOnly {s : State} {t : Tables} (hr : Represents s t) :
    Represents s (pushableOnly t) := by
  refine { hr with userDevices := ?_ }
  intro d
  rw [hr.userDevices, pushableOnly, Option.filter_eq_some_iff, decide_eq_true_eq]
  exact ⟨fun hd => ⟨hd, hd.2⟩, fun hd => hd.1⟩

section Same

variable {s s' : State} {t : Tables}

/-- A user has the devices that the table says are his and can be pushed to. -/
theorem mem_devicesFor_iff (h : Indexed s) (hr : Represents s t) (u : UserId)
    (d : UserDevice) :
    d ∈ s.devicesFor u ↔ d.userId = u ∧ t.userDevices d.id = some d ∧ Pushable d := by
  constructor
  · intro hd
    obtain ⟨rfl, -⟩ := h.userDevices_kept u d hd
    exact ⟨rfl, (hr.userDevices d).mp hd⟩
  · rintro ⟨rfl, hd⟩
    exact (hr.userDevices d).mpr hd

/-- Caches of the same tables that know the same units answer alike. -/
theorem sameAnswers_of_represents (h : Indexed s) (h' : Indexed s') (hr : Represents s t)
    (hr' : Represents s' t)
    (hentry : ∀ U O, s.unitOrg.lookup U = some O ↔ s'.unitOrg.lookup U = some O) :
    SameAnswers s s' := by
  refine ⟨fun U => ?_, fun O u => ?_, fun u d => ?_⟩
  · refine (usersForUnit_pairwise s U).eq_of_mem_iff (usersForUnit_pairwise s' U) ?_
    intro p
    have hmem := mem_usersForUnit h hr (ofLex p).1 (ofLex p).2 U
    have hmem' := mem_usersForUnit h' hr' (ofLex p).1 (ofLex p).2 U
    rw [hentry, ← hmem'] at hmem
    exact hmem
  · refine (unitsFor_pairwise s O u).eq_of_mem_iff (unitsFor_pairwise s' O u) ?_
    intro U
    rw [mem_unitsFor h hr, mem_unitsFor h' hr']
    simp only [hentry]
  · rw [mem_devicesFor_iff h hr, mem_devicesFor_iff h' hr']

/-- Each person has the same number of devices in both caches, and none has an empty list. -/
theorem map_length_lookup_userDevices (h : Indexed s) (h' : Indexed s') (hr : Represents s t)
    (hr' : Represents s' t) (u : UserId) :
    (s.userDevices.lookup u).map List.length = (s'.userDevices.lookup u).map List.length := by
  have hperm : (s.devicesFor u).Perm (s'.devicesFor u) := by
    rw [List.perm_ext_iff_of_nodup (h.userDevices_nodup u) (h'.userDevices_nodup u)]
    intro d
    rw [mem_devicesFor_iff h hr, mem_devicesFor_iff h' hr']
  have hlength := hperm.length_eq
  unfold State.devicesFor at hlength
  cases hu : s.userDevices.lookup u with
  | none =>
    cases hu' : s'.userDevices.lookup u with
    | none => rfl
    | some devices' =>
      have hne := h'.userDevices_nonempty u devices' hu'
      rw [hu, hu'] at hlength
      exact absurd (List.eq_nil_of_length_eq_zero hlength.symm) hne
  | some devices =>
    have hne := h.userDevices_nonempty u devices hu
    cases hu' : s'.userDevices.lookup u with
    | none =>
      rw [hu, hu'] at hlength
      exact absurd (List.eq_nil_of_length_eq_zero hlength) hne
    | some devices' =>
      rw [hu, hu'] at hlength
      exact congrArg some hlength

/-- Caches of the same tables count alike. -/
theorem counts_eq_of_represents (h : Indexed s) (h' : Indexed s') (hr : Represents s t)
    (hr' : Represents s' t) : s.counts = s'.counts := by
  have husers : s.userActive = s'.userActive := by
    refine Finmap.ext_lookup fun u => ?_
    rw [hr.userActive, hr'.userActive]
  have hmembers : s.memberships = s'.memberships := by
    refine nested_ext h.memberships_pruned h'.memberships_pruned fun O u => ?_
    rw [hr.memberships, hr'.memberships]
  have hgrants : s.userUnits = s'.userUnits := by
    refine nested_ext h.userUnits_pruned h'.userUnits_pruned fun u U => ?_
    rw [hr.userUnits, hr'.userUnits]
  have hunits : s.unitDevices = s'.unitDevices := by
    refine Finmap.ext_lookup fun imei => ?_
    rw [hr.unitDevices, hr'.unitDevices]
  have hdevices : (s.userDevices.entries.map fun e => e.2.length).sum =
      (s'.userDevices.entries.map fun e => e.2.length).sum :=
    sum_entries_congr List.length (map_length_lookup_userDevices h h' hr hr')
  simp only [State.counts, husers, hmembers, hgrants, hunits, hdevices]

end Same

end AlertDistributor.Analysis
