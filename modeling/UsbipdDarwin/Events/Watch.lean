import UsbipdDarwin.Events.Hub

/-! The publisher of `usbipd events`. It remembers by `DeviceId` what it has announced,
since a removal names nothing else, and the hub remembers by busid: where two ids
have one busid at a time, the removal of the one takes the entry of the other. -/

namespace Usbip.Events
open Host Lts

variable {ι : Type} [DecidableEq ι]

/-- `listed` is an entry of the initial `list_devices`; a device comes as what
`from_info` and `from_host` make of it. -/
inductive WatchEvent (ι : Type)
  | listed (id : ι) (dev : AddedDevice)
  | connected (id : ι) (dev : AddedDevice)
  | disconnected (id : ι)
  deriving DecidableEq, Repr

/-- The publisher's `IdMap` and the hub's snapshot. `present` is what is plugged in
according to the events; no step reads it. -/
structure WatchState (ι : Type) where
  idmap : HashMap ι RemovedDevice
  snapshot : HashMap String AddedDevice
  present : HashMap ι AddedDevice

def WatchState.new : WatchState ι := ⟨∅, ∅, ∅⟩

def WatchState.call (s : WatchState ι) : WatchEvent ι → Option EventLine
  | .listed _ dev | .connected _ dev => some (.added dev)
  | .disconnected id => (s.idmap.lookup id).map .removed

def WatchState.note (s : WatchState ι) : WatchEvent ι → HashMap ι RemovedDevice
  | .listed id dev | .connected id dev => s.idmap.insert id (.ofAdded dev)
  | .disconnected id => s.idmap.erase id

def WatchState.observe (s : WatchState ι) : WatchEvent ι → HashMap ι AddedDevice
  | .listed id dev | .connected id dev => s.present.insert id dev
  | .disconnected id => s.present.erase id

def WatchState.step (s : WatchState ι) (e : WatchEvent ι) : Option (WatchState ι) :=
  some ⟨s.note e, ((s.call e).map (·.update)).elim s.snapshot (·.apply s.snapshot), s.observe e⟩

def watch (ι : Type) [DecidableEq ι] : System (WatchState ι) (WatchEvent ι) where
  init s := s = .new
  step := WatchState.step

def EventLine.calls : EventLine → List Action
  | .added dev => [.publishAdded dev, .send]
  | .removed dev => [.publishRemoved dev, .send]

variable {s s' : WatchState ι} {e : WatchEvent ι}

theorem run_calls {t : State} (hidle : t.sending = none) (ev : EventLine) :
    hub.run t ev.calls =
      some ⟨ev.update.apply t.snapshot, none, t.subscribers.map (·.deliver ev)⟩ := by
  have hpublish (snapshot : HashMap String AddedDevice) :
      t.publish snapshot ev = some { t with snapshot := snapshot, sending := some ev } := by
    rw [State.publish, hidle]
  cases ev with
  | added dev =>
    simp only [EventLine.calls, System.run, System.replay, if_true, hub, Events.step, hpublish]
    rfl
  | removed dev =>
    simp only [EventLine.calls, System.run, System.replay, if_true, hub, Events.step, hpublish]
    rfl

theorem hub_follows {events : List (WatchEvent ι)} (h : (watch ι).run s events = some s')
    {t : State} (hidle : t.sending = none) (hsnapshot : t.snapshot = s.snapshot) :
    ∃ actions t', hub.run t actions = some t' ∧ t'.sending = none ∧
      t'.snapshot = s'.snapshot := by
  induction events generalizing s t with
  | nil =>
    cases h
    exact ⟨[], t, rfl, hidle, hsnapshot⟩
  | cons e events ih =>
    simp only [System.run, System.replay, if_true] at h
    obtain ⟨s₁, hs₁, hrest⟩ := Option.bind_eq_some_iff.mp h
    have hfiled : s₁.snapshot =
        ((s.call e).map (·.update)).elim t.snapshot (·.apply t.snapshot) := by
      cases hs₁
      rw [hsnapshot]
    cases hcall : s.call e with
    | none =>
      rw [hcall] at hfiled
      exact ih hrest hidle hfiled.symm
    | some ev =>
      rw [hcall] at hfiled
      have hrun := run_calls hidle ev
      obtain ⟨actions, t', hactions, hidle', hsnapshot'⟩ :=
        ih (t := ⟨ev.update.apply t.snapshot, none, _⟩) hrest rfl hfiled.symm
      exact ⟨_, t', System.run_append hrun hactions, hidle', hsnapshot'⟩

/-- The snapshot has the busids of the devices present, and the data of a device that
is alone under its busid. -/
def Tracks (s : WatchState ι) : Prop :=
  ∀ b, ((s.snapshot.lookup b).isSome = true ↔
      ∃ id dev, s.present.lookup id = some dev ∧ dev.busid = b) ∧
    ∀ id dev, s.present.lookup id = some dev → dev.busid = b →
      (∀ id' dev', s.present.lookup id' = some dev' → dev'.busid = b → id' = id) →
      s.snapshot.lookup b = some dev

/-- No id goes away while another one has its busid, and an id that is announced again
keeps its busid. -/
def AloneAtPort (s : WatchState ι) : WatchEvent ι → Prop
  | .listed id dev | .connected id dev => ∀ old ∈ s.present.lookup id, old.busid = dev.busid
  | .disconnected id => ∀ dev ∈ s.present.lookup id,
      ∀ entry ∈ s.present.entries, entry.2.busid = dev.busid → entry.1 = id

instance (s : WatchState ι) : (e : WatchEvent ι) → Decidable (AloneAtPort s e)
  | .listed id dev | .connected id dev =>
    inferInstanceAs (Decidable (∀ old ∈ s.present.lookup id, old.busid = dev.busid))
  | .disconnected id => inferInstanceAs (Decidable (∀ dev ∈ s.present.lookup id,
      ∀ entry ∈ s.present.entries, entry.2.busid = dev.busid → entry.1 = id))

structure WatchOk (s : WatchState ι) : Prop where
  idmap : ∀ id, s.idmap.lookup id = (s.present.lookup id).map RemovedDevice.ofAdded
  entry : ∀ id dev, s.present.lookup id = some dev → (s.snapshot.lookup dev.busid).isSome = true
  owner : ∀ b dev, s.snapshot.lookup b = some dev → dev.busid = b ∧
    ∃ id, s.present.lookup id = some dev

theorem WatchOk.tracks (h : WatchOk s) : Tracks s := by
  intro b
  refine ⟨⟨fun hsome => ?_, ?_⟩, fun id dev hid hb halone => ?_⟩
  · obtain ⟨dev, hdev⟩ := Option.isSome_iff_exists.mp hsome
    obtain ⟨hb, id, hid⟩ := h.owner b dev hdev
    exact ⟨id, dev, hid, hb⟩
  · rintro ⟨id, dev, hid, rfl⟩
    exact h.entry id dev hid
  · have hsome := h.entry id dev hid
    rw [hb] at hsome
    obtain ⟨dev', hdev'⟩ := Option.isSome_iff_exists.mp hsome
    obtain ⟨hb', id', hid'⟩ := h.owner b dev' hdev'
    obtain rfl := halone id' dev' hid' hb'
    rw [hid] at hid'
    rw [hdev', hid']

theorem WatchOk.arrive (h : WatchOk s) {id : ι} {dev : AddedDevice}
    (hkeep : ∀ old ∈ s.present.lookup id, old.busid = dev.busid) :
    WatchOk (⟨s.idmap.insert id (.ofAdded dev), s.snapshot.insert dev.busid dev,
      s.present.insert id dev⟩ : WatchState ι) := by
  refine ⟨fun id' => ?_, fun id' dev' hid' => ?_, fun b dev' hdev' => ?_⟩
  · by_cases hid : id' = id
    · subst hid
      rw [AList.lookup_insert, AList.lookup_insert]
      rfl
    · rw [AList.lookup_insert_ne hid, AList.lookup_insert_ne hid]
      exact h.idmap id'
  · by_cases hb : dev'.busid = dev.busid
    · rw [hb, AList.lookup_insert]
      rfl
    · rw [AList.lookup_insert_ne hb]
      rcases lookup_of_insert hid' with ⟨-, rfl⟩ | ⟨-, hold⟩
      · exact absurd rfl hb
      · exact h.entry id' dev' hold
  · rcases lookup_of_insert hdev' with ⟨rfl, rfl⟩ | ⟨hb, hold⟩
    · exact ⟨rfl, id, AList.lookup_insert _⟩
    · obtain ⟨rfl, id', hid'⟩ := h.owner b dev' hold
      refine ⟨rfl, id', ?_⟩
      have hne : id' ≠ id := by
        rintro rfl
        exact hb (hkeep dev' hid')
      rw [AList.lookup_insert_ne hne]
      exact hid'

theorem WatchOk.leave (h : WatchOk s) {id : ι} {dev : AddedDevice}
    (hid : s.present.lookup id = some dev)
    (halone : ∀ entry ∈ s.present.entries, entry.2.busid = dev.busid → entry.1 = id) :
    WatchOk (⟨s.idmap.erase id, s.snapshot.erase dev.busid, s.present.erase id⟩ :
      WatchState ι) := by
  have halone' (id' : ι) (dev' : AddedDevice) (hid' : s.present.lookup id' = some dev')
      (hb : dev'.busid = dev.busid) : id' = id :=
    halone ⟨id', dev'⟩ (AList.mem_lookup_iff.mp hid') hb
  refine ⟨fun id' => ?_, fun id' dev' hid' => ?_, fun b dev' hdev' => ?_⟩
  · by_cases heq : id' = id
    · subst heq
      rw [AList.lookup_erase, AList.lookup_erase]
      rfl
    · rw [AList.lookup_erase_ne heq, AList.lookup_erase_ne heq]
      exact h.idmap id'
  · obtain ⟨hne, hold⟩ := lookup_of_erase hid'
    have hb : dev'.busid ≠ dev.busid := fun hb => hne (halone' id' dev' hold hb)
    rw [AList.lookup_erase_ne hb]
    exact h.entry id' dev' hold
  · obtain ⟨hb, hold⟩ := lookup_of_erase hdev'
    obtain ⟨rfl, id', hid'⟩ := h.owner b dev' hold
    refine ⟨rfl, id', ?_⟩
    have hne : id' ≠ id := by
      rintro rfl
      rw [hid] at hid'
      cases hid'
      exact hb rfl
    rw [AList.lookup_erase_ne hne]
    exact hid'

theorem WatchOk.step (h : WatchOk s) (hcond : AloneAtPort s e) (hs : s.step e = some s') :
    WatchOk s' := by
  cases hs
  cases e with
  | listed id dev => exact h.arrive hcond
  | connected id dev => exact h.arrive hcond
  | disconnected id =>
    have hcall : s.call (.disconnected id) =
        (s.present.lookup id).map fun dev => .removed (.ofAdded dev) := by
      rw [WatchState.call, h.idmap, Option.map_map]
      rfl
    cases hid : s.present.lookup id with
    | none =>
      have hunknown : s.idmap.lookup id = none := by rw [h.idmap, hid, Option.map_none]
      rw [hcall, hid, WatchState.note, WatchState.observe, erase_of_lookup hunknown,
        erase_of_lookup hid]
      exact h
    | some dev =>
      rw [hcall, hid]
      exact h.leave hid (hcond dev hid)

theorem watchOk (h : (watch ι).ReachableBy AloneAtPort s) : WatchOk s := by
  refine h.invariant ?_ ?_
  · rintro s rfl
    exact ⟨fun _ => rfl, nofun, nofun⟩
  · intro s e s' _ hi hcond hs
    exact hi.step hcond hs

theorem snapshot_tracks (h : (watch ι).ReachableBy AloneAtPort s) : Tracks s := (watchOk h).tracks

def WatchEvent.announces : WatchEvent ι → Option ι
  | .listed id _ | .connected id _ => some id
  | .disconnected _ => none

def Ordered (events : List (WatchEvent ι)) : Prop :=
  events.Pairwise fun e e' => ∀ id ∈ e'.announces, e ≠ .disconnected id

instance (events : List (WatchEvent ι)) : Decidable (Ordered events) :=
  inferInstanceAs (Decidable (events.Pairwise fun e e' =>
    ∀ id ∈ e'.announces, e ≠ .disconnected id))

namespace Sample

def replugged : List (WatchEvent Nat) :=
  [.listed 1 stick, .listed 2 key, .connected 2 key, .disconnected 1, .connected 3 stick]

/-- The stick re-enumerates in its port, and its new id is reported before the old one
is reported gone. -/
def overlapping : List (WatchEvent Nat) := [.listed 1 stick, .connected 2 stick, .disconnected 1]

end Sample

theorem snapshot_tracks_replugged : ∃ s, (watch Nat).ReachableBy AloneAtPort s ∧
    s.snapshot.entries = [⟨"1-1", Sample.stick⟩, ⟨"1-2", Sample.key⟩] ∧ Tracks s := by
  have hrun : ((watch Nat).replay AloneAtPort .new Sample.replugged).map (fun s =>
      decide (s.snapshot.entries = [⟨"1-1", Sample.stick⟩, ⟨"1-2", Sample.key⟩])) = some true := by
    decide
  obtain ⟨s, hs, htest⟩ := System.exists_reachableBy_of_replay rfl hrun
  exact ⟨s, hs, of_decide_eq_true htest, snapshot_tracks hs⟩

theorem overlapping_ids_lost : Ordered Sample.overlapping ∧
    ∃ s, (watch Nat).run .new Sample.overlapping = some s ∧ ¬ Tracks s := by
  refine ⟨by decide, _, rfl, fun htracks => ?_⟩
  have hentry := (htracks "1-1").1.mpr ⟨2, Sample.stick, rfl, rfl⟩
  cases hentry

end Usbip.Events
