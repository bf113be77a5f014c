import UsbipdDarwin.Events.Line
import UsbipdDarwin.Events.Ring
import UsbipdDarwin.Events.Watch

/-! `usbipd events` from the bus to the consumer: the publisher follows the hotplug events,
the hub hands its calls on, and a consumer reads lines off a socket. What a consumer knows
once it has caught up is what is plugged in. -/

namespace Usbip.Events
open Host Lts

variable {ι : Type} [DecidableEq ι]

structure Live (ι : Type) where
  watch : WatchState ι
  hub : State

inductive LiveAction (ι : Type)
  | hotplug (e : WatchEvent ι)
  | hub (a : Action)

def EventLine.publish : EventLine → Action
  | .added dev => .publishAdded dev
  | .removed dev => .publishRemoved dev

def Action.isPublish : Action → Bool
  | .publishAdded _ | .publishRemoved _ => true
  | _ => false

/-- The publisher is one task: it takes the next event when its last call is over. -/
def Live.step (s : Live ι) : LiveAction ι → Option (Live ι)
  | .hotplug e =>
    if s.hub.sending = none then
      (s.watch.step e).bind fun w =>
        match s.watch.call e with
        | none => some ⟨w, s.hub⟩
        | some ev => (Events.step s.hub ev.publish).map fun h => ⟨w, h⟩
    else none
  | .hub a =>
    if a.isPublish then none else (Events.step s.hub a).map fun h => ⟨s.watch, h⟩

def live (ι : Type) [DecidableEq ι] : System (Live ι) (LiveAction ι) where
  init s := s = ⟨.new, .new⟩
  step := Live.step

/-- No two ids share a port when one goes, and the channel has room for `n` events. -/
def Plugged (n : Nat) (s : Live ι) : LiveAction ι → Prop
  | .hotplug e => AloneAtPort s.watch e
  | .hub a => Ring n s.hub a

instance (n : Nat) (s : Live ι) : (a : LiveAction ι) → Decidable (Plugged n s a)
  | .hotplug e => inferInstanceAs (Decidable (AloneAtPort s.watch e))
  | .hub a => inferInstanceAs (Decidable (Ring n s.hub a))

variable {n : Nat} {s s' : Live ι} {e : WatchEvent ι} {u : Subscriber} {i : Nat}

theorem snapshot_publish {t t' : State} {ev : EventLine} (h : Events.step t ev.publish = some t') :
    t'.snapshot = ev.update.apply t.snapshot := by
  cases ev with
  | added dev | removed dev =>
    simp only [EventLine.publish, Events.step, State.publish] at h
    split at h <;> cases h
    rfl

theorem snapshot_step {t t' : State} {a : Action} (ha : a.isPublish = false)
    (h : Events.step t a = some t') : t'.snapshot = t.snapshot := by
  have hsubscriber {i : Nat} {f : Subscriber → Option Subscriber}
      (h : t.onSubscriber i f = some t') : t'.snapshot = t.snapshot := by
    obtain ⟨u, -, hmap⟩ := Option.bind_eq_some_iff.mp h
    obtain ⟨u', -, rfl⟩ := Option.map_eq_some_iff.mp hmap
    rfl
  cases a with
  | publishAdded | publishRemoved => cases ha
  | send =>
    obtain ⟨ev, -, rfl⟩ := Option.map_eq_some_iff.mp h
    rfl
  | subscribe =>
    simp only [Events.step] at h
    split_ifs at h
    cases h
    rfl
  | snapshotAdded | write | recv | lagged => exact hsubscriber h

structure LiveOk (n : Nat) (s : Live ι) : Prop where
  watch : (Events.watch ι).ReachableBy AloneAtPort s.watch
  hub : Events.hub.ReachableBy (Ring n) s.hub
  snapshot : s.hub.snapshot = s.watch.snapshot

theorem LiveOk.hotplug (h : LiveOk n s) (hcond : AloneAtPort s.watch e)
    (hs : s.step (.hotplug e) = some s') : LiveOk n s' := by
  simp only [Live.step] at hs
  split_ifs at hs
  obtain ⟨w, hw, hcall⟩ := Option.bind_eq_some_iff.mp hs
  have hwatch : (Events.watch ι).ReachableBy AloneAtPort w := .step h.watch hcond hw
  have hfiled : w.snapshot = ((s.watch.call e).map (·.update)).elim s.watch.snapshot
      (·.apply s.watch.snapshot) := by
    cases hw
    rfl
  cases hev : s.watch.call e with
  | none =>
    rw [hev] at hcall hfiled
    cases hcall
    exact ⟨hwatch, h.hub, h.snapshot.trans hfiled.symm⟩
  | some ev =>
    rw [hev] at hcall hfiled
    obtain ⟨t, ht, rfl⟩ := Option.map_eq_some_iff.mp hcall
    have hring : Ring n s.hub ev.publish := by
      cases ev <;> exact trivial
    refine ⟨hwatch, .step h.hub hring ht, ?_⟩
    rw [snapshot_publish ht, h.snapshot]
    exact hfiled.symm

theorem liveOk (h : (live ι).ReachableBy (Plugged n) s) : LiveOk n s := by
  refine h.invariant ?_ ?_
  · rintro s rfl
    exact ⟨.start rfl, .start rfl, rfl⟩
  · intro s a s' _ hi hcond hs
    cases a with
    | hotplug e => exact hi.hotplug hcond hs
    | hub a =>
      simp only [live, Live.step] at hs
      split_ifs at hs with hpublish
      obtain ⟨t, ht, rfl⟩ := Option.map_eq_some_iff.mp hs
      refine ⟨hi.watch, .step hi.hub hcond ht, ?_⟩
      rw [snapshot_step (Bool.eq_false_iff.mpr hpublish) ht]
      exact hi.snapshot

def known (c : Json.Codec) (bytes : Proto.Bytes) : HashMap String AddedDevice :=
  view ((consumer c).run bytes).items

namespace Sample

def swapped : List (LiveAction Nat) :=
  [.hotplug (.listed 1 stick), .hub .send, .hub .subscribe, .hub (.snapshotAdded 0 [stick]),
    .hub (.write 0 true), .hotplug (.connected 2 key), .hub .send, .hub (.recv 0),
    .hub (.write 0 true), .hotplug (.disconnected 1), .hub .send, .hub (.recv 0),
    .hub (.write 0 true)]

end Sample

end Usbip.Events
