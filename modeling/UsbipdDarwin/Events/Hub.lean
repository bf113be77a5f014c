import UsbipdDarwin.Lts.Reachable
import UsbipdDarwin.Lts.Threads
import UsbipdDarwin.Lts.Updates
import UsbipdDarwin.Host.Descriptor

/-! The hub of `usbipd events`: one publisher, which updates the snapshot and then
sends, and subscribers, which subscribe, read the snapshot and then receive. However
these steps interleave, and whatever a slow subscriber is made to skip, what it has
been told agrees with the snapshot on every busid whose last event it was not made
to skip. -/

namespace Usbip.Events
open Host Lts

structure AddedDevice where
  busid : String
  vendorId : String
  productId : String
  manufacturer : Option String
  product : Option String
  serial : Option String
  cls : UInt8
  subclass : UInt8
  protocol : UInt8
  speed : UInt32
  deriving DecidableEq, Repr

structure RemovedDevice where
  busid : String
  vendorId : String
  productId : String
  deriving DecidableEq, Repr

def RemovedDevice.ofAdded (a : AddedDevice) : RemovedDevice := ⟨a.busid, a.vendorId, a.productId⟩

inductive EventLine
  | added (dev : AddedDevice)
  | removed (dev : RemovedDevice)
  deriving DecidableEq, Repr

namespace EventLine

def busid : EventLine → String
  | .added dev => dev.busid
  | .removed dev => dev.busid

def update : EventLine → Update String AddedDevice
  | .added dev => ⟨dev.busid, some dev⟩
  | .removed dev => ⟨dev.busid, none⟩

@[simp] theorem key_update (ev : EventLine) : ev.update.key = ev.busid := by
  cases ev <;> rfl

end EventLine

inductive Stage
  | subscribed
  | serving
  | gone
  deriving DecidableEq, Repr

/-- A subscriber: its receiver, what `serve_subscriber` has still to write before it
receives again, and what it has written. `initial` and `past` are history that no
step reads: the snapshot it was given, and the events that have left its receiver,
each with whether it was skipped. -/
structure Subscriber where
  stage : Stage := .subscribed
  pending : List EventLine := []
  todo : List EventLine := []
  lines : List EventLine := []
  initial : HashMap String AddedDevice := ∅
  past : List (EventLine × Bool) := []

/-- The hub; `sending` is what the publisher has put into the snapshot and not sent. -/
structure State where
  snapshot : HashMap String AddedDevice
  sending : Option EventLine
  subscribers : List Subscriber

/-- `snapshotAdded` has the order the values come in, which is unspecified; how many
events a `Lagged` skips depends on how far the receiver is behind. -/
inductive Action
  | publishAdded (dev : AddedDevice)
  | publishRemoved (dev : RemovedDevice)
  | send
  | subscribe
  | snapshotAdded (i : Nat) (order : List AddedDevice)
  | write (i : Nat) (ok : Bool)
  | recv (i : Nat)
  | lagged (i : Nat) (n : Nat)

def Subscriber.deliver (ev : EventLine) (u : Subscriber) : Subscriber :=
  match u.stage with
  | .gone => u
  | _ => { u with pending := u.pending ++ [ev] }

namespace State

def new : State := ⟨∅, none, []⟩

def publish (s : State) (snapshot : HashMap String AddedDevice) (ev : EventLine) : Option State :=
  match s.sending with
  | none => some { s with snapshot := snapshot, sending := some ev }
  | some _ => none

def devices (s : State) : List AddedDevice := s.snapshot.entries.map (·.2)

end State

namespace Subscriber

def snapshotAdded (s : State) (order : List AddedDevice) (u : Subscriber) : Option Subscriber :=
  if u.stage = .subscribed ∧ order.Perm s.devices then
    some { u with stage := .serving, todo := order.map .added, initial := s.snapshot }
  else none

def write (ok : Bool) (u : Subscriber) : Option Subscriber :=
  match u.todo with
  | [] => none
  | ev :: rest =>
    if ok then some { u with todo := rest, lines := u.lines ++ [ev] }
    else some { u with stage := .gone, todo := [] }

def recv (u : Subscriber) : Option Subscriber :=
  match u.stage, u.todo, u.pending with
  | .serving, [], ev :: rest =>
    some { u with pending := rest, todo := [ev], past := u.past ++ [(ev, false)] }
  | _, _, _ => none

def lagged (n : Nat) (u : Subscriber) : Option Subscriber :=
  if u.stage = .serving ∧ u.todo = [] ∧ 0 < n ∧ n ≤ u.pending.length then
    some { u with
      pending := u.pending.drop n
      past := u.past ++ (u.pending.take n).map (·, true) }
  else none

end Subscriber

def State.onSubscriber (s : State) (i : Nat) (f : Subscriber → Option Subscriber) : Option State :=
  s.subscribers[i]?.bind fun u =>
    (f u).map fun u' => { s with subscribers := s.subscribers.set i u' }

/-- `accept_loop` is one task: it takes a connection when it is done with the last. -/
def step (s : State) : Action → Option State
  | .publishAdded dev => s.publish (s.snapshot.insert dev.busid dev) (.added dev)
  | .publishRemoved dev => s.publish (s.snapshot.erase dev.busid) (.removed dev)
  | .send => s.sending.map fun ev =>
      { s with sending := none, subscribers := s.subscribers.map (·.deliver ev) }
  | .subscribe =>
    if s.subscribers.all (·.stage != .subscribed) then
      some { s with subscribers := s.subscribers ++ [{}] }
    else none
  | .snapshotAdded i order => s.onSubscriber i (·.snapshotAdded s order)
  | .write i ok => s.onSubscriber i (·.write ok)
  | .recv i => s.onSubscriber i (·.recv)
  | .lagged i n => s.onSubscriber i (·.lagged n)

def hub : System State Action where
  init s := s = .new
  step := step

def applyLine (view : HashMap String AddedDevice) : EventLine → HashMap String AddedDevice
  | .added dev => view.insert dev.busid dev
  | .removed dev => view.erase dev.busid

def view (lines : List EventLine) : HashMap String AddedDevice := lines.foldl applyLine ∅

variable {s s' : State} {u u' : Subscriber} {i : Nat} {ev : EventLine} {b : String}

inductive SubMove (s : State) (u : Subscriber) : Subscriber → Prop
  | snapshot {order : List AddedDevice} (hstage : u.stage = .subscribed)
      (hperm : order.Perm s.devices) :
      SubMove s u { u with
        stage := .serving, todo := order.map .added, initial := s.snapshot }
  | write {ev : EventLine} {rest : List EventLine} (htodo : u.todo = ev :: rest) :
      SubMove s u { u with todo := rest, lines := u.lines ++ [ev] }
  | hangUp : SubMove s u { u with stage := .gone, todo := [] }
  | recv {ev : EventLine} {rest : List EventLine} (hstage : u.stage = .serving)
      (htodo : u.todo = []) (hpending : u.pending = ev :: rest) :
      SubMove s u { u with pending := rest, todo := [ev], past := u.past ++ [(ev, false)] }
  | lagged {n : Nat} (hstage : u.stage = .serving) (htodo : u.todo = []) :
      SubMove s u { u with
        pending := u.pending.drop n, past := u.past ++ (u.pending.take n).map (·, true) }

inductive Move (s : State) : State → Prop
  | publish {ev : EventLine} (hidle : s.sending = none) :
      Move s { s with snapshot := ev.update.apply s.snapshot, sending := some ev }
  | send {ev : EventLine} (hsending : s.sending = some ev) :
      Move s { s with sending := none, subscribers := s.subscribers.map (·.deliver ev) }
  | subscribe : Move s { s with subscribers := s.subscribers ++ [{}] }
  | subscriber {i : Nat} {u u' : Subscriber} (hu : s.subscribers[i]? = some u)
      (hm : SubMove s u u') : Move s { s with subscribers := s.subscribers.set i u' }

theorem move_of_publish {snapshot : HashMap String AddedDevice}
    (hsnapshot : snapshot = ev.update.apply s.snapshot) (h : s.publish snapshot ev = some s') :
    Move s s' := by
  unfold State.publish at h
  split at h <;> cases h
  rw [hsnapshot]
  exact .publish ‹_›

theorem move_of_onSubscriber {f : Subscriber → Option Subscriber}
    (hf : ∀ u u', f u = some u' → SubMove s u u') (h : s.onSubscriber i f = some s') :
    Move s s' := by
  obtain ⟨u, hu, h⟩ := Option.bind_eq_some_iff.mp h
  obtain ⟨u', hu', rfl⟩ := Option.map_eq_some_iff.mp h
  exact .subscriber hu (hf u u' hu')

theorem step_move {a : Action} (h : step s a = some s') : Move s s' := by
  cases a with
  | publishAdded dev =>
    refine move_of_publish ?_ h
    rfl
  | publishRemoved dev =>
    refine move_of_publish ?_ h
    rfl
  | send =>
    obtain ⟨ev, hsending, rfl⟩ := Option.map_eq_some_iff.mp h
    exact .send hsending
  | subscribe =>
    simp only [step] at h
    split_ifs at h
    cases h
    exact .subscribe
  | snapshotAdded i order =>
    refine move_of_onSubscriber (fun u u' hu => ?_) h
    unfold Subscriber.snapshotAdded at hu
    split_ifs at hu with hen
    cases hu
    exact .snapshot hen.1 hen.2
  | write i ok =>
    refine move_of_onSubscriber (fun u u' hu => ?_) h
    unfold Subscriber.write at hu
    split at hu
    · cases hu
    · split_ifs at hu <;> cases hu
      · exact .write ‹_›
      · exact .hangUp
  | recv i =>
    refine move_of_onSubscriber (fun u u' hu => ?_) h
    unfold Subscriber.recv at hu
    split at hu <;> cases hu
    exact .recv ‹_› ‹_› ‹_›
  | lagged i n =>
    refine move_of_onSubscriber (fun u u' hu => ?_) h
    unfold Subscriber.lagged at hu
    split_ifs at hu with hen
    cases hu
    exact .lagged hen.1 hen.2.1

def Subscriber.history (sending : Option EventLine) (u : Subscriber) : List EventLine :=
  u.past.map (·.1) ++ u.pending ++ sending.toList

def Subscriber.received (u : Subscriber) : List EventLine :=
  (u.past.filter (!·.2)).map (·.1)

def Filed (m : HashMap String AddedDevice) : Prop := ∀ k dev, m.lookup k = some dev → dev.busid = k

/-- A subscriber against the snapshot: the events since the subscription account for
every change of it, and the lines are the snapshot it was given and what it received. -/
structure SubOk (snapshot : HashMap String AddedDevice) (sending : Option EventLine)
    (u : Subscriber) : Prop where
  told : u.stage ≠ .gone → ∀ b v, lastFor b ((u.history sending).map (·.update)) = some v →
    snapshot.lookup b = v
  untold : u.stage = .serving → ∀ b, lastFor b ((u.history sending).map (·.update)) = none →
    snapshot.lookup b = u.initial.lookup b
  fresh : u.stage = .subscribed → u.past = [] ∧ u.todo = [] ∧ u.lines = []
  filed : Filed u.initial
  lines : u.stage = .serving → ∃ order : List AddedDevice,
    order.Perm (u.initial.entries.map (·.2)) ∧ u.lines ++ u.todo = order.map .added ++ u.received

structure HubOk (s : State) : Prop where
  filed : Filed s.snapshot
  sending : ∀ ev, s.sending = some ev → s.snapshot.lookup ev.busid = ev.update.value
  subscribers : Each (fun _ u => SubOk s.snapshot s.sending u) s.subscribers

theorem Filed.apply {m : HashMap String AddedDevice} (h : Filed m) (ev : EventLine) :
    Filed (ev.update.apply m) := by
  intro k dev hdev
  rw [lookup_apply] at hdev
  split_ifs at hdev with hk
  · cases ev with
    | added dev' =>
      cases hdev
      exact hk
    | removed dev' => cases hdev
  · exact h k dev hdev

theorem SubOk.publish (h : SubOk s.snapshot none u) (ev : EventLine) :
    SubOk (ev.update.apply s.snapshot) (some ev) u := by
  have hlast (b : String) : lastFor b ((u.history (some ev)).map (·.update)) =
      (if ev.busid = b then some ev.update.value else none).or
        (lastFor b ((u.history none).map (·.update))) := by
    rw [← EventLine.key_update, ← lastFor_singleton, ← lastFor_append]
    simp [Subscriber.history]
  refine ⟨fun hstage b v hv => ?_, fun hstage b hb => ?_, h.fresh, h.filed, h.lines⟩
  · rw [hlast] at hv
    rw [lookup_apply, EventLine.key_update]
    split_ifs at hv ⊢ with hk
    · exact Option.some.inj hv
    · exact h.told hstage b v hv
  · rw [hlast] at hb
    rw [lookup_apply, EventLine.key_update]
    split_ifs at hb ⊢ with hk
    · cases hb
    · exact h.untold hstage b hb

theorem SubOk.deliver (h : SubOk s.snapshot (some ev) u) :
    SubOk s.snapshot none (u.deliver ev) := by
  unfold Subscriber.deliver
  split
  · rename_i hgone
    refine ⟨fun hstage => absurd hgone hstage, fun hstage => ?_, h.fresh, h.filed, h.lines⟩
    rw [hgone] at hstage
    cases hstage
  · have hhistory : Subscriber.history none { u with pending := u.pending ++ [ev] } =
        u.history (some ev) := by
      simp [Subscriber.history]
    refine ⟨?_, ?_, h.fresh, h.filed, h.lines⟩
    · rw [hhistory]
      exact h.told
    · rw [hhistory]
      exact h.untold

theorem subOk_subscribed (h : HubOk s) : SubOk s.snapshot s.sending {} := by
  refine ⟨fun _ b v hv => ?_, nofun, fun _ => ⟨rfl, rfl, rfl⟩, fun k dev hdev => ?_, nofun⟩
  · cases hsending : s.sending with
    | none =>
      rw [hsending] at hv
      cases hv
    | some ev =>
      have hlast : lastFor b [ev.update] = some v := by rwa [hsending] at hv
      rw [lastFor_singleton, EventLine.key_update] at hlast
      split_ifs at hlast with hk
      rw [← hk, h.sending ev hsending]
      exact Option.some.inj hlast
  · cases hdev

theorem SubMove.history (hm : SubMove s u u') (sending : Option EventLine) :
    u'.history sending = u.history sending := by
  cases hm with
  | snapshot | write | hangUp => rfl
  | recv hstage htodo hpending => simp [Subscriber.history, hpending]
  | @lagged n hstage htodo =>
    have hskipped : ((u.pending.take n).map (·, true)).map Prod.fst = u.pending.take n := by
      rw [List.map_map]
      exact List.map_id _
    simp only [Subscriber.history, List.map_append, hskipped]
    rw [List.append_assoc (u.past.map _), List.take_append_drop]

theorem SubOk.step (hs : HubOk s) (h : SubOk s.snapshot s.sending u) (hm : SubMove s u u') :
    SubOk s.snapshot s.sending u' := by
  have hhistory := hm.history s.sending
  cases hm with
  | snapshot hstage hperm =>
    obtain ⟨hpast, htodo, hlines⟩ := h.fresh hstage
    refine ⟨fun _ => ?_, fun _ _ _ => rfl, nofun, hs.filed, fun _ => ⟨_, hperm, ?_⟩⟩
    · rw [hhistory]
      exact h.told (by rw [hstage]; nofun)
    · simp [Subscriber.received, hpast, hlines]
  | write htodo =>
    refine ⟨hhistory ▸ h.told, hhistory ▸ h.untold, fun hstage => ?_, h.filed, fun hstage => ?_⟩
    · have hnil := (h.fresh hstage).2.1
      rw [htodo] at hnil
      cases hnil
    · obtain ⟨order, hperm, hlines⟩ := h.lines hstage
      refine ⟨order, hperm, ?_⟩
      rw [htodo, List.append_cons] at hlines
      exact hlines
  | hangUp => exact ⟨fun hstage => absurd rfl hstage, nofun, nofun, h.filed, nofun⟩
  | recv hstage htodo hpending =>
    refine ⟨hhistory ▸ h.told, hhistory ▸ h.untold, fun hsub => ?_, h.filed, fun _ => ?_⟩
    · rw [hstage] at hsub
      cases hsub
    · obtain ⟨order, hperm, hlines⟩ := h.lines hstage
      refine ⟨order, hperm, ?_⟩
      rw [htodo, List.append_nil] at hlines
      simp [Subscriber.received, hlines]
  | @lagged n hstage htodo =>
    refine ⟨hhistory ▸ h.told, hhistory ▸ h.untold, fun hsub => ?_, h.filed, fun _ => ?_⟩
    · rw [hstage] at hsub
      cases hsub
    · obtain ⟨order, hperm, hlines⟩ := h.lines hstage
      refine ⟨order, hperm, ?_⟩
      have hskipped : ((u.pending.take n).map (·, true)).filter (!·.2) = [] := by
        rw [List.filter_map, List.map_eq_nil_iff, List.filter_eq_nil_iff]
        exact fun _ _ => nofun
      rw [hlines, Subscriber.received, Subscriber.received, List.filter_append, hskipped,
        List.append_nil]

theorem hubOk (h : hub.Reachable s) : HubOk s := by
  refine System.ReachableBy.invariant (I := HubOk) h ?_ ?_
  · rintro s rfl
    exact ⟨nofun, nofun, .nil⟩
  · intro s a s' _ hi _ hs
    cases step_move hs with
    | @publish ev hidle =>
      refine ⟨hi.filed.apply ev, fun ev' hev' => ?_, fun i u hu => ?_⟩
      · cases hev'
        rw [lookup_apply, EventLine.key_update, if_pos rfl]
      · have hu' := hi.subscribers i u hu
        rw [hidle] at hu'
        exact hu'.publish ev
    | send hsending =>
      refine ⟨hi.filed, nofun, fun i u' hu' => ?_⟩
      rw [List.getElem?_map] at hu'
      obtain ⟨u, hu, rfl⟩ := Option.map_eq_some_iff.mp hu'
      have hold := hi.subscribers i u hu
      rw [hsending] at hold
      exact hold.deliver
    | subscribe => exact ⟨hi.filed, hi.sending, hi.subscribers.append (subOk_subscribed hi)⟩
    | subscriber hu hm =>
      have hmoved := SubOk.step hi (hi.subscribers _ _ hu) hm
      exact ⟨hi.filed, hi.sending, hi.subscribers.set hmoved fun _ _ _ _ => id⟩

/-- All that was sent to the subscriber has been received or skipped, and all that was
received has been written. -/
def Subscriber.Drained (u : Subscriber) : Prop :=
  u.stage = .serving ∧ u.todo = [] ∧ u.pending = []

/-- The last event for the busid since the subscription was skipped by a lag. -/
def Subscriber.LastSkipped (u : Subscriber) (b : String) : Prop :=
  ∃ ev, u.past.reverse.find? (fun e => e.1.busid == b) = some (ev, true)

theorem view_eq (lines : List EventLine) (m : HashMap String AddedDevice) :
    lines.foldl applyLine m = (lines.map (·.update)).foldl Update.apply m := by
  rw [List.foldl_map]
  congr 1
  funext m ev
  cases ev <;> rfl

theorem SubOk.view (h : SubOk s.snapshot s.sending u) (hd : u.Drained) (b : String) :
    (view u.lines).lookup b =
      (lastFor b (u.received.map (·.update))).getD (u.initial.lookup b) := by
  obtain ⟨order, hperm, hlines⟩ := h.lines hd.1
  rw [hd.2.1, List.append_nil] at hlines
  have hinitial : (lastFor b ((order.map EventLine.added).map (·.update))).getD none =
      u.initial.lookup b := by
    rw [List.map_map]
    exact lookup_values AddedDevice.busid h.filed hperm b
  rw [Events.view, view_eq, lookup_foldl_apply, hlines, List.map_append, lastFor_append]
  cases lastFor b (u.received.map (·.update)) with
  | none => exact hinitial
  | some v => rfl

theorem SubOk.view_of_not_skipped (h : SubOk s.snapshot s.sending u) (hidle : s.sending = none)
    (hd : u.Drained) {b : String} (hb : ¬ u.LastSkipped b) :
    (Events.view u.lines).lookup b = s.snapshot.lookup b := by
  have hstage : u.stage ≠ .gone := by
    rw [hd.1]
    intro hgone
    cases hgone
  have hhistory : (u.history s.sending).map (·.update) = u.past.map (·.1.update) := by
    simp [Subscriber.history, hidle, hd.2.2]
  -- What was received last for the busid is what was sent last for it.
  have hreceived : lastFor b (u.received.map (·.update)) =
      lastFor b ((u.history s.sending).map (·.update)) := by
    rw [hhistory, Subscriber.received, List.map_map]
    refine lastFor_filter fun e he => ?_
    obtain ⟨ev, skipped⟩ := e
    simp only [Function.comp_apply, EventLine.key_update] at he
    cases skipped with
    | false => rfl
    | true => exact absurd ⟨ev, he⟩ hb
  rw [h.view hd b, hreceived]
  cases hlast : lastFor b ((u.history s.sending).map (·.update)) with
  | none => exact (h.untold hd.1 b hlast).symm
  | some v => exact (h.told hstage b v hlast).symm

/-- Between two calls of the publisher, a subscriber that has caught up agrees with the
snapshot wherever it was not made to skip the last word. -/
theorem view_converges (h : hub.Reachable s) (hidle : s.sending = none)
    (hu : s.subscribers[i]? = some u) (hd : u.Drained) (b : String) :
    (view u.lines).lookup b = s.snapshot.lookup b ∨ u.LastSkipped b := by
  by_cases hskipped : u.LastSkipped b
  · exact .inr hskipped
  · exact .inl (((hubOk h).subscribers i u hu).view_of_not_skipped hidle hd hskipped)

namespace Sample

def stick : AddedDevice := ⟨"1-1", "0781", "5581", none, some "Ultra", none, 0, 0, 0, 3⟩

def key : AddedDevice := ⟨"1-2", "1050", "0407", some "Yubico", none, none, 0, 0, 0, 2⟩

/-- The stick is in the snapshot before it is sent, so it is told twice; then the
subscriber is made to skip the arrival of the key, but not that it is gone. -/
def laggedRun : List Action :=
  [.publishAdded stick, .subscribe, .snapshotAdded 0 [stick], .send, .write 0 true, .recv 0,
    .write 0 true, .publishAdded key, .send, .publishRemoved (.ofAdded key), .send, .lagged 0 1,
    .recv 0, .write 0 true]

def caughtUp (s : State) : Option (List EventLine) :=
  match s.sending, s.subscribers with
  | none, [u] =>
    if u.stage = .serving ∧ u.todo = [] ∧ u.pending = [] then some u.lines else none
  | _, _ => none

theorem of_caughtUp {lines : List EventLine} (h : caughtUp s = some lines) :
    s.sending = none ∧ ∃ u, s.subscribers[0]? = some u ∧ u.Drained ∧ u.lines = lines := by
  unfold caughtUp at h
  split at h
  · rename_i u hsending hu
    split_ifs at h with hd
    cases h
    exact ⟨hsending, u, by rw [hu]; rfl, hd, rfl⟩
  · cases h

end Sample

theorem view_converges_lagged : ∃ s u, hub.Reachable s ∧ s.sending = none ∧
    s.subscribers[0]? = some u ∧ u.Drained ∧
    u.lines = [.added Sample.stick, .added Sample.stick, .removed (.ofAdded Sample.key)] ∧
    ∀ b, (view u.lines).lookup b = s.snapshot.lookup b ∨ u.LastSkipped b := by
  have hrun : (hub.run .new Sample.laggedRun).map (fun s => decide (Sample.caughtUp s =
      some [.added Sample.stick, .added Sample.stick, .removed (.ofAdded Sample.key)])) =
        some true := by
    decide
  obtain ⟨s, hs, htest⟩ := System.exists_reachable_of_run rfl hrun
  obtain ⟨hidle, u, hu, hd, hlines⟩ := Sample.of_caughtUp (of_decide_eq_true htest)
  exact ⟨s, u, hs, hidle, hu, hd, hlines, view_converges hs hidle hu hd⟩

end Usbip.Events
