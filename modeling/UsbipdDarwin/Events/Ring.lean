import UsbipdDarwin.Events.Hub

/-! The hub over a broadcast channel with room for `n` events. A receiver that is further
behind is put back to the oldest event still in the ring, so what it is made to skip has
`n` later events after it: of the last `n` events it is told every one. -/

namespace Usbip.Events
open Host Lts

def hubBuffer : Nat := 256

/-- `broadcast::Receiver::recv` over a ring of `n`: the next event where the receiver is no
more than `n` behind, and `Lagged` with all that has been overwritten where it is. -/
def Ring (n : Nat) (s : State) : Action → Prop
  | .recv i => ∀ u ∈ s.subscribers[i]?, u.pending.length ≤ n
  | .lagged i skipped => ∀ u ∈ s.subscribers[i]?, u.pending.length = n + skipped
  | _ => True

instance (n : Nat) (s : State) : (a : Action) → Decidable (Ring n s a)
  | .recv i => inferInstanceAs (Decidable (∀ u ∈ s.subscribers[i]?, u.pending.length ≤ n))
  | .lagged i skipped =>
    inferInstanceAs (Decidable (∀ u ∈ s.subscribers[i]?, u.pending.length = n + skipped))
  | .publishAdded _ | .publishRemoved _ | .send | .subscribe | .snapshotAdded .. | .write .. =>
    inferInstanceAs (Decidable True)

variable {n : Nat} {s s' : State} {u u' : Subscriber} {i : Nat} {ev : EventLine} {b : String}

def Subscriber.Overtaken (n : Nat) (u : Subscriber) : Prop :=
  ∀ k ev, u.past[k]? = some (ev, true) → k + n < u.past.length + u.pending.length

theorem Subscriber.Overtaken.deliver (h : u.Overtaken n) (ev : EventLine) :
    (u.deliver ev).Overtaken n := by
  unfold Subscriber.deliver
  split
  · exact h
  · intro k ev' hk
    have hlt := h k ev' hk
    have hlen : (u.pending ++ [ev]).length = u.pending.length + 1 := List.length_append
    show k + n < u.past.length + (u.pending ++ [ev]).length
    omega

theorem Subscriber.Overtaken.recv (h : u.Overtaken n) (hu : u.recv = some u') :
    u'.Overtaken n := by
  unfold Subscriber.recv at hu
  split at hu <;> cases hu
  rename_i ev rest hstage htodo hpending
  intro k ev' hk
  simp only [List.length_append, List.length_singleton]
  rcases getElem?_append_some hk with hold | ⟨-, hnew⟩
  · have hlt := h k ev' hold
    rw [hpending, List.length_cons] at hlt
    omega
  · cases hnew

theorem overtaken_lagged {skipped : Nat} (hbehind : u.pending.length = n + skipped)
    (hu : u.lagged skipped = some u') : u'.Overtaken n := by
  unfold Subscriber.lagged at hu
  split_ifs at hu
  cases hu
  intro k ev' hk
  have hlt := lt_length_of_getElem? hk
  simp only [List.length_append, List.length_map, List.length_take, List.length_drop] at hlt ⊢
  omega

theorem overtaken_onSubscriber {f : Subscriber → Option Subscriber}
    (h : Each (fun _ u => u.Overtaken n) s.subscribers)
    (hf : ∀ u u', s.subscribers[i]? = some u → f u = some u' → u.Overtaken n → u'.Overtaken n)
    (hs : s.onSubscriber i f = some s') : Each (fun _ u => u.Overtaken n) s'.subscribers := by
  obtain ⟨u, hu, hmap⟩ := Option.bind_eq_some_iff.mp hs
  obtain ⟨u', hu', rfl⟩ := Option.map_eq_some_iff.mp hmap
  exact h.set (hf u u' hu hu' (h i u hu)) fun _ _ _ _ hv => hv

theorem overtaken (h : hub.ReachableBy (Ring n) s) :
    Each (fun _ u => u.Overtaken n) s.subscribers := by
  refine h.invariant (I := fun s => Each (fun _ u => u.Overtaken n) s.subscribers) ?_ ?_
  · rintro s rfl
    exact .nil
  · intro s a s' _ hi hring hs
    cases a with
    | publishAdded | publishRemoved =>
      simp only [hub, step, State.publish] at hs
      split at hs <;> cases hs
      exact hi
    | send =>
      obtain ⟨ev, -, rfl⟩ := Option.map_eq_some_iff.mp hs
      intro i u' hu'
      rw [List.getElem?_map] at hu'
      obtain ⟨u, hu, rfl⟩ := Option.map_eq_some_iff.mp hu'
      exact (hi i u hu).deliver ev
    | subscribe =>
      simp only [hub, step] at hs
      split_ifs at hs
      cases hs
      refine hi.append fun k ev hk => ?_
      cases hk
    | snapshotAdded i order =>
      refine overtaken_onSubscriber hi (fun u u' hu hu' hover => ?_) hs
      unfold Subscriber.snapshotAdded at hu'
      split_ifs at hu'
      cases hu'
      exact hover
    | write i ok =>
      refine overtaken_onSubscriber hi (fun u u' hu hu' hover => ?_) hs
      unfold Subscriber.write at hu'
      split at hu'
      · cases hu'
      · split_ifs at hu' <;> cases hu' <;> exact hover
    | recv i => exact overtaken_onSubscriber hi (fun u u' hu hu' hover => hover.recv hu') hs
    | lagged i skipped =>
      exact overtaken_onSubscriber hi (fun u u' hu hu' _ => overtaken_lagged (hring u hu) hu') hs

/-- Of the busid there is an event among the last `n`, or none since the subscription. -/
def Subscriber.Recent (n : Nat) (u : Subscriber) (b : String) : Prop :=
  (∃ e ∈ u.past.drop (u.past.length - n), e.1.busid = b) ∨ ∀ e ∈ u.past, e.1.busid ≠ b

instance (n : Nat) (u : Subscriber) (b : String) : Decidable (u.Recent n b) :=
  inferInstanceAs (Decidable (_ ∨ _))

theorem Subscriber.Recent.not_lastSkipped (h : u.Recent n b) (ho : u.Overtaken n)
    (hd : u.Drained) : ¬ u.LastSkipped b := by
  rintro ⟨ev, hfind⟩
  obtain ⟨hb, later, earlier, hsplit, hlater⟩ := List.find?_eq_some_iff_append.mp hfind
  have hpast : u.past = earlier.reverse ++ (ev, true) :: later.reverse := by
    rw [← List.reverse_reverse u.past, hsplit]
    simp
  have hlt : earlier.length + n < u.past.length + u.pending.length := by
    refine ho earlier.length ev ?_
    rw [hpast]
    simp
  have hlen : u.past.length = earlier.length + 1 + later.length := by
    rw [hpast]
    simp
    omega
  rw [hd.2.2, List.length_nil] at hlt
  rcases h with ⟨e, he, heb⟩ | hnone
  · -- the last `n` events all came after the last one of the busid
    have hdrop : u.past.drop (u.past.length - n) = later.reverse.drop (later.length - n) := by
      have hoff : u.past.length - n = (earlier.reverse ++ [(ev, true)]).length +
          (later.length - n) := by
        simp only [List.length_append, List.length_reverse, List.length_singleton]
        omega
      have hcons : u.past = earlier.reverse ++ [(ev, true)] ++ later.reverse := by
        rw [hpast, List.append_cons]
      rw [hoff, hcons, ← List.drop_drop, List.drop_left]
    rw [hdrop] at he
    have hmem := List.mem_reverse.mp (List.mem_of_mem_drop he)
    have hne := hlater e hmem
    simp [heb] at hne
  · refine hnone (ev, true) ?_ (by simpa using hb)
    rw [hpast]
    simp

/-- Between two calls of the publisher, a subscriber that has caught up knows the truth
about every busid that the last `n` events speak of, and about those no event spoke of. -/
theorem recent_events_told (h : hub.ReachableBy (Ring n) s) (hidle : s.sending = none)
    (hu : s.subscribers[i]? = some u) (hd : u.Drained) (hb : u.Recent n b) :
    (view u.lines).lookup b = s.snapshot.lookup b := by
  have hok := (hubOk (h.mono fun _ _ _ => trivial)).subscribers i u hu
  exact hok.view_of_not_skipped hidle hd (hb.not_lastSkipped (overtaken h i u hu) hd)

/-- Over a ring of one, from which the arrival of the key is lost and its departure is not. -/
theorem recent_events_told_lagged : ∃ s u, hub.ReachableBy (Ring 1) s ∧
    s.subscribers[0]? = some u ∧
    u.lines = [.added Sample.stick, .added Sample.stick, .removed (.ofAdded Sample.key)] ∧
    u.Recent 1 "1-2" ∧ (view u.lines).lookup "1-2" = s.snapshot.lookup "1-2" := by
  have hrun : (hub.replay (Ring 1) .new Sample.laggedRun).map (fun s =>
      (Sample.caughtUp s, s.subscribers.map fun u => decide (u.Recent 1 "1-2"))) =
      some (some [.added Sample.stick, .added Sample.stick, .removed (.ofAdded Sample.key)],
        [true]) := by
    decide
  obtain ⟨s, hs, htest⟩ := System.exists_reachableBy_of_replay rfl hrun
  obtain ⟨hlines, hrecent⟩ := Prod.mk.inj htest
  obtain ⟨hidle, u, hu, hd, hlines⟩ := Sample.of_caughtUp hlines
  have hrow := eq_of_map_eq_singleton hrecent hu
  have hb : u.Recent 1 "1-2" := of_decide_eq_true hrow
  exact ⟨s, u, hs, hu, hlines, hb, recent_events_told hs hidle hu hd hb⟩

end Usbip.Events
