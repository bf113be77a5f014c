import UsbipdDarwin.Session.Replies

/-! How a step of the session, whoever takes it, changes the closure of one URB. -/

namespace Usbip.Session
open Proto Host Lts

/-- The closure of URB `t`, which is for `m`, before an action and after it. -/
inductive ClosureChange (s : State) (t : Nat) (m : Submit) :
    Action → ClosurePc → ClosurePc → Prop
  | same {a : Action} {c : ClosurePc} (ha : ∀ x, a ≠ .closure t (.call x)) :
      ClosureChange s t m a c c
  | queue {a : TaskAction} : ClosureChange s t m (.task t a) .idle .queued
  -- `cancel_all` on the endpoint finds the transfer pending
  | hit {a : LoopAction} {e : Nat} {b : Bool} :
      ClosureChange s t m (.loop a) (.running (.transferring e b))
        (.running (.transferring e true))
  | start : ClosureChange s t m (.closure t .start) .queued (.running m.call.start)
  | call {a : CallAction} {pc : CallPc} {r : CallStep}
      (hr : s.device.callStep t m.call pc a = some r) :
      ClosureChange s t m (.closure t (.call a)) (.running pc) (.running r.pc)
  | panic {pc : CallPc} :
      ClosureChange s t m (.closure t .panic) (.running pc) (.running .panicked)
  | finish {r : Except HostError CallValue} :
      ClosureChange s t m (.closure t .finish) (.running (.done r))
        (.returned (closureOutcome m r))
  | finishPanic : ClosureChange s t m (.closure t .finish) (.running .panicked) .panicked

variable {s s' : State} {t i : Nat} {u v : Urb}

theorem TaskMove.closure_change {a : TaskAction} (hm : TaskMove s t u a s')
    (hu : s.urbs[t]? = some u) (hok : u.Consistent) (hv : s'.urbs[i]? = some v) :
    ∃ w, s.urbs[i]? = some w ∧ v.msg = w.msg ∧
      ClosureChange s i w.msg (.task t a) w.closure v.closure := by
  have hother : ∀ j x, Action.task t a ≠ .closure j (.call x) := by
    intro j x heq
    cases heq
  obtain ⟨u', hs, hmsg, -, -, hc⟩ := hm.set
  rw [hs] at hv
  rcases getElem?_set_some hv with ⟨rfl, rfl⟩ | ⟨-, hold⟩
  · refine ⟨u, hu, hmsg, ?_⟩
    rcases hc with hc | ⟨ht, hc⟩
    · rw [hc]
      exact .same (hother _)
    · -- before the hand-off the closure is idle
      simp only [Urb.Consistent, ht] at hok
      rw [hok, hc]
      exact .queue
  · exact ⟨v, hold, rfl, .same (hother _)⟩

theorem ClosureMove.closure_change {a : ClosureAction} (hm : ClosureMove s t u a s')
    (hu : s.urbs[t]? = some u) (hv : s'.urbs[i]? = some v) :
    ∃ w, s.urbs[i]? = some w ∧ v.msg = w.msg ∧
      ClosureChange s i w.msg (.closure t a) w.closure v.closure := by
  have hset : ∀ {c : ClosurePc}, s'.urbs = s.urbs.set t { u with closure := c } →
      ClosureChange s t u.msg (.closure t a) u.closure c →
      ∃ w, s.urbs[i]? = some w ∧ v.msg = w.msg ∧
        ClosureChange s i w.msg (.closure t a) w.closure v.closure := by
    intro c hs hchange
    rw [hs] at hv
    rcases getElem?_set_some hv with ⟨rfl, rfl⟩ | ⟨hne, hold⟩
    · exact ⟨u, hu, rfl, hchange⟩
    · refine ⟨v, hold, rfl, .same ?_⟩
      rintro x ⟨⟩
      exact hne rfl
  cases hm with
  | start hc => exact hset rfl (hc ▸ .start)
  | call hc hr => exact hset rfl (hc ▸ .call hr)
  | panic hc => exact hset rfl (hc ▸ .panic)
  | finish hc => exact hset rfl (hc ▸ .finish)
  | finishPanic hc => exact hset rfl (hc ▸ .finishPanic)

theorem Move.closure_change {a : Action} (hm : Move s a s') (hok : RepliesOk s)
    (hv : s'.urbs[i]? = some v) :
    (∃ w, s.urbs[i]? = some w ∧ v.msg = w.msg ∧
      ClosureChange s i w.msg a w.closure v.closure) ∨
    ∃ m, s.loop = .acquiring m ∧ i = s.urbs.length ∧ v = { msg := m } := by
  cases hm with
  | task hu hm => exact .inl (hm.closure_change hu (hok.consistent _ _ hu) hv)
  | closure hu hm => exact .inl (hm.closure_change hu hv)
  | loop hm =>
    rcases hm.origin hv with ⟨w, hw, hr⟩ | hnew
    · refine .inl ⟨w, hw, hr.msg, ?_⟩
      rcases hr.closure with hc | ⟨e, b, hc, hc'⟩
      · rw [hc]
        refine .same fun x heq => ?_
        cases heq
      · rw [hc, hc']
        exact .hit
    · exact .inr hnew

end Usbip.Session
