import UsbipdDarwin.Host.Progress
import UsbipdDarwin.Session.Endpoint

/-! Nobody waits for nobody. A mutex of a session that is held is held by somebody who
is still to give it back, and a task is left alone by its worker only where it awaits
something. -/

namespace Usbip.Session
open Proto Host Lts

variable {s s' : State} {t : Nat} {u u' : Urb}

def LoopPc.locksInflight : LoopPc → Bool
  | .flagging .. | .cancelling .. | .epWait .. | .cancelAll .. | .aborting .. | .unlocking _ => true
  | _ => false

/-- What a task relies on: its closure is out when it awaits it, and a worker has it
wherever it does not await. -/
def Urb.Attended (u : Urb) : Prop :=
  match u.task with
  | .spawned => u.closure = .idle
  | .awaiting => u.closure ≠ .idle
  | .joined _ | .finished => u.polling = true
  | .writing frame sent => sent ≤ frame.length ∧ (sent = frame.length → u.polling = true)
  | _ => True

structure Urb.Tended (u : Urb) : Prop where
  attended : u.Attended
  visits : ∀ pc, u.closure = .running pc → u.msg.call.visits pc = true

structure LocksOk (s : State) : Prop where
  ep : Owned s.device.epLock (HoldsEp s)
  inflight : ∀ o, s.inflightLock = .held o → s.loop.locksInflight = true
  writer : s.writer ≠ .poisoned
  sent : ∀ r n, s.loop = .writing r n → n ≤ (retUnlinkFrame r).length
  urbs : Each (fun _ u => u.Tended) s.urbs

section HoldsEp

theorem HoldsEp.set {o : Owner} {e : Nat} (h : HoldsEp s o e) (hu : s.urbs[t]? = some u)
    (hs : s'.urbs = s.urbs.set t u') (hl : s'.loop = s.loop)
    (hh : u.heldEp = some e → u'.heldEp = some e) : HoldsEp s' o e := by
  cases o with
  | canceller => simpa only [HoldsEp, hl] using h
  | call i =>
    obtain ⟨v, hv, he⟩ := h
    by_cases hi : i = t
    · subst hi
      rw [hu] at hv
      cases hv
      exact ⟨u', by rw [hs, List.getElem?_set_self (lt_length_of_getElem? hu)], hh he⟩
    · exact ⟨v, by rw [hs, List.getElem?_set_ne (Ne.symm hi), hv], he⟩

theorem HoldsEp.loop {a : LoopAction} {o : Owner} {e : Nat} (h : HoldsEp s o e)
    (hm : LoopMove s a s') (hl : s.loop.heldEp = some e → s'.loop.heldEp = some e) :
    HoldsEp s' o e := by
  cases o with
  | canceller => exact hl h
  | call i =>
    obtain ⟨v, hv, he⟩ := h
    obtain ⟨v', hv', hr⟩ := hm.carries i v hv
    exact ⟨v', hv', hr.heldEp_eq.trans he⟩

theorem LoopMove.heldEp {a : LoopAction} (hm : LoopMove s a s') :
    (∃ r i e, s.loop = .cancelAll r i e) ∨ s.loop.heldEp = none := by
  cases hm with
  | cancelAll hl => exact .inl ⟨_, _, _, hl⟩
  | panic hl =>
    rcases hl with ⟨_, _, hl⟩ | ⟨_, hl⟩ | hl <;> exact .inr (by rw [hl]; rfl)
  | _ hl => exact .inr (by rw [hl]; rfl)

end HoldsEp

section Urbs

theorem Urb.Raised.tended (hr : u.Raised u') (h : u.Tended) : u'.Tended := by
  obtain ⟨hatt, hvis⟩ := h
  rcases hr.closure with hc | ⟨e, b, hc, hc'⟩
  · constructor
    · simpa only [Urb.Attended, hr.task, hr.polling, hc] using hatt
    · simpa only [hr.msg, hc] using hvis
  · constructor
    · unfold Urb.Attended at hatt ⊢
      rw [hr.task, hr.polling, hc']
      cases ht : u.task <;> simp_all
    · intro pc hpc
      rw [hc'] at hpc
      cases hpc
      have hold := hvis _ hc
      rw [hr.msg]
      cases hcall : u.msg.call <;> rw [hcall] at hold <;> exact hold

theorem Urb.Tended.task (h : u.Tended) (hm : u'.msg = u.msg) (hc : u'.closure = u.closure)
    (hatt : u'.Attended) : u'.Tended := by
  refine ⟨hatt, fun pc hpc => ?_⟩
  rw [hm]
  exact h.visits pc (hc ▸ hpc)

theorem TaskMove.tended {a : TaskAction} (hm : TaskMove s t u a s') (h : u.Tended) :
    ∃ u', s'.urbs = s.urbs.set t u' ∧ u'.Tended ∧
      ∀ e, u.heldEp = some e → u'.heldEp = some e := by
  have hatt := h.attended
  unfold Urb.Attended at hatt
  cases hm with
  | poll hp _ hw =>
    refine ⟨_, rfl, h.task rfl rfl ?_, fun e he => he⟩
    unfold Urb.Attended
    cases ht : u.task <;> simp_all [TaskPc.awaits]
  | suspend hp hw hs =>
    refine ⟨_, rfl, h.task rfl rfl ?_, fun e he => he⟩
    unfold Urb.Attended
    cases ht : u.task <;> simp_all [TaskPc.awaits]
    omega
  | handOff _ ht =>
    rw [ht] at hatt
    refine ⟨_, rfl, ⟨?_, ?_⟩, ?_⟩
    · change ClosurePc.queued ≠ .idle
      simp
    · intro pc hpc
      cases hpc
    · intro e he
      simp only [Urb.heldEp, hatt] at he
      cases he
  | join hp ht | joinFailed hp ht => exact ⟨_, rfl, h.task rfl rfl hp, fun e he => he⟩
  | skip hp ht => exact ⟨_, rfl, h.task rfl rfl hp, fun e he => he⟩
  | lockWriter hp ht =>
    exact ⟨_, rfl, h.task rfl rfl ⟨Nat.zero_le _, fun _ => hp⟩, fun e he => he⟩
  | write hp ht _ hl => exact ⟨_, rfl, h.task rfl rfl ⟨hl, fun _ => hp⟩, fun e he => he⟩
  | finishWrite hp | failWrite hp => exact ⟨_, rfl, h.task rfl rfl hp, fun e he => he⟩
  | build | remove | removePanic | drop | dropWriting =>
    exact ⟨_, rfl, h.task rfl rfl trivial, fun e he => he⟩

theorem Urb.Tended.closure {c : ClosurePc} (h : u.Tended) (hold : u.closure ≠ .idle)
    (hc : c ≠ .idle) (hv : ∀ pc, c = .running pc → u.msg.call.visits pc = true) :
    ({ u with closure := c } : Urb).Tended := by
  refine ⟨?_, hv⟩
  have hatt := h.attended
  unfold Urb.Attended at hatt ⊢
  cases ht : u.task <;> simp_all

theorem ClosureMove.tended {a : ClosureAction} (hm : ClosureMove s t u a s') (h : u.Tended) :
    ∃ c, s'.urbs = s.urbs.set t { u with closure := c } ∧
      ({ u with closure := c } : Urb).Tended := by
  cases hm with
  | start hc =>
    refine ⟨_, rfl, h.closure (by simp [hc]) (by simp) ?_⟩
    rintro pc ⟨⟩
    exact visits_start _
  | call hc hr =>
    refine ⟨_, rfl, h.closure (by simp [hc]) (by simp) ?_⟩
    rintro pc ⟨⟩
    exact callStep_visits hr (h.visits _ hc)
  | panic hc =>
    refine ⟨_, rfl, h.closure (by simp [hc]) (by simp) ?_⟩
    rintro pc ⟨⟩
    cases u.msg.call <;> rfl
  | finish hc | finishPanic hc => exact ⟨_, rfl, h.closure (by simp [hc]) (by simp) (by simp)⟩

end Urbs

theorem locksOk_task {a : TaskAction} (hu : s.urbs[t]? = some u) (hm : TaskMove s t u a s')
    (h : LocksOk s) : LocksOk s' := by
  obtain ⟨u', hs, htended, hheld⟩ := hm.tended (h.urbs t u hu)
  constructor
  · rw [hm.device_eq]
    exact h.ep.mono fun o e ho => ho.set hu hs hm.loop_eq (hheld e)
  · rw [hm.inflightLock_eq, hm.loop_eq]
    exact h.inflight
  · cases hm with
    | lockWriter | finishWrite | failWrite | dropWriting => simp
    | _ => exact h.writer
  · rw [hm.loop_eq]
    exact h.sent
  · rw [hs]
    exact h.urbs.set htended fun _ _ _ _ hv => hv

theorem owned_call {pc : CallPc} {a : CallAction} {r : CallStep} (hu : s.urbs[t]? = some u)
    (hc : u.closure = .running pc) (hr : s.device.callStep t u.msg.call pc a = some r)
    (hs : s'.urbs = s.urbs.set t { u with closure := .running r.pc }) (hl : s'.loop = s.loop)
    (hd : s'.device = r.device) (h : Owned s.device.epLock (HoldsEp s)) :
    Owned s'.device.epLock (HoldsEp s') := by
  have hold : u.heldEp = pc.held := by simp only [Urb.heldEp, hc]
  have hkeep : ∀ {e : Nat} {o : Owner}, HoldsEp s o e →
      (pc.held = some e → r.pc.held = some e) → HoldsEp s' o e := by
    intro e o ho hh
    refine ho.set hu hs hl fun he => ?_
    exact hh (hold ▸ he)
  rw [hd]
  cases callStep_effect hr with
  | quiet hlock hh =>
    rw [hlock]
    exact h.mono fun o e ho => hkeep ho fun he => hh.trans he
  | acquire e hf hlock hpc hpc' =>
    rw [hlock]
    refine h.update (fun o ho => ?_) fun o j _ ho => hkeep ho fun he => ?_
    · cases ho
      refine ⟨_, by rw [hs, List.getElem?_set_self (lt_length_of_getElem? hu)], ?_⟩
      simp only [Urb.heldEp, hpc', CallPc.held]
    · rw [hpc] at he
      cases he
  | begin e n b hlock hpc hpc' =>
    rw [hlock]
    refine h.mono fun o j ho => hkeep ho fun he => ?_
    rw [hpc] at he
    rw [hpc']
    exact he
  | release e comp hpc hlock =>
    rw [hlock]
    refine h.update (fun o ho => by cases ho) fun o j hj ho => hkeep ho fun he => ?_
    rw [hpc] at he
    exact absurd (Option.some.inj he).symm hj

theorem owned_closure {a : ClosureAction} (hu : s.urbs[t]? = some u)
    (hm : ClosureMove s t u a s') (h : Owned s.device.epLock (HoldsEp s)) :
    Owned s'.device.epLock (HoldsEp s') := by
  have hnone : ∀ {c : ClosurePc}, u.closure = c → (∀ pc, c = .running pc → pc.held = none) →
      ∀ e, u.heldEp ≠ some e := by
    intro c hc hh e he
    simp only [Urb.heldEp, hc] at he
    cases c with
    | running pc =>
      simp only [hh pc rfl] at he
      cases he
    | _ => cases he
  cases hm with
  | start hc =>
    exact h.mono fun o e ho => ho.set hu rfl rfl fun he =>
      absurd he (hnone hc (by simp) e)
  | call hc hr => exact owned_call hu hc hr rfl rfl rfl h
  | @panic pc hc =>
    have hold : u.heldEp = pc.held := by simp only [Urb.heldEp, hc]
    unfold OpenedDevice.callPanic
    cases hp : pc.held with
    | none =>
      refine h.mono fun o e ho => ho.set hu rfl rfl fun he => ?_
      rw [hold, hp] at he
      cases he
    | some e =>
      refine h.update (fun o ho => by cases ho) fun o j hj ho => ho.set hu rfl rfl fun he => ?_
      rw [hold, hp] at he
      exact absurd (Option.some.inj he).symm hj
  | finish hc =>
    exact h.mono fun o e ho => ho.set hu rfl rfl fun he =>
      absurd he (hnone hc (by rintro pc ⟨⟩; rfl) e)
  | finishPanic hc =>
    exact h.mono fun o e ho => ho.set hu rfl rfl fun he =>
      absurd he (hnone hc (by rintro pc ⟨⟩; rfl) e)

theorem locksOk_closure {a : ClosureAction} (hu : s.urbs[t]? = some u)
    (hm : ClosureMove s t u a s') (h : LocksOk s) : LocksOk s' := by
  obtain ⟨c, hs, htended⟩ := hm.tended (h.urbs t u hu)
  obtain ⟨hloop, _, hlock, _, hwriter, _⟩ := hm.frame
  constructor
  · exact owned_closure hu hm h.ep
  · rw [hlock, hloop]
    exact h.inflight
  · rw [hwriter]
    exact h.writer
  · rw [hloop]
    exact h.sent
  · rw [hs]
    exact h.urbs.set htended fun _ _ _ _ hv => hv

theorem owned_loop {a : LoopAction} (hm : LoopMove s a s')
    (h : Owned s.device.epLock (HoldsEp s)) : Owned s'.device.epLock (HoldsEp s') := by
  have hkeep : s'.device.epLock = s.device.epLock → s.loop.heldEp = none →
      Owned s'.device.epLock (HoldsEp s') := by
    intro hd hl
    rw [hd]
    refine h.mono fun o e ho => ho.loop hm fun he => ?_
    rw [hl] at he
    cases he
  have hnone := hm.heldEp
  cases hm with
  | @lockEp r i e hl he =>
    refine h.update (fun o ho => ?_) fun o j hj ho => ho.loop (.lockEp hl he) fun hheld => ?_
    · cases ho
      rfl
    · rw [hl] at hheld
      cases hheld
  | @cancelAll r i e hl =>
    refine h.update (fun o ho => by cases ho) fun o j hj ho => ho.loop (.cancelAll hl) fun hj' => ?_
    rw [hl] at hj'
    exact absurd (Option.some.inj hj').symm hj
  | panic hl =>
    refine hkeep rfl ?_
    rcases hl with ⟨_, _, hl⟩ | ⟨_, hl⟩ | hl <;> rw [hl] <;> rfl
  | _ hl =>
    refine hkeep rfl ?_
    rw [hl]
    rfl

theorem locksOk_loop {a : LoopAction} (hm : LoopMove s a s') (h : LocksOk s) : LocksOk s' := by
  refine ⟨owned_loop hm h.ep, ?_, ?_, ?_, ?_⟩
  · intro o ho
    have hbefore : s.inflightLock = .held o → s.loop.locksInflight = true := h.inflight o
    cases hm with
    | found => rfl
    | flag | cached | uncached | lockEp | cancelAll | abort => rfl
    | unlock | epPoisoned => cases ho
    | insert _ hi | missing _ hi | drain _ hi => rw [hi] at ho; cases ho
    | panic _ hi => rw [hi] at ho; cases ho
    | _ hl =>
      have hlocks := hbefore ho
      rw [hl] at hlocks
      cases hlocks
  · cases hm with
    | lockWriter | finishWrite | failWrite => simp
    | _ => exact h.writer
  · intro r n hl'
    cases hm with
    | lockWriter => cases hl'; exact Nat.zero_le _
    | write _ _ hk => cases hl'; exact hk
    | drain | drainAbort =>
      unfold drainNext at hl'
      split at hl' <;> cases hl'
    | _ => cases hl'
  · intro i v hv
    rcases hm.origin hv with ⟨w, hw, hr⟩ | ⟨m, -, -, rfl⟩
    · exact hr.tended (h.urbs i w hw)
    · exact ⟨rfl, by rintro pc ⟨⟩⟩

theorem locksOk {C : State → Action → Prop} (h : session.ReachableBy C s) : LocksOk s := by
  refine h.invariant ?_ ?_
  · rintro s ⟨configurations, active, rfl⟩
    refine ⟨?_, ?_, ?_, ?_, .nil⟩
    · intro o e ho
      cases ho
    · intro o ho
      cases ho
    · simp [State.initial]
    · intro r n hl
      cases hl
  · intro s a s' _ hi _ hs
    cases step_move hs with
    | task hu hm => exact locksOk_task hu hm hi
    | closure hu hm => exact locksOk_closure hu hm hi
    | loop hm => exact locksOk_loop hm hi

end Usbip.Session
