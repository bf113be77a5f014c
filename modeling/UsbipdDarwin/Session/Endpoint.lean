import UsbipdDarwin.Session.Frame
import UsbipdDarwin.Host.EpLock
import UsbipdDarwin.Lts.History

/-! The per-endpoint mutex. Whoever is inside `transfer_blocking` or about to
issue `cancel_all` holds it, so at most one of them is at an endpoint. -/

namespace Usbip.Session
open Proto Host Lts

variable {s s' : State} {t : Nat} {u : Urb}

def Urb.heldEp (u : Urb) : Option Nat :=
  match u.closure with
  | .running pc => pc.held
  | _ => none

def LoopPc.heldEp : LoopPc → Option Nat
  | .cancelAll _ _ e => some e
  | _ => none

def HoldsEp (s : State) : Owner → Nat → Prop
  | .call t, e => ∃ u, s.urbs[t]? = some u ∧ u.heldEp = some e
  | .canceller, e => s.loop.heldEp = some e

theorem Urb.Raised.heldEp_eq {u' : Urb} (h : u.Raised u') : u'.heldEp = u.heldEp := by
  rcases h.closure with hc | ⟨e, b, hc, hc'⟩
  · simp only [Urb.heldEp, hc]
  · simp only [Urb.heldEp, hc, hc', CallPc.held]

theorem holdsEp_of_set {u' : Urb} (hu : s.urbs[t]? = some u) (hs : s'.urbs = s.urbs.set t u')
    (hl : s'.loop = s.loop) (hh : ∀ e, u'.heldEp = some e → u.heldEp = some e) (o : Owner)
    (e : Nat) (h : HoldsEp s' o e) : HoldsEp s o e := by
  cases o with
  | canceller => simpa only [HoldsEp, hl] using h
  | call i =>
    obtain ⟨v, hv, he⟩ := h
    rw [hs] at hv
    rcases getElem?_set_some hv with ⟨rfl, rfl⟩ | ⟨_, hv⟩
    · exact ⟨u, hu, hh e he⟩
    · exact ⟨v, hv, he⟩

theorem holdsEp_of_loop {a : LoopAction} (hm : LoopMove s a s')
    (hl : ∀ e, s'.loop.heldEp = some e → s.loop.heldEp = some e) (o : Owner) (e : Nat)
    (h : HoldsEp s' o e) : HoldsEp s o e := by
  cases o with
  | canceller => exact hl e h
  | call i =>
    obtain ⟨v, hv, he⟩ := h
    rcases hm.origin hv with ⟨u, hu, hr⟩ | ⟨m, _, _, rfl⟩
    · exact ⟨u, hu, hr.heldEp_eq ▸ he⟩
    · simp [Urb.heldEp] at he

def EpGuarded (s : State) : Prop := Guarded s.device.epLock (HoldsEp s)

theorem epGuarded_initial (h : session.init s) : EpGuarded s := by
  obtain ⟨configurations, active, rfl⟩ := h
  rintro (i | _) e ho
  · obtain ⟨u, hu, _⟩ := ho
    simp [State.initial] at hu
  · simp [HoldsEp, State.initial, LoopPc.heldEp] at ho

theorem epGuarded_closure {a : ClosureAction} (hu : s.urbs[t]? = some u)
    (hm : ClosureMove s t u a s') (h : EpGuarded s) : EpGuarded s' := by
  cases hm with
  | start =>
    have hstart : u.msg.call.start.held = none := by
      unfold Call.start
      split
      · rfl
      · split_ifs <;> rfl
    exact h.mono (holdsEp_of_set hu rfl rfl fun e he => by simp [Urb.heldEp, hstart] at he)
  | @call pc a r hc hr =>
    have hold : u.heldEp = pc.held := by simp only [Urb.heldEp, hc]
    unfold EpGuarded
    cases callStep_effect hr with
    | quiet hl hh =>
      simp only [hl]
      exact h.mono (holdsEp_of_set hu rfl rfl fun e he => by
        rw [hold, ← hh]
        exact he)
    | acquire e hf hl hpc hpc' =>
      simp only [hl]
      refine h.acquire hf ?_
      rintro (i | _) j ho
      · obtain ⟨v, hv, hj⟩ := ho
        rcases getElem?_set_some hv with ⟨rfl, rfl⟩ | ⟨_, hv⟩
        · simp only [Urb.heldEp, hpc', CallPc.held, Option.some.injEq] at hj
          exact .inr ⟨rfl, hj.symm⟩
        · exact .inl ⟨v, hv, hj⟩
      · exact .inl ho
    | begin e n b hl hpc hpc' =>
      simp only [hl]
      exact h.mono (holdsEp_of_set hu rfl rfl fun j hj => by
        simp only [Urb.heldEp, hpc'] at hj
        rw [hold, hpc]
        exact hj)
    | release e comp hpc hl hh' =>
      simp only [hl]
      refine h.release (o := .call t) ⟨u, hu, by rw [hold, hpc]; rfl⟩
        (holdsEp_of_set hu rfl rfl fun j hj => ?_) ?_
      · simp [Urb.heldEp, hh'] at hj
      · rintro ⟨v, hv, hj⟩
        rcases getElem?_set_some hv with ⟨_, rfl⟩ | ⟨hne, _⟩
        · simp [Urb.heldEp, hh'] at hj
        · exact hne rfl
  | @panic pc hc =>
    have hgone : ∀ j, ({ u with closure := .running .panicked } : Urb).heldEp = some j →
        u.heldEp = some j := fun j hj => by simp [Urb.heldEp, CallPc.held] at hj
    unfold EpGuarded OpenedDevice.callPanic
    cases hp : pc.held with
    | none => exact h.mono (holdsEp_of_set hu rfl rfl hgone)
    | some e =>
      refine h.release (o := .call t) ⟨u, hu, by simp only [Urb.heldEp, hc, hp]⟩
        (holdsEp_of_set hu rfl rfl hgone) ?_
      rintro ⟨v, hv, hj⟩
      rcases getElem?_set_some hv with ⟨_, rfl⟩ | ⟨hne, _⟩
      · simp [Urb.heldEp, CallPc.held] at hj
      · exact hne rfl
  | finish =>
    exact h.mono (holdsEp_of_set hu rfl rfl fun e he => by simp [Urb.heldEp] at he)
  | finishPanic =>
    exact h.mono (holdsEp_of_set hu rfl rfl fun e he => by simp [Urb.heldEp] at he)

theorem epGuarded_loop {a : LoopAction} (hm : LoopMove s a s') (h : EpGuarded s) :
    EpGuarded s' := by
  have hsame : s'.device.epLock = s.device.epLock → s'.loop.heldEp = none → EpGuarded s' := by
    intro hd hl
    unfold EpGuarded
    rw [hd]
    exact h.mono (holdsEp_of_loop hm fun e he => by rw [hl] at he; cases he)
  cases hm with
  | @lockEp r i e hl he =>
    refine h.acquire he ?_
    rintro (j | _) k ho
    · exact .inl ho
    · exact .inr ⟨rfl, (Option.some.inj ho).symm⟩
  | @cancelAll r i e hl =>
    have hheld : HoldsEp s .canceller e := by simp only [HoldsEp, hl, LoopPc.heldEp]
    exact h.release hheld
      (holdsEp_of_loop (.cancelAll hl) fun j hj => by simp [LoopPc.heldEp] at hj)
      (by simp [HoldsEp, LoopPc.heldEp])
  | drain | drainAbort => exact hsame rfl (drainNext_eq LoopPc.heldEp (fun _ _ => rfl) _)
  | _ => exact hsame rfl rfl

theorem epGuarded_step {a : Action} (hs : session.step s a = some s') (h : EpGuarded s) :
    EpGuarded s' := by
  cases step_move hs with
  | task hu hm =>
    obtain ⟨u', hset, _, _, _, hc⟩ := hm.set
    unfold EpGuarded
    rw [hm.device_eq]
    refine h.mono (holdsEp_of_set hu hset hm.loop_eq fun e he => ?_)
    rcases hc with hc | ⟨_, hc⟩
    · simpa only [Urb.heldEp, hc] using he
    · simp [Urb.heldEp, hc] at he
  | closure hu hm => exact epGuarded_closure hu hm h
  | loop hm => exact epGuarded_loop hm h

theorem epGuarded {C : State → Action → Prop} (h : session.ReachableBy C s) : EpGuarded s :=
  h.invariant (fun _ => epGuarded_initial) fun _ _ _ _ hi _ hs => epGuarded_step hs hi

theorem not_transferring_of_cancelAll (h : EpGuarded s) {r : Unlink} {i : Inflight} {e : Nat}
    {b : Bool} (hl : s.loop = .cancelAll r i e) (hu : s.urbs[t]? = some u) :
    u.closure ≠ .running (.transferring e b) := by
  intro hc
  have he : HoldsEp s (.call t) e := ⟨u, hu, by simp only [Urb.heldEp, hc, CallPc.held]⟩
  have hcan : HoldsEp s .canceller e := by simp only [HoldsEp, hl, LoopPc.heldEp]
  cases h.unique he hcan

end Usbip.Session
