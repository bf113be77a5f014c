import UsbipdDarwin.Session.Endpoint
import UsbipdDarwin.Session.Balance

/-! `cancel_endpoint` from both sides. It takes the mutex that a pending transfer
holds, so it never cancels one, and nobody else's either; for the same reason it
waits for the transfer it was meant to end. -/

namespace Usbip.Session
open Proto Host Lts

variable {s s' : State} {t : Nat} {u : Urb}

theorem Urb.hit_eq_self {e : Nat} (h : ∀ b, u.closure ≠ .running (.transferring e b)) :
    u.hit e = u := by
  unfold Urb.hit
  split
  · rename_i e' b hc
    have hne : e' ≠ e := by
      rintro rfl
      exact h b hc
    rw [if_neg hne]
  · rfl

theorem map_hit_eq_self (hg : EpGuarded s) {r : Unlink} {i : Inflight} {e : Nat}
    (hl : s.loop = .cancelAll r i e) : s.urbs.map (Urb.hit e) = s.urbs := by
  refine (List.map_congr_left fun u hu => ?_).trans (List.map_id _)
  obtain ⟨t, hu⟩ := List.mem_iff_getElem?.mp hu
  exact Urb.hit_eq_self fun b => not_transferring_of_cancelAll hg hl hu

theorem LoopMove.closure_eq {a : LoopAction} (hm : LoopMove s a s') (hg : EpGuarded s)
    (hu : s.urbs[t]? = some u) : ∃ u', s'.urbs[t]? = some u' ∧ u'.closure = u.closure := by
  have hmod : ∀ (i : Nat) (f : Urb → Urb), (∀ v : Urb, (f v).closure = v.closure) →
      ∃ u', (s.urbs.modify i f)[t]? = some u' ∧ u'.closure = u.closure := by
    intro i f hf
    rw [List.getElem?_modify, hu]
    refine ⟨_, rfl, ?_⟩
    split_ifs
    · exact hf u
    · rfl
  cases hm with
  | spawn => exact ⟨u, by rw [List.getElem?_append_left (lt_length_of_getElem? hu), hu], rfl⟩
  | flag => exact hmod _ _ fun _ => rfl
  | cancelAll hl =>
    refine ⟨u, ?_, rfl⟩
    simp only [map_hit_eq_self hg hl, hu]
  | abort => exact hmod _ _ fun _ => rfl
  | drainFlag => exact hmod _ _ fun _ => rfl
  | drainAbort => exact hmod _ _ fun _ => rfl
  | _ => exact ⟨u, hu, rfl⟩

def NoneHit (s : State) : Prop :=
  Each (fun _ u => ∀ e, u.closure ≠ .running (.transferring e true)) s.urbs

theorem noneHit_closure {a : ClosureAction} (hm : ClosureMove s t u a s') (h : NoneHit s) :
    NoneHit s' := by
  have hset : ∀ c, s'.urbs = s.urbs.set t { u with closure := c } →
      (∀ e, c ≠ .running (.transferring e true)) → NoneHit s' := by
    intro c hs hc
    unfold NoneHit
    rw [hs]
    exact h.set hc fun _ _ _ _ hv => hv
  cases hm with
  | start =>
    refine hset _ rfl fun e he => ?_
    have hpc := ClosurePc.running.inj he
    unfold Call.start at hpc
    split at hpc
    · cases hpc
    · split_ifs at hpc
  | @call pc a r hc hr =>
    refine hset _ rfl fun e he => ?_
    have hpc := ClosurePc.running.inj he
    cases callStep_effect hr with
    | quiet _ _ hu =>
      rw [hpc] at hu
      cases hu
    | acquire _ _ _ _ hpc' =>
      rw [hpc'] at hpc
      cases hpc
    | begin _ _ _ _ _ hpc' =>
      rw [hpc'] at hpc
      cases hpc
    | release _ _ _ _ hh' =>
      rw [hpc] at hh'
      cases hh'
  | panic => exact hset _ rfl (by simp)
  | finish => exact hset _ rfl (by simp)
  | finishPanic => exact hset _ rfl (by simp)

theorem noneHit {C : State → Action → Prop} (h : session.ReachableBy C s) : NoneHit s := by
  refine h.invariant ?_ ?_
  · rintro s ⟨configurations, active, rfl⟩
    exact .nil
  · intro s a s' hr hi _ hs
    cases step_move hs with
    | task hu hm =>
      obtain ⟨u', hset, _, _, _, hc⟩ := hm.set
      unfold NoneHit
      rw [hset]
      refine hi.set (fun e he => ?_) fun _ _ _ _ hv => hv
      rcases hc with hc | ⟨_, hc⟩
      · exact hi _ _ hu e (hc ▸ he)
      · rw [hc] at he
        cases he
    | closure hu hm => exact noneHit_closure hm hi
    | loop hm =>
      intro i v hv e he
      rcases hm.origin hv with ⟨w, hw, _⟩ | ⟨m, _, _, rfl⟩
      · obtain ⟨v', hv', hc⟩ := hm.closure_eq (epGuarded hr) hw
        rw [hv] at hv'
        cases hv'
        exact hi i w hw e (hc ▸ he)
      · cases he

theorem LoopMove.untouched {a : LoopAction} {r : Unlink} (hm : LoopMove s a s')
    (hg : EpGuarded s) (ht : TableOk s) (hr : s.loop.handling = some r)
    (hu : s.urbs[t]? = some u) (hne : u.msg.seqnum ≠ r.unlinkSeqnum) : s'.urbs[t]? = some u := by
  have hmod : ∀ (i : Inflight) (f : Urb → Urb), s.loop.target = some (r, i) →
      (s.urbs.modify i.task f)[t]? = some u := by
    intro i f htgt
    obtain ⟨v, hv, hseq, _⟩ := (ht.target r i htgt).1
    have hi : i.task ≠ t := by
      rintro rfl
      rw [hu] at hv
      cases hv
      exact hne hseq
    rw [List.getElem?_modify_ne _ _ hi, hu]
  cases hm with
  | spawn hl => rw [hl] at hr; cases hr
  | flag hl =>
    rw [hl] at hr
    cases hr
    exact hmod _ _ (by rw [hl]; rfl)
  | cancelAll hl => simp only [map_hit_eq_self hg hl, hu]
  | abort hl =>
    rw [hl] at hr
    cases hr
    exact hmod _ _ (by rw [hl]; rfl)
  | drainFlag hl => rw [hl] at hr; cases hr
  | drainAbort hl => rw [hl] at hr; cases hr
  | _ => exact hu

/-- An unlink touches the URB it names and no other: `cancel_all` finds no transfer
pending, no transfer is ever cancelled, the loop leaves other URBs as they are, a
raised flag was asked for, and so was a missing reply. -/
theorem unlink_isolated (h : session.Reachable s) :
    (∀ r i e, s.loop = .cancelAll r i e → ∀ (t : Nat) (u : Urb), s.urbs[t]? = some u →
      ∀ b, u.closure ≠ .running (.transferring e b)) ∧
    (∀ (t : Nat) (u : Urb), s.urbs[t]? = some u →
      ∀ e, u.closure ≠ .running (.transferring e true)) ∧
    (∀ r a s', s.loop.handling = some r → session.step s (.loop a) = some s' →
      ∀ (t : Nat) (u : Urb), s.urbs[t]? = some u → u.msg.seqnum ≠ r.unlinkSeqnum →
        s'.urbs[t]? = some u) ∧
    (s.loop.drained = false → ∀ (t : Nat) (u : Urb), s.urbs[t]? = some u →
      u.cancelled = true ∨ u.aborted = true → Targeted s.log u.msg.seqnum) ∧
    (s.loop.drained = false → ∀ (t : Nat) (u : Urb), s.urbs[t]? = some u →
      u.undecided = false → ¬ Targeted s.log u.msg.seqnum →
        (∃ frame, .retSubmit t u.msg.seqnum frame ∈ s.log) ∨ u.closure = .panicked ∨
          .writeFailed ∈ s.log) := by
  have hflags := flagsOk h
  refine ⟨fun r i e hl t u hu b => not_transferring_of_cancelAll (epGuarded h) hl hu,
    fun t u hu => noneHit h t u hu, fun r a s' hr hs t u hu hne => ?_,
    fun hd t u hu hf => ?_, fun hd t u hu hun hnot => ?_⟩
  · cases step_move hs with
    | loop hm => exact hm.untouched (epGuarded h) (tableOk h) hr hu hne
  · exact hflags.targeted hd t u hu (by simpa [Urb.flagged] using hf)
  · rcases (repliesOk h).excused t u hu hun with hrep | hf | hp | hw
    · exact .inl hrep
    · exact absurd (hflags.targeted hd t u hu hf) hnot
    · exact .inr (.inl hp)
    · exact .inr (.inr hw)

theorem cancelAll_of_heldEp {l : LoopPc} {e : Nat} (h : l.heldEp = some e) :
    ∃ r i, l = .cancelAll r i e := by
  cases l <;> cases h
  exact ⟨_, _, rfl⟩

/-- Of two URBs on one endpoint the first is about to start its transfer when the
unlink of the second has the mutex; the first stays as it is. -/
theorem unlink_isolated_on_endpoint : ∃ s u, session.Reachable s ∧ s.urbs[0]? = some u ∧
    u.msg.seqnum = 7 ∧ (∃ r i e, s.loop = .cancelAll r i e ∧ r.unlinkSeqnum = 8) ∧
    ∀ a s', session.step s (.loop a) = some s' → s'.urbs[0]? = some u := by
  let actions := Sample.accept (Sample.submit 7 1) ++ Sample.accept (Sample.submit 8 1) ++
    Sample.handOff 0 ++ Sample.openEndpoint 0 ++
    [.loop (.recv (.unlink ⟨9, 8⟩)), .loop .go, .loop .go, .loop .go, .loop .go]
  have hrun : ((session.run (.initial Sample.device) actions).map fun s =>
      s.loop.heldEp == some 0 && s.loop.target.any (fun p => p.1.unlinkSeqnum == 8) &&
      s.urbs[0]?.any (fun u => u.msg.seqnum == 7)) = some true := by
    decide
  obtain ⟨s, hr, hp⟩ := System.exists_reachable_of_run Sample.init_device hrun
  simp only [Bool.and_eq_true, Option.any_eq_true, beq_iff_eq] at hp
  obtain ⟨⟨hheld, p, htarget, hr8⟩, u, hu, hseq⟩ := hp
  obtain ⟨r, i, hloop⟩ := cancelAll_of_heldEp hheld
  rw [hloop] at htarget
  cases htarget
  refine ⟨s, u, hr, hu, hseq, ⟨r, i, 0, hloop, hr8⟩, fun a s' hs => ?_⟩
  refine (unlink_isolated hr).2.2.1 r a s' (by rw [hloop]; rfl) hs 0 u hu ?_
  rw [hseq, hr8]
  decide

/-! The other side: the unlink waits, with the in-flight table locked, for the
transfer that `cancel_all` was to end. -/

/-- `handle_cmd_unlink` waits for the mutex of an endpoint on which a
`transfer_blocking` is pending. -/
def UnlinkWaitsForTransfer (s : State) : Prop :=
  ∃ r i e, s.loop = .epWait r i e ∧ s.inflightLock = .held () ∧
    ∃ (t : Nat) (u : Urb) (b : Bool), s.urbs[t]? = some u ∧
      u.closure = .running (.transferring e b)

def Urb.usesEp (u : Urb) : Option Nat :=
  match u.closure with
  | .running pc => pc.uses
  | _ => none

def Urb.waitsEp (u : Urb) : Option Nat :=
  match u.closure with
  | .running (.epWait e) => some e
  | _ => none

def LoopPc.waitsEp : LoopPc → Option Nat
  | .epWait _ _ e => some e
  | _ => none

/-- The endpoint on which the URB's `transfer_blocking` is pending. -/
def Urb.pendingEp (u : Urb) : Option Nat :=
  match u.closure with
  | .running (.transferring e _) => some e
  | _ => none

theorem epWait_of_waitsEp {l : LoopPc} {e : Nat} (h : l.waitsEp = some e) :
    ∃ r i, l = .epWait r i e := by
  cases l <;> cases h
  exact ⟨_, _, rfl⟩

theorem closure_of_pendingEp {e : Nat} (h : u.pendingEp = some e) :
    ∃ b, u.closure = .running (.transferring e b) := by
  unfold Urb.pendingEp at h
  split at h <;> cases h
  exact ⟨_, ‹_›⟩

/-- The endpoint whose mutex `cancel_endpoint` is about to wait for. -/
def State.cancelEp (s : State) : Option Nat :=
  match s.loop with
  | .cancelling _ i =>
    if i.epAddr ≠ 0 then (s.device.endpoints.lookup i.epAddr).map (·.ep) else none
  | _ => none

/-- When `cancel_endpoint` turns to an endpoint, no call has it locked for a
transfer, and none gets in front while it waits. -/
def Uncontended (s : State) : Action → Prop
  | .loop .go => ∀ e ∈ s.cancelEp, ∀ u ∈ s.urbs, u.usesEp ≠ some e
  | .closure t (.call _) => ∀ e ∈ s.loop.waitsEp, ∀ u ∈ s.urbs[t]?, u.waitsEp ≠ some e
  | _ => True

instance (s : State) : ∀ a, Decidable (Uncontended s a)
  | .loop .go => inferInstanceAs (Decidable (∀ e ∈ s.cancelEp, ∀ u ∈ s.urbs, u.usesEp ≠ some e))
  | .closure t (.call _) =>
    inferInstanceAs (Decidable (∀ e ∈ s.loop.waitsEp, ∀ u ∈ s.urbs[t]?, u.waitsEp ≠ some e))
  | .loop (.recv _) | .loop .hangUp | .loop (.drain _) | .loop (.write _) | .loop .failWrite
  | .closure _ .start | .closure _ .panic | .closure _ .finish | .task _ _ => .isTrue trivial

def WaitsAlone (s : State) : Prop :=
  ∀ e, s.loop.waitsEp = some e → Each (fun _ u => u.usesEp ≠ some e) s.urbs

theorem held_of_uses {pc : CallPc} {e : Nat} (h : pc.uses = some e) : pc.held = some e := by
  cases pc <;> first | exact h | cases h

theorem uses_start (c : Call) : c.start.uses = none := by
  unfold Call.start
  split
  · rfl
  · split_ifs <;> rfl

theorem waitsAlone_closure {a : ClosureAction} (hu : s.urbs[t]? = some u)
    (hm : ClosureMove s t u a s') (hc : Uncontended s (.closure t a)) (h : WaitsAlone s) :
    WaitsAlone s' := by
  have hset : ∀ c, s'.urbs = s.urbs.set t { u with closure := c } →
      (∀ e, s.loop.waitsEp = some e → ({ u with closure := c } : Urb).usesEp ≠ some e) →
      WaitsAlone s' := by
    intro c hs hne e he
    rw [hm.loop_eq] at he
    rw [hs]
    exact (h e he).set (hne e he) fun _ _ _ _ hv => hv
  cases hm with
  | start => exact hset _ rfl fun e _ hq => by simp [Urb.usesEp, uses_start] at hq
  | @call pc a r hcl hr =>
    refine hset _ rfl fun e he hq => ?_
    have hq : r.pc.uses = some e := hq
    cases callStep_effect hr with
    | quiet _ _ hnone =>
      rw [hnone] at hq
      cases hq
    | acquire e' _ _ hpc hpc' =>
      rw [hpc'] at hq
      obtain rfl := Option.some.inj hq
      exact hc e' he u hu (by rw [Urb.waitsEp, hcl, hpc])
    | begin e' _ _ _ hpc hpc' =>
      rw [hpc'] at hq
      obtain rfl := Option.some.inj hq
      exact h e' he t u hu (by simp only [Urb.usesEp, hcl, hpc]; rfl)
    | release _ _ _ _ hnone =>
      rw [held_of_uses hq] at hnone
      cases hnone
  | panic => exact hset _ rfl fun e _ hq => by cases hq
  | finish => exact hset _ rfl fun e _ hq => by cases hq
  | finishPanic => exact hset _ rfl fun e _ hq => by cases hq

theorem waitsAlone {s : State} (h : session.ReachableBy Uncontended s) : WaitsAlone s := by
  refine h.invariant ?_ ?_
  · rintro s ⟨configurations, active, rfl⟩ e ⟨⟩
  · intro s a s' _ hi hc hs
    cases step_move hs with
    | task hu hm =>
      obtain ⟨u', hset, _, _, _, hcl⟩ := hm.set
      intro e he
      rw [hm.loop_eq] at he
      rw [hset]
      refine (hi e he).set (fun hq => ?_) fun _ _ _ _ hv => hv
      rcases hcl with hcl | ⟨_, hcl⟩
      · exact hi e he _ _ hu (by simpa only [Urb.usesEp, hcl] using hq)
      · simp only [Urb.usesEp, hcl] at hq
        cases hq
    | closure hu hm => exact waitsAlone_closure hu hm hc hi
    | loop hm =>
      intro e he
      cases hm with
      | @cached r i entry hl ha hlook =>
        obtain rfl := Option.some.inj he
        have hep : s.cancelEp = some entry.ep := by
          rw [State.cancelEp, hl]
          simp only [if_pos ha, hlook, Option.map_some]
        exact fun t u hu => hc entry.ep hep u (List.mem_of_getElem? hu)
      | drain | drainAbort =>
        rw [drainNext_eq LoopPc.waitsEp fun _ _ => rfl] at he
        cases he
      | _ => cases he

theorem unlink_never_waits_for_transfer (h : session.ReachableBy Uncontended s) :
    ¬ UnlinkWaitsForTransfer s := by
  rintro ⟨r, i, e, hl, _, t, u, b, hu, hc⟩
  have he : s.loop.waitsEp = some e := by rw [hl]; rfl
  exact waitsAlone h e he t u hu (by rw [Urb.usesEp, hc]; rfl)

/-- The unlink arrives while its target is still in front of the endpoint mutex. -/
theorem unlink_waits_before_transfer : ∃ s, session.ReachableBy Uncontended s ∧
    s.loop.waitsEp = some 0 ∧ (∃ u ∈ s.urbs, u.waitsEp = some 0) ∧ ¬ UnlinkWaitsForTransfer s := by
  let actions := Sample.accept (Sample.submit 7 1) ++ Sample.handOff 0 ++ Sample.openEndpoint 0 ++
    [.loop (.recv (.unlink ⟨8, 7⟩)), .loop .go, .loop .go, .loop .go]
  have hrun : ((session.replay Uncontended (.initial Sample.device) actions).map fun s =>
      s.loop.waitsEp == some 0 && s.urbs.any (·.waitsEp == some 0)) = some true := by
    decide
  obtain ⟨s, hr, hp⟩ := System.exists_reachableBy_of_replay Sample.init_device hrun
  simp only [Bool.and_eq_true, List.any_eq_true, beq_iff_eq] at hp
  exact ⟨s, hr, hp.1, hp.2, unlink_never_waits_for_transfer hr⟩

/-- The unlink arrives while the transfer is pending: it waits for the mutex, the
holder for its device, and nobody gets at the in-flight table until then. -/
theorem unlink_waits_for_transfer :
    ¬ ∀ s, session.Reachable s → ¬ UnlinkWaitsForTransfer s := by
  intro hall
  let actions := Sample.accept (Sample.submit 7 1) ++ Sample.handOff 0 ++ Sample.openEndpoint 0 ++
    Sample.startTransfer 0 ++
    [.loop (.recv (.unlink ⟨8, 7⟩)), .loop .go, .loop .go, .loop .go]
  have hrun : ((session.run (.initial Sample.device) actions).map fun s =>
      s.loop.waitsEp == some 0 && s.urbs[0]?.any (fun u => u.pendingEp == some 0) &&
      s.inflightLock == .held ()) = some true := by
    decide
  obtain ⟨s, hr, hp⟩ := System.exists_reachable_of_run Sample.init_device hrun
  simp only [Bool.and_eq_true, Option.any_eq_true, beq_iff_eq] at hp
  obtain ⟨⟨hwaits, u, hu, hpending⟩, hlock⟩ := hp
  obtain ⟨r, i, hl⟩ := epWait_of_waitsEp hwaits
  obtain ⟨b, hc⟩ := closure_of_pendingEp hpending
  exact hall s hr ⟨r, i, 0, hl, hlock, 0, u, b, hu, hc⟩

end Usbip.Session
