import UsbipdDarwin.Session.Table

/-! Whose `cancelled` flag is raised and whose task is aborted. As long as the
session is not being torn down, only a `CMD_UNLINK` does either, and only to the
URB it names. -/

namespace Usbip.Session
open Proto Host Lts

variable {s s' : State} {t : Nat} {u : Urb}

def LoopPc.handling : LoopPc → Option Unlink
  | .unlinking r | .flagging r _ | .cancelling r _ | .epWait r _ _ | .cancelAll r _ _
  | .aborting r _ | .unlocking r | .replying r | .writing r _ => some r
  | _ => none

def Targeted (log : List Event) (n : UInt32) : Prop :=
  ∃ r, Event.readUnlink r ∈ log ∧ r.unlinkSeqnum = n

def Urb.flagged (u : Urb) : Bool := u.cancelled || u.aborted

theorem handling_of_target {l : LoopPc} {r : Unlink} {i : Inflight}
    (h : l.target = some (r, i)) : l.handling = some r := by
  cases l <;> cases h <;> rfl

theorem LoopMove.drained_mono {a : LoopAction} (hm : LoopMove s a s')
    (h : s.loop.drained = true) : s'.loop.drained = true := by
  cases hm with
  | drain | drainAbort => exact drainNext_eq LoopPc.drained (fun _ _ => rfl) _
  | drainFlag => rfl
  | panic hl =>
    rcases hl with ⟨_, _, hl⟩ | ⟨_, hl⟩ | hl <;> rw [hl] at h <;> cases h
  | _ hl => rw [hl] at h; cases h

theorem LoopMove.handling {a : LoopAction} {r : Unlink} (hm : LoopMove s a s')
    (h : s'.loop.handling = some r) :
    s.loop.handling = some r ∨ s'.log = .readUnlink r :: s.log := by
  cases hm with
  | unlink => cases h; exact .inr rfl
  | drain | drainAbort => rw [drainNext_eq LoopPc.handling fun _ _ => rfl] at h; cases h
  | submit | hangUp | spawn | insert | panic | epPoisoned | finishWrite | drainFlag | failWrite =>
    cases h
  | _ hl => cases h; exact .inl (by rw [hl]; rfl)

theorem LoopMove.flagged {a : LoopAction} (hm : LoopMove s a s') {v' : Urb}
    (hv : s'.urbs[t]? = some v') (hf : v'.flagged = true) :
    (∃ v, s.urbs[t]? = some v ∧ v.msg = v'.msg ∧ v.flagged = true) ∨
      (∃ r i, s.loop.target = some (r, i) ∧ i.task = t) ∨ s'.loop.drained = true := by
  have hmod : ∀ {r : Unlink} {i : Inflight} {f : Urb → Urb}, s.loop.target = some (r, i) →
      (s.urbs.modify i.task f)[t]? = some v' →
      (∃ v, s.urbs[t]? = some v ∧ v.msg = v'.msg ∧ v.flagged = true) ∨
        (∃ r i, s.loop.target = some (r, i) ∧ i.task = t) ∨ s'.loop.drained = true := by
    intro r i f ht hget
    by_cases hi : i.task = t
    · exact .inr (.inl ⟨r, i, ht, hi⟩)
    · rw [List.getElem?_modify_ne _ _ hi] at hget
      exact .inl ⟨v', hget, rfl, hf⟩
  cases hm with
  | spawn =>
    rcases getElem?_append_some hv with hv | ⟨_, rfl⟩
    · exact .inl ⟨v', hv, rfl, hf⟩
    · cases hf
  | flag hl => exact hmod (by rw [hl]; rfl) hv
  | abort hl => exact hmod (by rw [hl]; rfl) hv
  | @cancelAll r i e hl =>
    rw [List.getElem?_map] at hv
    obtain ⟨v, hold, rfl⟩ := Option.map_eq_some_iff.mp hv
    obtain ⟨hc, ha⟩ := Urb.hit_flags e v
    exact .inl ⟨v, hold, (Urb.raised_hit e v).msg.symm, by rwa [Urb.flagged, hc, ha] at hf⟩
  | drainFlag => exact .inr (.inr rfl)
  | drainAbort => exact .inr (.inr (drainNext_eq LoopPc.drained (fun _ _ => rfl) _))
  | _ => exact .inl ⟨v', hv, rfl, hf⟩

structure FlagsOk (s : State) : Prop where
  handling : ∀ r, s.loop.handling = some r → .readUnlink r ∈ s.log
  targeted : s.loop.drained = false → ∀ (t : Nat) (u : Urb), s.urbs[t]? = some u →
    u.flagged = true → Targeted s.log u.msg.seqnum

theorem Targeted.move {a : Action} {n : UInt32} (hm : Move s a s') (h : Targeted s.log n) :
    Targeted s'.log n := by
  obtain ⟨r, hr, hn⟩ := h
  exact ⟨r, hm.log_mono hr, hn⟩

theorem FlagsOk.frame {a : Action} (hm : Move s a s') (h : FlagsOk s) (hl : s'.loop = s.loop)
    (ho : ∀ (t : Nat) (u' : Urb), s'.urbs[t]? = some u' → ∃ u, s.urbs[t]? = some u ∧
      u'.msg = u.msg ∧ u'.cancelled = u.cancelled ∧ u'.aborted = u.aborted) : FlagsOk s' where
  handling r hr := hm.log_mono (h.handling r (hl ▸ hr))
  targeted hd t u' hu' hf := by
    obtain ⟨u, hu, hmsg, hc, ha⟩ := ho t u' hu'
    rw [Urb.flagged, hc, ha] at hf
    rw [hmsg]
    exact (h.targeted (hl ▸ hd) t u hu hf).move hm

theorem flagsOk_loop {a : LoopAction} (hm : LoopMove s a s') (ht : TableOk s) (h : FlagsOk s) :
    FlagsOk s' where
  handling r hr := by
    rcases hm.handling hr with hr | hlog
    · exact (Move.loop hm).log_mono (h.handling r hr)
    · rw [hlog]
      exact List.mem_cons_self ..
  targeted hd t u' hu' hf := by
    have hd' : s.loop.drained = false := by
      refine Bool.eq_false_iff.mpr fun hs => ?_
      rw [hm.drained_mono hs] at hd
      cases hd
    rcases hm.flagged hu' hf with ⟨u, hu, hmsg, hf⟩ | ⟨r, i, htgt, rfl⟩ | hdr
    · rw [← hmsg]
      exact (h.targeted hd' t u hu hf).move (.loop hm)
    · obtain ⟨u, hu, hseq, _⟩ := (ht.target r i htgt).1.move (.loop hm)
      rw [hu'] at hu
      cases hu
      exact ⟨r, (Move.loop hm).log_mono (h.handling r (handling_of_target htgt)), hseq.symm⟩
    · rw [hdr] at hd
      cases hd

theorem flagsOk {C : State → Action → Prop} (h : session.ReachableBy C s) : FlagsOk s := by
  refine h.invariant ?_ ?_
  · rintro s ⟨configurations, active, rfl⟩
    constructor
    · rintro r ⟨⟩
    · intro _ t u hu
      simp [State.initial] at hu
  · intro s a s' hr hi _ hs
    have hm := step_move hs
    cases hm with
    | task hu hm => exact hi.frame (.task hu hm) hm.loop_eq fun _ _ => hm.origin hu
    | closure hu hm => exact hi.frame (.closure hu hm) hm.loop_eq fun _ _ => hm.origin hu
    | loop hm => exact flagsOk_loop hm (tableOk hr) hi

end Usbip.Session
