import UsbipdDarwin.Session.Balance

/-! `MAX_INFLIGHT_URBS` against the blocking pool. The permits count tasks; a
closure is bounded by them only while its task is there to hold the permit. -/

namespace Usbip.Session
open Proto Host Lts

variable {s s' : State} {t : Nat} {u u' : Urb}

def Urb.charged (u : Urb) : Bool :=
  u.outstanding || match u.task with
    | .spawned => true
    | _ => false

def LoopPc.over (l : LoopPc) : Bool :=
  l.closed || match l with
    | .panicked => true
    | _ => false

/-- While `urb_loop` runs, no abort drops a task whose closure is still out. -/
def DropsNoneOut (s : State) : Action → Prop
  | .task t .drop => s.loop.over = false → ∀ u ∈ s.urbs[t]?, u.outstanding = false
  | _ => True

instance (s : State) : ∀ a, Decidable (DropsNoneOut s a)
  | .task t .drop =>
    inferInstanceAs (Decidable (s.loop.over = false → ∀ u ∈ s.urbs[t]?, u.outstanding = false))
  | .task _ .poll | .task _ .suspend | .task _ .handOff | .task _ .join | .task _ .check
  | .task _ .lockWriter | .task _ (.write _) | .task _ .finishWrite | .task _ .failWrite
  | .task _ .remove | .closure _ _ | .loop _ => .isTrue trivial

def State.live (s : State) : Nat := s.urbs.countP Urb.live

def PermitsOk (s : State) : Prop := s.permits + s.live = maxInflightUrbs

theorem Urb.Raised.live_eq (hr : u.Raised u') : u'.live = u.live := by
  rw [Urb.live, hr.task, Urb.live]

theorem Urb.Raised.charged_eq (hr : u.Raised u') : u'.charged = u.charged := by
  rw [Urb.charged, hr.outstanding_eq, hr.task, Urb.charged]

theorem live_of_awaits (h : u.task.awaits = true) : u.live = true := by
  unfold Urb.live
  generalize u.task = pc at h ⊢
  cases pc <;> first | rfl | cases h

theorem TaskMove.permits {a : TaskAction} (hm : TaskMove s t u a s') :
    ∃ u', s'.urbs = s.urbs.set t u' ∧
      ((s'.permits = s.permits ∧ u'.live = u.live) ∨
        (s'.permits = s.permits + 1 ∧ u.live = true ∧ u'.live = false)) := by
  have hlive : ∀ {pc : TaskPc}, u.task = pc → u.live = ({ u with task := pc } : Urb).live := by
    rintro pc rfl
    rfl
  cases hm with
  | poll | suspend => exact ⟨_, rfl, .inl ⟨rfl, rfl⟩⟩
  | remove _ ht | removePanic _ ht => exact ⟨_, rfl, .inr ⟨rfl, hlive ht, rfl⟩⟩
  | drop _ _ hw => exact ⟨_, rfl, .inr ⟨rfl, live_of_awaits hw, rfl⟩⟩
  | dropWriting _ _ ht => exact ⟨_, rfl, .inr ⟨rfl, hlive ht, rfl⟩⟩
  | _ _ ht => exact ⟨_, rfl, .inl ⟨rfl, (hlive ht).symm⟩⟩

theorem LoopMove.permits {a : LoopAction} (hm : LoopMove s a s') :
    (s'.permits = s.permits ∧ ∀ m, s.loop ≠ .acquiring m) ∨
      ((∃ m, s.loop = .acquiring m) ∧ 0 < s.permits ∧ s'.permits = s.permits - 1) := by
  cases hm with
  | spawn hl hp => exact .inr ⟨⟨_, hl⟩, hp, rfl⟩
  | panic hl =>
    refine .inl ⟨rfl, fun m hm => ?_⟩
    rcases hl with ⟨_, _, hl⟩ | ⟨_, hl⟩ | hl <;> rw [hl] at hm <;> cases hm
  | _ hl => exact .inl ⟨rfl, by simp [hl]⟩

theorem permitsOk {C : State → Action → Prop} (h : session.ReachableBy C s) : PermitsOk s := by
  refine h.invariant ?_ ?_
  · rintro s ⟨configurations, active, rfl⟩
    rfl
  · intro s a s' _ hi _ hs
    unfold PermitsOk State.live at hi ⊢
    cases step_move hs with
    | task hu hm =>
      obtain ⟨u', hset, hp⟩ := hm.permits
      have hcount : (s.urbs.set _ u').countP Urb.live + _ = _ := countP_set_add hu
      rw [hset]
      rcases hp with ⟨hp, hl⟩ | ⟨hp, hl, hl'⟩
      · rw [hl] at hcount
        omega
      · simp only [hl, hl', Bool.false_eq_true, if_true, if_false] at hcount
        omega
    | closure hu hm =>
      obtain ⟨c, hset⟩ := hm.set
      obtain ⟨_, _, _, hp, _⟩ := hm.frame
      have hcount : s'.urbs.countP Urb.live = s.urbs.countP Urb.live := by
        rw [hset]
        exact countP_set_eq hu rfl
      rw [hp, hcount]
      exact hi
    | loop hm =>
      rcases hm.countP fun _ _ hr => hr.live_eq with ⟨hc, hne⟩ | ⟨m, hl, _, hc⟩
      · rcases hm.permits with ⟨hp, _⟩ | ⟨⟨m, hl⟩, _⟩
        · rw [hp, hc]
          exact hi
        · exact absurd hl (hne m)
      · rcases hm.permits with ⟨_, hne⟩ | ⟨_, hpos, hp⟩
        · exact absurd hl (hne m)
        · have hnew : (({ msg := m } : Urb).live) = true := rfl
          rw [hnew, if_pos rfl] at hc
          omega

structure ChargedOk (s : State) : Prop where
  live : s.loop.over = false → Each (fun _ u => u.charged = true → u.live = true) s.urbs
  bound : s.urbs.countP Urb.charged ≤ maxInflightUrbs

theorem charged_of_outstanding (h : u.outstanding = true) : u.charged = true := by
  rw [Urb.charged, h, Bool.true_or]

theorem outstanding_of_charged (h : u'.charged = true) (hc : u'.closure = u.closure)
    (ht : u'.task ≠ .spawned) : u.outstanding = true := by
  have hsame : u'.outstanding = u.outstanding := by
    rw [Urb.outstanding, hc, Urb.outstanding]
  rw [Urb.charged, hsame, Bool.or_eq_true] at h
  refine h.resolve_right fun hspawned => ?_
  generalize u'.task = pc at ht hspawned
  cases pc with
  | spawned => exact ht rfl
  | _ => cases hspawned

theorem TaskMove.charged {a : TaskAction} (hm : TaskMove s t u a s') (h : u.Consistent) :
    ∃ u', s'.urbs = s.urbs.set t u' ∧ (u'.charged = true → u.charged = true) ∧
      (u'.charged = true → u'.live = true ∨ (a = .drop ∧ u.outstanding = true)) := by
  have hafter : ∀ u' : Urb, u'.closure = u.closure → u'.task ≠ .spawned →
      u'.charged = true → u.charged = true :=
    fun _ hc ht hch => charged_of_outstanding (outstanding_of_charged hch hc ht)
  have hdone : u.task = .finished → ∀ u' : Urb, u'.closure = u.closure → u'.task ≠ .spawned →
      ¬ u'.charged = true := by
    intro hf u' hc ht hch
    have hnone : u.outstanding = false := by simpa only [Urb.Consistent, hf] using h
    rw [outstanding_of_charged hch hc ht] at hnone
    cases hnone
  cases hm with
  | poll _ _ hw => exact ⟨_, rfl, id, fun _ => .inl (live_of_awaits hw)⟩
  | suspend _ hw => exact ⟨_, rfl, id, fun _ => .inl (live_of_awaits hw)⟩
  | handOff _ ht => exact ⟨_, rfl, fun _ => by simp [Urb.charged, ht], fun _ => .inl rfl⟩
  | remove _ ht =>
    exact ⟨_, rfl, fun hch => absurd hch (hdone ht _ rfl (by simp)),
      fun hch => absurd hch (hdone ht _ rfl (by simp))⟩
  | removePanic _ ht =>
    exact ⟨_, rfl, fun hch => absurd hch (hdone ht _ rfl (by simp)),
      fun hch => absurd hch (hdone ht _ rfl (by simp))⟩
  | drop | dropWriting =>
    exact ⟨_, rfl, hafter _ rfl (by simp),
      fun hch => .inr ⟨rfl, outstanding_of_charged hch rfl (by simp)⟩⟩
  | _ => exact ⟨_, rfl, hafter _ rfl (by simp), fun _ => .inl rfl⟩

theorem countP_set_le {p : Urb → Bool} (hu : s.urbs[t]? = some u)
    (hp : p u' = true → p u = true) : (s.urbs.set t u').countP p ≤ s.urbs.countP p := by
  have hc : (s.urbs.set t u').countP p + _ = _ := countP_set_add hu
  by_cases h : p u' = true
  · rw [h, hp h] at hc
    omega
  · rw [if_neg h] at hc
    omega

theorem LoopMove.over_mono {a : LoopAction} (hm : LoopMove s a s') (h : s.loop.over = true) :
    s'.loop.over = true := by
  cases hm with
  | drain | drainAbort => exact drainNext_eq LoopPc.over (fun _ _ => rfl) _
  | hangUp | panic | epPoisoned | drainFlag | failWrite => rfl
  | _ hl => rw [hl] at h; cases h

theorem chargedOk_loop {a : LoopAction} (hm : LoopMove s a s') (hp : PermitsOk s)
    (h : ChargedOk s) : ChargedOk s' := by
  refine ⟨fun ho => ?_, ?_⟩
  · have ho' : s.loop.over = false := by
      refine Bool.eq_false_iff.mpr fun hover => ?_
      rw [hm.over_mono hover] at ho
      cases ho
    intro i v hv hch
    rcases hm.origin hv with ⟨w, hw, hr⟩ | ⟨m, _, _, rfl⟩
    · rw [hr.live_eq]
      exact h.live ho' i w hw (hr.charged_eq ▸ hch)
    · rfl
  · rcases hm.countP fun _ _ hr => hr.charged_eq with ⟨hc, _⟩ | ⟨m, hl, _, hc⟩
    · rw [hc]
      exact h.bound
    · -- the permit the new task takes was nobody's, so some other URB is not charged
      have ho : s.loop.over = false := by rw [hl]; rfl
      have hle : s.urbs.countP Urb.charged ≤ s.live := by
        refine List.countP_mono_left fun u hu hch => ?_
        obtain ⟨i, hi⟩ := List.mem_iff_getElem?.mp hu
        exact h.live ho i u hi hch
      have hnew : (({ msg := m } : Urb).charged) = true := rfl
      rw [hc, hnew, if_pos rfl]
      unfold PermitsOk at hp
      rcases hm.permits with ⟨_, hne⟩ | ⟨_, hpos, _⟩
      · exact absurd hl (hne m)
      · omega

theorem chargedOk (h : session.ReachableBy DropsNoneOut s) : ChargedOk s := by
  refine h.invariant ?_ ?_
  · rintro s ⟨configurations, active, rfl⟩
    exact ⟨fun _ => .nil, Nat.zero_le _⟩
  · intro s a s' hr hi hc hs
    cases step_move hs with
    | task hu hm =>
      obtain ⟨u', hset, hdown, hlive⟩ := hm.charged ((repliesOk hr).consistent _ _ hu)
      refine ⟨fun ho => ?_, ?_⟩
      · rw [hm.loop_eq] at ho
        rw [hset]
        refine (hi.live ho).set (fun hch => ?_) fun _ _ _ _ hv => hv
        rcases hlive hch with hl | ⟨rfl, hout⟩
        · exact hl
        · rw [hc ho _ hu] at hout
          cases hout
      · rw [hset]
        exact (countP_set_le hu hdown).trans hi.bound
    | closure hu hm =>
      obtain ⟨c, hset⟩ := hm.set
      have hout := charged_of_outstanding hm.outstanding
      refine ⟨fun ho => ?_, ?_⟩
      · rw [hm.loop_eq] at ho
        have hlive := hi.live ho _ _ hu hout
        rw [hset]
        exact (hi.live ho).set (fun _ => hlive) fun _ _ _ _ hv => hv
      · rw [hset]
        exact (countP_set_le hu fun _ => hout).trans hi.bound
    | loop hm => exact chargedOk_loop hm (permitsOk hr) hi

theorem outstanding_le_max (h : session.ReachableBy DropsNoneOut s) :
    s.urbs.countP Urb.outstanding ≤ maxInflightUrbs := by
  refine le_trans ?_ (chargedOk h).bound
  exact List.countP_mono_left fun u _ ho => charged_of_outstanding ho

theorem outstanding_le_max_one : ∃ s, session.ReachableBy DropsNoneOut s ∧
    0 < s.urbs.countP Urb.outstanding ∧ s.urbs.countP Urb.outstanding ≤ maxInflightUrbs := by
  let actions := Sample.accept (Sample.submit 7 1) ++ Sample.handOff 0 ++ Sample.openEndpoint 0
  have hrun : ((session.replay DropsNoneOut (.initial Sample.device) actions).map fun s =>
      decide (0 < s.urbs.countP Urb.outstanding)) = some true := by
    decide
  obtain ⟨s, hr, hp⟩ := System.exists_reachableBy_of_replay Sample.init_device hrun
  exact ⟨s, hr, of_decide_eq_true hp, outstanding_le_max hr⟩

/-! A client that unlinks each URB once its closure is in the pool gets the permit
back and leaves the closure behind. -/

def idle (d : OpenedDevice) (m : HashMap UInt32 Inflight) (w : Bytes) (us : List Urb)
    (l : List Event) : State where
  device := d
  inflight := m
  inflightLock := .free
  permits := maxInflightUrbs
  writer := .free
  wire := w
  loop := .reading
  urbs := us
  log := l

def churn (t : Nat) : List Action :=
  (Sample.accept (Sample.submit 7 0) ++ Sample.handOff t) ++ Sample.unlink ++
    (Sample.writeUnlink ++ [.task t .drop])

def parked : Urb where
  msg := Sample.submit 7 0
  task := .awaiting
  closure := .queued

def abandoned : Urb where
  msg := Sample.submit 7 0
  cancelled := true
  aborted := true
  task := .dropped
  closure := .queued

variable (d : OpenedDevice) (m : HashMap UInt32 Inflight) (w : Bytes) (us : List Urb)
  (l : List Event)

theorem run_park : ∃ m' l', m'.lookup 7 = some ⟨us.length, 0⟩ ∧
    session.run (idle d m w us l) (Sample.accept (Sample.submit 7 0) ++ Sample.handOff us.length) =
      some { idle d m' w (us ++ [parked]) l' with permits := 255 } := by
  have hw : (Sample.submit 7 0).WellFormed := by decide
  refine ⟨m.insert 7 ⟨us.length, 0⟩, .readSubmit us.length 7 :: l, AList.lookup_insert _, ?_⟩
  have he : (Sample.submit 7 0).epAddr = 0 := by decide
  have hs : (Sample.submit 7 0).seqnum = 7 := by decide
  simp [System.run, System.replay, session, step, loopStep, loopGo, taskStep, idle, Sample.accept,
    Sample.spawn, Sample.handOff, hw, he, hs, maxInflightUrbs, TaskPc.awaits, parked]

theorem run_unlink (hm : m.lookup 7 = some ⟨us.length, 0⟩) : ∃ m' l',
    session.run { idle d m w (us ++ [parked]) l with permits := 255 } Sample.unlink =
      some { idle d m' w (us ++ [{ parked with cancelled := true, aborted := true }]) l' with
        permits := 255
        loop := .replying ⟨8, 7⟩ } := by
  refine ⟨m.erase 7, .aborted us.length true :: .readUnlink ⟨8, 7⟩ :: l, ?_⟩
  simp [System.run, System.replay, session, step, loopStep, loopGo, idle, Sample.unlink, hm,
    modify_length, parked, Urb.polled]

theorem run_abandon : ∃ w' l',
    session.run { idle d m w (us ++ [{ parked with cancelled := true, aborted := true }]) l with
        permits := 255
        loop := .replying ⟨8, 7⟩ } (Sample.writeUnlink ++ [.task us.length .drop]) =
      some (idle d m w' (us ++ [abandoned]) l') := by
  refine ⟨w ++ (retUnlinkFrame ⟨8, 7⟩).take 48, .retUnlink ⟨8, 7⟩ :: l, ?_⟩
  simp [System.run, System.replay, session, step, loopStep, loopGo, taskStep, idle,
    Sample.writeUnlink, parked, abandoned, TaskPc.awaits, retUnlinkFrame, length_writeRetUnlink,
    maxInflightUrbs]

theorem run_churn : ∃ m' w' l', session.run (idle d m w us l) (churn us.length) =
    some (idle d m' w' (us ++ [abandoned]) l') := by
  obtain ⟨m₁, l₁, hlookup, hpark⟩ := run_park d m w us l
  obtain ⟨m₂, l₂, hunlink⟩ := run_unlink d m₁ w us l₁ hlookup
  obtain ⟨w', l', habandon⟩ := run_abandon d m₂ w us l₂
  exact ⟨m₂, w', l', System.run_append (System.run_append hpark hunlink) habandon⟩

theorem exists_outstanding (k : Nat) : ∃ d m w us l, session.Reachable (idle d m w us l) ∧
    us.countP Urb.outstanding = k := by
  induction k with
  | zero => exact ⟨Sample.device, ∅, [], [], [], .start Sample.init_device, rfl⟩
  | succ k ih =>
    obtain ⟨d, m, w, us, l, hr, hk⟩ := ih
    obtain ⟨m', w', l', hrun⟩ := run_churn d m w us l
    refine ⟨d, m', w', us ++ [abandoned], l', System.replay_reachableBy hr hrun, ?_⟩
    rw [List.countP_append, hk]
    rfl

theorem outstanding_exceeds_max :
    ¬ ∀ s, session.Reachable s → s.urbs.countP Urb.outstanding ≤ maxInflightUrbs := by
  intro hall
  obtain ⟨d, m, w, us, l, hr, hk⟩ := exists_outstanding (maxInflightUrbs + 1)
  have hle : us.countP Urb.outstanding ≤ maxInflightUrbs := hall _ hr
  omega

end Usbip.Session
