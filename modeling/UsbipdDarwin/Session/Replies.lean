import UsbipdDarwin.Session.Flags

/-! Who answers what. Every `RET_SUBMIT` is the frame its own URB built from its
own closure's outcome, a URB answers at most once, and one that ends without an
answer was unlinked, lost its closure to a panic or could not write. -/

namespace Usbip.Session
open Proto Host Lts

variable {s s' : State} {t : Nat} {u u' : Urb}

def Urb.undecided (u : Urb) : Bool :=
  match u.task with
  | .spawned | .awaiting | .joined _ | .replying _ | .writing .. => true
  | _ => false

def Urb.Answers (u : Urb) (frame : Bytes) : Prop :=
  ∃ r, u.closure = .returned r ∧ frame = retSubmitFrame u.msg r

def Urb.outstanding (u : Urb) : Bool :=
  match u.closure with
  | .queued | .running _ => true
  | _ => false

def Urb.Consistent (u : Urb) : Prop :=
  match u.task with
  | .spawned => u.closure = .idle
  | .joined r => u.closure = .returned r
  | .replying frame | .writing frame _ => u.Answers frame
  | .finished | .returned | .panicked => u.outstanding = false
  | .awaiting | .dropped => True

theorem Urb.Raised.outstanding_eq (hr : u.Raised u') : u'.outstanding = u.outstanding := by
  rcases hr.closure with hc | ⟨e, b, hc, hc'⟩
  · rw [Urb.outstanding, hc, Urb.outstanding]
  · rw [Urb.outstanding, hc', Urb.outstanding, hc]

theorem Urb.Answers.outstanding_eq {frame : Bytes} (h : u.Answers frame) :
    u.outstanding = false := by
  obtain ⟨r, hr, _⟩ := h
  rw [Urb.outstanding, hr]

theorem Urb.Raised.consistent (hr : u.Raised u') (h : u.Consistent) : u'.Consistent := by
  have hout := hr.outstanding_eq
  rcases hr.closure with hc | ⟨e, b, hc, _⟩
  · simpa only [Urb.Consistent, Urb.Answers, hr.task, hr.msg, hc, hout] using h
  · unfold Urb.Consistent at h ⊢
    rw [hr.task]
    cases ht : u.task <;> simp_all [Urb.Answers]

theorem ClosureMove.outstanding {a : ClosureAction} (hm : ClosureMove s t u a s') :
    u.outstanding = true := by
  unfold Urb.outstanding
  cases hm with
  | start hc => rw [hc]
  | call hc => rw [hc]
  | panic hc => rw [hc]
  | finish hc => rw [hc]
  | finishPanic hc => rw [hc]

theorem ClosureMove.consistent {a : ClosureAction} {c : ClosurePc} (hm : ClosureMove s t u a s')
    (h : u.Consistent) : ({ u with closure := c } : Urb).Consistent := by
  have hout := hm.outstanding
  unfold Urb.Consistent at h ⊢
  cases ht : u.task with
  | awaiting => trivial
  | dropped => trivial
  | replying | writing =>
    rw [ht] at h
    rw [Urb.Answers.outstanding_eq h] at hout
    cases hout
  | _ => simp_all [Urb.outstanding]

theorem TaskMove.consistent {a : TaskAction} (hm : TaskMove s t u a s') (h : u.Consistent)
    (hs : s'.urbs = s.urbs.set t u') (hu : s.urbs[t]? = some u) : u'.Consistent := by
  have hget : ∀ {v : Urb}, s.urbs.set t v = s.urbs.set t u' → v = u' := set_inj hu
  unfold Urb.Consistent at h
  cases hm with
  | poll | suspend => exact hget hs ▸ h
  | handOff => exact hget hs ▸ trivial
  | join _ _ hc => exact hget hs ▸ hc
  | joinFailed _ _ hc =>
    rw [← hget hs]
    simp only [Urb.Consistent, Urb.outstanding, hc]
  | skip _ ht =>
    rw [ht] at h
    rw [← hget hs]
    simp only [Urb.Consistent, Urb.outstanding, h]
  | build _ ht =>
    rw [ht] at h
    exact hget hs ▸ ⟨_, h, rfl⟩
  | lockWriter _ ht | write _ ht =>
    rw [ht] at h
    exact hget hs ▸ h
  | finishWrite _ ht | failWrite _ ht =>
    rw [ht] at h
    exact hget hs ▸ h.outstanding_eq
  | remove _ ht | removePanic _ ht =>
    rw [ht] at h
    exact hget hs ▸ h
  | drop | dropWriting => exact hget hs ▸ trivial

/-- What a step of the task means for the reply: nothing, the reply itself, or an
end without one and the reason for it. -/
inductive Settles (s s' : State) (t : Nat) (u u' : Urb) : Prop
  | keep (hl : s'.log = s.log) (hd : u'.undecided = u.undecided)
  | reply (frame : Bytes) (ht : u.task = .writing frame frame.length)
      (hl : s'.log = .retSubmit t u.msg.seqnum frame :: s.log) (hd : u'.undecided = false)
  | silent (hu : u.undecided = true) (hd : u'.undecided = false)
      (hw : (s'.log = s.log ∧ (u.flagged = true ∨ u.closure = .panicked)) ∨
        s'.log = .writeFailed :: s.log)

theorem undecided_of_awaits (h : u.task.awaits = true) : u.undecided = true := by
  unfold Urb.undecided
  cases ht : u.task <;> simp_all [TaskPc.awaits]

theorem TaskMove.settles {a : TaskAction} (hm : TaskMove s t u a s') :
    ∃ u', s'.urbs = s.urbs.set t u' ∧ u'.msg = u.msg ∧ Settles s s' t u u' := by
  have hdec : ∀ {pc : TaskPc}, u.task = pc →
      u.undecided = ({ u with task := pc } : Urb).undecided := by
    rintro pc rfl
    rfl
  cases hm with
  | poll | suspend => exact ⟨_, rfl, rfl, .keep rfl rfl⟩
  | handOff _ ht => exact ⟨_, rfl, rfl, .keep rfl (hdec ht).symm⟩
  | join _ ht => exact ⟨_, rfl, rfl, .keep rfl (hdec ht).symm⟩
  | joinFailed _ ht hc => exact ⟨_, rfl, rfl, .silent (hdec ht) rfl (.inl ⟨rfl, .inr hc⟩)⟩
  | skip _ ht hc =>
    exact ⟨_, rfl, rfl, .silent (hdec ht) rfl (.inl ⟨rfl, .inl (by simp [Urb.flagged, hc])⟩)⟩
  | build _ ht => exact ⟨_, rfl, rfl, .keep rfl (hdec ht).symm⟩
  | lockWriter _ ht => exact ⟨_, rfl, rfl, .keep rfl (hdec ht).symm⟩
  | write _ ht => exact ⟨_, rfl, rfl, .keep rfl (hdec ht).symm⟩
  | finishWrite _ ht => exact ⟨_, rfl, rfl, .reply _ ht rfl rfl⟩
  | failWrite _ ht => exact ⟨_, rfl, rfl, .silent (hdec ht) rfl (.inr rfl)⟩
  | remove _ ht => exact ⟨_, rfl, rfl, .keep rfl (hdec ht).symm⟩
  | removePanic _ ht => exact ⟨_, rfl, rfl, .keep rfl (hdec ht).symm⟩
  | drop _ ha hw =>
    exact ⟨_, rfl, rfl, .silent (undecided_of_awaits hw) rfl
      (.inl ⟨rfl, .inl (by simp [Urb.flagged, ha])⟩)⟩
  | dropWriting _ ha ht =>
    exact ⟨_, rfl, rfl, .silent (hdec ht) rfl (.inl ⟨rfl, .inl (by simp [Urb.flagged, ha])⟩)⟩

/-- A written `RET_SUBMIT` belongs to a URB that is done with replying. -/
def Attributed (us : List Urb) (t : Nat) (n : UInt32) (frame : Bytes) : Prop :=
  ∃ u, us[t]? = some u ∧ u.msg.seqnum = n ∧ u.Answers frame ∧ u.undecided = false

def Excused (s : State) (t : Nat) (u : Urb) : Prop :=
  (∃ frame, .retSubmit t u.msg.seqnum frame ∈ s.log) ∨ u.flagged = true ∨
    u.closure = .panicked ∨ .writeFailed ∈ s.log

structure RepliesOk (s : State) : Prop where
  consistent : Each (fun _ u => u.Consistent) s.urbs
  attributed : ∀ t n frame, .retSubmit t n frame ∈ s.log → Attributed s.urbs t n frame
  excused : Each (fun t u => u.undecided = false → Excused s t u) s.urbs

theorem Attributed.carries {us us' : List Urb} {n : UInt32} {frame : Bytes}
    (hc : Carries us us') (h : Attributed us t n frame) : Attributed us' t n frame := by
  obtain ⟨u, hu, hn, ⟨r, hr, hf⟩, hd⟩ := h
  obtain ⟨u', hu', hra⟩ := hc t u hu
  have hclosure : u'.closure = .returned r := by
    rcases hra.closure with hcl | ⟨e, b, hcl, _⟩
    · rw [hcl, hr]
    · rw [hr] at hcl
      cases hcl
  exact ⟨u', hu', by rw [hra.msg, hn], ⟨r, hclosure, by rw [hra.msg, hf]⟩,
    by rw [Urb.undecided, hra.task]; exact hd⟩

theorem Attributed.set {i : Nat} {n : UInt32} {frame : Bytes} (hu : s.urbs[t]? = some u)
    (h : Attributed s.urbs i n frame) (hm : u'.msg = u.msg)
    (hk : ∀ f, u.Answers f → u.undecided = false → u'.Answers f ∧ u'.undecided = false) :
    Attributed (s.urbs.set t u') i n frame := by
  obtain ⟨v, hv, hn, ha, hd⟩ := h
  by_cases hi : t = i
  · subst hi
    rw [hu] at hv
    cases hv
    obtain ⟨ha', hd'⟩ := hk frame ha hd
    exact ⟨u', List.getElem?_set_self (lt_length_of_getElem? hu), by rw [hm, hn], ha', hd'⟩
  · exact ⟨v, by rw [List.getElem?_set_ne hi, hv], hn, ha, hd⟩

theorem Excused.move {a : Action} (hm : Move s a s') (h : Excused s t u) (hmsg : u'.msg = u.msg)
    (hf : u.flagged = true → u'.flagged = true)
    (hc : u.closure = .panicked → u'.closure = .panicked) : Excused s' t u' := by
  rcases h with ⟨frame, hr⟩ | hfl | hcl | hw
  · exact .inl ⟨frame, hmsg ▸ hm.log_mono hr⟩
  · exact .inr (.inl (hf hfl))
  · exact .inr (.inr (.inl (hc hcl)))
  · exact .inr (.inr (.inr (hm.log_mono hw)))

theorem repliesOk_task {a : TaskAction} (hu : s.urbs[t]? = some u) (hm : TaskMove s t u a s')
    (h : RepliesOk s) : RepliesOk s' := by
  obtain ⟨u', hset, hmsg, hcan, hab, hcl⟩ := hm.set
  obtain ⟨u'', hset', _, hsettles⟩ := hm.settles
  obtain rfl : u' = u'' := set_inj hu (hset.symm.trans hset')
  have hmove : Move s (.task t a) s' := .task hu hm
  have hflag : u'.flagged = u.flagged := by rw [Urb.flagged, hcan, hab, Urb.flagged]
  -- only a task that has not handed its closure off yet gets a new one
  have hclosure : u.closure ≠ .idle → u'.closure = u.closure := by
    intro hne
    rcases hcl with hcl | ⟨ht, _⟩
    · exact hcl
    · have hidle := h.consistent t u hu
      simp only [Urb.Consistent, ht] at hidle
      exact absurd hidle hne
  have hanswers : ∀ f, u.Answers f → u'.Answers f := by
    rintro f ⟨r, hr, hf⟩
    exact ⟨r, (hclosure (by rw [hr]; simp)).trans hr, by rw [hmsg, hf]⟩
  have hpanicked : u.closure = .panicked → u'.closure = .panicked :=
    fun hp => (hclosure (by rw [hp]; simp)).trans hp
  have hkeep : u.undecided = false → u'.undecided = false := by
    intro hd
    cases hsettles with
    | keep _ hk => rw [hk, hd]
    | reply _ _ _ hk => exact hk
    | silent _ hk => exact hk
  refine ⟨?_, ?_, ?_⟩
  · rw [hset]
    exact h.consistent.set (hm.consistent (h.consistent t u hu) hset hu) fun _ _ _ _ hv => hv
  · intro i n frame hi
    rw [hset]
    have hold : .retSubmit i n frame ∈ s.log → Attributed (s.urbs.set t u') i n frame :=
      fun hi => (h.attributed i n frame hi).set hu hmsg fun f ha hd => ⟨hanswers f ha, hkeep hd⟩
    cases hsettles with
    | keep hl => exact hold (hl ▸ hi)
    | reply f ht hl hd =>
      rw [hl] at hi
      rcases List.mem_cons.mp hi with he | hi
      · cases he
        have hc := h.consistent t u hu
        simp only [Urb.Consistent, ht] at hc
        exact ⟨u', List.getElem?_set_self (lt_length_of_getElem? hu), by rw [hmsg],
          hanswers _ hc, hd⟩
      · exact hold hi
    | silent _ _ hw =>
      rcases hw with ⟨hl, _⟩ | hl
      · exact hold (hl ▸ hi)
      · rw [hl] at hi
        exact hold (by simpa using hi)
  · rw [hset]
    refine h.excused.set ?_ fun i v _ _ he hd =>
      (he hd).move hmove rfl id id
    intro hd'
    cases hsettles with
    | keep _ hk =>
      exact (h.excused t u hu (hk ▸ hd')).move hmove hmsg (hflag ▸ id) hpanicked
    | reply f _ hl => exact .inl ⟨f, by rw [hl, hmsg]; exact List.mem_cons_self ..⟩
    | silent _ _ hw =>
      rcases hw with ⟨_, hf | hp⟩ | hl
      · exact .inr (.inl (hflag.trans hf))
      · exact .inr (.inr (.inl (hpanicked hp)))
      · exact .inr (.inr (.inr (by rw [hl]; exact List.mem_cons_self ..)))

theorem repliesOk_closure {a : ClosureAction} (hu : s.urbs[t]? = some u)
    (hm : ClosureMove s t u a s') (h : RepliesOk s) : RepliesOk s' := by
  obtain ⟨c, hset⟩ := hm.set
  have hmove : Move s (.closure t a) s' := .closure hu hm
  refine ⟨?_, ?_, ?_⟩
  · rw [hset]
    exact h.consistent.set (hm.consistent (h.consistent t u hu)) fun _ _ _ _ hv => hv
  · intro i n frame hi
    rw [hset]
    refine (h.attributed i n frame (mem_log_of hm.log rfl hi)).set hu rfl ?_
    intro f ha
    have hout := hm.outstanding
    rw [ha.outstanding_eq] at hout
    cases hout
  · rw [hset]
    refine h.excused.set ?_ fun i v _ _ he hd => (he hd).move hmove rfl id id
    intro hd
    refine (h.excused t u hu hd).move hmove rfl id fun hp => ?_
    have hout := hm.outstanding
    rw [Urb.outstanding, hp] at hout
    cases hout

theorem Urb.Raised.flagged (hr : u.Raised u') (h : u.flagged = true) : u'.flagged = true := by
  simp only [Urb.flagged, Bool.or_eq_true] at h ⊢
  exact h.imp hr.cancelled hr.aborted

theorem Urb.Raised.undecided_eq (hr : u.Raised u') : u'.undecided = u.undecided := by
  rw [Urb.undecided, hr.task, Urb.undecided]

theorem repliesOk_loop {a : LoopAction} (hm : LoopMove s a s') (h : RepliesOk s) :
    RepliesOk s' := by
  refine ⟨?_, ?_, ?_⟩
  · intro i v hv
    rcases hm.origin hv with ⟨w, hw, hr⟩ | ⟨m, _, _, rfl⟩
    · exact hr.consistent (h.consistent i w hw)
    · rfl
  · intro i n frame hi
    exact (h.attributed i n frame (mem_log_of hm.log rfl hi)).carries hm.carries
  · intro i v hv hd
    rcases hm.origin hv with ⟨w, hw, hr⟩ | ⟨m, _, _, rfl⟩
    · refine (h.excused i w hw (hr.undecided_eq ▸ hd)).move (.loop hm) hr.msg hr.flagged ?_
      intro hp
      rcases hr.closure with hc | ⟨e, b, hc, _⟩
      · rw [hc, hp]
      · rw [hp] at hc
        cases hc
    · cases hd

theorem repliesOk {C : State → Action → Prop} (h : session.ReachableBy C s) : RepliesOk s := by
  refine h.invariant ?_ ?_
  · rintro s ⟨configurations, active, rfl⟩
    exact ⟨.nil, fun t n frame hm => by simp [State.initial] at hm, .nil⟩
  · intro s a s' _ hi _ hs
    cases step_move hs with
    | task hu hm => exact repliesOk_task hu hm hi
    | closure hu hm => exact repliesOk_closure hu hm hi
    | loop hm => exact repliesOk_loop hm hi

theorem RepliesOk.closure_stays {a : Action} (h : RepliesOk s) (hm : Move s a s') {i : Nat}
    {v : Urb} (hv : s.urbs[i]? = some v) (hi : v.closure ≠ .idle) (ho : v.outstanding = false) :
    ∃ v', s'.urbs[i]? = some v' ∧ v'.closure = v.closure := by
  refine hm.keeps (P := fun v' => v'.closure = v.closure) ?_ ?_ ?_ hv rfl
  · intro t u u' a hu hm hs hc
    obtain ⟨u'', hs', _, _, _, hcl⟩ := hm.set
    obtain rfl : u' = u'' := set_inj hu (hs.symm.trans hs')
    rcases hcl with hcl | ⟨ht, _⟩
    · exact hcl.trans hc
    · have hidle := h.consistent t u hu
      simp only [Urb.Consistent, ht] at hidle
      exact absurd (hc.symm.trans hidle) hi
  · intro t u c a hm hc
    have hout := hm.outstanding
    rw [Urb.outstanding, hc] at hout
    rw [Urb.outstanding, hout] at ho
    cases ho
  · intro u u' hr hc
    rcases hr.closure with hcl | ⟨e, b, hcl, _⟩
    · exact hcl.trans hc
    · rw [Urb.outstanding, ← hc, hcl] at ho
      cases ho

end Usbip.Session
