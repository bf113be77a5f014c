import UsbipdDarwin.Session.Unlink

/-! Replies after the unlink of their URB was acknowledged. The `cancelled` flag
silences a task up to its check, the abort one that is suspended after it, the
writer mutex one that is writing; a task caught between check and mutex slips
through. -/

namespace Usbip.Session
open Proto Host Lts

variable {s s' : State} {t : Nat} {u u' : Urb}

def Urb.Muted (u : Urb) : Prop :=
  match u.task with
  | .spawned | .awaiting | .joined _ => u.cancelled = true
  | .replying _ => u.aborted = true ∧ u.polling = false
  | _ => True

theorem TaskMove.muted {a : TaskAction} (hm : TaskMove s t u a s') (hu : s.urbs[t]? = some u)
    (hs : s'.urbs = s.urbs.set t u') (h : u.Muted) :
    u'.Muted ∧ (u.writing = none → u'.writing = none) := by
  have hget : ∀ {v : Urb}, s.urbs.set t v = s.urbs.set t u' → v = u' := set_inj hu
  unfold Urb.Muted at h
  cases hm with
  | poll _ ha =>
    rw [← hget hs]
    refine ⟨?_, id⟩
    unfold Urb.Muted
    cases ht : u.task <;> simp_all
  | suspend =>
    rw [← hget hs]
    refine ⟨?_, id⟩
    unfold Urb.Muted
    cases ht : u.task <;> simp_all
  | handOff _ ht | join _ ht =>
    rw [ht] at h
    rw [← hget hs]
    exact ⟨h, fun _ => rfl⟩
  | build _ ht hc =>
    rw [ht, hc] at h
    cases h
  | lockWriter hp ht =>
    rw [ht] at h
    rw [h.2] at hp
    cases hp
  | write _ ht =>
    rw [← hget hs]
    exact ⟨trivial, fun hw => by rw [writing_of_task ht] at hw; cases hw⟩
  | _ =>
    rw [← hget hs]
    exact ⟨trivial, fun _ => rfl⟩

theorem Urb.Raised.muted (hr : u.Raised u') (h : u.Muted) : u'.Muted := by
  unfold Urb.Muted at h ⊢
  rw [hr.task]
  cases ht : u.task with
  | spawned | awaiting | joined =>
    rw [ht] at h
    exact hr.cancelled h
  | replying =>
    rw [ht] at h
    exact ⟨hr.aborted h.1, hr.polling.trans h.2⟩
  | _ => trivial

theorem Urb.Raised.writing_eq (hr : u.Raised u') : u'.writing = u.writing := by
  rw [Urb.writing, hr.task, Urb.writing]

def Event.names (n : UInt32) : Event → Bool
  | .readUnlink r => r.unlinkSeqnum == n
  | _ => false

def Command.seqnum : Command → UInt32
  | .submit m => m.seqnum
  | .unlink r => r.seqnum

def Event.commandSeqnum : Event → Option UInt32
  | .readSubmit _ n => some n
  | .readUnlink r => some r.seqnum
  | _ => none

def DistinctSeqnums (s : State) : Action → Prop
  | .loop (.recv c) => ∀ e ∈ s.log, e.commandSeqnum ≠ some c.seqnum
  | _ => True

def NotNamedBefore (s : State) : Action → Prop
  | .loop (.recv (.submit m)) => ∀ e ∈ s.log, e.names m.seqnum = false
  | _ => True

def Urb.committed (u : Urb) : Bool :=
  u.polling && match u.task with
    | .replying _ => true
    | _ => false

def LoopPc.aborts : LoopPc → Option Nat
  | .aborting _ i => some i.task
  | _ => none

def AbortsInTime (s : State) : Action → Prop
  | .loop .go => ∀ t ∈ s.loop.aborts, ∀ u ∈ s.urbs[t]?, u.committed = false
  | _ => True

instance (s : State) : ∀ a, Decidable (DistinctSeqnums s a)
  | .loop (.recv c) =>
    inferInstanceAs (Decidable (∀ e ∈ s.log, e.commandSeqnum ≠ some c.seqnum))
  | .task _ _ | .closure _ _ | .loop .hangUp | .loop (.drain _) | .loop .go | .loop (.write _)
  | .loop .failWrite => .isTrue trivial

instance (s : State) : ∀ a, Decidable (NotNamedBefore s a)
  | .loop (.recv (.submit m)) =>
    inferInstanceAs (Decidable (∀ e ∈ s.log, e.names m.seqnum = false))
  | .task _ _ | .closure _ _ | .loop (.recv (.unlink _)) | .loop .hangUp | .loop (.drain _)
  | .loop .go | .loop (.write _) | .loop .failWrite => .isTrue trivial

instance (s : State) : ∀ a, Decidable (AbortsInTime s a)
  | .loop .go =>
    inferInstanceAs (Decidable (∀ t ∈ s.loop.aborts, ∀ u ∈ s.urbs[t]?, u.committed = false))
  | .task _ _ | .closure _ _ | .loop (.recv _) | .loop .hangUp | .loop (.drain _) | .loop (.write _)
  | .loop .failWrite => .isTrue trivial

def UnlinksInTime (s : State) (a : Action) : Prop :=
  DistinctSeqnums s a ∧ NotNamedBefore s a ∧ AbortsInTime s a

instance (s : State) (a : Action) : Decidable (UnlinksInTime s a) :=
  inferInstanceAs (Decidable (_ ∧ _ ∧ _))

theorem commandSeqnum_of_isReadSubmit {e : Event} {n : UInt32} (h : e.isReadSubmit n = true) :
    e.commandSeqnum = some n := by
  cases e with
  | readSubmit t m => exact congrArg some (beq_iff_eq.mp h)
  | _ => cases h

structure SeqnumsOk (s : State) : Prop where
  once : ∀ n, s.submits n ≤ 1
  fresh : ∀ m, s.loop = .acquiring m → ¬ Targeted s.log m.seqnum

theorem SeqnumsOk.frame {p : Event → Bool} (h : SeqnumsOk s) (hl : s'.loop = s.loop)
    (hlog : s'.log = s.log ∨ ∃ e, s'.log = e :: s.log ∧ p e = true)
    (hsubmit : ∀ e, p e = true → ∀ n, e.isReadSubmit n = false)
    (hunlink : ∀ r, p (.readUnlink r) = false) : SeqnumsOk s' where
  once n := by
    rw [State.submits, countP_log_eq (fun e he => hsubmit e he n) hlog]
    exact h.once n
  fresh m hm := by
    rintro ⟨r, hr, hn⟩
    exact h.fresh m (hl ▸ hm) ⟨r, mem_log_of hlog (hunlink r) hr, hn⟩

theorem seqnumsOk_loop {a : LoopAction} (hm : LoopMove s a s')
    (hc : DistinctSeqnums s (.loop a)) (hn : NotNamedBefore s (.loop a)) (h : SeqnumsOk s) :
    SeqnumsOk s' := by
  have hkeep : (∀ n, s'.submits n = s.submits n) → (∀ m, s'.loop ≠ .acquiring m) →
      SeqnumsOk s' := by
    intro hsub hl
    refine ⟨fun n => ?_, fun m hm => absurd hm (hl m)⟩
    rw [hsub]
    exact h.once n
  cases hm with
  | @submit m hl =>
    constructor
    · intro n
      have honce := h.once n
      unfold State.submits at honce ⊢
      rw [List.countP_cons]
      by_cases heq : m.seqnum = n
      · subst heq
        have hzero : s.log.countP (Event.isReadSubmit m.seqnum) = 0 :=
          List.countP_eq_zero.mpr fun e he hsub => hc e he (commandSeqnum_of_isReadSubmit hsub)
        split_ifs <;> omega
      · rw [if_neg (by simpa [Event.isReadSubmit] using heq)]
        exact honce
    · rintro m' hm' ⟨r, hr, hname⟩
      cases hm'
      have hold : .readUnlink r ∈ s.log := by simpa using hr
      have hnot := hn _ hold
      simp [Event.names, hname] at hnot
  | unlink | abort | finishWrite | failWrite =>
    exact hkeep (fun n => List.countP_cons_of_neg (by simp [Event.isReadSubmit])) (by simp)
  | drain | drainAbort => exact hkeep (fun _ => rfl) fun _ => drainNext_ne rfl _
  | _ => exact hkeep (fun _ => rfl) (by simp)

theorem seqnumsOk (h : session.ReachableBy UnlinksInTime s) : SeqnumsOk s := by
  refine h.invariant ?_ ?_
  · rintro s ⟨configurations, active, rfl⟩
    refine ⟨fun n => Nat.zero_le _, ?_⟩
    rintro m ⟨⟩
  · intro s a s' _ hi hc hs
    cases step_move hs with
    | task _ hm =>
      refine hi.frame hm.loop_eq hm.log (fun e he n => ?_) fun _ => rfl
      cases e <;> trivial
    | closure _ hm =>
      refine hi.frame hm.loop_eq hm.log (fun e he n => ?_) fun _ => rfl
      cases e <;> trivial
    | loop hm => exact seqnumsOk_loop hm hc.1 hc.2.1 hi

theorem SeqnumsOk.unique (h : SeqnumsOk s) (hb : BalanceOk s) {i : Nat} {v : Urb}
    (hu : s.urbs[t]? = some u) (hv : s.urbs[i]? = some v) (heq : u.msg.seqnum = v.msg.seqnum) :
    t = i := by
  have hle : s.urbs.countP (Urb.hasSeqnum v.msg.seqnum) ≤ 1 := by
    have hread := hb.read v.msg.seqnum
    have honce := h.once v.msg.seqnum
    unfold State.spawned at hread
    omega
  exact eq_of_countP_le_one hle hu (beq_iff_eq.mpr heq) hv (beq_self_eq_true _)

def LoopPc.raised : LoopPc → Option Nat
  | .cancelling _ i | .epWait _ i _ | .cancelAll _ i _ | .aborting _ i => some i.task
  | _ => none

def RaisedOk (s : State) : Prop :=
  ∀ t u, s.loop.raised = some t → s.urbs[t]? = some u → u.cancelled = true

theorem raisedOk_loop {a : LoopAction} (hm : LoopMove s a s') (h : RaisedOk s) : RaisedOk s' := by
  intro t u' ht hu'
  have hkeep : s.loop.raised = some t → u'.cancelled = true := by
    intro hr
    rcases hm.origin hu' with ⟨u, hu, hraised⟩ | ⟨m, hl, _⟩
    · exact hraised.cancelled (h t u hr hu)
    · rw [hl] at hr
      cases hr
  cases hm with
  | flag hl =>
    cases ht
    simp only [List.getElem?_modify_eq] at hu'
    obtain ⟨u, _, rfl⟩ := Option.map_eq_some_iff.mp hu'
    rfl
  | cached hl | uncached hl | lockEp hl | cancelAll hl => exact hkeep (by rw [hl]; exact ht)
  | drain | drainAbort =>
    rw [drainNext_eq LoopPc.raised fun _ _ => rfl] at ht
    cases ht
  | _ => cases ht

theorem raisedOk {C : State → Action → Prop} (h : session.ReachableBy C s) : RaisedOk s := by
  refine h.invariant (I := RaisedOk) ?_ ?_
  · rintro s ⟨configurations, active, rfl⟩ t u ht
    cases ht
  · intro s a s' _ hi _ hs
    cases step_move hs with
    | task hu hm =>
      intro t u' ht hu'
      obtain ⟨v, hv, _, hc, _⟩ := hm.origin hu hu'
      exact hc.trans (hi t v (hm.loop_eq ▸ ht) hv)
    | closure hu hm =>
      intro t u' ht hu'
      obtain ⟨v, hv, _, hc, _⟩ := hm.origin hu hu'
      exact hc.trans (hi t v (hm.loop_eq ▸ ht) hv)
    | loop hm => exact raisedOk_loop hm hi

inductive Covered (s : State) (t : Nat) (u : Urb) : Prop
  | muted (h : u.Muted)
  | inserting (h : s.loop.inserts = some t)
  | listed (i : Inflight) (h : s.inflight.lookup u.msg.seqnum = some i) (ht : i.task = t)
  | target (r : Unlink) (i : Inflight) (h : s.loop.target = some (r, i)) (ht : i.task = t)

theorem Covered.muted_of (h : Covered s t u) (hi : s.loop.inserts = none)
    (ht : s.loop.target = none) (hl : s.inflight.lookup u.msg.seqnum = none) : u.Muted := by
  cases h with
  | muted h => exact h
  | inserting h => rw [hi] at h; cases h
  | listed i h => rw [hl] at h; cases h
  | target r i h => rw [ht] at h; cases h

def LoopPc.settled : LoopPc → Option Unlink
  | .unlocking r | .replying r | .writing r _ => some r
  | _ => none

structure Urb.Quiets (u u' : Urb) : Prop where
  msg : u'.msg = u.msg
  muted : u.Muted → u'.Muted
  writing : u.Muted → u.writing = none → u'.writing = none

theorem Urb.Quiets.refl (u : Urb) : u.Quiets u := ⟨rfl, id, fun _ => id⟩

theorem Urb.Raised.quiets (h : u.Raised u') : u.Quiets u' :=
  ⟨h.msg, h.muted, fun _ hw => h.writing_eq.trans hw⟩

theorem TaskMove.quiets {a : TaskAction} (hm : TaskMove s t u a s') (hu : s.urbs[t]? = some u)
    {i : Nat} {v' : Urb} (hv : s'.urbs[i]? = some v') :
    ∃ v, s.urbs[i]? = some v ∧ v.Quiets v' := by
  obtain ⟨u', hs, hmsg, _⟩ := hm.set
  rw [hs] at hv
  rcases getElem?_set_some hv with ⟨rfl, rfl⟩ | ⟨_, hv⟩
  · exact ⟨u, hu, hmsg, fun h => (hm.muted hu hs h).1, fun h => (hm.muted hu hs h).2⟩
  · exact ⟨v', hv, .refl v'⟩

theorem ClosureMove.quiets {a : ClosureAction} (hm : ClosureMove s t u a s')
    (hu : s.urbs[t]? = some u) {i : Nat} {v' : Urb} (hv : s'.urbs[i]? = some v') :
    ∃ v, s.urbs[i]? = some v ∧ v.Quiets v' := by
  obtain ⟨c, hs⟩ := hm.set
  rw [hs] at hv
  rcases getElem?_set_some hv with ⟨rfl, rfl⟩ | ⟨_, hv⟩
  · exact ⟨u, hu, rfl, id, fun _ => id⟩
  · exact ⟨v', hv, .refl v'⟩

theorem UnlinksOk.read_of_answered (h : UnlinksOk s) {r : Unlink} (hr : .retUnlink r ∈ s.log) :
    .readUnlink r ∈ s.log := by
  have hpos := List.count_pos_iff.mpr hr
  have hbound := h.bound r
  exact List.count_pos_iff.mp (by omega)

structure StaleOk (s : State) : Prop where
  covered : s.loop.over = false → Each (Covered s) s.urbs
  settled : ∀ r, s.loop.settled = some r →
    Each (fun _ u => u.msg.seqnum = r.unlinkSeqnum → u.Muted) s.urbs
  answered : ∀ r, .retUnlink r ∈ s.log →
    Each (fun _ u => u.msg.seqnum = r.unlinkSeqnum → u.Muted ∧ u.writing = none) s.urbs

theorem StaleOk.frame {p : Event → Bool} (h : StaleOk s) (hl : s'.loop = s.loop)
    (hlog : s'.log = s.log ∨ ∃ e, s'.log = e :: s.log ∧ p e = true)
    (hp : ∀ r, p (.retUnlink r) = false)
    (hq : ∀ (i : Nat) (v' : Urb), s'.urbs[i]? = some v' →
      ∃ v, s.urbs[i]? = some v ∧ v.Quiets v')
    (hlist : ∀ (i : Nat) (v' : Urb) j, s'.urbs[i]? = some v' →
      s.inflight.lookup v'.msg.seqnum = some j → j.task = i → Covered s' i v') : StaleOk s' where
  covered ho i v' hv' := by
    obtain ⟨v, hv, hq⟩ := hq i v' hv'
    cases h.covered (hl ▸ ho) i v hv with
    | muted hmuted => exact .muted (hq.muted hmuted)
    | inserting hi => exact .inserting (hl ▸ hi)
    | listed j hj hji => exact hlist i v' j hv' (hq.msg ▸ hj) hji
    | target r j hr hji => exact .target r j (hl ▸ hr) hji
  settled r hr i v' hv' hn := by
    obtain ⟨v, hv, hq⟩ := hq i v' hv'
    exact hq.muted (h.settled r (hl ▸ hr) i v hv (hq.msg ▸ hn))
  answered r hr i v' hv' hn := by
    obtain ⟨v, hv, hq⟩ := hq i v' hv'
    obtain ⟨hmuted, hw⟩ := h.answered r (mem_log_of hlog (hp r) hr) i v hv (hq.msg ▸ hn)
    exact ⟨hq.muted hmuted, hq.writing hmuted hw⟩

theorem staleOk_task {a : TaskAction} (hu : s.urbs[t]? = some u) (hm : TaskMove s t u a s')
    (hq : SeqnumsOk s) (hb : BalanceOk s) (h : StaleOk s) : StaleOk s' := by
  refine h.frame hm.loop_eq hm.log (fun _ => rfl) (fun _ _ => hm.quiets hu) ?_
  intro i v' j hv' hj hji
  cases hm with
  | remove =>
    rcases getElem?_set_some hv' with ⟨rfl, rfl⟩ | ⟨hne, hv⟩
    · exact .muted trivial
    · -- a task removes no entry but its own
      have hseq : v'.msg.seqnum ≠ u.msg.seqnum := fun heq => hne (hq.unique hb hv hu heq)
      exact .listed j (by rw [AList.lookup_erase_ne hseq, hj]) hji
  | _ => exact .listed j hj hji

theorem staleOk_closure {a : ClosureAction} (hu : s.urbs[t]? = some u)
    (hm : ClosureMove s t u a s') (h : StaleOk s) : StaleOk s' := by
  refine h.frame hm.loop_eq hm.log (fun _ => rfl) (fun _ _ => hm.quiets hu) ?_
  intro i v' j _ hj hji
  exact .listed j (by rw [hm.frame.2.1, hj]) hji

theorem muted_of_abort (hc : u.cancelled = true) (hf : u.committed = false) :
    ({ u with aborted := true } : Urb).Muted := by
  unfold Urb.Muted
  unfold Urb.committed at hf
  cases ht : u.task with
  | spawned | awaiting | joined => exact hc
  | replying => simpa [ht] using hf
  | _ => trivial

theorem Covered.loop (hr : u.Raised u') (h : Covered s t u) (hins : s.loop.inserts = none)
    (hin : ∀ i, s.inflight.lookup u.msg.seqnum = some i → i.task = t → Covered s' t u')
    (htgt : ∀ r i, s.loop.target = some (r, i) → i.task = t → Covered s' t u') :
    Covered s' t u' := by
  cases h with
  | muted hmuted => exact .muted (hr.muted hmuted)
  | inserting hi => rw [hins] at hi; cases hi
  | listed i hi hti => exact hin i hi hti
  | target r i htarget hti => exact htgt r i htarget hti

theorem covered_insert {m : Submit} (hl : s.loop = .inserting t m) (ht : TableOk s)
    (hq : SeqnumsOk s) (hb : BalanceOk s) (hold : Each (Covered s) s.urbs) (hu : s'.urbs = s.urbs)
    (hi : s'.inflight = s.inflight.insert m.seqnum ⟨t, m.epAddr⟩) :
    Each (Covered s') s'.urbs := by
  obtain ⟨⟨w, hw, rfl⟩, _⟩ := ht.inserting t m hl
  intro i v hv
  rw [hu] at hv
  by_cases hit : i = t
  · subst hit
    rw [hw] at hv
    cases hv
    exact .listed _ (by rw [hi, AList.lookup_insert]) rfl
  · have hseq : v.msg.seqnum ≠ w.msg.seqnum := fun heq => hit (hq.unique hb hv hw heq)
    cases hold i v hv with
    | muted hmuted => exact .muted hmuted
    | inserting hins =>
      rw [hl] at hins
      cases hins
      exact absurd rfl hit
    | listed j hj hji => exact .listed j (by rw [hi, AList.lookup_insert_ne hseq, hj]) hji
    | target r j hr => rw [hl] at hr; cases hr

theorem covered_loop {a : LoopAction} (hm : LoopMove s a s') (ht : TableOk s) (hr : RaisedOk s)
    (hq : SeqnumsOk s) (hb : BalanceOk s) (hc : AbortsInTime s (.loop a)) (h : StaleOk s)
    (ho : s'.loop.over = false) : Each (Covered s') s'.urbs := by
  have hold : Each (Covered s) s.urbs := by
    refine h.covered (Bool.eq_false_iff.mpr fun hover => ?_)
    rw [hm.over_mono hover] at ho
    cases ho
  -- every step but a spawn and an insert looks at the URBs that were there
  have hkeep : s.loop.inserts = none → (∀ m, s.loop ≠ .acquiring m) →
      (∀ (i : Nat) (v v' : Urb) j, v.Raised v' → s.inflight.lookup v.msg.seqnum = some j →
        j.task = i → Covered s' i v') →
      (∀ (v v' : Urb) r j, s.urbs[j.task]? = some v → s'.urbs[j.task]? = some v' →
        s.loop.target = some (r, j) → Covered s' j.task v') → Each (Covered s') s'.urbs := by
    intro hins hacq hlist htgt i v' hv'
    rcases hm.origin hv' with ⟨v, hv, hraised⟩ | ⟨m, hl, _⟩
    · refine (hold i v hv).loop hraised hins (fun j => hlist i v v' j hraised) ?_
      rintro r j hrj rfl
      exact htgt v v' r j hv hv' hrj
    · exact absurd hl (hacq m)
  cases hm with
  | spawn hl =>
    intro i v' hv'
    rcases getElem?_append_some hv' with hv | ⟨rfl, rfl⟩
    · exact (hold i v' hv).loop (.refl v') (by rw [hl]; rfl) (fun j hj hji => .listed j hj hji)
        fun r j hrj => by rw [hl] at hrj; cases hrj
    · exact .inserting rfl
  | insert hl => exact covered_insert hl ht hq hb hold rfl rfl
  | @found r j hl _ hf =>
    refine hkeep (by rw [hl]; rfl) (by simp [hl]) (fun i v v' k hraised hk hki => ?_) ?_
    · by_cases hseq : v.msg.seqnum = r.unlinkSeqnum
      · rw [hseq, hf] at hk
        cases hk
        exact .target r j rfl hki
      · refine .listed k ?_ hki
        rw [hraised.msg, AList.lookup_erase_ne hseq, hk]
    · intro v v' r' k _ _ hrk
      rw [hl] at hrk
      cases hrk
  | @abort r j hl =>
    refine hkeep (by rw [hl]; rfl) (by simp [hl]) (fun i v v' k hraised hk hki => ?_) ?_
    · exact .listed k (by rw [hraised.msg, hk]) hki
    · intro v v' r' k hv hv' hrk
      rw [hl] at hrk
      cases hrk
      have hflag := hr j.task v (by rw [hl]; rfl) hv
      have hcommitted := hc j.task (by rw [hl]; rfl) v hv
      simp only [List.getElem?_modify_eq, hv] at hv'
      cases hv'
      exact .muted (muted_of_abort hflag hcommitted)
  | drain | drainAbort => rw [drainNext_eq LoopPc.over fun _ _ => rfl] at ho; cases ho
  | hangUp | panic | epPoisoned | drainFlag | failWrite => cases ho
  | _ hl =>
    refine hkeep (by rw [hl]; rfl) (by simp [hl]) (fun i v v' k hraised hk hki => ?_) ?_
    · exact .listed k (by rw [hraised.msg, hk]) hki
    · intro v v' r' k _ _ hrk
      rw [hl] at hrk
      exact .target r' k hrk rfl

theorem settled_loop {a : LoopAction} (hm : LoopMove s a s') (ht : TableOk s)
    (hcov : s'.loop.over = false → Each (Covered s') s'.urbs) (h : StaleOk s) {r : Unlink}
    (hr : s'.loop.settled = some r) :
    Each (fun _ u => u.msg.seqnum = r.unlinkSeqnum → u.Muted) s'.urbs := by
  have hkeep : s.loop.settled = some r →
      Each (fun _ u => u.msg.seqnum = r.unlinkSeqnum → u.Muted) s'.urbs := by
    intro hr i v' hv' hn
    rcases hm.origin hv' with ⟨v, hv, hraised⟩ | ⟨m, hl, _⟩
    · exact hraised.muted (h.settled r hr i v hv (hraised.msg ▸ hn))
    · rw [hl] at hr
      cases hr
  -- what the unlink did not find, or has just been through, is silent
  have hnone : s'.loop.over = false → s'.loop.inserts = none → s'.loop.target = none →
      s'.inflight.lookup r.unlinkSeqnum = none →
      Each (fun _ u => u.msg.seqnum = r.unlinkSeqnum → u.Muted) s'.urbs := by
    intro ho hi htgt hl i v' hv' hn
    exact (hcov ho i v' hv').muted_of hi htgt (by rw [hn, hl])
  cases hm with
  | missing hl _ hf =>
    cases hr
    exact hnone rfl rfl rfl hf
  | @abort r' i hl =>
    cases hr
    exact hnone rfl rfl rfl (ht.target r i (by rw [hl]; rfl)).2
  | unlock hl | lockWriter hl | write hl => exact hkeep (by rw [hl]; exact hr)
  | drain | drainAbort =>
    rw [drainNext_eq LoopPc.settled fun _ _ => rfl] at hr
    cases hr
  | _ => cases hr

theorem answered_loop {a : LoopAction} (hm : LoopMove s a s') (hx : s.channel.Exclusive)
    (hq : SeqnumsOk s) (hu : UnlinksOk s) (h : StaleOk s) {r : Unlink}
    (hr : .retUnlink r ∈ s'.log) :
    Each (fun _ u => u.msg.seqnum = r.unlinkSeqnum → u.Muted ∧ u.writing = none) s'.urbs := by
  have hkeep : .retUnlink r ∈ s.log →
      Each (fun _ u => u.msg.seqnum = r.unlinkSeqnum → u.Muted ∧ u.writing = none) s'.urbs := by
    intro hr i v' hv' hn
    rcases hm.origin hv' with ⟨v, hv, hraised⟩ | ⟨m, hl, _, rfl⟩
    · obtain ⟨hmuted, hw⟩ := h.answered r hr i v hv (hraised.msg ▸ hn)
      exact ⟨hraised.muted hmuted, hraised.writing_eq.trans hw⟩
    · exact absurd ⟨r, hu.read_of_answered hr, hn.symm⟩ (hq.fresh m hl)
  cases hm with
  | submit | unlink | abort | failWrite => exact hkeep (by simpa using hr)
  | @finishWrite r' hl =>
    rcases List.mem_cons.mp hr with heq | hr
    · cases heq
      intro i v hv hn
      have hv : s.urbs[i]? = some v := hv
      refine ⟨h.settled r (by rw [hl]; rfl) i v hv hn, ?_⟩
      -- the loop has the mutex, so the task does not
      refine Option.eq_none_iff_forall_ne_some.mpr fun ⟨f, n⟩ hw => ?_
      have hwrites : s.channel.writing .loop = some (retUnlinkFrame r, _) :=
        congrArg LoopPc.writes hl
      have hurb := hx.held ((channel_urb hv).trans hw)
      rw [hx.held hwrites] at hurb
      cases hurb
    · exact hkeep hr
  | _ => exact hkeep hr

theorem staleOk (h : session.ReachableBy UnlinksInTime s) : StaleOk s := by
  refine h.invariant ?_ ?_
  · rintro s ⟨configurations, active, rfl⟩
    refine ⟨fun _ => .nil, ?_, fun r hr => ?_⟩
    · rintro r ⟨⟩
    · simp [State.initial] at hr
  · intro s a s' hr hi hc hs
    cases step_move hs with
    | task hu hm => exact staleOk_task hu hm (seqnumsOk hr) (balanceOk hr) hi
    | closure hu hm => exact staleOk_closure hu hm hi
    | loop hm =>
      have hcov := covered_loop hm (tableOk hr) (raisedOk hr) (seqnumsOk hr) (balanceOk hr)
        hc.2.2 hi
      exact ⟨hcov, fun r => settled_loop hm (tableOk hr) hcov hi,
        fun r => answered_loop hm (exclusive hr) (seqnumsOk hr) (unlinksOk hr) hi⟩

def Timely : Event → List Event → Prop
  | .retSubmit _ n _, log => ∀ r, .retUnlink r ∈ log → r.unlinkSeqnum ≠ n
  | _, _ => True

theorem timely (h : session.ReachableBy UnlinksInTime s) : Justified Timely s.log := by
  refine h.invariant (I := fun s => Justified Timely s.log) ?_ ?_
  · rintro s ⟨configurations, active, rfl⟩
    trivial
  · intro s a s' hr hi _ hs
    cases step_move hs with
    | closure _ hm => exact hi.extend hm.log fun e he => by cases e <;> trivial
    | loop hm => exact hi.extend hm.log fun e he => by cases e <;> trivial
    | @task t u _ _ hu hm =>
      cases hm with
      | finishWrite _ ht =>
        refine hi.cons fun r hret hn => ?_
        have hw := ((staleOk hr).answered r hret t u hu hn.symm).2
        rw [writing_of_task ht] at hw
        cases hw
      | failWrite => exact hi.cons trivial
      | _ => exact hi

def NoStaleReply (s : State) : Prop :=
  ∀ later earlier r, s.log = later ++ .retUnlink r :: earlier →
    ∀ t frame, .retSubmit t r.unlinkSeqnum frame ∉ later

theorem no_stale_reply (h : session.ReachableBy UnlinksInTime s) : NoStaleReply s := by
  intro later earlier r hlog t frame hmem
  obtain ⟨between, htimely⟩ := (timely h).later hlog hmem
  exact htimely r (by simp) rfl

theorem no_stale_reply_unlinked : ∃ s, session.ReachableBy UnlinksInTime s ∧
    .retUnlink ⟨8, 7⟩ ∈ s.log ∧ NoStaleReply s := by
  let actions := Sample.accept (Sample.submit 7 0) ++ Sample.handOff 0 ++
    Sample.controlTransfer 0 ++ Sample.unlink ++ Sample.writeUnlink ++ [.task 0 .drop]
  have hrun : ((session.replay UnlinksInTime (.initial Sample.device) actions).map fun s =>
      decide (.retUnlink ⟨8, 7⟩ ∈ s.log)) = some true := by
    decide
  obtain ⟨s, hr, hp⟩ := System.exists_reachableBy_of_replay Sample.init_device hrun
  exact ⟨s, hr, of_decide_eq_true hp, no_stale_reply hr⟩

/-- The task has passed its check when the unlink comes, and is still being polled
when the unlink has been answered. -/
theorem reply_after_unlink : ¬ ∀ s, session.ReachableBy DistinctSeqnums s → NoStaleReply s := by
  intro hall
  let actions := Sample.accept (Sample.submit 7 0) ++ Sample.handOff 0 ++
    Sample.controlTransfer 0 ++ Sample.buildReply 0 ++ Sample.unlink ++ Sample.writeUnlink ++
    Sample.writeReply 0
  let frame := retSubmitFrame (Sample.submit 7 0) (.error (.transfer .stall))
  let late : List Event := [.retSubmit 0 7 frame]
  let early : List Event := [.aborted 0 true, .readUnlink ⟨8, 7⟩, .returned 0]
  have hrun : ((session.replay DistinctSeqnums (.initial Sample.device) actions).map fun s =>
      s.log.take 5 == late ++ .retUnlink ⟨8, 7⟩ :: early) = some true := by
    decide
  obtain ⟨s, hr, hp⟩ := System.exists_reachableBy_of_replay Sample.init_device hrun
  have hlog : s.log = late ++ .retUnlink ⟨8, 7⟩ :: (early ++ s.log.drop 5) := by
    rw [← List.cons_append, ← List.append_assoc, ← beq_iff_eq.mp hp, List.take_append_drop]
  exact hall s hr _ _ _ hlog 0 _ (List.mem_singleton_self _)

end Usbip.Session
