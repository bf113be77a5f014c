import UsbipdDarwin.Session.Frame
import UsbipdDarwin.Lts.Maps

/-! The in-flight table: its entries name URBs of their own seqnum that no
unlink has touched yet. -/

namespace Usbip.Session
open Proto Host Lts

variable {s s' : State} {t : Nat} {u : Urb}

/-- The entry a `CMD_UNLINK` has taken out of the table and still works on. -/
def LoopPc.target : LoopPc → Option (Unlink × Inflight)
  | .flagging r i | .cancelling r i | .epWait r i _ | .cancelAll r i _ | .aborting r i =>
    some (r, i)
  | _ => none

def LoopPc.drained : LoopPc → Bool
  | .drainFlag .. | .drainAbort .. | .ended => true
  | _ => false

def Names (us : List Urb) (i : Inflight) (n : UInt32) : Prop :=
  ∃ u, us[i.task]? = some u ∧ u.msg.seqnum = n ∧ u.msg.epAddr = i.epAddr

def Unflagged (us : List Urb) (t : Nat) : Prop :=
  ∃ u, us[t]? = some u ∧ u.cancelled = false ∧ u.aborted = false

structure TableOk (s : State) : Prop where
  names : ∀ n i, s.inflight.lookup n = some i → Names s.urbs i n
  unflagged : ∀ n i, s.inflight.lookup n = some i → Unflagged s.urbs i.task
  inserting : ∀ t m, s.loop = .inserting t m →
    (∃ u, s.urbs[t]? = some u ∧ u.msg = m) ∧ Unflagged s.urbs t
  target : ∀ r i, s.loop.target = some (r, i) →
    Names s.urbs i r.unlinkSeqnum ∧ s.inflight.lookup r.unlinkSeqnum = none
  drained : s.loop.drained = true → s.inflight = ∅
  poisoned : s.inflightLock = .poisoned → s.loop = .panicked

theorem Names.move {a : Action} {i : Inflight} {n : UInt32} (hm : Move s a s')
    (h : Names s.urbs i n) : Names s'.urbs i n := by
  obtain ⟨u, hu, hn, he⟩ := h
  obtain ⟨u', hu', hmsg⟩ := hm.persists hu
  exact ⟨u', hu', by rw [hmsg, hn], by rw [hmsg, he]⟩

theorem Unflagged.set {u' : Urb} (hu : s.urbs[t]? = some u) {i : Nat}
    (h : Unflagged s.urbs i) (hc : u'.cancelled = u.cancelled) (ha : u'.aborted = u.aborted) :
    Unflagged (s.urbs.set t u') i := by
  obtain ⟨v, hv, h1, h2⟩ := h
  by_cases hi : t = i
  · subst hi
    rw [hu] at hv
    cases hv
    exact ⟨u', List.getElem?_set_self (lt_length_of_getElem? hu), by rw [hc, h1], by rw [ha, h2]⟩
  · exact ⟨v, by rw [List.getElem?_set_ne hi, hv], h1, h2⟩

theorem Unflagged.modify {f : Urb → Urb} {i j : Nat} (h : Unflagged s.urbs i) (hne : j ≠ i) :
    Unflagged (s.urbs.modify j f) i := by
  obtain ⟨v, hv, h1, h2⟩ := h
  exact ⟨v, by rw [List.getElem?_modify_ne _ _ hne, hv], h1, h2⟩

theorem Names.task_ne {i j : Inflight} {n m : UInt32} (hi : Names s.urbs i n)
    (hj : Names s.urbs j m) (hne : n ≠ m) : i.task ≠ j.task := by
  intro he
  obtain ⟨u, hu, hn, _⟩ := hi
  obtain ⟨v, hv, hm, _⟩ := hj
  rw [he, hv] at hu
  cases hu
  exact hne (hn.symm.trans hm)

theorem tableOk_initial (h : session.init s) : TableOk s := by
  obtain ⟨configurations, active, rfl⟩ := h
  constructor
  · intro n i h
    simp [State.initial] at h
  · intro n i h
    simp [State.initial] at h
  · intro t m h
    cases h
  · intro r i h
    cases h
  · intro h
    cases h
  · intro h
    cases h

theorem TableOk.frame {a : Action} (hm : Move s a s') (h : TableOk s) (hl : s'.loop = s.loop)
    (hk : s'.inflightLock = s.inflightLock)
    (hsub : ∀ n i, s'.inflight.lookup n = some i → s.inflight.lookup n = some i)
    (hf : ∀ i, Unflagged s.urbs i → Unflagged s'.urbs i) : TableOk s' where
  names n i hn := (h.names n i (hsub n i hn)).move hm
  unflagged n i hn := hf _ (h.unflagged n i (hsub n i hn))
  inserting t m hi := by
    obtain ⟨⟨u, hu, hmsg⟩, hun⟩ := h.inserting t m (hl ▸ hi)
    obtain ⟨u', hu', hmsg'⟩ := hm.persists hu
    exact ⟨⟨u', hu', hmsg'.trans hmsg⟩, hf _ hun⟩
  target r i ht := by
    obtain ⟨hn, hnone⟩ := h.target r i (hl ▸ ht)
    refine ⟨hn.move hm, Option.eq_none_iff_forall_ne_some.mpr fun j hj => ?_⟩
    rw [hsub _ _ hj] at hnone
    cases hnone
  drained hd := by
    have he := h.drained (hl ▸ hd)
    refine eq_empty_of_lookup fun n => Option.eq_none_iff_forall_ne_some.mpr fun i hi => ?_
    have hi := hsub n i hi
    simp [he] at hi
  poisoned hp := by
    rw [hl]
    exact h.poisoned (hk ▸ hp)

theorem tableOk_task {a : TaskAction} (hu : s.urbs[t]? = some u) (hm : TaskMove s t u a s')
    (h : TableOk s) : TableOk s' := by
  obtain ⟨u', hset, _, hc, ha, _⟩ := hm.set
  refine h.frame (.task hu hm) hm.loop_eq hm.inflightLock_eq ?_ ?_
  · intro n i hn
    cases hm with
    | remove => exact (lookup_of_erase hn).2
    | _ => exact hn
  · intro i hi
    rw [hset]
    exact hi.set hu hc ha

theorem tableOk_closure {a : ClosureAction} (hu : s.urbs[t]? = some u)
    (hm : ClosureMove s t u a s') (h : TableOk s) : TableOk s' := by
  obtain ⟨c, hset⟩ := hm.set
  obtain ⟨hl, hi, hk, _⟩ := hm.frame
  refine h.frame (.closure hu hm) hl hk (fun n i hn => hi ▸ hn) fun i hi => ?_
  rw [hset]
  exact hi.set hu rfl rfl

theorem LoopMove.poisoned {a : LoopAction} (hm : LoopMove s a s')
    (h : s.inflightLock = .poisoned → s.loop = .panicked) (hp : s'.inflightLock = .poisoned) :
    s'.loop = .panicked := by
  cases hm with
  | panic => rfl
  | epPoisoned => rfl
  | found => cases hp
  | unlock => cases hp
  | _ =>
    have hl := h hp
    simp_all

theorem TableOk.loop {a : LoopAction} (hm : LoopMove s a s') (h : TableOk s)
    (hi : s'.inflight = s.inflight)
    (hf : ∀ n i, s.inflight.lookup n = some i → Unflagged s'.urbs i.task)
    (hins : ∀ t m, s'.loop ≠ .inserting t m)
    (htgt : s'.loop.target = none ∨ s'.loop.target = s.loop.target)
    (hd : s'.loop.drained = true → s.loop.drained = true) : TableOk s' where
  names n i hn := (h.names n i (hi ▸ hn)).move (.loop hm)
  unflagged n i hn := hf n i (hi ▸ hn)
  inserting t m hi := absurd hi (hins t m)
  target r i ht := by
    rcases htgt with hnone | hsame
    · rw [hnone] at ht
      cases ht
    · obtain ⟨hn, hnone⟩ := h.target r i (hsame ▸ ht)
      exact ⟨hn.move (.loop hm), by rw [hi, hnone]⟩
  drained hdr := by rw [hi, h.drained (hd hdr)]
  poisoned := hm.poisoned h.poisoned

theorem drainNext_ne {l : LoopPc} (h : l.drained = false) (is : List Inflight) :
    drainNext is ≠ l := by
  rintro rfl
  rw [drainNext_eq LoopPc.drained fun _ _ => rfl] at h
  cases h

theorem unflagged_modify_target {r : Unlink} {i : Inflight} {f : Urb → Urb} (h : TableOk s)
    (ht : s.loop.target = some (r, i)) (n : UInt32) (j : Inflight)
    (hj : s.inflight.lookup n = some j) : Unflagged (s.urbs.modify i.task f) j.task := by
  obtain ⟨hn, hnone⟩ := h.target r i ht
  have hne : r.unlinkSeqnum ≠ n := by
    rintro rfl
    rw [hj] at hnone
    cases hnone
  exact (h.unflagged n j hj).modify (hn.task_ne (h.names n j hj) hne)

theorem unflagged_append (v : Urb) {i : Nat} (h : Unflagged s.urbs i) :
    Unflagged (s.urbs ++ [v]) i := by
  obtain ⟨u, hu, hf⟩ := h
  exact ⟨u, by rw [List.getElem?_append_left (lt_length_of_getElem? hu), hu], hf⟩

theorem unflagged_hit (e : Nat) {i : Nat} (h : Unflagged s.urbs i) :
    Unflagged (s.urbs.map (Urb.hit e)) i := by
  obtain ⟨u, hu, h1, h2⟩ := h
  obtain ⟨hc, ha⟩ := Urb.hit_flags e u
  exact ⟨u.hit e, by rw [List.getElem?_map, hu]; rfl, hc.trans h1, ha.trans h2⟩

theorem tableOk_loop {a : LoopAction} (hm : LoopMove s a s') (h : TableOk s) : TableOk s' := by
  -- nothing is listed once the table is drained, so a drain may flag whom it likes
  have hempty : s.loop.drained = true → ∀ (us : List Urb) (n : UInt32) (i : Inflight),
      s.inflight.lookup n = some i → Unflagged us i.task := by
    intro hd us n i hn
    simp [h.drained hd] at hn
  have hpoison := hm.poisoned h.poisoned
  have hm' := hm
  cases hm with
  | @spawn m hl hp =>
    have hnew : (s.urbs ++ [({ msg := m } : Urb)])[s.urbs.length]? = some { msg := m } := by
      simp
    refine ⟨fun n i hn => (h.names n i hn).move (.loop hm'),
      fun n i hn => unflagged_append _ (h.unflagged n i hn), ?_, ?_, ?_, hpoison⟩
    · rintro t m' ⟨⟩
      exact ⟨⟨_, hnew, rfl⟩, _, hnew, rfl, rfl⟩
    · rintro r i ⟨⟩
    · rintro ⟨⟩
  | @insert t m hl hi =>
    obtain ⟨⟨u, hu, hmsg⟩, hun⟩ := h.inserting t m hl
    refine ⟨fun n i hn => ?_, fun n i hn => ?_, ?_, ?_, ?_, hpoison⟩
    · rcases lookup_of_insert hn with ⟨rfl, rfl⟩ | ⟨_, hn⟩
      · exact ⟨u, hu, by rw [hmsg], by rw [hmsg]⟩
      · exact h.names n i hn
    · rcases lookup_of_insert hn with ⟨_, rfl⟩ | ⟨_, hn⟩
      · exact hun
      · exact h.unflagged n i hn
    · rintro t m ⟨⟩
    · rintro r i ⟨⟩
    · rintro ⟨⟩
  | @found r i hl hi hf =>
    refine ⟨fun n j hn => h.names n j (lookup_of_erase hn).2,
      fun n j hn => h.unflagged n j (lookup_of_erase hn).2, ?_, ?_, ?_, hpoison⟩
    · rintro t m ⟨⟩
    · rintro r' i' ⟨⟩
      exact ⟨h.names _ _ hf, AList.lookup_erase ..⟩
    · rintro ⟨⟩
  | drain =>
    refine ⟨fun n i hn => ?_, fun n i hn => ?_,
      fun t m hi => absurd hi (drainNext_ne rfl _), fun r i ht => ?_, fun _ => rfl,
      hpoison⟩
    · simp at hn
    · simp at hn
    · rw [drainNext_eq LoopPc.target fun _ _ => rfl] at ht
      cases ht
  | @flag r i hl =>
    have ht : s.loop.target = some (r, i) := by rw [hl]; rfl
    exact h.loop hm' rfl (unflagged_modify_target h ht) (by simp) (.inr ht.symm) (by rintro ⟨⟩)
  | @abort r i hl =>
    have ht : s.loop.target = some (r, i) := by rw [hl]; rfl
    exact h.loop hm' rfl (unflagged_modify_target h ht) (by simp) (.inl rfl) (by rintro ⟨⟩)
  | @cancelAll r i e hl =>
    exact h.loop hm' rfl (fun n j hn => unflagged_hit e (h.unflagged n j hn)) (by simp)
      (.inr (by rw [hl]; rfl)) (by rintro ⟨⟩)
  | cached hl | uncached hl | lockEp hl =>
    exact h.loop hm' rfl h.unflagged (by simp) (.inr (by rw [hl]; rfl)) (by rintro ⟨⟩)
  | @drainFlag i rest hl =>
    exact h.loop hm' rfl (hempty (by rw [hl]; rfl) _) (by simp) (.inl rfl)
      fun _ => by rw [hl]; rfl
  | @drainAbort i rest hl =>
    exact h.loop hm' rfl (hempty (by rw [hl]; rfl) _) (fun _ _ => drainNext_ne rfl _)
      (.inl (drainNext_eq LoopPc.target (fun _ _ => rfl) _)) fun _ => by rw [hl]; rfl
  | _ => exact h.loop hm' rfl h.unflagged (by simp) (.inl rfl) (by rintro ⟨⟩)

theorem tableOk_step {a : Action} (hs : session.step s a = some s') (h : TableOk s) :
    TableOk s' := by
  cases step_move hs with
  | task hu hm => exact tableOk_task hu hm h
  | closure hu hm => exact tableOk_closure hu hm h
  | loop hm => exact tableOk_loop hm h

theorem tableOk {C : State → Action → Prop} (h : session.ReachableBy C s) : TableOk s :=
  h.invariant (fun _ => tableOk_initial) fun _ _ _ _ hi _ hs => tableOk_step hs hi

/-! Which entries belong to a task that is still there. The task removes its own
entry, but the loop inserts it only after the spawn, and the removal may win. -/

def Urb.live (u : Urb) : Bool :=
  match u.task with
  | .returned | .dropped | .panicked => false
  | _ => true

def LiveAt (us : List Urb) (t : Nat) : Prop := ∃ u, us[t]? = some u ∧ u.live = true

def LoopPc.inserts : LoopPc → Option Nat
  | .inserting t _ => some t
  | _ => none

/-- No task gets to its removal before the loop has inserted its entry. -/
def RemovesAfterInsert (s : State) : Action → Prop
  | .task t .remove => s.loop.inserts ≠ some t
  | _ => True

instance (s : State) : ∀ a, Decidable (RemovesAfterInsert s a)
  | .task _ .remove => inferInstanceAs (Decidable (_ ≠ _))
  | .task _ .poll | .task _ .suspend | .task _ .handOff | .task _ .join | .task _ .check
  | .task _ .lockWriter | .task _ (.write _) | .task _ .finishWrite | .task _ .failWrite
  | .task _ .drop | .closure _ _ | .loop _ => .isTrue trivial

def ListedLive (s : State) : Prop :=
  s.loop ≠ .panicked →
    (∀ n i, s.inflight.lookup n = some i → LiveAt s.urbs i.task) ∧
      ∀ t, s.loop.inserts = some t → LiveAt s.urbs t

theorem LiveAt.set {u' : Urb} (hu : s.urbs[t]? = some u) {i : Nat} (h : LiveAt s.urbs i)
    (hl : i = t → u.live = true → u'.live = true) : LiveAt (s.urbs.set t u') i := by
  obtain ⟨v, hv, hlv⟩ := h
  by_cases hi : t = i
  · subst hi
    rw [hu] at hv
    cases hv
    exact ⟨u', List.getElem?_set_self (lt_length_of_getElem? hu), hl rfl hlv⟩
  · exact ⟨v, by rw [List.getElem?_set_ne hi, hv], hlv⟩

theorem LiveAt.carries {us us' : List Urb} (hc : Carries us us') {i : Nat} (h : LiveAt us i) :
    LiveAt us' i := by
  obtain ⟨u, hu, hl⟩ := h
  obtain ⟨u', hu', hr⟩ := hc i u hu
  exact ⟨u', hu', by simpa only [Urb.live, hr.task] using hl⟩

theorem inserting_of_inserts {l : LoopPc} (h : l.inserts = some t) : ∃ m, l = .inserting t m := by
  cases l with
  | inserting i m =>
    cases h
    exact ⟨m, rfl⟩
  | _ => cases h

theorem Unflagged.not_aborted {i : Nat} (h : Unflagged s.urbs i) (hu : s.urbs[i]? = some u) :
    u.aborted = false := by
  obtain ⟨v, hv, _, ha⟩ := h
  rw [hu] at hv
  cases hv
  exact ha

theorem ListedLive.set {u' : Urb} (h : ListedLive s) (hu : s.urbs[t]? = some u)
    (hset : s'.urbs = s.urbs.set t u') (hl : s'.loop = s.loop)
    (hsub : ∀ n i, s'.inflight.lookup n = some i →
      s.inflight.lookup n = some i ∧ (i.task = t → u.live = true → u'.live = true))
    (hins : s.loop.inserts = some t → u.live = true → u'.live = true) : ListedLive s' := by
  unfold ListedLive
  rw [hl, hset]
  intro hp
  obtain ⟨hlist, hi⟩ := h hp
  refine ⟨fun n i hn => ?_, fun j hj => ?_⟩
  · obtain ⟨hn, hlive⟩ := hsub n i hn
    exact (hlist n i hn).set hu hlive
  · refine (hi j hj).set hu ?_
    rintro rfl
    exact hins hj

theorem listedLive_task {a : TaskAction} (hu : s.urbs[t]? = some u) (hm : TaskMove s t u a s')
    (ht : TableOk s) (hc : RemovesAfterInsert s (.task t a)) (h : ListedLive s) :
    ListedLive s' := by
  have hloop := hm.loop_eq
  -- a task that does not end here stays as live as it was
  have hkeep : ∀ u', s'.urbs = s.urbs.set t u' → s'.inflight = s.inflight →
      (u.live = true → u'.live = true) → ListedLive s' := by
    intro u' hset hi hlive
    exact h.set hu hset hloop (fun n i hn => ⟨hi ▸ hn, fun _ => hlive⟩) fun _ => hlive
  -- an aborted task is neither listed nor about to be
  have hdrop : ∀ u', s'.urbs = s.urbs.set t u' → s'.inflight = s.inflight → u.aborted = true →
      ListedLive s' := by
    intro u' hset hi ha
    refine h.set hu hset hloop (fun n i hn => ⟨hi ▸ hn, ?_⟩) fun hins => ?_
    · rintro rfl
      rw [(ht.unflagged n i (hi ▸ hn)).not_aborted hu] at ha
      cases ha
    · obtain ⟨m, hlp⟩ := inserting_of_inserts hins
      rw [(ht.inserting t m hlp).2.not_aborted hu] at ha
      cases ha
  cases hm with
  | remove =>
    refine h.set hu rfl rfl (fun n i hn => ?_) fun hins => absurd hins hc
    obtain ⟨hne, hold⟩ := lookup_of_erase hn
    refine ⟨hold, ?_⟩
    rintro rfl
    obtain ⟨v, hv, hseq, _⟩ := ht.names n i hold
    rw [hu] at hv
    cases hv
    exact absurd hseq.symm hne
  | removePanic _ _ hk => exact fun hl => absurd (ht.poisoned hk) hl
  | drop _ ha => exact hdrop _ rfl rfl ha
  | dropWriting _ ha => exact hdrop _ rfl rfl ha
  | poll | suspend => exact hkeep _ rfl rfl id
  | _ => exact hkeep _ rfl rfl fun _ => rfl

theorem listedLive_loop {a : LoopAction} (hm : LoopMove s a s') (h : ListedLive s) :
    ListedLive s' := by
  intro hl
  have hc := hm.carries
  obtain ⟨hlist, hins⟩ := h hm.not_panicked
  cases hm with
  | @spawn m =>
    refine ⟨fun n i hn => (hlist n i hn).carries hc, ?_⟩
    rintro t ⟨⟩
    exact ⟨{ msg := m }, by simp, rfl⟩
  | insert hlp =>
    refine ⟨fun n i hn => ?_, by rintro t ⟨⟩⟩
    rcases lookup_of_insert hn with ⟨_, rfl⟩ | ⟨_, hn⟩
    · exact hins _ (by rw [hlp]; rfl)
    · exact hlist n i hn
  | found => exact ⟨fun n i hn => hlist n i (lookup_of_erase hn).2, by rintro t ⟨⟩⟩
  | drain =>
    refine ⟨fun n i hn => by simp at hn, fun t ht => ?_⟩
    rw [drainNext_eq LoopPc.inserts fun _ _ => rfl] at ht
    cases ht
  | drainAbort =>
    refine ⟨fun n i hn => (hlist n i hn).carries hc, fun t ht => ?_⟩
    rw [drainNext_eq LoopPc.inserts fun _ _ => rfl] at ht
    cases ht
  | _ => exact ⟨fun n i hn => (hlist n i hn).carries hc, by rintro t ⟨⟩⟩

theorem listedLive (h : session.ReachableBy RemovesAfterInsert s) : ListedLive s := by
  refine h.invariant ?_ ?_
  · rintro s ⟨configurations, active, rfl⟩ _
    exact ⟨fun n i hn => by simp [State.initial] at hn, by rintro t ⟨⟩⟩
  · intro s a s' hr hi hc hs
    cases step_move hs with
    | task hu hm => exact listedLive_task hu hm (tableOk hr) hc hi
    | closure hu hm =>
      obtain ⟨c, hset⟩ := hm.set
      obtain ⟨hl, hinf, _⟩ := hm.frame
      exact hi.set hu hset hl (fun n i hn => ⟨hinf ▸ hn, fun _ => id⟩) fun _ => id
    | loop hm => exact listedLive_loop hm hi

/-- Between two commands, up to the look-up the next `CMD_UNLINK` makes. -/
def LoopPc.between : LoopPc → Bool
  | .reading | .unlinking _ => true
  | _ => false

/-- Every entry has a task of its seqnum that has not returned yet. -/
def TableExact (s : State) : Prop :=
  ∀ n i, s.inflight.lookup n = some i →
    ∃ (t : Nat) (u : Urb), s.urbs[t]? = some u ∧ u.msg.seqnum = n ∧ u.live = true

theorem ListedLive.exact (h : ListedLive s) (ht : TableOk s) (hl : s.loop ≠ .panicked) :
    TableExact s := by
  intro n i hn
  obtain ⟨u, hu, hseq, _⟩ := ht.names n i hn
  obtain ⟨v, hv, hlive⟩ := (h hl).1 n i hn
  rw [hu] at hv
  cases hv
  exact ⟨i.task, u, hu, hseq, hlive⟩

theorem TableExact.lookup_eq_none (h : TableExact s) {n : UInt32}
    (hn : ∀ u ∈ s.urbs, u.msg.seqnum = n → u.live = false) : s.inflight.lookup n = none := by
  refine Option.eq_none_iff_forall_ne_some.mpr fun i hi => ?_
  obtain ⟨t, u, hu, hseq, hlive⟩ := h n i hi
  rw [hn u (List.mem_of_getElem? hu) hseq] at hlive
  cases hlive

theorem inflight_exact (h : session.ReachableBy RemovesAfterInsert s)
    (hl : s.loop.between = true) :
    TableExact s ∧
      ((∀ u ∈ s.urbs, u.live = false) → s.inflight = ∅) ∧
      ∀ n, (∀ u ∈ s.urbs, u.msg.seqnum = n → u.live = false) → s.inflight.lookup n = none := by
  have hne : s.loop ≠ .panicked := by
    intro hp
    rw [hp] at hl
    cases hl
  have hx : TableExact s := (listedLive h).exact (tableOk h) hne
  refine ⟨hx, fun hall => ?_, fun n hn => hx.lookup_eq_none hn⟩
  exact eq_empty_of_lookup fun n => hx.lookup_eq_none fun u hu _ => hall u hu

theorem inflight_exact_after_reply : ∃ s, session.ReachableBy RemovesAfterInsert s ∧
    s.inflight.lookup 7 = none ∧ (s.inflight.lookup 8).isSome ∧ TableExact s := by
  let actions := Sample.accept (Sample.submit 7 0) ++ Sample.handOff 0 ++
    Sample.controlTransfer 0 ++ Sample.buildReply 0 ++ Sample.writeReply 0 ++
    [.task 0 .remove] ++ Sample.accept (Sample.submit 8 0)
  have hrun : ((session.replay RemovesAfterInsert (.initial Sample.device) actions).map fun s =>
      s.loop.between && decide (s.inflight.lookup 7 = none) && (s.inflight.lookup 8).isSome) =
      some true := by
    decide
  obtain ⟨s, hr, hp⟩ := System.exists_reachableBy_of_replay Sample.init_device hrun
  simp only [Bool.and_eq_true, decide_eq_true_eq] at hp
  exact ⟨s, hr, hp.1.2, hp.2, (inflight_exact hr hp.1.1).1⟩

/-- The task runs to its end between its spawn and the insert: the entry that
goes in then has no task, and nobody will take it out. -/
theorem inflight_stale_entry :
    ¬ ∀ s, session.Reachable s → s.loop.between = true → TableExact s := by
  intro hall
  let actions := Sample.spawn (Sample.submit 7 0) ++ Sample.handOff 0 ++
    Sample.controlTransfer 0 ++ Sample.buildReply 0 ++ Sample.writeReply 0 ++
    [.task 0 .remove, .loop .go]
  have hrun : ((session.run (.initial Sample.device) actions).map fun s =>
      s.loop.between && (s.inflight.lookup 7).isSome && s.urbs.all (!·.live)) = some true := by
    decide
  obtain ⟨s, hr, hp⟩ := System.exists_reachable_of_run Sample.init_device hrun
  simp only [Bool.and_eq_true, List.all_eq_true, Bool.not_eq_true'] at hp
  have hx := hall s hr hp.1.1
  have hnone := hx.lookup_eq_none fun u hu (_ : u.msg.seqnum = 7) => hp.2 u hu
  rw [hnone] at hp
  exact absurd hp.1.2 (by simp)

end Usbip.Session
