import UsbipdDarwin.Session.Move

/-! What a step leaves alone. A task moves only its own URB and never the device,
a closure only its own URB and the device, and the loop touches an existing URB
only by raising its flags or by cancelling its pending transfer. -/

namespace Usbip.Session
open Proto Host Lts

variable {s s' : State} {t : Nat} {u u' : Urb}

structure Urb.Raised (u u' : Urb) : Prop where
  msg : u'.msg = u.msg
  task : u'.task = u.task
  polling : u'.polling = u.polling
  cancelled : u.cancelled = true → u'.cancelled = true
  aborted : u.aborted = true → u'.aborted = true
  closure : u'.closure = u.closure ∨
    ∃ e b, u.closure = .running (.transferring e b) ∧ u'.closure = .running (.transferring e true)

theorem Urb.Raised.refl (u : Urb) : u.Raised u := ⟨rfl, rfl, rfl, id, id, .inl rfl⟩

theorem Urb.raised_cancelled (u : Urb) : u.Raised { u with cancelled := true } :=
  ⟨rfl, rfl, rfl, fun _ => rfl, id, .inl rfl⟩

theorem Urb.raised_aborted (u : Urb) : u.Raised { u with aborted := true } :=
  ⟨rfl, rfl, rfl, id, fun _ => rfl, .inl rfl⟩

theorem Urb.raised_hit (e : Nat) (u : Urb) : u.Raised (u.hit e) := by
  unfold Urb.hit
  split
  · split_ifs
    · exact ⟨rfl, rfl, rfl, id, id, .inr ⟨_, _, ‹_›, rfl⟩⟩
    · exact .refl u
  · exact .refl u

theorem Urb.hit_flags (e : Nat) (u : Urb) :
    (u.hit e).cancelled = u.cancelled ∧ (u.hit e).aborted = u.aborted := by
  unfold Urb.hit
  split
  · split_ifs <;> exact ⟨rfl, rfl⟩
  · exact ⟨rfl, rfl⟩

def Carries (us us' : List Urb) : Prop :=
  ∀ (t : Nat) (u : Urb), us[t]? = some u → ∃ u', us'[t]? = some u' ∧ u.Raised u'

theorem Carries.refl (us : List Urb) : Carries us us := fun _ u hu => ⟨u, hu, .refl u⟩

theorem carries_append (us : List Urb) (u : Urb) : Carries us (us ++ [u]) := by
  intro t v hv
  refine ⟨v, ?_, .refl v⟩
  rw [List.getElem?_append_left (lt_length_of_getElem? hv)]
  exact hv

theorem carries_modify {f : Urb → Urb} (hf : ∀ u : Urb, u.Raised (f u)) (us : List Urb) (i : Nat) :
    Carries us (us.modify i f) := by
  intro t u hu
  by_cases hi : i = t
  · subst hi
    exact ⟨f u, by rw [List.getElem?_modify_eq, hu]; rfl, hf u⟩
  · exact ⟨u, by rw [List.getElem?_modify_ne _ _ hi, hu], .refl u⟩

theorem carries_map {f : Urb → Urb} (hf : ∀ u : Urb, u.Raised (f u)) (us : List Urb) :
    Carries us (us.map f) := by
  intro t u hu
  exact ⟨f u, by rw [List.getElem?_map, hu]; rfl, hf u⟩

theorem LoopMove.carries {a : LoopAction} (h : LoopMove s a s') : Carries s.urbs s'.urbs := by
  cases h with
  | spawn => exact carries_append _ _
  | flag => exact carries_modify Urb.raised_cancelled _ _
  | cancelAll => exact carries_map (Urb.raised_hit _) _
  | abort => exact carries_modify Urb.raised_aborted _ _
  | drainFlag => exact carries_modify Urb.raised_cancelled _ _
  | drainAbort => exact carries_modify Urb.raised_aborted _ _
  | _ => exact .refl _

theorem LoopMove.length_urbs {a : LoopAction} (h : LoopMove s a s') :
    s'.urbs.length = s.urbs.length ∨
      ∃ m, s.loop = .acquiring m ∧ s'.urbs = s.urbs ++ [{ msg := m }] := by
  cases h with
  | spawn hl => exact .inr ⟨_, hl, rfl⟩
  | flag => exact .inl (List.length_modify ..)
  | cancelAll => exact .inl (List.length_map ..)
  | abort => exact .inl (List.length_modify ..)
  | drainFlag => exact .inl (List.length_modify ..)
  | drainAbort => exact .inl (List.length_modify ..)
  | _ => exact .inl rfl

theorem LoopMove.countP {a : LoopAction} {p : Urb → Bool}
    (hp : ∀ u u' : Urb, u.Raised u' → p u' = p u) (h : LoopMove s a s') :
    (s'.urbs.countP p = s.urbs.countP p ∧ ∀ m, s.loop ≠ .acquiring m) ∨
      ∃ m, s.loop = .acquiring m ∧ s'.loop = .inserting s.urbs.length m ∧
        s'.urbs.countP p = s.urbs.countP p + if p { msg := m } then 1 else 0 := by
  cases h with
  | @spawn m hl =>
    refine .inr ⟨m, hl, rfl, ?_⟩
    rw [List.countP_append, List.countP_singleton]
  | flag hl =>
    exact .inl ⟨countP_modify_eq fun u => hp _ _ u.raised_cancelled, by simp [hl]⟩
  | cancelAll hl => exact .inl ⟨countP_map_eq fun u => hp _ _ (u.raised_hit _), by simp [hl]⟩
  | abort hl => exact .inl ⟨countP_modify_eq fun u => hp _ _ u.raised_aborted, by simp [hl]⟩
  | drainFlag hl =>
    exact .inl ⟨countP_modify_eq fun u => hp _ _ u.raised_cancelled, by simp [hl]⟩
  | drainAbort hl =>
    exact .inl ⟨countP_modify_eq fun u => hp _ _ u.raised_aborted, by simp [hl]⟩
  | panic hl =>
    refine .inl ⟨rfl, fun m hm => ?_⟩
    rcases hl with ⟨_, _, hl⟩ | ⟨_, hl⟩ | hl <;> rw [hl] at hm <;> cases hm
  | _ hl => exact .inl ⟨rfl, by simp [hl]⟩

theorem LoopMove.origin {a : LoopAction} (h : LoopMove s a s') (hu : s'.urbs[t]? = some u') :
    (∃ u, s.urbs[t]? = some u ∧ u.Raised u') ∨
      ∃ m, s.loop = .acquiring m ∧ t = s.urbs.length ∧ u' = { msg := m } := by
  have hold : t < s.urbs.length → ∃ u, s.urbs[t]? = some u ∧ u.Raised u' := by
    intro hlt
    obtain ⟨u'', hu'', hr⟩ := h.carries t _ (List.getElem?_eq_getElem hlt)
    rw [hu''] at hu
    exact ⟨_, List.getElem?_eq_getElem hlt, Option.some.inj hu ▸ hr⟩
  rcases h.length_urbs with hlen | ⟨m, hm, happ⟩
  · exact .inl (hold (hlen ▸ lt_length_of_getElem? hu))
  · rw [happ] at hu
    rcases getElem?_append_some hu with hu | ⟨rfl, rfl⟩
    · exact .inl (hold (lt_length_of_getElem? hu))
    · exact .inr ⟨m, hm, rfl, rfl⟩

theorem drainNext_eq {γ : Type*} (f : LoopPc → γ)
    (h : ∀ i rest, f (.drainFlag i rest) = f .ended) (is : List Inflight) :
    f (drainNext is) = f .ended := by
  cases is with
  | nil => rfl
  | cons i rest => exact h i rest

theorem LoopMove.not_panicked {a : LoopAction} (h : LoopMove s a s') : s.loop ≠ .panicked := by
  cases h with
  | panic hl => rcases hl with ⟨_, _, hl⟩ | ⟨_, hl⟩ | hl <;> simp [hl]
  | _ hl => simp [hl]

theorem TaskMove.loop_eq {a : TaskAction} (h : TaskMove s t u a s') : s'.loop = s.loop := by
  cases h <;> rfl

theorem TaskMove.device_eq {a : TaskAction} (h : TaskMove s t u a s') : s'.device = s.device := by
  cases h <;> rfl

theorem TaskMove.inflightLock_eq {a : TaskAction} (h : TaskMove s t u a s') :
    s'.inflightLock = s.inflightLock := by
  cases h <;> rfl

theorem TaskMove.set {a : TaskAction} (h : TaskMove s t u a s') :
    ∃ u', s'.urbs = s.urbs.set t u' ∧ u'.msg = u.msg ∧ u'.cancelled = u.cancelled ∧
      u'.aborted = u.aborted ∧
      (u'.closure = u.closure ∨ (u.task = .spawned ∧ u'.closure = .queued)) := by
  cases h with
  | handOff _ ht => exact ⟨_, rfl, rfl, rfl, rfl, .inr ⟨ht, rfl⟩⟩
  | _ => exact ⟨_, rfl, rfl, rfl, rfl, .inl rfl⟩

theorem ClosureMove.set {a : ClosureAction} (h : ClosureMove s t u a s') :
    ∃ c, s'.urbs = s.urbs.set t { u with closure := c } := by
  cases h <;> exact ⟨_, rfl⟩

theorem ClosureMove.frame {a : ClosureAction} (h : ClosureMove s t u a s') :
    s'.loop = s.loop ∧ s'.inflight = s.inflight ∧ s'.inflightLock = s.inflightLock ∧
      s'.permits = s.permits ∧ s'.writer = s.writer ∧ s'.wire = s.wire := by
  cases h <;> exact ⟨rfl, rfl, rfl, rfl, rfl, rfl⟩

theorem origin_of_set {s' : State} {u' : Urb} (hu : s.urbs[t]? = some u)
    (hs : s'.urbs = s.urbs.set t u') (hm : u'.msg = u.msg) (hc : u'.cancelled = u.cancelled)
    (ha : u'.aborted = u.aborted) {i : Nat} {v' : Urb} (hv : s'.urbs[i]? = some v') :
    ∃ v, s.urbs[i]? = some v ∧ v'.msg = v.msg ∧ v'.cancelled = v.cancelled ∧
      v'.aborted = v.aborted := by
  rw [hs] at hv
  rcases getElem?_set_some hv with ⟨rfl, rfl⟩ | ⟨_, hv⟩
  · exact ⟨u, hu, hm, hc, ha⟩
  · exact ⟨v', hv, rfl, rfl, rfl⟩

theorem TaskMove.origin {a : TaskAction} (hm : TaskMove s t u a s') (hu : s.urbs[t]? = some u)
    {i : Nat} {v' : Urb} (hv : s'.urbs[i]? = some v') :
    ∃ v, s.urbs[i]? = some v ∧ v'.msg = v.msg ∧ v'.cancelled = v.cancelled ∧
      v'.aborted = v.aborted := by
  obtain ⟨u', hs, hmsg, hc, ha, _⟩ := hm.set
  exact origin_of_set hu hs hmsg hc ha hv

theorem ClosureMove.origin {a : ClosureAction} (hm : ClosureMove s t u a s')
    (hu : s.urbs[t]? = some u) {i : Nat} {v' : Urb} (hv : s'.urbs[i]? = some v') :
    ∃ v, s.urbs[i]? = some v ∧ v'.msg = v.msg ∧ v'.cancelled = v.cancelled ∧
      v'.aborted = v.aborted := by
  obtain ⟨c, hs⟩ := hm.set
  exact origin_of_set hu hs rfl rfl rfl hv

theorem ClosureMove.loop_eq {a : ClosureAction} (h : ClosureMove s t u a s') :
    s'.loop = s.loop := h.frame.1

def Event.byTask : Event → Bool
  | .retSubmit .. | .writeFailed => true
  | _ => false

def Event.byClosure : Event → Bool
  | .host .. | .returned _ => true
  | _ => false

def Event.byLoop : Event → Bool
  | .readSubmit .. | .readUnlink _ | .aborted .. | .retUnlink _ | .writeFailed => true
  | _ => false

theorem TaskMove.log {a : TaskAction} (h : TaskMove s t u a s') :
    s'.log = s.log ∨ ∃ e, s'.log = e :: s.log ∧ e.byTask = true := by
  cases h with
  | finishWrite => exact .inr ⟨_, rfl, rfl⟩
  | failWrite => exact .inr ⟨_, rfl, rfl⟩
  | _ => exact .inl rfl

theorem ClosureMove.log {a : ClosureAction} (h : ClosureMove s t u a s') :
    s'.log = s.log ∨ ∃ e, s'.log = e :: s.log ∧ e.byClosure = true := by
  cases h with
  | @call pc a r =>
    cases r.event with
    | none => exact .inl (by simp)
    | some e => exact .inr ⟨.host t e, by simp, rfl⟩
  | finish => exact .inr ⟨_, rfl, rfl⟩
  | finishPanic => exact .inr ⟨_, rfl, rfl⟩
  | _ => exact .inl rfl

theorem LoopMove.log {a : LoopAction} (h : LoopMove s a s') :
    s'.log = s.log ∨ ∃ e, s'.log = e :: s.log ∧ e.byLoop = true := by
  cases h with
  | submit => exact .inr ⟨_, rfl, rfl⟩
  | unlink => exact .inr ⟨_, rfl, rfl⟩
  | abort => exact .inr ⟨_, rfl, rfl⟩
  | finishWrite => exact .inr ⟨_, rfl, rfl⟩
  | failWrite => exact .inr ⟨_, rfl, rfl⟩
  | _ => exact .inl rfl

theorem Move.log {a : Action} (h : Move s a s') :
    s'.log = s.log ∨ ∃ e, s'.log = e :: s.log := by
  have hweak : ∀ {p : Event → Bool}, (s'.log = s.log ∨ ∃ e, s'.log = e :: s.log ∧ p e = true) →
      s'.log = s.log ∨ ∃ e, s'.log = e :: s.log :=
    fun h => h.imp id fun ⟨e, he, _⟩ => ⟨e, he⟩
  cases h with
  | task _ hm => exact hweak hm.log
  | closure _ hm => exact hweak hm.log
  | loop hm => exact hweak hm.log

theorem Move.log_mono {a : Action} (h : Move s a s') {e : Event} (he : e ∈ s.log) :
    e ∈ s'.log := by
  rcases h.log with hl | ⟨e', hl⟩
  · rwa [hl]
  · rw [hl]
    exact List.mem_cons_of_mem _ he

theorem countP_log_eq {p q : Event → Bool} (hpq : ∀ e, p e = true → q e = false)
    (h : s'.log = s.log ∨ ∃ e, s'.log = e :: s.log ∧ p e = true) :
    s'.log.countP q = s.log.countP q := by
  rcases h with hl | ⟨e, hl, he⟩
  · rw [hl]
  · rw [hl, List.countP_cons_of_neg (by simp [hpq e he])]

theorem mem_log_of {p : Event → Bool} {e : Event}
    (h : s'.log = s.log ∨ ∃ e, s'.log = e :: s.log ∧ p e = true) (hp : p e = false)
    (he : e ∈ s'.log) : e ∈ s.log := by
  rcases h with hl | ⟨e', hl, he'⟩
  · rwa [hl] at he
  · rw [hl] at he
    rcases List.mem_cons.mp he with rfl | he
    · rw [hp] at he'
      cases he'
    · exact he

theorem Move.keeps {P : Urb → Prop} {a : Action} (hm : Move s a s')
    (htask : ∀ (t : Nat) (u u' : Urb) (a : TaskAction), s.urbs[t]? = some u →
      TaskMove s t u a s' → s'.urbs = s.urbs.set t u' → P u → P u')
    (hclosure : ∀ (t : Nat) (u : Urb) (c : ClosurePc) (a : ClosureAction),
      ClosureMove s t u a s' → P u → P { u with closure := c })
    (hloop : ∀ u u' : Urb, u.Raised u' → P u → P u') {i : Nat} {v : Urb}
    (hv : s.urbs[i]? = some v) (h : P v) : ∃ v', s'.urbs[i]? = some v' ∧ P v' := by
  have hset : ∀ {t : Nat} {u u' : Urb}, s.urbs[t]? = some u → s'.urbs = s.urbs.set t u' →
      (P u → P u') → ∃ v', s'.urbs[i]? = some v' ∧ P v' := by
    intro t u u' hu hs hP
    rw [hs]
    by_cases hi : t = i
    · subst hi
      rw [hu] at hv
      cases hv
      exact ⟨u', List.getElem?_set_self (lt_length_of_getElem? hu), hP h⟩
    · exact ⟨v, by rw [List.getElem?_set_ne hi, hv], h⟩
  cases hm with
  | task hu hm =>
    obtain ⟨u', hs, _⟩ := hm.set
    exact hset hu hs (htask _ _ _ _ hu hm hs)
  | closure hu hm =>
    obtain ⟨c, hs⟩ := hm.set
    exact hset hu hs (hclosure _ _ _ _ hm)
  | loop hm =>
    obtain ⟨v', hv', hr⟩ := hm.carries i v hv
    exact ⟨v', hv', hloop _ _ hr h⟩

theorem Move.persists {a : Action} (h : Move s a s') {i : Nat} {v : Urb}
    (hv : s.urbs[i]? = some v) : ∃ v', s'.urbs[i]? = some v' ∧ v'.msg = v.msg := by
  refine h.keeps (P := fun v' => v'.msg = v.msg) ?_ ?_ ?_ hv rfl
  · intro t u u' a hu hm hs hmsg
    obtain ⟨u'', hs', hmsg', _⟩ := hm.set
    obtain rfl : u' = u'' := set_inj hu (hs.symm.trans hs')
    exact hmsg'.trans hmsg
  · intro t u c a _ hmsg
    exact hmsg
  · intro u u' hr hmsg
    exact hr.msg.trans hmsg

theorem Move.length_le {a : Action} (h : Move s a s') : s.urbs.length ≤ s'.urbs.length := by
  by_contra hlt
  obtain ⟨v', hv', -⟩ := h.persists (List.getElem?_eq_getElem (Nat.lt_of_not_le hlt))
  exact absurd (lt_length_of_getElem? hv') (Nat.lt_irrefl _)

end Usbip.Session
