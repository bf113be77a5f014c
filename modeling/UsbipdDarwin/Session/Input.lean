import UsbipdDarwin.Session.Frame
import UsbipdDarwin.Session.Requests

/-! The commands of a session are those its client has written: the loop takes them off
the stream one by one, and every URB is for the next submit among them. -/

namespace Usbip.Session
open Proto Host Lts

variable {s s' : State} {t : Nat} {u : Urb} {rs : List Request}

deriving instance DecidableEq for Submit, Command

def Command.toSubmit : Command → Option Submit
  | .submit m => some m
  | .unlink _ => none

def submitsOf (rs : List Request) : List Submit := rs.filterMap fun r => r.command.toSubmit

def Event.isRead : Event → Bool
  | .readSubmit .. | .readUnlink _ => true
  | _ => false

def State.reads (s : State) : Nat := s.log.countP Event.isRead

def Fed (rs : List Request) (s : State) : Action → Prop
  | .loop (.recv c) => rs[s.reads]?.map Request.command = some c
  | _ => True

instance (rs : List Request) (s : State) : (a : Action) → Decidable (Fed rs s a)
  | .loop (.recv c) => inferInstanceAs (Decidable (rs[s.reads]?.map Request.command = some c))
  | .loop .hangUp | .loop (.drain _) | .loop .go | .loop (.write _) | .loop .failWrite
  | .task .. | .closure .. => isTrue trivial

def LoopPc.pending : LoopPc → Option Submit
  | .acquiring m => some m
  | _ => none

def TakenUp (rs : List Request) (s : State) : Prop :=
  submitsOf (rs.take s.reads) = s.urbs.map Urb.msg ++ s.loop.pending.toList

theorem submitsOf_take {r : Request} {n : Nat} (hr : rs[n]? = some r) :
    submitsOf (rs.take (n + 1)) = submitsOf (rs.take n) ++ r.command.toSubmit.toList := by
  rw [List.take_add_one, hr, Option.toList_some, submitsOf, List.filterMap_append, submitsOf,
    List.filterMap_cons]
  cases r.command.toSubmit with
  | none => rfl
  | some m => rfl

theorem map_msg_eq {a : Action} (h : Move s a s') (hlen : s'.urbs.length = s.urbs.length) :
    s'.urbs.map Urb.msg = s.urbs.map Urb.msg := by
  apply List.ext_getElem?
  intro i
  rw [List.getElem?_map, List.getElem?_map]
  cases hv : s.urbs[i]? with
  | none =>
    have hle : s'.urbs.length ≤ i := by
      rw [hlen]
      exact List.getElem?_eq_none_iff.mp hv
    rw [List.getElem?_eq_none hle]
  | some v =>
    obtain ⟨v', hv', hmsg⟩ := h.persists hv
    rw [hv', Option.map_some, Option.map_some, hmsg]

theorem TakenUp.keep {a : Action} (h : TakenUp rs s) (hm : Move s a s')
    (hreads : s'.reads = s.reads) (hlen : s'.urbs.length = s.urbs.length)
    (hpending : s'.loop.pending = s.loop.pending) : TakenUp rs s' := by
  unfold TakenUp at h ⊢
  rw [hreads, map_msg_eq hm hlen, hpending]
  exact h

theorem LoopMove.takenUp {a : LoopAction} (hm : LoopMove s a s') (hfed : Fed rs s (.loop a))
    (h : TakenUp rs s) : TakenUp rs s' := by
  have hread : ∀ {c : Command}, a = .recv c → s.loop = .reading → s'.urbs = s.urbs →
      s'.reads = s.reads + 1 → s'.loop.pending = c.toSubmit → TakenUp rs s' := by
    rintro c rfl hl hurbs hreads hpending
    obtain ⟨r, hr, rfl⟩ := Option.map_eq_some_iff.mp (hfed : rs[s.reads]?.map _ = some c)
    unfold TakenUp at h ⊢
    rw [hreads, submitsOf_take hr, h, hl, hurbs, hpending]
    exact congrArg (· ++ _) (List.append_nil _)
  have hidle : s'.log.countP Event.isRead = s.log.countP Event.isRead →
      s.loop.pending = none → s'.loop.pending = none → TakenUp rs s' := by
    intro hreads hbefore hafter
    rcases hm.length_urbs with hlen | ⟨m, hl, -⟩
    · exact h.keep (.loop hm) hreads hlen (hafter.trans hbefore.symm)
    · rw [hl] at hbefore
      cases hbefore
  cases hm with
  | submit hl => exact hread rfl hl rfl (List.countP_cons_of_pos rfl) rfl
  | unlink hl => exact hread rfl hl rfl (List.countP_cons_of_pos rfl) rfl
  | @spawn m hl =>
    unfold TakenUp at h ⊢
    rw [hl] at h
    show submitsOf (rs.take s.reads) = (s.urbs ++ [_]).map Urb.msg ++ []
    rw [h, List.append_nil, List.map_append]
    rfl
  | abort hl | finishWrite hl | failWrite hl =>
    exact hidle (List.countP_cons_of_neg Bool.false_ne_true) (by rw [hl]; rfl) rfl
  | panic hl =>
    refine hidle rfl ?_ rfl
    rcases hl with ⟨_, _, hl⟩ | ⟨_, hl⟩ | hl <;> rw [hl] <;> rfl
  | drain hl | drainAbort hl =>
    refine hidle rfl (by rw [hl]; rfl) ?_
    exact drainNext_eq LoopPc.pending (fun _ _ => rfl) _
  | _ hl => exact hidle rfl (by rw [hl]; rfl) rfl

theorem takenUp (h : session.ReachableBy (Fed rs) s) : TakenUp rs s := by
  refine h.invariant (I := TakenUp rs) ?_ ?_
  · rintro s ⟨configurations, active, rfl⟩
    rfl
  · intro s a s' _ hi hfed hs
    cases step_move hs with
    | task hu ht =>
      obtain ⟨u', hset, -⟩ := ht.set
      refine hi.keep (.task hu ht) ?_ (by rw [hset, List.length_set]) (by rw [ht.loop_eq])
      exact countP_log_eq (fun e he => by cases e <;> first | rfl | cases he) ht.log
    | closure hu hc =>
      obtain ⟨c, hset⟩ := hc.set
      refine hi.keep (.closure hu hc) ?_ (by rw [hset, List.length_set]) (by rw [hc.loop_eq])
      exact countP_log_eq (fun e he => by cases e <;> first | rfl | cases he) hc.log
    | loop hl => exact hl.takenUp hfed hi

theorem urbs_prefix (h : session.ReachableBy (Fed rs) s) :
    s.urbs.map Urb.msg <+: submitsOf rs := by
  have htaken : submitsOf (rs.take s.reads) = s.urbs.map Urb.msg ++ s.loop.pending.toList :=
    takenUp h
  have hurbs : s.urbs.map Urb.msg <+: submitsOf (rs.take s.reads) := by
    rw [htaken]
    exact List.prefix_append ..
  exact hurbs.trans ((List.take_prefix ..).filterMap _)

end Usbip.Session
