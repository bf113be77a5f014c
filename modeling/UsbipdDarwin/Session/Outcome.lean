import UsbipdDarwin.Host.Transfer
import UsbipdDarwin.Lts.History
import UsbipdDarwin.Session.Closures

/-! From what `nusb` answers to the `RET_SUBMIT` of the URB that asked. The answers are kept
beside the session; the last one to a URB decides what its client is to be told. -/

namespace Usbip.Session
open Proto Host Lts

theorem isIn_dataAddr (m : Submit) : isIn m.dataAddr = m.dirIn := by
  rw [Submit.dataAddr, isIn]
  cases m.dirIn
  · rw [if_neg Bool.false_ne_true, UInt8.or_zero, UInt32.toUInt8_and, UInt8.and_assoc]
    exact bne_eq_false_iff_eq.mpr UInt8.and_zero
  · rw [if_pos rfl, bne_iff_ne]
    intro h
    have hbit := congrArg (fun x => x.toBitVec[7]) h
    simp at hbit

theorem call_of_ep_eq {m : Submit} (hep : m.basic.ep = 0) :
    m.call = .control (SetupPacket.fromBytes m.cmd.setup) m.outPayload := by
  rw [Submit.call, hep]
  rfl

theorem call_of_ep_ne {m : Submit} (hep : m.basic.ep ≠ 0) :
    m.call = .data m.dataAddr m.tbl m.outPayload := by
  rw [Submit.call, if_neg (by simpa using hep)]

theorem call_eq_data {m : Submit} {epAddr : UInt8} {length : Nat} {outData : Bytes}
    (h : m.call = .data epAddr length outData) :
    epAddr = m.dataAddr ∧ length = m.tbl ∧ outData = m.outPayload := by
  rw [Submit.call] at h
  split_ifs at h
  cases h
  exact ⟨rfl, rfl, rfl⟩

theorem call_eq_control {m : Submit} {setup : SetupPacket} {outData : Bytes}
    (h : m.call = .control setup outData) :
    setup = SetupPacket.fromBytes m.cmd.setup ∧ outData = m.outPayload := by
  rw [Submit.call] at h
  split_ifs at h
  cases h
  exact ⟨rfl, rfl⟩

structure Report where
  status : Int32
  actualLength : Nat
  payload : Bytes

def report (m : Submit) : Option Answered → Report
  | some (.completion ⟨actualLen, .ok (), buffer⟩) =>
    if m.dirIn then ⟨0, min actualLen m.tbl, buffer.take (min actualLen m.tbl)⟩
    else ⟨0, actualLen, []⟩
  | some (.control (.ok data)) =>
    if !m.dirIn then ⟨0, m.outPayload.length, []⟩
    -- the setup packet, and not the header, says whether the device sends anything
    else if !(SetupPacket.fromBytes m.cmd.setup).isIn then ⟨0, 0, []⟩
    else if m.tbl < data.length then ⟨eoverflow, 0, []⟩
    else ⟨0, data.length, data⟩
  | some (.status true) => ⟨0, if m.dirIn then 0 else m.outPayload.length, []⟩
  | _ => ⟨epipe, 0, []⟩

/-- A client that takes the frame for a `RET_SUBMIT` reads the report out of it. -/
structure Reports (frame : Bytes) (seqnum : UInt32) (r : Report) : Prop where
  header : UrbHeader.decode (frame.take UrbHeader.size) = .ok ⟨usbipRetSubmit, seqnum, 0, 0, 0⟩
  body : RetSubmit.decode ((frame.drop UrbHeader.size).take RetSubmit.size) =
    .ok ⟨r.status, i32OfUsize r.actualLength, 0, 0, 0, List.Vector.replicate 8 0⟩
  payload : frame.drop urbHeaderSize = r.payload

section Report

variable {m : Submit} {x : Option Answered}

theorem replyParts_data (comp : Completion) :
    replyParts m (closureOutcome m ((finishTransfer m.dataAddr m.tbl comp).map .transfer)) =
      ((report m (some (.completion comp))).status,
        i32OfUsize (report m (some (.completion comp))).actualLength,
        (report m (some (.completion comp))).payload) := by
  obtain ⟨actualLen, status, buffer⟩ := comp
  rw [finishTransfer, isIn_dataAddr]
  cases status with
  | error e => rfl
  | ok =>
    cases hin : m.dirIn with
    | false => simp [report, replyParts, closureOutcome, Except.map, hin]
    | true =>
      simp [report, replyParts, closureOutcome, Except.map, hin]

theorem replyParts_control (data : Bytes) :
    replyParts m (closureOutcome m
        (.ok (.bytes (if (SetupPacket.fromBytes m.cmd.setup).isIn then data else [])))) =
      ((report m (some (.control (.ok data)))).status,
        i32OfUsize (report m (some (.control (.ok data)))).actualLength,
        (report m (some (.control (.ok data)))).payload) := by
  cases hin : m.dirIn with
  | false => simp [report, replyParts, closureOutcome, hin]
  | true =>
    cases hsetup : (SetupPacket.fromBytes m.cmd.setup).isIn with
    | false => simp [report, replyParts, closureOutcome, hin, hsetup]
    | true =>
      simp only [report, replyParts, closureOutcome, hin, hsetup]
      by_cases hover : m.tbl < data.length
      · simp [hover]
        rfl
      · simp [hover]

theorem replyParts_report {r : Except HostError CallValue} (h : m.call.Yields x r) :
    replyParts m (closureOutcome m r) =
      ((report m x).status, i32OfUsize (report m x).actualLength, (report m x).payload) := by
  generalize hcall : m.call = c at h
  cases h with
  | completed =>
    obtain ⟨rfl, rfl, rfl⟩ := call_eq_data hcall
    exact replyParts_data _
  | answered =>
    obtain ⟨rfl, rfl⟩ := call_eq_control hcall
    exact replyParts_control _
  | carriedOut =>
    cases hin : m.dirIn <;> simp [report, replyParts, closureOutcome, hin]
  | refused | failed | unresolved => rfl

theorem reports_writeRetSubmit (seqnum : UInt32) (r : Report) :
    Reports (writeRetSubmit seqnum
      ⟨r.status, i32OfUsize r.actualLength, 0, 0, 0, List.Vector.replicate 8 0⟩ r.payload)
      seqnum r := by
  refine ⟨?_, ?_, ?_⟩
  · rw [writeRetSubmit, List.append_assoc, UrbHeader.take_encode, UrbHeader.decode_encode]
  · rw [writeRetSubmit, List.append_assoc, UrbHeader.drop_encode,
      RetSubmit.take_encode, RetSubmit.decode_encode]
  · rw [writeRetSubmit]
    exact List.drop_left' (by simp [urbHeaderSize])

theorem reports_retSubmitFrame {r : Except HostError CallValue} (h : m.call.Yields x r) :
    Reports (retSubmitFrame m (closureOutcome m r)) m.seqnum (report m x) := by
  rw [retSubmitFrame, replyParts_report h]
  exact reports_writeRetSubmit _ _

end Report

abbrev AnswerLog := Nat → Option Answered

def noteAnswer (_ : State) (a : Action) (answers : AnswerLog) : AnswerLog :=
  match a with
  | .closure t (.call a) => Function.update answers t (a.answer (answers t))
  | _ => answers

/-- A session and, beside it, what `nusb` has answered to its URBs. -/
def answeredSession : System (State × AnswerLog) Action :=
  session.withHistory (fun _ => none) noteAnswer

def ClosurePc.Tracks (m : Submit) (x : Option Answered) : ClosurePc → Prop
  | .running pc => pc.Tracks m.call x
  | .returned o => ∃ r, m.call.Yields x r ∧ o = closureOutcome m r
  | .panicked => True
  | .idle | .queued => x = none

structure Tracked (s : State) (g : AnswerLog) : Prop where
  urbs : ∀ (t : Nat) (u : Urb), s.urbs[t]? = some u → u.closure.Tracks u.msg (g t)
  fresh : ∀ t, s.urbs.length ≤ t → g t = none

section Run

variable {s s' : State} {g : AnswerLog} {t : Nat} {u u' : Urb}

theorem noteAnswer_of_ne {a : Action} (ha : ∀ x, a ≠ .closure t (.call x)) :
    noteAnswer s a g t = g t := by
  unfold noteAnswer
  split
  · rename_i t' x
    refine Function.update_of_ne ?_ ..
    rintro rfl
    exact ha x rfl
  · rfl

theorem noteAnswer_of_fresh {a : Action} (hm : Move s a s') (ht : s.urbs.length ≤ t) :
    noteAnswer s a g t = g t := by
  refine noteAnswer_of_ne ?_
  rintro x rfl
  cases hm with
  | closure hu hm => exact absurd (lt_length_of_getElem? hu) (Nat.not_lt.mpr ht)

theorem ClosureChange.tracks {m : Submit} {a : Action} {c c' : ClosurePc}
    (hc : ClosureChange s t m a c c') (h : c.Tracks m (g t)) :
    c'.Tracks m (noteAnswer s a g t) := by
  cases hc with
  | same ha =>
    rw [noteAnswer_of_ne ha]
    exact h
  | queue | hit => exact h
  | start =>
    change m.call.start.Tracks m.call (g t)
    rw [show g t = none from h]
    exact tracks_start _
  | call hr =>
    rw [noteAnswer, Function.update_self]
    exact callStep_tracks hr h
  | finish => exact ⟨_, h, rfl⟩
  | panic | finishPanic => trivial

theorem tracked {p : State × AnswerLog} (h : answeredSession.Reachable p) : Tracked p.1 p.2 := by
  refine System.ReachableBy.invariant (I := fun p => Tracked p.1 p.2) h ?_ ?_
  · rintro p ⟨⟨configurations, active, hs⟩, hg⟩
    rw [hs, hg]
    exact ⟨Each.nil, fun _ _ => rfl⟩
  · intro p a p' hr hi _ hstep
    obtain ⟨hs, hg⟩ := System.withHistory_step hstep
    rw [hg]
    have hm := step_move hs
    have hreach : session.Reachable p.1 := System.ReachableBy.fst (C := fun _ _ => True) hr
    refine ⟨fun i v hv => ?_, fun i hlen => ?_⟩
    · rcases hm.closure_change (repliesOk hreach) hv with ⟨w, hw, hmsg, hc⟩ | ⟨m, -, rfl, rfl⟩
      · rw [hmsg]
        exact hc.tracks (hi.urbs i w hw)
      · rw [noteAnswer_of_fresh hm (Nat.le_refl _)]
        exact hi.fresh _ (Nat.le_refl _)
    · have hold : p.1.urbs.length ≤ i := hm.length_le.trans hlen
      rw [noteAnswer_of_fresh hm hold]
      exact hi.fresh i hold

end Run

section Reply

variable {p : State × AnswerLog} {t : Nat} {n : UInt32} {frame : Bytes}

theorem yields_of_reply (h : answeredSession.Reachable p)
    (hlog : .retSubmit t n frame ∈ p.1.log) : ∃ u r, p.1.urbs[t]? = some u ∧
      u.msg.seqnum = n ∧ u.msg.call.Yields (p.2 t) r ∧
      frame = retSubmitFrame u.msg (closureOutcome u.msg r) := by
  have hreach : session.Reachable p.1 := System.ReachableBy.fst (C := fun _ _ => True) h
  obtain ⟨u, hu, hn, ⟨o, ho, rfl⟩, -⟩ := (repliesOk hreach).attributed t n frame hlog
  have htracks := (tracked h).urbs t u hu
  rw [ho] at htracks
  obtain ⟨r, hyields, rfl⟩ := htracks
  exact ⟨u, r, hu, hn, hyields, rfl⟩

theorem reports_answer (h : answeredSession.Reachable p)
    (hlog : .retSubmit t n frame ∈ p.1.log) :
    ∃ u, p.1.urbs[t]? = some u ∧ u.msg.seqnum = n ∧ Reports frame n (report u.msg (p.2 t)) := by
  obtain ⟨u, r, hu, rfl, hyields, rfl⟩ := yields_of_reply h hlog
  exact ⟨u, hu, rfl, reports_retSubmitFrame hyields⟩

end Reply

theorem Sample.init_answered : answeredSession.init (.initial Sample.device, fun _ => none) :=
  ⟨Sample.init_device, rfl⟩

end Usbip.Session
