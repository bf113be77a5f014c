import UsbipdDarwin.Session.Outcome

/-! From the bytes a device delivers to the `RET_SUBMIT` of the URB that asked for
them. `control_transfer` hands on whatever came, `data_transfer` cuts it to the length
the client gave before `run_submit` compares the two. -/

namespace Usbip.Host
open Proto

/-- The transfer did not fail and these are the bytes it brought in. -/
def Answered.Delivered (data : Bytes) : Answered → Prop
  | .completion comp =>
    comp.status.isOk = true ∧ comp.buffer = data ∧ comp.actualLen = data.length
  | .control (.ok bytes) => bytes = data
  | .control (.error _) | .status _ => False

instance (data : Bytes) : (x : Answered) → Decidable (x.Delivered data)
  | .completion _ => inferInstanceAs (Decidable (_ ∧ _ ∧ _))
  | .control (.ok _) => inferInstanceAs (Decidable (_ = _))
  | .control (.error _) | .status _ => isFalse nofun

end Usbip.Host

namespace Usbip.Session
open Proto Host Lts

section Reply

variable {m : Submit} {data : Bytes}

/-- The reply to an IN URB whose transfer brought in these bytes: all of them, or none
and an overflow. -/
def deliveryFrame (m : Submit) (data : Bytes) : Bytes :=
  if m.tbl < data.length then
    writeRetSubmit m.seqnum ⟨eoverflow, 0, 0, 0, 0, List.Vector.replicate 8 0⟩ []
  else
    writeRetSubmit m.seqnum ⟨0, Int32.ofNat data.length, 0, 0, 0, List.Vector.replicate 8 0⟩ data

theorem retSubmitFrame_delivery (hin : m.dirIn = true) :
    retSubmitFrame m (.ok (data.length, data)) = deliveryFrame m data := by
  rw [retSubmitFrame, replyParts, if_pos hin, deliveryFrame]
  split_ifs with hover
  · rfl
  · have hlt : data.length < 2 ^ 31 :=
      lt_of_le_of_lt (Nat.le_of_not_lt hover) (Int32.toNatClampNeg_lt _)
    rw [i32OfUsize, if_pos hlt]

theorem outcome_control {x : Answered} {r : Except HostError CallValue} (hep : m.basic.ep = 0)
    (hin : m.dirIn = true) (hsetup : (SetupPacket.fromBytes m.cmd.setup).isIn = true)
    (hr : m.call.Yields (some x) r) (hdata : x.Delivered data) :
    closureOutcome m r = .ok (data.length, data) := by
  rw [call_of_ep_eq hep] at hr
  cases hr with
  | answered =>
    obtain rfl := hdata
    simp only [hsetup, if_true, closureOutcome, hin]
  | refused | carriedOut | failed => cases hdata

theorem outcome_data {x : Answered} {r : Except HostError CallValue} (hep : m.basic.ep ≠ 0)
    (hin : m.dirIn = true) (hr : m.call.Yields (some x) r) (hdata : x.Delivered data) :
    closureOutcome m r =
      .ok ((data.take m.tbl).length, data.take m.tbl) := by
  rw [call_of_ep_ne hep] at hr
  cases hr with
  | failed => cases hdata
  | @completed _ _ _ comp =>
    obtain ⟨hok, rfl, hlen⟩ := hdata
    have haddr : isIn m.dataAddr = true := (isIn_dataAddr m).trans hin
    cases hs : comp.status with
    | error e =>
      rw [hs] at hok
      cases hok
    | ok =>
      have htake : comp.buffer.take (min comp.buffer.length m.tbl) = comp.buffer.take m.tbl := by
        rw [Nat.min_comm, ← List.take_take, List.take_length]
      rw [finishTransfer, hs]
      simp only [haddr, if_true, hlen, htake, Except.map, closureOutcome, List.length_take,
        Nat.min_comm]

theorem retSubmitFrame_cut (hin : m.dirIn = true) (hover : m.tbl < data.length) :
    retSubmitFrame m (.ok ((data.take m.tbl).length, data.take m.tbl)) ≠ deliveryFrame m data := by
  intro heq
  have hcut : (data.take m.tbl).length = m.tbl := by
    rw [List.length_take, Nat.min_eq_left hover.le]
  have hshort : ¬ m.tbl < (data.take m.tbl).length := by omega
  rw [retSubmitFrame_delivery hin, deliveryFrame, if_neg hshort, deliveryFrame, if_pos hover] at heq
  have hstatus := congrArg
    (fun frame => RetSubmit.decode ((frame.drop UrbHeader.size).take RetSubmit.size)) heq
  simp only [writeRetSubmit, List.append_assoc, UrbHeader.drop_encode, RetSubmit.take_encode,
    RetSubmit.decode_encode, Except.ok.injEq, RetSubmit.mk.injEq] at hstatus
  exact absurd hstatus.1 (by decide)

end Reply

/-- A `RET_SUBMIT` carries what was delivered, or tells of an overflow, exactly where the URB is
on the control endpoint or the device has delivered no more than the client has room for. -/
theorem no_delivery_dropped {p : State × AnswerLog} (h : answeredSession.Reachable p) {t : Nat}
    {u : Urb} (hu : p.1.urbs[t]? = some u) {n : UInt32} {frame : Bytes}
    (hlog : .retSubmit t n frame ∈ p.1.log) (hin : u.msg.dirIn = true)
    (hsetup : u.msg.basic.ep = 0 → (SetupPacket.fromBytes u.msg.cmd.setup).isIn = true)
    {x : Answered} (hx : p.2 t = some x) {data : Bytes} (hdata : x.Delivered data) :
    frame = deliveryFrame u.msg data ↔ u.msg.basic.ep = 0 ∨ data.length ≤ u.msg.tbl := by
  obtain ⟨v, r, hv, -, hyields, rfl⟩ := yields_of_reply h hlog
  obtain rfl : u = v := Option.some.inj (hu.symm.trans hv)
  rw [hx] at hyields
  by_cases hep : u.msg.basic.ep = 0
  · rw [outcome_control hep hin (hsetup hep) hyields hdata, retSubmitFrame_delivery hin]
    exact iff_of_true rfl (.inl hep)
  · rw [outcome_data hep hin hyields hdata]
    rcases Nat.lt_or_ge u.msg.tbl data.length with hover | hroom
    · refine iff_of_false (retSubmitFrame_cut hin hover) ?_
      exact not_or.mpr ⟨hep, Nat.not_le.mpr hover⟩
    · rw [List.take_of_length_le hroom, retSubmitFrame_delivery hin]
      exact iff_of_true rfl (.inr hroom)

namespace Sample

/-- URB 7 asks for eight bytes on `0x81`, whose packets have 64, and the device delivers
these. -/
def bulkRead (data : Bytes) (frameLength : Nat) : List Action :=
  accept (submit 7 1) ++ handOff 0 ++ openEndpoint 0 ++ startTransfer 0 ++
    [.closure 0 (.call (.completed ⟨data.length, .ok (), data⟩)), .closure 0 (.call .go),
      .closure 0 .finish] ++ buildReply 0 ++
    [.task 0 .lockWriter, .task 0 (.write frameLength), .task 0 .finishWrite]

/-- These bytes were delivered to URB 0, an IN URB off the control endpoint, and its reply
passes the test. -/
def delivery (data : Bytes) (test : Submit → Bytes → Bool) (p : State × AnswerLog) : Bool :=
  match p.1.urbs[0]?, p.2 0, p.1.log with
  | some u, some x, .retSubmit 0 _ frame :: _ =>
    u.msg.dirIn && u.msg.basic.ep != 0 && decide (x.Delivered data) && test u.msg frame
  | _, _, _ => false

theorem of_delivery {data : Bytes} {test : Submit → Bytes → Bool} {p : State × AnswerLog}
    (h : delivery data test p = true) : ∃ u x n frame, p.1.urbs[0]? = some u ∧ p.2 0 = some x ∧
      .retSubmit 0 n frame ∈ p.1.log ∧ u.msg.dirIn = true ∧ u.msg.basic.ep ≠ 0 ∧
      x.Delivered data ∧ test u.msg frame = true := by
  unfold delivery at h
  split at h
  · rename_i u x n frame rest hu hx hlog
    simp only [Bool.and_eq_true, bne_iff_ne, decide_eq_true_eq] at h
    obtain ⟨⟨⟨hin, hep⟩, hdata⟩, htest⟩ := h
    refine ⟨u, x, n, frame, hu, hx, ?_, hin, hep, hdata, htest⟩
    rw [hlog]
    exact List.mem_cons_self ..
  · cases h

end Sample

theorem no_delivery_dropped_short : ∃ p u x n frame, answeredSession.Reachable p ∧
    p.1.urbs[0]? = some u ∧ .retSubmit 0 n frame ∈ p.1.log ∧ p.2 0 = some x ∧
    x.Delivered [1, 2, 3] ∧ frame = deliveryFrame u.msg [1, 2, 3] := by
  have hrun : (answeredSession.run (.initial Sample.device, fun _ => none)
      (Sample.bulkRead [1, 2, 3] 51)).map
        (Sample.delivery [1, 2, 3] fun m _ => decide (3 ≤ m.tbl)) = some true := by
    decide
  obtain ⟨p, hp, hd⟩ := System.exists_reachable_of_run Sample.init_answered hrun
  obtain ⟨u, x, n, frame, hu, hx, hlog, hin, hep, hdata, hroom⟩ := Sample.of_delivery hd
  refine ⟨p, u, x, n, frame, hp, hu, hlog, hx, hdata, ?_⟩
  exact (no_delivery_dropped hp hu hlog hin (fun h0 => absurd h0 hep) hx hdata).mpr
    (.inr (of_decide_eq_true hroom))

/-- Ten bytes for a client with room for eight: eight of them and status 0. -/
theorem overlong_delivery_cut : ∃ p u x n frame, answeredSession.Reachable p ∧
    p.1.urbs[0]? = some u ∧ .retSubmit 0 n frame ∈ p.1.log ∧ u.msg.dirIn = true ∧
    u.msg.basic.ep ≠ 0 ∧ p.2 0 = some x ∧ x.Delivered [1, 2, 3, 4, 5, 6, 7, 8, 9, 10] ∧
    u.msg.tbl = 8 ∧
    frame = writeRetSubmit u.msg.seqnum ⟨0, 8, 0, 0, 0, List.Vector.replicate 8 0⟩
      [1, 2, 3, 4, 5, 6, 7, 8] ∧
    frame ≠ deliveryFrame u.msg [1, 2, 3, 4, 5, 6, 7, 8, 9, 10] := by
  have hrun : (answeredSession.run (.initial Sample.device, fun _ => none)
      (Sample.bulkRead [1, 2, 3, 4, 5, 6, 7, 8, 9, 10] 56)).map
        (Sample.delivery [1, 2, 3, 4, 5, 6, 7, 8, 9, 10] fun m frame =>
          decide (m.tbl = 8 ∧
            frame = writeRetSubmit m.seqnum ⟨0, 8, 0, 0, 0, List.Vector.replicate 8 0⟩
              [1, 2, 3, 4, 5, 6, 7, 8] ∧
            frame ≠ deliveryFrame m [1, 2, 3, 4, 5, 6, 7, 8, 9, 10])) = some true := by
    decide
  obtain ⟨p, hp, hd⟩ := System.exists_reachable_of_run Sample.init_answered hrun
  obtain ⟨u, x, n, frame, hu, hx, hlog, hin, hep, hdata, hframe⟩ := Sample.of_delivery hd
  exact ⟨p, u, x, n, frame, hp, hu, hlog, hin, hep, hx, hdata, of_decide_eq_true hframe⟩

end Usbip.Session
