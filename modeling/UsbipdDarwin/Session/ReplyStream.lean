import UsbipdDarwin.Session.Outcome
import UsbipdDarwin.Session.Requests

/-! The reply stream and the client at its other end, which learns only from the
direction of its own submit whether a payload follows a `RET_SUBMIT`. -/

namespace Usbip.Session
open Proto Host Lts

structure Completed where
  msg : Submit
  wellFormed : msg.WellFormed
  result : Except HostError CallValue
  delivers : msg.call.Delivers result

namespace Completed

def outcome (c : Completed) : Outcome := closureOutcome c.msg c.result

def ret (c : Completed) : RetSubmit :=
  ⟨(replyParts c.msg c.outcome).1, (replyParts c.msg c.outcome).2.1, 0, 0, 0,
    List.Vector.replicate 8 0⟩

def payload (c : Completed) : Bytes := (replyParts c.msg c.outcome).2.2

end Completed

/-- What the reply to an outcome says: a count of at most the length the client
gave, as many bytes as it counts if it is an IN reply, and on success the count
the call reported, unchanged by the conversion to `i32`. -/
structure Fits (m : Submit) (o : Outcome) (n : Nat) : Prop where
  le_tbl : n ≤ m.tbl
  actualLength : (replyParts m o).2.1.toInt = n
  payload : (replyParts m o).2.2.length = if m.dirIn then n else 0
  counted : ∀ actual data, o = .ok (actual, data) → (replyParts m o).1 = 0 → actual = n

section Fits

variable {m : Submit}

theorem toInt_i32OfUsize {n : Nat} (h : n ≤ m.tbl) : (i32OfUsize n).toInt = n := by
  have hlt : n < 2 ^ 31 := lt_of_le_of_lt h (Int32.toNatClampNeg_lt _)
  rw [i32OfUsize, if_pos hlt, Int32.toInt_ofNat_of_lt hlt]

theorem fits_error (e : HostError) : Fits m (.error e) 0 where
  le_tbl := Nat.zero_le _
  actualLength := rfl
  payload := by cases m.dirIn <;> rfl
  counted := by rintro actual data ⟨⟩

theorem fits_overflow {actual : Nat} {data : Bytes} (hin : m.dirIn = true)
    (hdata : m.tbl < data.length) : Fits m (.ok (actual, data)) 0 := by
  have hparts : replyParts m (.ok (actual, data)) = (eoverflow, 0, []) := by
    rw [replyParts, if_pos hin, if_pos hdata]
  refine ⟨Nat.zero_le _, ?_, ?_, ?_⟩
  · rw [hparts]
    rfl
  · rw [hparts, hin]
    rfl
  · intro _ _ _ hstatus
    rw [hparts] at hstatus
    exact absurd hstatus (by decide)

theorem fits_success {n : Nat} {data : Bytes} (hn : n ≤ m.tbl)
    (hdata : m.dirIn = true → data.length = n) : Fits m (.ok (n, data)) n := by
  have hparts : replyParts m (.ok (n, data)) = (0, i32OfUsize n, if m.dirIn then data else []) := by
    rw [replyParts]
    split_ifs with hin hover
    · exact absurd (hdata hin ▸ hn) (Nat.not_le.mpr hover)
    · rfl
    · rfl
  refine ⟨hn, ?_, ?_, ?_⟩
  · rw [hparts]
    exact toInt_i32OfUsize hn
  · rw [hparts]
    change (if m.dirIn then data else []).length = _
    split_ifs with hin
    · exact hdata hin
    · rfl
  · rintro actual data' ⟨⟩ _
    rfl

end Fits

namespace Completed

theorem fits_control (c : Completed) {data : Bytes} (h : c.result = .ok (.bytes data)) :
    ∃ n, Fits c.msg c.outcome n := by
  rw [outcome, h, closureOutcome]
  split_ifs with hin
  · rcases Nat.lt_or_ge c.msg.tbl data.length with hlt | hge
    · exact ⟨0, fits_overflow hin hlt⟩
    · exact ⟨_, fits_success hge fun _ => rfl⟩
  · have hlen : c.msg.outPayload.length = c.msg.tbl := by
      have hwf := c.wellFormed
      rwa [Submit.WellFormed, if_neg hin] at hwf
    exact ⟨_, fits_success hlen.le fun hin' => absurd hin' hin⟩

theorem fits_data (c : Completed) {comp : Completion}
    (h : c.result = (finishTransfer c.msg.dataAddr c.msg.tbl comp).map .transfer)
    (hsound : comp.Sound c.msg.dataAddr c.msg.outPayload) : ∃ n, Fits c.msg c.outcome n := by
  rw [outcome, h, finishTransfer, isIn_dataAddr]
  rcases hstatus : comp.status with e | ⟨⟩
  · exact ⟨0, fits_error _⟩
  · have hcount := hsound hstatus
    rw [isIn_dataAddr] at hcount
    cases hin : c.msg.dirIn with
    | true =>
      rw [hin, if_pos rfl] at hcount
      refine ⟨min comp.actualLen c.msg.tbl, fits_success (Nat.min_le_right ..) fun _ => ?_⟩
      change (comp.buffer.take (min comp.actualLen c.msg.tbl)).length = _
      rw [List.length_take, hcount, Nat.min_eq_left (Nat.min_le_left ..)]
    | false =>
      rw [hin, if_neg Bool.false_ne_true] at hcount
      have hwf := c.wellFormed
      rw [Submit.WellFormed, hin, if_neg Bool.false_ne_true] at hwf
      exact ⟨comp.actualLen,
        fits_success (hwf ▸ hcount) fun hin' => absurd (hin ▸ hin') (by decide)⟩

theorem fits (c : Completed) : ∃ n, Fits c.msg c.outcome n := by
  have hdelivers := c.delivers
  generalize hcall : c.msg.call = call at hdelivers
  generalize hresult : c.result = result at hdelivers
  cases hdelivers with
  | error =>
    rw [outcome, hresult]
    exact ⟨0, fits_error _⟩
  | control => exact c.fits_control hresult
  | data epAddr length outData comp hsound =>
    obtain ⟨rfl, rfl, rfl⟩ := call_eq_data hcall
    exact c.fits_data hresult hsound

end Completed

inductive Reply
  | submit (seqnum : UInt32) (ret : RetSubmit) (payload : Bytes)
  | unlink (seqnum : UInt32) (ret : RetUnlink)

/-- The length a client takes the payload of a `RET_SUBMIT` to have. -/
def payloadLength (dirIn : UInt32 → Bool) (seqnum : UInt32) (ret : RetSubmit) : Nat :=
  if dirIn seqnum then ret.actualLength.toNatClampNeg else 0

namespace Reply

def header : Reply → Bytes
  | .submit seqnum ret _ => UrbHeader.encode ⟨usbipRetSubmit, seqnum, 0, 0, 0⟩ ++ ret.encode
  | .unlink seqnum ret => UrbHeader.encode ⟨usbipRetUnlink, seqnum, 0, 0, 0⟩ ++ ret.encode

def payload : Reply → Bytes
  | .submit _ _ payload => payload
  | .unlink .. => []

def frame (r : Reply) : Bytes := r.header ++ r.payload

def Framed (dirIn : UInt32 → Bool) : Reply → Prop
  | .submit seqnum ret payload => payload.length = payloadLength dirIn seqnum ret
  | .unlink .. => True

end Reply

inductive ClientError
  | malformed (e : ProtoError)
  | truncated
  | unknownReply (command : UInt32)

def clientDispatch (dirIn : UInt32 → Bool) (headerBuf rest : Bytes) :
    Except ClientError (Reply × Bytes) := do
  let basic ← (UrbHeader.decode (headerBuf.take UrbHeader.size)).mapError .malformed
  if basic.command = usbipRetSubmit then
    let ret ← (RetSubmit.decode (headerBuf.drop UrbHeader.size)).mapError .malformed
    let (payload, rest) ← (readExact (payloadLength dirIn basic.seqnum ret) rest).elim
      (.error .truncated) .ok
    .ok (.submit basic.seqnum ret payload, rest)
  else if basic.command = usbipRetUnlink then
    let ret ← (RetUnlink.decode (headerBuf.drop UrbHeader.size)).mapError .malformed
    .ok (.unlink basic.seqnum ret, rest)
  else .error (.unknownReply basic.command)

def clientTurn (dirIn : UInt32 → Bool) (input : Bytes) :
    Option (Except ClientError (Reply × Bytes)) :=
  (readExact urbHeaderSize input).map fun (headerBuf, rest) => clientDispatch dirIn headerBuf rest

section Client

variable {dirIn : UInt32 → Bool} {input rest : Bytes} {r : Reply}

theorem clientDispatch_header (hr : r.Framed dirIn) (rest : Bytes) :
    clientDispatch dirIn r.header (r.payload ++ rest) = .ok (r, rest) := by
  cases r with
  | submit seqnum ret payload =>
    have hread := readExact_append hr rest
    rw [clientDispatch, Reply.header, Reply.payload, UrbHeader.take_encode, UrbHeader.drop_encode,
      UrbHeader.decode_encode, RetSubmit.decode_encode]
    change ((readExact (payloadLength dirIn seqnum ret) (payload ++ rest)).elim
      (Except.error ClientError.truncated) .ok >>= _) = _
    rw [hread]
    rfl
  | unlink seqnum ret =>
    rw [clientDispatch, Reply.header, UrbHeader.take_encode, UrbHeader.drop_encode,
      UrbHeader.decode_encode, RetUnlink.decode_encode]
    rfl

@[simp] theorem Reply.length_header (r : Reply) : r.header.length = urbHeaderSize := by
  cases r <;> simp [Reply.header, urbHeaderSize, RetUnlink.encode]

theorem clientTurn_frame (hr : r.Framed dirIn) (rest : Bytes) :
    clientTurn dirIn (r.frame ++ rest) = some (.ok (r, rest)) := by
  rw [clientTurn, Reply.frame, List.append_assoc, readExact_append r.length_header, Option.map_some]
  exact congrArg some (clientDispatch_header hr rest)

theorem length_of_clientDispatch {headerBuf rest' : Bytes}
    (h : clientDispatch dirIn headerBuf rest = .ok (r, rest')) : rest'.length ≤ rest.length := by
  rcases hbasic : UrbHeader.decode (headerBuf.take UrbHeader.size) with e | basic
  · rw [clientDispatch, hbasic] at h
    cases h
  rw [clientDispatch, hbasic] at h
  simp only [Except.mapError, bind, Except.bind] at h
  split_ifs at h
  · rcases hret : RetSubmit.decode (headerBuf.drop UrbHeader.size) with e | ret
    · rw [hret] at h
      cases h
    rw [hret] at h
    rcases hread : readExact (payloadLength dirIn basic.seqnum ret) rest with _ | ⟨payload, rest₁⟩
    · simp only [hread] at h
      cases h
    · simp only [hread] at h
      cases h
      rw [(append_of_readExact hread).2, List.length_append]
      exact Nat.le_add_left ..
  · rcases hret : RetUnlink.decode (headerBuf.drop UrbHeader.size) with e | ret
    · rw [hret] at h
      cases h
    · rw [hret] at h
      cases h
      exact Nat.le_refl _

def client (dirIn : UInt32 → Bool) : Reader Reply UInt8 ClientError where
  turn := clientTurn dirIn
  progress h := by
    rw [clientTurn, Option.map_eq_some_iff] at h
    obtain ⟨⟨headerBuf, rest⟩, hread, h⟩ := h
    obtain ⟨hlen, rfl⟩ := append_of_readExact hread
    have hle := length_of_clientDispatch h
    have hpos : 0 < urbHeaderSize := by decide
    rw [List.length_append]
    omega

theorem client_reads (dirIn : UInt32 → Bool) :
    (client dirIn).Reads Reply.frame (·.Framed dirIn) where
  empty := rfl
  item hr rest := clientTurn_frame hr rest

end Client

inductive Answer
  | submit (c : Completed)
  | unlink (r : Unlink)

namespace Answer

def msg : Answer → Option Submit
  | .submit c => some c.msg
  | .unlink _ => none

def frame : Answer → Bytes
  | .submit c => retSubmitFrame c.msg c.outcome
  | .unlink r => retUnlinkFrame r

def reply : Answer → Reply
  | .submit c => .submit c.msg.seqnum c.ret c.payload
  | .unlink r => .unlink r.seqnum ⟨0, List.Vector.replicate 24 0⟩

theorem frame_eq (a : Answer) : a.frame = a.reply.frame := by
  cases a with
  | submit c => rfl
  | unlink r =>
    rw [Reply.frame]
    exact (List.append_nil _).symm

end Answer

def dirInOf (sent : List Submit) (seqnum : UInt32) : Bool :=
  (sent.find? (·.seqnum == seqnum)).any Submit.dirIn

theorem dirInOf_eq {sent : List Submit} (hsent : (sent.map Submit.seqnum).Nodup) {m : Submit}
    (hm : m ∈ sent) : dirInOf sent m.seqnum = m.dirIn := by
  induction sent with
  | nil => cases hm
  | cons m' sent ih =>
    rw [List.map_cons, List.nodup_cons] at hsent
    rw [dirInOf, List.find?_cons]
    rcases List.mem_cons.mp hm with rfl | hmem
    · simp
    · have hne : m'.seqnum ≠ m.seqnum := by
        intro heq
        exact hsent.1 (heq ▸ List.mem_map_of_mem hmem)
      rw [beq_false_of_ne hne]
      exact ih hsent.2 hmem

theorem Completed.framed (c : Completed) {dirIn : UInt32 → Bool}
    (h : dirIn c.msg.seqnum = c.msg.dirIn) : (Answer.submit c).reply.Framed dirIn := by
  obtain ⟨n, hn⟩ := c.fits
  have hlen : c.ret.actualLength.toNatClampNeg = n := by
    rw [Int32.toNatClampNeg, Completed.ret, hn.actualLength, Int.toNat_natCast]
  change c.payload.length = payloadLength dirIn c.msg.seqnum c.ret
  rw [payloadLength, h, hlen]
  exact hn.payload

/-- The replies to a client's submits and unlinks, one whole frame after the other
in any order, are recovered from the stream; every count is between zero and the
length the client gave and is the count of the call itself. -/
theorem replies_framing (answers : List Answer)
    (hseqnums : ((answers.filterMap Answer.msg).map Submit.seqnum).Nodup) :
    (client (dirInOf (answers.filterMap Answer.msg))).run (answers.flatMap Answer.frame) =
      ⟨answers.map Answer.reply, [], .ok ()⟩ ∧
    ∀ c, Answer.submit c ∈ answers →
      0 ≤ c.ret.actualLength.toInt ∧
      c.ret.actualLength.toInt ≤ max c.msg.cmd.transferBufferLength.toInt 0 ∧
      ∀ actual data, c.outcome = .ok (actual, data) → c.ret.status = 0 →
        c.ret.actualLength.toInt = actual := by
  refine ⟨?_, ?_⟩
  · have hframes : answers.flatMap Answer.frame =
        (answers.map Answer.reply).flatMap Reply.frame := by
      rw [List.flatMap_map]
      exact List.flatMap_congr fun a _ => a.frame_eq
    rw [hframes]
    apply (client_reads _).whole
    intro r hr
    obtain ⟨a, ha, rfl⟩ := List.mem_map.mp hr
    cases a with
    | submit c =>
      have hmem : c.msg ∈ answers.filterMap Answer.msg := List.mem_filterMap.mpr ⟨_, ha, rfl⟩
      exact c.framed (dirInOf_eq hseqnums hmem)
    | unlink r => trivial
  · intro c _
    obtain ⟨n, hn⟩ := c.fits
    have hlen : c.ret.actualLength.toInt = n := hn.actualLength
    have htbl : (c.msg.tbl : Int) = max c.msg.cmd.transferBufferLength.toInt 0 := by
      rw [Submit.tbl, Int32.toNatClampNeg, Int.toNat_eq_max]
    refine ⟨?_, ?_, ?_⟩
    · rw [hlen]
      exact Int.natCast_nonneg n
    · rw [hlen, ← htbl]
      exact Int.ofNat_le.mpr hn.le_tbl
    · intro actual data hout hstatus
      rw [hlen, hn.counted actual data hout hstatus]

/-- A control IN that returned two bytes, an unlink and a bulk OUT that stalled. -/
def Sample.answers : List Answer :=
  [.submit ⟨⟨⟨usbipCmdSubmit, 7, 0x10001, usbipDirIn, 0⟩,
        ⟨0, 4, 0, -1, 0, List.Vector.replicate 8 0⟩, []⟩, rfl, .ok (.bytes [0xAA, 0xBB]),
      .control _ _ _⟩,
    .unlink ⟨9, 8⟩,
    .submit ⟨⟨⟨usbipCmdSubmit, 10, 0x10001, usbipDirOut, 2⟩,
        ⟨0, 1, 0, -1, 0, List.Vector.replicate 8 0⟩, [0xCC]⟩, rfl, .error .nusb, .error _ _⟩]

theorem replies_framing_sample :
    ((Sample.answers.filterMap Answer.msg).map Submit.seqnum).Nodup ∧
    (client (dirInOf (Sample.answers.filterMap Answer.msg))).run
      (Sample.answers.flatMap Answer.frame) = ⟨Sample.answers.map Answer.reply, [], .ok ()⟩ := by
  have hseqnums : ((Sample.answers.filterMap Answer.msg).map Submit.seqnum).Nodup := by decide
  exact ⟨hseqnums, (replies_framing _ hseqnums).1⟩

section Session

variable {s s' : State} {t : Nat} {u u' : Urb}

def SoundTransfers (s : State) : Action → Prop
  | .closure t (.call a) => ∀ u, s.urbs[t]? = some u → a.Sound u.msg.call
  | _ => True

def ClosurePc.Delivers (m : Submit) : ClosurePc → Prop
  | .running pc => pc.Delivers m.call
  | .returned r => ∃ c : Completed, c.msg = m ∧ r = c.outcome
  | _ => True

def Urb.Delivers (u : Urb) : Prop := u.msg.WellFormed ∧ u.closure.Delivers u.msg

structure DeliveryOk (s : State) : Prop where
  urbs : Each (fun _ u => u.Delivers) s.urbs
  acquiring : ∀ m, s.loop = .acquiring m → m.WellFormed

theorem ClosureChange.delivers {m : Submit} {a : Action} {c c' : ClosurePc}
    (hc : ClosureChange s t m a c c') (hwf : m.WellFormed)
    (hsound : ∀ x, a = .closure t (.call x) → x.Sound m.call) (h : c.Delivers m) :
    c'.Delivers m := by
  cases hc with
  | same => exact h
  | start => exact delivers_start _
  | call hr => exact callStep_delivers hr h (hsound _ rfl)
  | finish => exact ⟨⟨m, hwf, _, h⟩, rfl, rfl⟩
  | queue | hit | panic | finishPanic => trivial

theorem wellFormed_of_acquiring {a : Action} (hm : Move s a s')
    (h : ∀ m, s.loop = .acquiring m → m.WellFormed) :
    ∀ m, s'.loop = .acquiring m → m.WellFormed := by
  intro m hl
  cases hm with
  | task hu hm => exact h m (hm.loop_eq ▸ hl)
  | closure hu hm => exact h m (hm.loop_eq ▸ hl)
  | loop hm =>
    cases hm with
    | submit _ hwf =>
      cases hl
      exact hwf
    | drain => exact absurd hl (drainNext_ne rfl _)
    | drainAbort => exact absurd hl (drainNext_ne rfl _)
    | _ => cases hl

theorem deliveryOk (h : session.ReachableBy SoundTransfers s) : DeliveryOk s := by
  refine h.invariant ?_ ?_
  · rintro s ⟨configurations, active, rfl⟩
    exact ⟨.nil, fun m hm => by cases hm⟩
  · intro s a s' hr hi hsound hs
    have hm := step_move hs
    refine ⟨fun i v hv => ?_, wellFormed_of_acquiring hm hi.acquiring⟩
    rcases hm.closure_change (repliesOk hr) hv with ⟨w, hw, hmsg, hc⟩ | ⟨m, hl, -, rfl⟩
    · obtain ⟨hwf, hdelivers⟩ := hi.urbs i w hw
      rw [Urb.Delivers, hmsg]
      refine ⟨hwf, hc.delivers hwf ?_ hdelivers⟩
      rintro x rfl
      exact hsound w hw
    · exact ⟨hi.acquiring m hl, trivial⟩

theorem completed_of_answers (h : session.ReachableBy SoundTransfers s) (hu : s.urbs[t]? = some u)
    {frame : Bytes} (hf : u.Answers frame) :
    ∃ c : Completed, c.msg = u.msg ∧ frame = (Answer.submit c).frame := by
  obtain ⟨r, hr, rfl⟩ := hf
  have hdelivers := ((deliveryOk h).urbs t u hu).2
  rw [hr] at hdelivers
  obtain ⟨c, hmsg, rfl⟩ := hdelivers
  exact ⟨c, hmsg, hmsg ▸ rfl⟩

end Session

end Usbip.Session
