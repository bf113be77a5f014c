import UsbipdDarwin.Lts.Reader
import UsbipdDarwin.Session.Step

/-! The request stream as `urb_loop` reads it: a 48-byte header, and after the
header of an OUT submit as many bytes as it announces. -/

namespace Usbip.Session
open Proto Lts

/-- The errors that end `urb_loop`, with the context or text they are reported under. -/
inductive LoopError
  | decode (context : String) (e : ProtoError)
  | unexpectedEof (context : String)
  | message (text : String)
  deriving DecidableEq

/-- What `urb_loop` hands to `handle_cmd_submit` and `handle_cmd_unlink`, decoded. -/
inductive Request
  | submit (m : Submit)
  | unlink (basic : UrbHeader) (cmd : CmdUnlink)

namespace Request

def header : Request → Bytes
  | .submit m => m.basic.encode ++ m.cmd.encode
  | .unlink basic cmd => basic.encode ++ cmd.encode

def payload : Request → Bytes
  | .submit m => m.outPayload
  | .unlink .. => []

def wire (c : Request) : Bytes := c.header ++ c.payload

/-- A request of the session: its devid, the code of its kind, and a payload of
the announced length exactly when the direction is not IN. -/
def Valid (devid : UInt32) : Request → Prop
  | .submit m => m.basic.devid = devid ∧ m.basic.command = usbipCmdSubmit ∧ m.WellFormed
  | .unlink basic _ => basic.devid = devid ∧ basic.command = usbipCmdUnlink

instance (devid : UInt32) : (c : Request) → Decidable (c.Valid devid)
  | .submit _ => inferInstanceAs (Decidable (_ ∧ _ ∧ _))
  | .unlink .. => inferInstanceAs (Decidable (_ ∧ _))

def command : Request → Command
  | .submit m => .submit m
  | .unlink basic cmd => .unlink ⟨basic.seqnum, cmd.unlinkSeqnum⟩

end Request

/-- `read_exact` on what is left of the stream, `none` when the stream ends first. -/
def readExact (n : Nat) (input : Bytes) : Option (Bytes × Bytes) :=
  if n ≤ input.length then some (input.splitAt n) else none

def hex8 (x : UInt32) : String :=
  let digits := Nat.toDigits 16 x.toNat
  String.ofList (List.replicate (8 - digits.length) '0' ++ digits)

def readOutPayload (dirIn : Bool) (tbl : Nat) (rest : Bytes) :
    Except LoopError (Bytes × Bytes) :=
  if !dirIn && tbl > 0 then
    (readExact tbl rest).elim (.error (.unexpectedEof "read OUT payload")) .ok
  else .ok ([], rest)

def readCmdSubmit (basic : UrbHeader) (headerBuf rest : Bytes) :
    Except LoopError (Request × Bytes) := do
  let cmd ← (CmdSubmit.decode (headerBuf.drop UrbHeader.size)).mapError
    (.decode "decode CMD_SUBMIT")
  let m : Submit := ⟨basic, cmd, []⟩
  let (outPayload, rest) ← readOutPayload m.dirIn m.tbl rest
  .ok (.submit ⟨basic, cmd, outPayload⟩, rest)

def readCmdUnlink (basic : UrbHeader) (headerBuf rest : Bytes) :
    Except LoopError (Request × Bytes) := do
  let cmd ← (CmdUnlink.decode (headerBuf.drop UrbHeader.size)).mapError
    (.decode "decode CMD_UNLINK")
  .ok (.unlink basic cmd, rest)

def dispatch (devid : UInt32) (headerBuf rest : Bytes) : Except LoopError (Request × Bytes) := do
  let basic ← (UrbHeader.decode (headerBuf.take UrbHeader.size)).mapError
    (.decode "decode URB header")
  if basic.devid ≠ devid then .error (.message "URB devid mismatch")
  else if basic.command = usbipCmdSubmit then readCmdSubmit basic headerBuf rest
  else if basic.command = usbipCmdUnlink then readCmdUnlink basic headerBuf rest
  else .error (.message
    ("unknown URB command 0x" ++ hex8 basic.command ++ "; closing connection"))

/-- One turn of `urb_loop`. A stream that ends before a header or inside it is a
clean disconnect. -/
def urbLoopTurn (devid : UInt32) (input : Bytes) : Option (Except LoopError (Request × Bytes)) :=
  (readExact urbHeaderSize input).map fun (headerBuf, rest) => dispatch devid headerBuf rest

variable {devid : UInt32} {input rest : Bytes} {c : Request}

theorem readExact_append {n : Nat} {a : Bytes} (ha : a.length = n) (rest : Bytes) :
    readExact n (a ++ rest) = some (a, rest) := by
  subst ha
  simp [readExact]

theorem append_of_readExact {n : Nat} {a : Bytes} (h : readExact n input = some (a, rest)) :
    a.length = n ∧ input = a ++ rest := by
  rw [readExact] at h
  split_ifs at h with hn
  rw [List.splitAt_eq, Option.some.injEq, Prod.mk.injEq] at h
  obtain ⟨rfl, rfl⟩ := h
  exact ⟨List.length_take_of_le hn, (List.take_append_drop ..).symm⟩

theorem readExact_eq_none {n : Nat} (h : input.length < n) : readExact n input = none :=
  if_neg (Nat.not_le.mpr h)

@[simp] theorem Request.length_header (c : Request) : c.header.length = urbHeaderSize := by
  cases c <;> simp [Request.header, urbHeaderSize]

theorem Request.length_wire (c : Request) :
    c.wire.length = urbHeaderSize + c.payload.length := by
  rw [Request.wire, List.length_append, Request.length_header]

theorem dispatch_encode {basic : UrbHeader} (hdevid : basic.devid = devid) (tail rest : Bytes) :
    dispatch devid (basic.encode ++ tail) rest =
      if basic.command = usbipCmdSubmit then readCmdSubmit basic (basic.encode ++ tail) rest
      else if basic.command = usbipCmdUnlink then readCmdUnlink basic (basic.encode ++ tail) rest
      else .error (.message
        ("unknown URB command 0x" ++ hex8 basic.command ++ "; closing connection")) := by
  rw [dispatch, UrbHeader.take_encode, UrbHeader.decode_encode]
  exact if_neg (not_not.mpr hdevid)

theorem dispatch_submit {m : Submit} (hdevid : m.basic.devid = devid)
    (hcmd : m.basic.command = usbipCmdSubmit) (rest : Bytes) :
    dispatch devid (Request.submit m).header rest =
      (readOutPayload m.dirIn m.tbl rest).map fun r =>
        (.submit { m with outPayload := r.1 }, r.2) := by
  rw [Request.header, dispatch_encode hdevid, if_pos hcmd, readCmdSubmit, UrbHeader.drop_encode,
    CmdSubmit.decode_encode]
  change (readOutPayload m.dirIn m.tbl rest).bind _ = _
  cases readOutPayload m.dirIn m.tbl rest <;> rfl

theorem dispatch_unlink {basic : UrbHeader} {cmd : CmdUnlink} (hdevid : basic.devid = devid)
    (hcmd : basic.command = usbipCmdUnlink) (rest : Bytes) :
    dispatch devid (Request.unlink basic cmd).header rest = .ok (.unlink basic cmd, rest) := by
  have hne : basic.command ≠ usbipCmdSubmit := by
    rw [hcmd]
    decide
  rw [Request.header, dispatch_encode hdevid, if_neg hne, if_pos hcmd, readCmdUnlink,
    UrbHeader.drop_encode, CmdUnlink.decode_encode]
  rfl

theorem urbLoopTurn_header (c : Request) (rest : Bytes) :
    urbLoopTurn devid (c.header ++ rest) = some (dispatch devid c.header rest) := by
  rw [urbLoopTurn, readExact_append c.length_header]
  rfl

theorem urbLoopTurn_short (h : input.length < urbHeaderSize) : urbLoopTurn devid input = none := by
  rw [urbLoopTurn, readExact_eq_none h]
  rfl

section Payload

variable {dirIn : Bool} {tbl : Nat} {p : Bytes}

theorem readOutPayload_append (hp : p.length = if dirIn then 0 else tbl) (rest : Bytes) :
    readOutPayload dirIn tbl (p ++ rest) = .ok (p, rest) := by
  rw [readOutPayload]
  split_ifs with h
  · have hlen : p.length = tbl := by simp_all
    rw [readExact_append hlen]
    rfl
  · have hnil : p = [] := by
      rw [← List.length_eq_zero_iff, hp]
      cases dirIn <;> simp_all
    rw [hnil, List.nil_append]

theorem readOutPayload_short (hp : p.length < if dirIn then 0 else tbl) :
    readOutPayload dirIn tbl p = .error (.unexpectedEof "read OUT payload") := by
  cases dirIn with
  | true => exact absurd hp (Nat.not_lt_zero _)
  | false =>
    have hlt : p.length < tbl := hp
    have htbl : tbl > 0 := Nat.zero_lt_of_lt hlt
    rw [readOutPayload, if_pos (by simpa using htbl), readExact_eq_none hlt]
    rfl

theorem append_of_readOutPayload (h : readOutPayload dirIn tbl input = .ok (p, rest)) :
    p.length = (if dirIn then 0 else tbl) ∧ input = p ++ rest := by
  rw [readOutPayload] at h
  split_ifs at h with hc
  · rcases hread : readExact tbl input with _ | ⟨p', rest'⟩
    · rw [hread] at h
      cases h
    · rw [hread] at h
      cases h
      obtain ⟨hlen, rfl⟩ := append_of_readExact hread
      refine ⟨?_, rfl⟩
      rw [hlen]
      simp_all
  · cases h
    refine ⟨?_, rfl⟩
    cases dirIn <;> simp_all

end Payload

theorem urbLoopTurn_wire (hc : c.Valid devid) (rest : Bytes) :
    urbLoopTurn devid (c.wire ++ rest) = some (.ok (c, rest)) := by
  rw [Request.wire, List.append_assoc, urbLoopTurn_header]
  cases c with
  | submit m =>
    obtain ⟨hdevid, hcmd, hm⟩ := hc
    rw [dispatch_submit hdevid hcmd]
    rw [Request.payload, readOutPayload_append hm]
    rfl
  | unlink basic cmd => exact congrArg some (dispatch_unlink hc.1 hc.2 _)

section Accepted

variable {basic : UrbHeader} {tail rest' : Bytes}

theorem submit_of_readCmdSubmit (hlen : tail.length = CmdSubmit.size)
    (h : readCmdSubmit basic (basic.encode ++ tail) rest = .ok (c, rest')) :
    ∃ m : Submit, c = .submit m ∧ m.basic = basic ∧ m.WellFormed ∧ tail = m.cmd.encode ∧
      rest = m.outPayload ++ rest' := by
  rw [readCmdSubmit, UrbHeader.drop_encode] at h
  rcases hcmd : CmdSubmit.decode tail with e | cmd
  · rw [hcmd] at h
    cases h
  · rw [hcmd] at h
    rcases hread : readOutPayload (Submit.dirIn ⟨basic, cmd, []⟩) (Submit.tbl ⟨basic, cmd, []⟩) rest
      with e | ⟨outPayload, rest₁⟩
    · simp only [Except.mapError, bind, Except.bind, hread] at h
      cases h
    · simp only [Except.mapError, bind, Except.bind, hread] at h
      cases h
      obtain ⟨hpayload, hrest⟩ := append_of_readOutPayload hread
      exact ⟨_, rfl, rfl, hpayload, (CmdSubmit.encode_of_decode hlen hcmd).symm, hrest⟩

theorem unlink_of_readCmdUnlink (hlen : tail.length = CmdUnlink.size)
    (h : readCmdUnlink basic (basic.encode ++ tail) rest = .ok (c, rest')) :
    ∃ cmd, c = .unlink basic cmd ∧ tail = cmd.encode ∧ rest = rest' := by
  rw [readCmdUnlink, UrbHeader.drop_encode] at h
  rcases hcmd : CmdUnlink.decode tail with e | cmd
  · rw [hcmd] at h
    cases h
  · rw [hcmd] at h
    cases h
    exact ⟨cmd, rfl, (CmdUnlink.encode_of_decode hlen hcmd).symm, rfl⟩

theorem split_of_dispatch {headerBuf : Bytes} (hlen : headerBuf.length = urbHeaderSize)
    (h : dispatch devid headerBuf rest = .ok (c, rest')) :
    ∃ (basic : UrbHeader) (tail : Bytes),
      headerBuf = basic.encode ++ tail ∧ tail.length = 28 ∧ basic.devid = devid := by
  rcases hbasic : UrbHeader.decode (headerBuf.take UrbHeader.size) with e | basic
  · rw [dispatch, hbasic] at h
    cases h
  · have htake : (headerBuf.take UrbHeader.size).length = UrbHeader.size := by
      rw [List.length_take, hlen]
      rfl
    refine ⟨basic, headerBuf.drop UrbHeader.size, ?_, ?_, ?_⟩
    · rw [UrbHeader.encode_of_decode htake hbasic, List.take_append_drop]
    · rw [List.length_drop, hlen]
      rfl
    · by_contra hdevid
      rw [dispatch, hbasic] at h
      change (if basic.devid ≠ devid then _ else _) = _ at h
      rw [if_pos hdevid] at h
      cases h

end Accepted

theorem wire_of_urbLoopTurn (h : urbLoopTurn devid input = some (.ok (c, rest))) :
    c.Valid devid ∧ input = c.wire ++ rest := by
  rw [urbLoopTurn, Option.map_eq_some_iff] at h
  obtain ⟨⟨headerBuf, rest₀⟩, hread, h⟩ := h
  obtain ⟨hlen, rfl⟩ := append_of_readExact hread
  change dispatch devid headerBuf rest₀ = _ at h
  obtain ⟨basic, tail, rfl, htail, hdevid⟩ := split_of_dispatch hlen h
  rw [dispatch_encode hdevid] at h
  split_ifs at h with hsubmit hunlink
  · obtain ⟨m, rfl, rfl, hm, rfl, rfl⟩ := submit_of_readCmdSubmit htail h
    refine ⟨⟨hdevid, hsubmit, hm⟩, ?_⟩
    rw [Request.wire, Request.header, Request.payload, List.append_assoc _ m.outPayload]
  · obtain ⟨cmd, rfl, rfl, rfl⟩ := unlink_of_readCmdUnlink htail h
    refine ⟨⟨hdevid, hunlink⟩, ?_⟩
    rw [Request.wire, Request.payload, List.append_nil]
    rfl

def urbLoop (devid : UInt32) : Reader Request UInt8 LoopError where
  turn := urbLoopTurn devid
  progress h := by
    rw [(wire_of_urbLoopTurn h).2, List.length_append, Request.length_wire]
    simp only [urbHeaderSize]
    omega

theorem loopStep_recv {s : State} (hs : s.loop = .reading)
    (h : urbLoopTurn devid input = some (.ok (c, rest))) :
    ∃ s', loopStep s (.recv c.command) = some s' := by
  cases c with
  | submit m =>
    have hm : m.WellFormed := (wire_of_urbLoopTurn h).1.2.2
    simp only [loopStep, Request.command, hs, if_pos hm]
    exact ⟨_, rfl⟩
  | unlink basic cmd =>
    simp only [loopStep, Request.command, hs]
    exact ⟨_, rfl⟩

/-- The part of a request that a cut leaves: too little for a header, or the
header of a submit and too little of its payload. -/
theorem urbLoopTurn_cut {t : Bytes} (hc : c.Valid devid) (hpre : t <+: c.wire)
    (hlt : t.length < c.wire.length) :
    t.length < urbHeaderSize ∧ urbLoopTurn devid t = none ∨
      urbHeaderSize ≤ t.length ∧ (∃ m, c = .submit m) ∧
        urbLoopTurn devid t = some (.error (.unexpectedEof "read OUT payload")) := by
  rcases Nat.lt_or_ge t.length urbHeaderSize with hshort | hlong
  · exact .inl ⟨hshort, urbLoopTurn_short hshort⟩
  · have hheader : c.header <+: t :=
      List.prefix_of_prefix_length_le (List.prefix_append ..) hpre (by rwa [c.length_header])
    obtain ⟨q, rfl⟩ := hheader
    rw [List.length_append, c.length_header, c.length_wire, Nat.add_lt_add_iff_left] at hlt
    refine .inr ⟨hlong, ?_⟩
    cases c with
    | submit m =>
      obtain ⟨hdevid, hcmd, hm⟩ := hc
      have hq : q.length < if m.dirIn then 0 else m.tbl := hm ▸ hlt
      refine ⟨⟨m, rfl⟩, ?_⟩
      rw [urbLoopTurn_header, dispatch_submit hdevid hcmd, readOutPayload_short hq]
      rfl
    | unlink basic cmd => exact absurd hlt (Nat.not_lt_zero _)

theorem urbLoop_reads (devid : UInt32) : (urbLoop devid).Reads Request.wire (·.Valid devid) where
  empty := by
    change urbLoopTurn devid [] = none
    exact urbLoopTurn_short (by decide)
  item hc rest := urbLoopTurn_wire hc rest

theorem urbLoop_cut {t : Bytes} (hc : c.Valid devid) (hpre : t <+: c.wire)
    (hlt : t.length < c.wire.length) (b : Request) (rest : Bytes) :
    (urbLoop devid).turn t ≠ some (.ok (b, rest)) := by
  change urbLoopTurn devid t ≠ _
  rcases urbLoopTurn_cut hc hpre hlt with ⟨-, h⟩ | ⟨-, -, h⟩ <;> simp [h]

theorem result_ne_mismatch {devid : UInt32} {cs : List Request} (hcs : ∀ c ∈ cs, c.Valid devid)
    {p : Bytes} (hp : p <+: cs.flatMap Request.wire) :
    ((urbLoop devid).run p).result ≠ .error (.message "URB devid mismatch") := by
  obtain ⟨n, -, t, rfl, ht⟩ := Reader.exists_cut hp
  rw [(urbLoop_reads devid).run_cut urbLoop_cut hcs ht]
  rcases ht with ⟨rfl, -⟩ | ⟨c, hc, hpre, hlt⟩
  · rw [Reader.run_of_end (urbLoop_reads devid).empty]
    exact nofun
  · rcases urbLoopTurn_cut (hcs c (List.mem_of_getElem? hc)) hpre hlt with
      ⟨-, hturn⟩ | ⟨-, -, hturn⟩
    · rw [Reader.run_of_end (R := urbLoop devid) hturn]
      exact nofun
    · rw [Reader.run_of_error (R := urbLoop devid) hturn]
      exact nofun

/-- The bytes `p` stop after the header of request number `n`, a submit, and
before the end of its payload. -/
def StopsInPayload (cs : List Request) (n : Nat) (p : Bytes) : Prop :=
  ∃ m, cs[n]? = some (.submit m) ∧
    ((cs.take n).flatMap Request.wire).length + urbHeaderSize ≤ p.length ∧
    p.length < ((cs.take n).flatMap Request.wire).length + urbHeaderSize + m.outPayload.length

theorem urbLoop_fails_iff {cs : List Request} {n : Nat} {t : Bytes}
    (hcs : ∀ c ∈ cs, c.Valid devid)
    (ht : t = [] ∧ n = cs.length ∨
      ∃ c, cs[n]? = some c ∧ t <+: c.wire ∧ t.length < c.wire.length) :
    (∃ e, ((urbLoop devid).run t).result = .error e) ↔
      StopsInPayload cs n ((cs.take n).flatMap Request.wire ++ t) := by
  rcases ht with ⟨rfl, rfl⟩ | ⟨c, hc, hpre, hlt⟩
  · rw [Reader.run_of_end (urbLoop_reads devid).empty]
    simp [StopsInPayload]
  · rcases urbLoopTurn_cut (hcs c (List.mem_of_getElem? hc)) hpre hlt with
      ⟨hshort, hturn⟩ | ⟨hlong, ⟨m, rfl⟩, hturn⟩
    · rw [Reader.run_of_end (R := urbLoop devid) hturn]
      simp only [StopsInPayload, List.length_append]
      constructor
      · rintro ⟨e, he⟩
        cases he
      · rintro ⟨m, -, hle, -⟩
        omega
    · rw [Reader.run_of_error (R := urbLoop devid) hturn]
      refine iff_of_true ⟨_, rfl⟩ ⟨m, hc, ?_, ?_⟩
      · rw [List.length_append]
        omega
      · rw [Request.length_wire, Request.payload] at hlt
        rw [List.length_append]
        omega

/-- A stream of whole requests is read back as it was written, and a stream cut
anywhere gives the requests wholly before the cut; only a cut inside a payload is
an error. -/
theorem urbLoop_framing (devid : UInt32) (cs : List Request) (hcs : ∀ c ∈ cs, c.Valid devid) :
    (urbLoop devid).run (cs.flatMap Request.wire) = ⟨cs, [], .ok ()⟩ ∧
    ∀ p, p <+: cs.flatMap Request.wire → ∃ n ≤ cs.length,
      ((urbLoop devid).run p).items = cs.take n ∧
      (cs.take n).flatMap Request.wire <+: p ∧
      (∀ m ≤ cs.length, (cs.take m).flatMap Request.wire <+: p → m ≤ n) ∧
      ((∃ e, ((urbLoop devid).run p).result = .error e) ↔ StopsInPayload cs n p) := by
  refine ⟨(urbLoop_reads devid).whole hcs, ?_⟩
  intro p hp
  obtain ⟨n, hn, t, rfl, ht⟩ := Reader.exists_cut hp
  have hrun := (urbLoop_reads devid).run_cut urbLoop_cut hcs ht
  refine ⟨n, hn, ?_, List.prefix_append .., ?_, ?_⟩
  · rw [hrun]
  · intro m hm hpre
    exact Reader.le_of_encodings_prefix hm ht hpre
  · rw [hrun]
    exact urbLoop_fails_iff hcs ht

def Sample.requests : List Request :=
  [.submit ⟨⟨usbipCmdSubmit, 7, 0x10001, usbipDirOut, 2⟩,
      ⟨0, 2, 0, -1, 0, List.Vector.replicate 8 0⟩, [0xAA, 0xBB]⟩,
    .unlink ⟨usbipCmdUnlink, 8, 0x10001, usbipDirOut, 0⟩ ⟨7, List.Vector.replicate 24 0⟩]

theorem urbLoop_framing_sample :
    (∀ c ∈ Sample.requests, c.Valid 0x10001) ∧
    (urbLoop 0x10001).run (Sample.requests.flatMap Request.wire) =
      ⟨Sample.requests, [], .ok ()⟩ := by
  have hcs : ∀ c ∈ Sample.requests, c.Valid 0x10001 := by decide
  exact ⟨hcs, (urbLoop_framing _ _ hcs).1⟩

end Usbip.Session
