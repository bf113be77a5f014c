import UsbipdDarwin.Session.Input
import UsbipdDarwin.Session.ReplyStream
import UsbipdDarwin.Session.Settle

/-! Isochronous URBs. The kernel's format has a descriptor for every packet after the
payload; `urb_loop` does not read them, so they are taken for the next header. The URB
itself is refused when its endpoint is looked up. -/

namespace Usbip.Host

/-- Wherever the address is described, it is an isochronous endpoint. -/
def OpenedDevice.Isochronous (d : OpenedDevice) (epAddr : UInt8) : Prop :=
  ∀ cfg ∈ d.configurations, ∀ iface ∈ cfg.interfaceAltSettings, ∀ ep ∈ iface.endpoints,
    ep.address = epAddr → ep.transferType = .isochronous

variable {d : OpenedDevice} {t : Nat} {c : Call} {pc : CallPc} {a : CallAction} {r : CallStep}
  {epAddr : UInt8}

theorem endpointKind_isochronous {cfg : Configuration} (hd : d.Isochronous epAddr)
    (hcfg : cfg ∈ d.configurations) (altMap : HashMap UInt8 UInt8) (order : List UInt8) :
    ∃ e, endpointKind cfg altMap epAddr order = .error e := by
  induction order with
  | nil => exact ⟨_, rfl⟩
  | cons num rest ih =>
    rw [endpointKind]
    split
    · exact ih
    · rename_i iface halt
      split
      · exact ih
      · rename_i ep hep
        have haddr : ep.address = epAddr := by simpa using List.find?_some hep
        have hiface := List.mem_of_mem_filter (mem_of_activeAlt halt)
        have hiso := hd cfg hcfg iface hiface ep (List.mem_of_find?_eq_some hep) haddr
        rw [hiso]
        exact ⟨_, rfl⟩

/-- A `data_transfer` that gets no further than `endpoint_kind`, if nothing panics but where
`p` says so. -/
def CallPc.Refused (d : OpenedDevice) (p : Prop) : CallPc → Prop
  | .activeConfiguration => True
  | .altMap cfg => cfg ∈ d.configurations
  | .done r => ∃ e, r = .error e
  | .panicked => p
  | _ => False

theorem CallPc.Refused.congr {d' : OpenedDevice} {p : Prop} (h : pc.Refused d p)
    (hd : d'.configurations = d.configurations) : pc.Refused d' p := by
  cases pc with
  | altMap cfg =>
    change cfg ∈ d'.configurations
    rw [hd]
    exact h
  | _ => exact h

theorem DataMove.refused {length : Nat} {outData : Proto.Bytes} {p : Prop}
    (hm : DataMove d t epAddr length outData pc a r) (hd : d.Isochronous epAddr)
    (hpc : pc.Refused d p) : r.pc.Refused d p := by
  cases hm with
  | unconfigured | unresolved => exact ⟨_, rfl⟩
  | configured hc => exact List.mem_of_find?_eq_some hc
  | resolved ho hk =>
    obtain ⟨e, he⟩ := endpointKind_isochronous hd hpc _ _
    rw [hk] at he
    cases he
  | ensure hm => cases hm <;> cases hpc
  | _ => cases hpc

theorem callStep_configurations (h : d.callStep t c pc a = some r) :
    r.device.configurations = d.configurations := by
  have hensure : EnsureMove d pc a r → r.device.configurations = d.configurations := by
    rintro ⟨⟩ <;> rfl
  cases callStep_move h with
  | data hm =>
    cases hm with
    | ensure hm => exact hensure hm
    | _ => rfl
  | control hm =>
    cases hm with
    | ensure hm => exact hensure hm
    | _ => rfl

end Usbip.Host

namespace Usbip.Session
open Proto Host Lts

section Refusal

variable {s s' : State} {t : Nat} {u u' : Urb} {m : Submit}

theorem configurations_of_move {a : Action} (hm : Move s a s') :
    s'.device.configurations = s.device.configurations := by
  cases hm with
  | task hu hm => cases hm <;> rfl
  | closure hu hm =>
    cases hm with
    | call hc hr => exact callStep_configurations hr
    | @panic pc hc =>
      change (s.device.callPanic pc).configurations = _
      unfold OpenedDevice.callPanic
      split <;> rfl
    | _ => rfl
  | loop hm => cases hm <;> rfl

def ClosurePc.Refused (d : OpenedDevice) (p : Prop) : ClosurePc → Prop
  | .idle | .queued => True
  | .running pc => pc.Refused d p
  | .returned r => ∃ e, r = .error e
  | .panicked => p

theorem ClosurePc.Refused.congr {d d' : OpenedDevice} {p : Prop} {c : ClosurePc}
    (h : c.Refused d p) (hd : d'.configurations = d.configurations) : c.Refused d' p := by
  cases c with
  | running pc => exact CallPc.Refused.congr h hd
  | _ => exact h

theorem ClosureChange.refused {p : Prop} {a : Action} {c c' : ClosurePc}
    (hc : ClosureChange s t m a c c') (hp : a.fails = true → p) (hep : m.basic.ep ≠ 0)
    (hiso : s.device.Isochronous m.dataAddr) (h : c.Refused s.device p) :
    c'.Refused s.device p := by
  cases hc with
  | same => exact h
  | hit => cases h
  | start =>
    rw [call_of_ep_ne hep]
    trivial
  | call hr =>
    rw [call_of_ep_ne hep] at hr
    exact (dataTransferStep_move hr).refused hiso h
  | finish =>
    obtain ⟨e, rfl⟩ := h
    exact ⟨e, rfl⟩
  | queue => trivial
  | panic => exact hp rfl
  | finishPanic => exact h

theorem refused {C : State → Action → Prop} {p : Prop} (hC : ∀ s a, C s a → a.fails = true → p)
    (h : session.ReachableBy C s) (hu : s.urbs[t]? = some u) (hep : u.msg.basic.ep ≠ 0)
    (hiso : s.device.Isochronous u.msg.dataAddr) : u.closure.Refused s.device p := by
  refine h.invariant (I := fun s => ∀ (t : Nat) (u : Urb), s.urbs[t]? = some u →
    u.msg.basic.ep ≠ 0 → s.device.Isochronous u.msg.dataAddr → u.closure.Refused s.device p)
    ?_ ?_ t u hu hep hiso
  · rintro s ⟨configurations, active, rfl⟩ t u hu
    cases hu
  · intro s a s' hr hi hcond hs i v hv hep hiso
    have hm := step_move hs
    have hconf := configurations_of_move hm
    rcases hm.closure_change (repliesOk hr) hv with ⟨w, hw, hmsg, hc⟩ | ⟨m, -, -, rfl⟩
    · rw [hmsg] at hep hiso
      have hiso' : s.device.Isochronous w.msg.dataAddr := by
        intro cfg hcfg
        exact hiso cfg (hconf ▸ hcfg)
      exact (hc.refused (hC s a hcond) hep hiso' (hi i w hw hep hiso')).congr hconf
    · trivial

def errorFrame (m : Submit) : Bytes :=
  writeRetSubmit m.seqnum ⟨epipe, 0, 0, 0, 0, List.Vector.replicate 8 0⟩ []

theorem errorFrame_of_isochronous (h : session.Reachable s) (hu : s.urbs[t]? = some u)
    (hep : u.msg.basic.ep ≠ 0) (hiso : s.device.Isochronous u.msg.dataAddr) {n : UInt32}
    {frame : Bytes} (hlog : .retSubmit t n frame ∈ s.log) : frame = errorFrame u.msg := by
  obtain ⟨v, hv, -, ⟨r, hr, rfl⟩, -⟩ := (repliesOk h).attributed t n frame hlog
  obtain rfl : u = v := Option.some.inj (hu.symm.trans hv)
  have hrefused := refused (fun _ _ _ _ => trivial) h hu hep hiso
  rw [hr] at hrefused
  obtain ⟨e, rfl⟩ := hrefused
  rfl

theorem errorFrame_of_undisturbed {C : State → Action → Prop}
    (hC : ∀ s a, C s a → a.fails = false) (h : session.ReachableBy C s)
    (hu : s.urbs[t]? = some u) (hep : u.msg.basic.ep ≠ 0)
    (hiso : s.device.Isochronous u.msg.dataAddr) (hclosed : s.loop.closed = false)
    (hunread : ∀ r, .readUnlink r ∉ s.log) (hwritten : .writeFailed ∉ s.log)
    (hdecided : u.undecided = false) : .retSubmit t u.msg.seqnum (errorFrame u.msg) ∈ s.log := by
  have hpanic : ∀ s a, C s a → a.fails = true → False := by
    intro s a hc hfails
    rw [hC s a hc] at hfails
    cases hfails
  rcases (repliesOk h).excused t u hu hdecided with ⟨frame, hlog⟩ | hflag | hp | hw
  · have hframe := errorFrame_of_isochronous (h.mono fun _ _ _ => trivial) hu hep hiso hlog
    rwa [hframe] at hlog
  · have hdrained : s.loop.drained = false := by
      refine Bool.eq_false_iff.mpr fun hd => ?_
      rw [drained_closed hd] at hclosed
      cases hclosed
    obtain ⟨r, hr, -⟩ := (flagsOk h).targeted hdrained t u hu hflag
    exact absurd hr (hunread r)
  · have hrefused := refused hpanic h hu hep hiso
    rw [hp] at hrefused
    exact hrefused.elim
  · exact absurd hw hwritten

end Refusal

section Connected

variable {s s' : State} {a : Action} {T : Transcript Request UInt8 LoopError}

/-- A client that keeps its connection up, with nothing that fails: the loop takes the commands
off the stream one by one, and gives up only where what it reads next is none. -/
def Connected (T : Transcript Request UInt8 LoopError) (s : State) : Action → Prop
  | .loop (.recv c) => T.items[s.reads]?.map Request.command = some c
  | .loop .hangUp => T.result.isOk = false ∧ s.reads = T.items.length
  | a => a.fails = false

instance (T : Transcript Request UInt8 LoopError) (s : State) :
    (a : Action) → Decidable (Connected T s a)
  | .loop (.recv c) =>
    inferInstanceAs (Decidable (T.items[s.reads]?.map Request.command = some c))
  | .loop .hangUp => inferInstanceAs (Decidable (_ ∧ _))
  | .task .. | .closure .. | .loop .go | .loop (.write _) | .loop .failWrite | .loop (.drain _) =>
    inferInstanceAs (Decidable (Action.fails _ = false))

theorem Connected.fed (h : Connected T s a) : Fed T.items s a := by
  unfold Fed
  split
  · exact h
  · trivial

theorem Connected.not_fails (h : Connected T s a) : a.fails = false := by
  unfold Connected at h
  split at h
  · rfl
  · rfl
  · exact h

theorem connected_of_prompt (hp : s.prompt a = true) (hf : a.fails = false) :
    Connected T s a := by
  unfold Connected
  split
  · cases hp
  · cases hp
  · exact hf

theorem writeFailed_of_move (hm : Move s a s') (hf : a.fails = false)
    (hw : .writeFailed ∈ s'.log) : .writeFailed ∈ s.log := by
  cases hm with
  | task hu hm =>
    cases hm with
    | failWrite => cases hf
    | finishWrite => exact List.mem_of_ne_of_mem (by simp) hw
    | _ => exact hw
  | closure hu hm => exact mem_log_of hm.log rfl hw
  | loop hm =>
    cases hm with
    | failWrite => cases hf
    | submit | unlink | abort | finishWrite => exact List.mem_of_ne_of_mem (by simp) hw
    | _ => exact hw

theorem readUnlink_of_move {r : Unlink} (hm : Move s a s') (hr : .readUnlink r ∈ s'.log) :
    .readUnlink r ∈ s.log ∨ a = .loop (.recv (.unlink r)) := by
  cases hm with
  | task hu hm => exact .inl (mem_log_of hm.log rfl hr)
  | closure hu hm => exact .inl (mem_log_of hm.log rfl hr)
  | loop hm =>
    cases hm with
    | unlink =>
      rcases List.mem_cons.mp hr with he | hold
      · cases he
        exact .inr rfl
      · exact .inl hold
    | submit | abort | finishWrite | failWrite =>
      exact .inl (List.mem_of_ne_of_mem (by simp) hr)
    | _ => exact .inl hr

theorem LoopMove.stays_open {a : LoopAction} (hm : LoopMove s a s') (h : s.loop.closed = false)
    (ha : a ≠ .hangUp) (hf : (Action.loop a).fails = false) : s'.loop.closed = false := by
  cases hm with
  | hangUp => exact absurd rfl ha
  | failWrite => cases hf
  | drain hl | drainFlag hl | drainAbort hl =>
    rw [hl] at h
    cases h
  | _ => rfl

theorem reads_mono (hm : Move s a s') : s.reads ≤ s'.reads := by
  unfold State.reads
  rcases hm.log with hl | ⟨e, hl⟩
  · rw [hl]
  · rw [hl, List.countP_cons]
    exact Nat.le_add_right ..

structure Unbroken (s : State) : Prop where
  opened : s.loop.closed = false
  unread : ∀ r, .readUnlink r ∉ s.log
  written : .writeFailed ∉ s.log

theorem unbroken {m : Submit} {left : Bytes}
    (h : session.ReachableBy (Connected ⟨[.submit m], left, .ok ()⟩) s) : Unbroken s := by
  refine h.invariant ?_ ?_
  · rintro s ⟨configurations, active, rfl⟩
    exact ⟨rfl, nofun, nofun⟩
  · intro s a s' _ hi hcond hs
    have hm := step_move hs
    refine ⟨?_, fun r hr => ?_, fun hw => ?_⟩
    · cases hm with
      | task hu hm => exact hm.loop_eq ▸ hi.opened
      | closure hu hm => exact hm.loop_eq ▸ hi.opened
      | loop hm =>
        refine hm.stays_open hi.opened ?_ hcond.not_fails
        rintro rfl
        cases hcond.1
    · rcases readUnlink_of_move hm hr with hold | rfl
      · exact hi.unread r hold
      · obtain ⟨c, hc, hcommand⟩ := Option.map_eq_some_iff.mp hcond
        obtain rfl : c = .submit m := List.mem_singleton.mp (List.mem_of_getElem? hc)
        cases hcommand
    · exact hi.written (writeFailed_of_move hm hcond.not_fails hw)

end Connected

structure IsoPacket where
  offset : UInt32
  length : UInt32
  actualLength : UInt32
  status : UInt32
  deriving DecidableEq, Repr

def IsoPacket.encode (p : IsoPacket) : Bytes :=
  u32ToBeBytes p.offset ++ u32ToBeBytes p.length ++ u32ToBeBytes p.actualLength ++
    u32ToBeBytes p.status

def isoWire (m : Submit) (packets : List IsoPacket) : Bytes :=
  (Request.submit m).wire ++ packets.flatMap IsoPacket.encode

section Dispatch

variable {devid : UInt32} {m : Submit} {p : IsoPacket} {packets : List IsoPacket}

theorem dispatch_isoPacket (hword : p.actualLength ≠ devid) {headerBuf tail : Bytes}
    (hlen : headerBuf.length = urbHeaderSize) (hbuf : headerBuf = p.encode ++ tail)
    (rest : Bytes) : dispatch devid headerBuf rest = .error (.message "URB devid mismatch") := by
  have htake : ¬ (headerBuf.take UrbHeader.size).length < UrbHeader.size := by
    rw [List.length_take, hlen]
    decide
  have hdevid : readU32 (headerBuf.take UrbHeader.size) 8 = p.actualLength := by
    rw [hbuf]
    exact u32FromBeBytes_toBeBytes _
  rw [dispatch, UrbHeader.decode, if_neg htake]
  change (if readU32 (headerBuf.take UrbHeader.size) 8 ≠ devid then _ else _) = _
  rw [hdevid, if_pos hword]

theorem run_isoPackets (hword : p.actualLength ≠ devid) (packets : List IsoPacket)
    (rest : Bytes) :
    (urbLoop devid).run ((p :: packets).flatMap IsoPacket.encode ++ rest) =
      ⟨[], (p :: packets).flatMap IsoPacket.encode ++ rest,
        if ((p :: packets).flatMap IsoPacket.encode ++ rest).length < urbHeaderSize then .ok ()
        else .error (.message "URB devid mismatch")⟩ := by
  generalize hinput : (p :: packets).flatMap IsoPacket.encode ++ rest = input
  split_ifs with hshort
  · exact Reader.run_of_end (R := urbLoop devid) (urbLoopTurn_short hshort)
  · have hle : urbHeaderSize ≤ input.length := Nat.le_of_not_lt hshort
    -- the first descriptor is 16 bytes, and its third word is where a header has its devid
    have hhead : ∃ tail, input.take urbHeaderSize = p.encode ++ tail := by
      refine ⟨(packets.flatMap IsoPacket.encode ++ rest).take 32, ?_⟩
      rw [← hinput, List.flatMap_cons, List.append_assoc]
      rfl
    obtain ⟨tail, htail⟩ := hhead
    have hlen : (input.take urbHeaderSize).length = urbHeaderSize := List.length_take_of_le hle
    have hturn : urbLoopTurn devid input =
        some (.error (.message "URB devid mismatch")) := by
      rw [urbLoopTurn, readExact, if_pos hle, Option.map_some, List.splitAt_eq]
      exact congrArg some (dispatch_isoPacket hword hlen htail _)
    exact Reader.run_of_error (R := urbLoop devid) hturn

theorem run_isoWire (hm : (Request.submit m).Valid devid) (hword : p.actualLength ≠ devid)
    (packets : List IsoPacket) (rest : Bytes) :
    (urbLoop devid).run (isoWire m (p :: packets) ++ rest) =
      ⟨[.submit m], (p :: packets).flatMap IsoPacket.encode ++ rest,
        if ((p :: packets).flatMap IsoPacket.encode ++ rest).length < urbHeaderSize then .ok ()
        else .error (.message "URB devid mismatch")⟩ := by
  rw [isoWire, List.append_assoc, Reader.run_of_item ((urbLoop_reads devid).item hm _),
    run_isoPackets hword]

theorem length_isoPackets (packets : List IsoPacket) :
    (packets.flatMap IsoPacket.encode).length = 16 * packets.length := by
  induction packets with
  | nil => rfl
  | cons p packets ih =>
    rw [List.flatMap_cons, List.length_append, ih, List.length_cons]
    have hlen : p.encode.length = 16 := rfl
    omega

theorem run_isoWire_short (hm : (Request.submit m).Valid devid) (hshort : packets.length ≤ 2) :
    (urbLoop devid).run (isoWire m packets) =
      ⟨[.submit m], packets.flatMap IsoPacket.encode, .ok ()⟩ := by
  have hlen : (packets.flatMap IsoPacket.encode).length < urbHeaderSize := by
    rw [length_isoPackets]
    have hsize : urbHeaderSize = 48 := rfl
    omega
  rw [isoWire, Reader.run_of_item ((urbLoop_reads devid).item hm _),
    Reader.run_of_end (R := urbLoop devid) (urbLoopTurn_short hlen)]

theorem header_le_trailer {cs : List Request} (h : ¬ (cs = [] ∧ packets.length ≤ 2)) :
    ¬ (packets.flatMap IsoPacket.encode ++ cs.flatMap Request.wire).length < urbHeaderSize := by
  have hsize : urbHeaderSize = 48 := rfl
  rw [List.length_append, length_isoPackets]
  cases cs with
  | nil =>
    have hlong : ¬ packets.length ≤ 2 := fun hshort => h ⟨rfl, hshort⟩
    omega
  | cons c cs =>
    rw [List.flatMap_cons, List.length_append, Request.length_wire]
    omega

end Dispatch

def Dispatches (devid : UInt32) (input : Bytes) (rs : List Request) : Prop :=
  ((urbLoop devid).run input).items = rs ∧ ((urbLoop devid).run input).result = .ok ()

section Answer

variable {s : State} {m : Submit} {left : Bytes}
  (h : session.ReachableBy (Connected ⟨[.submit m], left, .ok ()⟩) s)
include h

theorem urb_of_connected {t : Nat} {u : Urb} (hu : s.urbs[t]? = some u) : t = 0 ∧ u.msg = m := by
  have hmsg : (s.urbs.map Urb.msg)[t]? = some u.msg := by
    rw [List.getElem?_map, hu]
    rfl
  have hread : s.urbs.map Urb.msg <+: [m] := urbs_prefix (h.mono fun _ _ => Connected.fed)
  have hget : [m][t]? = some u.msg := getElem?_of_prefix hmsg hread
  cases t with
  | zero => exact ⟨rfl, (Option.some.inj hget).symm⟩
  | succ t => cases hget

theorem answered_of_quiet (hep : m.basic.ep ≠ 0) (hiso : s.device.Isochronous m.dataAddr)
    (hread : 0 < s.reads) (hq : Quiet s) : .retSubmit 0 m.seqnum (errorFrame m) ∈ s.log := by
  have hrest := hq.atRest (h.mono fun _ _ _ => trivial)
  have htaken : submitsOf (([.submit m] : List Request).take s.reads) =
      s.urbs.map Urb.msg ++ s.loop.pending.toList := takenUp (h.mono fun _ _ => Connected.fed)
  have hpending : s.loop.pending = none := by
    have hidle := hrest.loop
    generalize s.loop = l at hidle
    cases l with
    | acquiring => cases hidle
    | _ => rfl
  rw [hpending, List.take_of_length_le hread] at htaken
  have hurb : (s.urbs.map Urb.msg)[0]? = some m := by
    rw [← List.append_nil (s.urbs.map Urb.msg)]
    exact congrArg (·[0]?) htaken.symm
  rw [List.getElem?_map] at hurb
  obtain ⟨u, hu, rfl⟩ := Option.map_eq_some_iff.mp hurb
  obtain ⟨hopened, hunread, hwritten⟩ := unbroken h
  exact errorFrame_of_undisturbed (fun _ _ => Connected.not_fails) h hu hep hiso hopened hunread
    hwritten (undecided_of_not_live (hrest.urbs 0 u hu).1)

end Answer

theorem answered_in_time {s : State} {m : Submit} {left : Bytes}
    (h : session.ReachableBy (Connected ⟨[.submit m], left, .ok ()⟩) s)
    (hep : m.basic.ep ≠ 0) (hiso : s.device.Isochronous m.dataAddr) (hread : 0 < s.reads) :
    (∀ as s', session.replay (fun s a => s.prompt a = true ∧ a.fails = false) s as = some s' →
      as.length ≤ s.budget ∧ (Quiet s' → .retSubmit 0 m.seqnum (errorFrame m) ∈ s'.log)) ∧
    ∃ as s', session.replay (fun s a => s.prompt a = true ∧ a.fails = false) s as = some s' ∧
      .retSubmit 0 m.seqnum (errorFrame m) ∈ s'.log := by
  have hranked := (ranked.mono fun _ _ (ha : _ ∧ Action.fails _ = false) => ha.1).restrict
    (J := fun s => session.ReachableBy (Connected ⟨[.submit m], left, .ok ()⟩) s ∧
      s.device.Isochronous m.dataAddr ∧ 0 < s.reads)
    (fun _ hj => hj.1.mono fun _ _ _ => trivial) fun {s s' a} hj hc hs => by
      have hm := step_move hs
      refine ⟨.step hj.1 (connected_of_prompt hc.1 hc.2) hs, fun cfg hcfg => ?_,
        Nat.lt_of_lt_of_le hj.2.2 (reads_mono hm)⟩
      rw [configurations_of_move hm] at hcfg
      exact hj.2.1 cfg hcfg
  refine hranked.settles (fun _ _ ha => ha) (fun s hj hq => ?_) ⟨h, hiso, hread⟩
  exact answered_of_quiet hj.1 hep hj.2.1 hj.2.2 hq

namespace Sample

/-- A microphone: isochronous packets of up to 192 bytes on `0x81`. -/
def microphone : OpenedDevice := .opened [⟨1, [⟨0, 0, [⟨0x81, .isochronous, 192⟩]⟩]⟩] 1

theorem init_microphone : session.init (.initial microphone) := ⟨_, _, rfl⟩

def isoSubmit : Submit where
  basic := ⟨usbipCmdSubmit, 7, 0x10001, usbipDirIn, 1⟩
  cmd := ⟨0, 192, 0, 1, 1, List.Vector.replicate 8 0⟩
  outPayload := []

def isoPacket : IsoPacket := ⟨0, 192, 0, 0⟩

theorem isochronous_microphone : microphone.Isochronous isoSubmit.dataAddr := by
  unfold OpenedDevice.Isochronous
  decide

end Sample

end Usbip.Session
