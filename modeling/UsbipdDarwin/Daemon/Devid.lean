import UsbipdDarwin.Host.BusDev
import UsbipdDarwin.Proto.Record
import UsbipdDarwin.Daemon.Policy

/-! The devid of a session. `open` packs it from the port of the device, the reply
carries its halves, the client narrows them to bytes and packs them again, and
`urb_loop` compares every header with what it has packed itself. -/

namespace Usbip.Serve
open Proto Host Daemon Lts

/-- The devid a Linux client puts into its URBs: `usbip_vhci_attach_device` takes both
numbers as `uint8_t`. -/
def clientDevid (reply : Bytes) : UInt32 :=
  devidOf ((readU32 reply 296).toUInt8.toUInt32, (readU32 reply 300).toUInt8.toUInt32)

def loopDevid (desc : UsbDevice) : UInt32 := devidOf (desc.busnum, desc.devnum)

/-- A client that takes its devid from the reply is served under it. -/
structure DevidAgrees (reply : Bytes) (desc : UsbDevice) : Prop where
  devid : clientDevid reply = loopDevid desc
  busnum : (readU32 reply 296).toUInt8 ≠ 0
  devnum : (readU32 reply 300).toUInt8 ≠ 0
  read : ∀ cs : List Session.Request, (∀ c ∈ cs, c.Valid (clientDevid reply)) →
    (Session.urbLoop (loopDevid desc)).run (cs.flatMap Session.Request.wire) = ⟨cs, [], .ok ()⟩
  kept : ∀ cs : List Session.Request, (∀ c ∈ cs, c.Valid (clientDevid reply)) →
    ∀ p, p <+: cs.flatMap Session.Request.wire →
      ((Session.urbLoop (loopDevid desc)).run p).result ≠ .error (.message "URB devid mismatch")

section Reply

variable {e : ExportedDevice} {desc : UsbDevice}

theorem readU32_encodeRepImportOk (e : ExportedDevice) :
    readU32 (encodeRepImportOk e) 296 = e.busnum ∧
      readU32 (encodeRepImportOk e) 300 = e.devnum := by
  have hhead : (OpHeader.encode (.new opRepImport)).length = 8 := rfl
  rw [encodeRepImportOk, ExportedDevice.encodeHeaderOnly_eq]
  simp (disch := decide) only [readU32_skip hhead, readU32_skip e.length_strings]
  exact ⟨u32FromBeBytes_toBeBytes _, u32FromBeBytes_toBeBytes _⟩

theorem devidAgrees_of_slot (hb : Slot desc.busnum) (hd : Slot desc.devnum) :
    DevidAgrees (encodeRepImportOk (toExported desc)) desc := by
  obtain ⟨hbusnum, hdevnum⟩ := readU32_encodeRepImportOk (toExported desc)
  have hb' : (readU32 (encodeRepImportOk (toExported desc)) 296).toUInt8 = desc.busnum.toUInt8 :=
    congrArg UInt32.toUInt8 hbusnum
  have hd' : (readU32 (encodeRepImportOk (toExported desc)) 300).toUInt8 = desc.devnum.toUInt8 :=
    congrArg UInt32.toUInt8 hdevnum
  have hdevid : clientDevid (encodeRepImportOk (toExported desc)) = loopDevid desc := by
    rw [clientDevid, hb', hd', hb.truncate.1, hd.truncate.1, loopDevid]
  refine ⟨hdevid, hb' ▸ hb.truncate.2, hd' ▸ hd.truncate.2, fun cs hcs => ?_, fun cs hcs p hp => ?_⟩
  · rw [hdevid] at hcs
    exact (Session.urbLoop_reads _).whole hcs
  · rw [hdevid] at hcs
    exact Session.result_ne_mismatch hcs hp

end Reply

section Run

variable {s : State} {m m' : Import} {c c' : Client} {i : Nat}

def SnapOf (m : Import) (snap : UsbDevice) : Prop :=
  ∃ info, m.opened = some info ∧ (snap.busnum, snap.devnum) = deriveBusDev info.port

structure Numbered (m : Import) (c : Client) : Prop where
  before : c.pc.beforeOpen = true → m.announced = none
  snap : ∀ snap, m.snap = some snap → SnapOf m snap
  announced : ∀ e, m.announced = some e → encodeRepImportOk e <:+: m.sent ∧
    ∃ desc snap, e = toExported (importRecord desc snap) ∧ SnapOf m snap

theorem Numbered.keep (h : Numbered m c)
    (hpc : c'.pc.beforeOpen = true → c.pc.beforeOpen = true)
    (hopened : m'.opened = m.opened) (hsnap : m'.snap = m.snap)
    (hannounced : m'.announced = m.announced) (hsent : m.sent <:+: m'.sent) :
    Numbered m' c' := by
  have hsnapOf : ∀ snap, SnapOf m snap → SnapOf m' snap := by
    rintro snap ⟨info, hi, hn⟩
    exact ⟨info, hopened.trans hi, hn⟩
  refine ⟨fun hb => ?_, fun snap hs => ?_, fun e he => ?_⟩
  · rw [hannounced]
    exact h.before (hpc hb)
  · exact hsnapOf snap (h.snap snap (hsnap ▸ hs))
  · obtain ⟨hwithin, desc, snap, rfl, hs⟩ := h.announced e (hannounced ▸ he)
    exact ⟨hwithin.trans hsent, desc, snap, rfl, hsnapOf snap hs⟩

theorem snapOf_snapshot {o : Opening} {snap : UsbDevice} (hopened : m.opened = s.opened i o)
    (hsnap : s.snapshot i o = some snap) : SnapOf m snap := by
  obtain ⟨info, hinfo, hsnap⟩ := Option.bind_eq_some_iff.mp hsnap
  obtain ⟨r, -, rfl⟩ := Option.map_eq_some_iff.mp hsnap
  obtain ⟨hbusnum, hdevnum⟩ := slot_deriveBusDev info.port
  refine ⟨info, hopened.trans hinfo, ?_⟩
  rw [descriptorSnapshot, devidOf_shiftRight hbusnum hdevnum, devidOf_and hbusnum hdevnum]

theorem numbered {C : State → Action → Prop} (h : serve.ReachableBy C s)
    (hm : s.imports[i]? = some m) (hc : s.client i = some c) : Numbered m c := by
  refine conns_invariant (P := fun _ => Numbered) h
    (fun _ _ => ⟨fun _ => rfl, nofun, nofun⟩) ?_ hm hc
  intro s a s' i m c c' _ _ hst htarget hm hc hmoved hok
  cases a with
  | lookup j listed =>
    cases htarget
    have hp := Client.requested_of_lookup (step_of_moved rfl hmoved)
    exact hok.keep (fun _ => by rw [hp]; rfl) rfl rfl rfl (List.infix_refl _)
  | openDevice j o =>
    cases htarget
    have hstep := step_of_moved rfl hmoved
    obtain ⟨hp, hlate⟩ : c.pc = .opening ∧ c'.pc.beforeOpen = false := by
      cases Client.step_rule hstep with
      | opened hp | openFailed hp => exact ⟨hp, rfl⟩
    have hnone : m.announced = none := hok.before (by rw [hp]; rfl)
    refine ⟨fun _ => hnone, fun snap hs => snapOf_snapshot rfl hs, fun e he => ?_⟩
    rw [show m.announced = some e from he] at hnone
    cases hnone
  | reply j ok =>
    cases ok with
    | false =>
      exact hok.keep (onward_of_moved (by simp) hmoved).beforeOpen rfl rfl rfl (List.infix_refl _)
    | true =>
      cases htarget
      have hstep := step_of_moved rfl hmoved
      have hlate : c'.pc.beforeOpen = false := by
        cases Client.step_rule hstep with
        | replied => rfl
      refine ⟨fun hb => ?_, hok.snap, fun e he => ?_⟩
      · rw [hb] at hlate
        cases hlate
      · have hrecord : m.record = some e := he
        have hsent : (importAfter s i m (.reply i true)).sent = m.sent ++ encodeRepImportOk e := by
          rw [importAfter, hrecord]
          rfl
        obtain ⟨desc, hdesc, hmap⟩ := Option.bind_eq_some_iff.mp hrecord
        obtain ⟨snap, hsnap, rfl⟩ := Option.map_eq_some_iff.mp hmap
        refine ⟨?_, desc, snap, rfl, hok.snap snap hsnap⟩
        rw [hsent]
        exact (List.suffix_append ..).isInfix
  | request j bytes =>
    have honward := (onward_of_moved (by simp) hmoved).beforeOpen
    rw [importAfter]
    split_ifs
    · exact hok.keep honward rfl rfl rfl (List.infix_refl _)
    · exact hok.keep honward rfl rfl rfl (List.infix_refl _)
  | devlist j listed | refuse j =>
    have honward := (onward_of_moved (by simp) hmoved).beforeOpen
    exact hok.keep honward rfl rfl rfl (List.prefix_append ..).isInfix
  | connect peer | shutdown | sweep listed => cases htarget
  | _ =>
    have honward := (onward_of_moved (by simp) hmoved).beforeOpen
    exact hok.keep honward rfl rfl rfl (List.infix_refl _)

end Run

/-- Wherever an opened device is plugged in, the client that is told of it and `urb_loop`
agree on its devid, and the client's requests are read under it. -/
theorem devid_agreement {s : State} (h : serve.Reachable s) {i : Nat} {m : Import}
    (hm : s.imports[i]? = some m) {e : ExportedDevice} (he : m.announced = some e) :
    encodeRepImportOk e <:+: m.sent ∧ ∃ desc info, e = toExported desc ∧ m.opened = some info ∧
      loopDevid desc = devidOf (deriveBusDev info.port) ∧
      DevidAgrees (encodeRepImportOk e) desc := by
  obtain ⟨c, hc⟩ : ∃ c, s.client i = some c := by
    have hlt := lt_length_of_getElem? hm
    rw [lengths h] at hlt
    exact ⟨_, List.getElem?_eq_getElem hlt⟩
  obtain ⟨hsent, desc, snap, rfl, info, hinfo, hnumbers⟩ := (numbered h hm hc).announced e he
  obtain ⟨hbusnum, hdevnum⟩ := slot_deriveBusDev info.port
  rw [← hnumbers] at hbusnum hdevnum
  refine ⟨hsent, importRecord desc snap, info, rfl, hinfo, ?_, devidAgrees_of_slot hbusnum hdevnum⟩
  rw [← hnumbers]
  rfl

namespace Sample

def importRun : List Action := attach 0 Daemon.Sample.info ++ openAndReply 0 Daemon.Sample.answers

end Sample

theorem devid_agreement_stick : ∃ s m e, serve.Reachable s ∧ s.imports[0]? = some m ∧
    m.announced = some e ∧ ∃ desc, e = toExported desc ∧
      clientDevid (encodeRepImportOk e) = loopDevid desc := by
  have hrun : (serve.run (.new .allowAll true) Sample.importRun).map
      (fun s => s.imports[0]?.any (·.announced.isSome)) = some true := by
    decide
  obtain ⟨s, hs, hannounced⟩ := System.exists_reachable_of_run (init_serve _ _) hrun
  obtain ⟨m, hm, hsome⟩ := (Option.any_eq_true ..).mp hannounced
  obtain ⟨e, he⟩ := Option.isSome_iff_exists.mp hsome
  obtain ⟨-, desc, -, hdesc, -, -, hagrees⟩ := devid_agreement hs hm he
  exact ⟨s, m, e, hs, hm, he, desc, hdesc, hagrees.devid⟩

/-- A record's two numbers, as the device list and the import reply carry them. -/
def recordIds (e : ExportedDevice) : UInt32 × UInt32 := (e.busnum, e.devnum)

/-- The record that is announced after the device on the port has come back under
address `a`. -/
def reimported (busId : String) (portChain : List UInt8) (a : UInt8) (desc : UsbDevice)
    (busid : String) (classOf : InterfaceDescriptor → UsbInterface) (d : OpenedDevice) :
    ExportedDevice :=
  toExported (importRecord desc
    (descriptorSnapshot busid (devidOf (deriveBusDevInner busId portChain a)) classOf d))

theorem recordIds_reimported (busId : String) (portChain : List UInt8) (a : UInt8)
    (desc : UsbDevice) (busid : String) (classOf : InterfaceDescriptor → UsbInterface)
    (d : OpenedDevice) :
    recordIds (reimported busId portChain a desc busid classOf d) =
      deriveBusDevInner busId portChain a := by
  obtain ⟨hbusnum, hdevnum⟩ := slot_deriveBusDev ⟨busId, portChain, a⟩
  exact Prod.ext (devidOf_shiftRight hbusnum hdevnum) (devidOf_and hbusnum hdevnum)

/-- The address is mixed into the device number, so the numbers of a port stay the same
just where the two addresses fall into one slot, and so does what the client is told. -/
theorem numbers_stable (busId : String) (portChain : List UInt8) (a a' : UInt8) :
    (deriveBusDevInner busId portChain a = deriveBusDevInner busId portChain a' ↔
      SameSlot portChain a a') ∧
    ∀ (desc : UsbDevice), (desc.busnum, desc.devnum) = deriveBusDevInner busId portChain a →
      ∀ busid classOf d, recordIds (reimported busId portChain a' desc busid classOf d) =
        recordIds (toExported desc) ↔ SameSlot portChain a a' := by
  refine ⟨deriveBusDevInner_eq_iff, fun desc hdesc busid classOf d => ?_⟩
  have hrecord : recordIds (toExported desc) = deriveBusDevInner busId portChain a := hdesc
  rw [recordIds_reimported, hrecord, eq_comm]
  exact deriveBusDevInner_eq_iff

/-- Address 4 after address 3 on one port: the device number changes, and with it what
the client is told. -/
theorem numbers_follow_address :
    deriveBusDevInner "1" [2] 3 ≠ deriveBusDevInner "1" [2] 4 ∧
    ∀ desc : UsbDevice, (desc.busnum, desc.devnum) = deriveBusDevInner "1" [2] 3 →
      ∀ busid classOf d, recordIds (reimported "1" [2] 4 desc busid classOf d) ≠
        recordIds (toExported desc) := by
  have hne : deriveBusDevInner "1" [2] 3 ≠ deriveBusDevInner "1" [2] 4 := by decide
  refine ⟨hne, fun desc hdesc busid classOf d heq => hne ?_⟩
  rw [recordIds_reimported] at heq
  rw [heq, ← hdesc]
  rfl

end Usbip.Serve
