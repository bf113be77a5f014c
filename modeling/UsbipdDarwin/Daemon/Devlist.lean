import UsbipdDarwin.Proto.Record
import UsbipdDarwin.Daemon.Visibility

/-! The device list on the wire: what a client reads out of an `OP_REP_DEVLIST`, and
whether the busids it finds there are the ones it may import. -/

namespace Usbip.Serve
open Proto Host Daemon Lts Lts.Records

def nonHubs (devices : List UsbDevice) : List UsbDevice := devices.filter (·.cls != 0x09)

def devlistHead (devices : List UsbDevice) : Bytes :=
  (OpHeader.new opRepDevlist).encode ++ u32ToBeBytes (u32OfUsize (nonHubs devices).length)

/-- How a client reads an `OP_REP_DEVLIST`: the header, the count, then the records one
after the other. The offset is the one after the last record. -/
def decodeRepDevlist (buf : Bytes) : Except ProtoError (OpHeader × List ExportedDevice × Nat) := do
  let header ← OpHeader.decode buf
  if buf.length < OpHeader.size + 4 then .error (.shortRead (OpHeader.size + 4) buf.length)
  else
    let (devices, off) ← decodeMany ExportedDevice.decode buf (readU32 buf 8).toNat 12
    .ok (header, devices, off)

def busidField (record : Bytes) : Bytes := (record.drop 256).take 32

section Wire

variable {devices : List UsbDevice}

theorem encodeRepDevlist_eq (devices : List UsbDevice) : encodeRepDevlist devices =
    devlistHead devices ++ ((nonHubs devices).map toExported).flatMap ExportedDevice.encode := by
  rw [List.flatMap_map]
  rfl

theorem utf8_append (s t : String) : utf8 (s ++ t) = utf8 s ++ utf8 t := by
  rw [utf8_eq, utf8_eq, utf8_eq, String.toList_append, List.flatMap_append]

theorem path_toExported (d : UsbDevice) : (toExported d).path = "/usbipd-darwin/" ++ d.busid := rfl

theorem fits_toExported {d : UsbDevice} (hnul : NulFree d.busid)
    (hlen : (utf8 d.busid).length ≤ 32) (hifs : d.interfaces.length ≤ 255) :
    (toExported d).Fits where
  path_nulFree := by
    have hroot : NulFree "/usbipd-darwin/" := by decide
    rw [path_toExported, NulFree, String.toList_append, List.mem_append, not_or]
    exact ⟨hroot, hnul⟩
  path_length := by
    have hroot : (utf8 "/usbipd-darwin/").length = 15 := by decide
    rw [path_toExported, utf8_append, List.length_append, hroot]
    omega
  busid_nulFree := hnul
  busid_length := hlen
  interfaces_length := by
    change (d.interfaces.map _).length ≤ 255
    rw [List.length_map]
    exact hifs

theorem decode_devlistHead (devices : List UsbDevice) (rest : Bytes) :
    OpHeader.decode (devlistHead devices ++ rest) = .ok (OpHeader.new opRepDevlist) := by
  rw [devlistHead, List.append_assoc, OpHeader.decode_encode]

theorem length_devlistHead (devices : List UsbDevice) : (devlistHead devices).length = 12 := rfl

theorem readU32_devlistHead (h : devices.length < 2 ^ 32) (rest : Bytes) :
    (readU32 (devlistHead devices ++ rest) 8).toNat = (nonHubs devices).length := by
  have hlt : (nonHubs devices).length < 2 ^ 32 := (List.length_filter_le ..).trans_lt h
  have hread : readU32 (devlistHead devices ++ rest) 8 = u32OfUsize (nonHubs devices).length :=
    u32FromBeBytes_toBeBytes _
  rw [hread, u32OfUsize, if_pos hlt]
  exact Nat.mod_eq_of_lt hlt

theorem decode_busidField {d : ExportedDevice} (hnul : NulFree d.busid)
    (hlen : (utf8 d.busid).length ≤ 32) (rest : Bytes) :
    decodeReqImportBusid (busidField (d.encode ++ rest)) = .ok d.busid := by
  have hfield : busidField (d.encode ++ rest) = writeFixedStr d.busid 32 := by
    rw [busidField, ExportedDevice.encode_eq, ExportedDevice.encodeHeaderOnly_eq,
      List.append_assoc, List.append_assoc, ExportedDevice.busid_field]
  rw [hfield, decodeReqImportBusid, length_writeFixedStr, if_neg (Nat.lt_irrefl 32),
    List.take_of_length_le (length_writeFixedStr ..).le, readFixedStr_writeFixedStr hnul hlen]

end Wire

/-- A client reads back the devices that are not hubs, in order and to the last byte, and
the busid of each record, sent back as it stands, names the record's device. -/
theorem devlist_roundtrip (devices : List UsbDevice) (hcount : devices.length < 2 ^ 32)
    (hbusid : ∀ d ∈ devices, NulFree d.busid ∧ (utf8 d.busid).length ≤ 32)
    (hifs : ∀ d ∈ devices, d.interfaces.length ≤ 255) :
    decodeRepDevlist (encodeRepDevlist devices) =
      .ok (OpHeader.new opRepDevlist, (nonHubs devices).map toExported,
        (encodeRepDevlist devices).length) ∧
    ∀ i d, (nonHubs devices)[i]? = some d → ∃ before off used,
      decodeMany ExportedDevice.decode (encodeRepDevlist devices) i 12 = .ok (before, off) ∧
      ExportedDevice.decode ((encodeRepDevlist devices).drop off) = .ok (toExported d, used) ∧
      decodeReqImportBusid (busidField ((encodeRepDevlist devices).drop off)) = .ok d.busid := by
  have hfits : ∀ r ∈ (nonHubs devices).map toExported, r.Fits := by
    intro r hr
    obtain ⟨d, hd, rfl⟩ := List.mem_map.mp hr
    have hmem := List.mem_of_mem_filter hd
    exact fits_toExported (hbusid d hmem).1 (hbusid d hmem).2 (hifs d hmem)
  have hbuf : encodeRepDevlist devices = devlistHead devices ++
      (((nonHubs devices).map toExported).flatMap ExportedDevice.encode ++ []) := by
    rw [encodeRepDevlist_eq, List.append_nil]
  constructor
  · have hmany := decodeMany_flatMap ExportedDevice.decode_encode hfits hbuf
    have hshort : ¬ (encodeRepDevlist devices).length < OpHeader.size + 4 := by
      rw [encodeRepDevlist_eq, List.length_append, length_devlistHead, OpHeader.size]
      omega
    have hend : (encodeRepDevlist devices).length =
        12 + (((nonHubs devices).map toExported).flatMap ExportedDevice.encode).length := by
      rw [encodeRepDevlist_eq, List.length_append, length_devlistHead]
    have hdecode :
        OpHeader.decode (encodeRepDevlist devices) = .ok (OpHeader.new opRepDevlist) := by
      rw [encodeRepDevlist_eq, decode_devlistHead]
    have hread : (readU32 (encodeRepDevlist devices) 8).toNat =
        ((nonHubs devices).map toExported).length := by
      rw [encodeRepDevlist_eq, readU32_devlistHead hcount, List.length_map]
    rw [decodeRepDevlist, hdecode]
    simp only [bind, Except.bind, if_neg hshort]
    rw [hread, ← length_devlistHead devices, hmany, length_devlistHead, ← hend]
  · intro i d hd
    obtain ⟨off, tail, hmany, hdrop⟩ := decodeMany_take ExportedDevice.decode_encode hfits hbuf
      (i := i) (a := toExported d) (by rw [List.getElem?_map, hd]; rfl)
    have hfit := hfits _ (List.mem_map.mpr ⟨d, List.mem_of_getElem? hd, rfl⟩)
    refine ⟨_, off, (toExported d).encode.length, hmany, ?_, ?_⟩
    · rw [hdrop]
      exact ExportedDevice.decode_encode _ hfit tail
    · rw [hdrop, decode_busidField hfit.busid_nulFree hfit.busid_length]
      rfl

namespace Sample

def hub : Listed where
  info := ⟨"1-2", 0x05E3, 0x0608, 0x01200000, 7, ⟨"1", [2], 6⟩, rfl⟩
  desc := ⟨"1-2", 1, 7, 3, 0x05E3, 0x0608, 0x0100, 0x09, 0, 1, 1, 1, [⟨9, 0, 0⟩]⟩
  busid_eq := rfl
  vendorId_eq := rfl
  productId_eq := rfl

def behindHub : List UsbDevice := [hub.desc, (listed Daemon.Sample.info).desc]

end Sample

theorem devlist_roundtrip_behindHub :
    Sample.behindHub.length < 2 ^ 32 ∧
    (∀ d ∈ Sample.behindHub, NulFree d.busid ∧ (utf8 d.busid).length ≤ 32) ∧
    (∀ d ∈ Sample.behindHub, d.interfaces.length ≤ 255) ∧
    decodeRepDevlist (encodeRepDevlist Sample.behindHub) =
      .ok (OpHeader.new opRepDevlist, [toExported (Sample.listed Daemon.Sample.info).desc],
        (encodeRepDevlist Sample.behindHub).length) := by
  have hcount : Sample.behindHub.length < 2 ^ 32 := by decide
  have hbusid : ∀ d ∈ Sample.behindHub, NulFree d.busid ∧ (utf8 d.busid).length ≤ 32 := by decide
  have hifs : ∀ d ∈ Sample.behindHub, d.interfaces.length ≤ 255 := by decide
  exact ⟨hcount, hbusid, hifs, (devlist_roundtrip _ hcount hbusid hifs).1⟩

/-! `handle_devlist` and `handle_import` over one enumeration. -/

section Agreement

variable {policy : AccessPolicy} {listed : List Listed} {s : State} {i : Nat} {busid : String}
  {bytes : Bytes}

def devlistRecords (policy : AccessPolicy) (listed : List Listed) : List Bytes :=
  (nonHubs (filterDevices policy (listed.map (·.desc)))).map fun d => (toExported d).encode

theorem devlistReply_eq (policy : AccessPolicy) (listed : List Listed) :
    devlistReply policy (some listed) =
      devlistHead (filterDevices policy (listed.map (·.desc))) ++
        (devlistRecords policy listed).flatten := by
  change encodeRepDevlist (filterDevices policy (listed.map (·.desc))) = _
  rw [encodeRepDevlist_eq, List.flatMap_map]
  rfl

def Advertised (policy : AccessPolicy) (listed : List Listed) (busid : String) : Prop :=
  ∃ r ∈ devlistRecords policy listed, decodeReqImportBusid (busidField r) = .ok busid

/-- Where `handle_import` is after its look-up and its policy check; `permitted` is before
`try_attach`. -/
def importPc (s : State) (i : Nat) (bytes : Bytes) (listed : List Listed) : Option ImportPc :=
  (serve.run s [.request i bytes, .lookup i (some listed)]).bind fun s' =>
    (s'.client i).map (·.pc)

theorem advertised_iff (hbusid : ∀ d ∈ listed, NulFree d.info.busid ∧
    (utf8 d.info.busid).length ≤ 32) : Advertised policy listed busid ↔
      ∃ d ∈ listed, d.info.busid = busid ∧ permitsListed policy d = true ∧ d.desc.cls ≠ 0x09 := by
  have hfield : ∀ d ∈ listed,
      decodeReqImportBusid (busidField (toExported d.desc).encode) = .ok d.info.busid := by
    intro d hd
    have hb := hbusid d hd
    rw [← d.busid_eq] at hb ⊢
    have hdecode := decode_busidField (d := toExported d.desc) hb.1 hb.2 []
    rwa [List.append_nil] at hdecode
  simp only [Advertised, devlistRecords, nonHubs, filterDevices, List.mem_map, List.mem_filter]
  constructor
  · rintro ⟨_, ⟨_, ⟨⟨⟨d, hd, rfl⟩, hpermits⟩, hhub⟩, rfl⟩, hr⟩
    rw [hfield d hd] at hr
    exact ⟨d, hd, Except.ok.inj hr, hpermits, by simpa using hhub⟩
  · rintro ⟨d, hd, rfl, hpermits, hhub⟩
    exact ⟨_, ⟨_, ⟨⟨⟨d, hd, rfl⟩, hpermits⟩, by simpa using hhub⟩, rfl⟩, hfield d hd⟩

theorem step_of_daemonAfter {a : Action} {d : Daemon.State} (hen : s.enabled a = true)
    (hd : daemonAfter s a = some d) : ∃ s', step s a = some s' ∧ s'.daemon = d := by
  rw [step, if_pos hen, hd]
  exact ⟨_, rfl, rfl⟩

theorem step_request (hi : s.awaitsRequest i = true)
    (hreq : handleSession bytes = .attach busid) :
    ∃ s' c, step s (.request i bytes) = some s' ∧ s'.daemon.policy = s.daemon.policy ∧
      s'.client i = some c ∧ c.pc = .requested ∧ c.busid = busid := by
  obtain ⟨c, hc, hpc⟩ := (Option.any_eq_true ..).mp (Bool.and_eq_true_iff.mp hi).1
  have hpc : c.pc = .connected := by simpa using hpc
  have hc : s.daemon.clients[i]? = some c := hc
  have hafter : daemonAfter s (.request i bytes) =
      some (s.daemon.setClient i { c with pc := .requested, busid := busid }) := by
    simp only [daemonAfter, Action.daemon, hreq, Daemon.step, hc, Option.bind_some, Client.step,
      hpc, Option.map_some]
  obtain ⟨s', hs', hd⟩ := step_of_daemonAfter (a := .request i bytes) hi hafter
  refine ⟨s', { c with pc := .requested, busid := busid }, hs', ?_, ?_, rfl, rfl⟩
  · rw [hd]
    rfl
  · rw [State.client, hd]
    exact List.getElem?_set_self (lt_length_of_getElem? hc)

theorem step_lookup {c : Client} (hc : s.client i = some c) (hpc : c.pc = .requested)
    (listed : List Listed) :
    ∃ s', step s (.lookup i (some listed)) = some s' ∧ (s'.client i).map (·.pc) =
      some (Client.decision s.daemon.policy c.busid (infos listed)) := by
  have hc : s.daemon.clients[i]? = some c := hc
  have hafter : daemonAfter s (.lookup i (some listed)) = some (s.daemon.setClient i
      { c with pc := Client.decision s.daemon.policy c.busid (infos listed) }) := by
    simp only [daemonAfter, Action.daemon, Daemon.step, hc, Option.bind_some, Option.map_some,
      Client.step, hpc]
    rfl
  obtain ⟨s', hs', hd⟩ := step_of_daemonAfter rfl hafter
  refine ⟨s', hs', ?_⟩
  have hself := List.getElem?_set_self (lt_length_of_getElem? hc)
    (a := { c with pc := Client.decision s.daemon.policy c.busid (infos listed) })
  rw [State.client, hd, Daemon.State.setClient, hself]
  rfl

theorem importPc_eq (hi : s.awaitsRequest i = true) (hreq : handleSession bytes = .attach busid)
    (listed : List Listed) :
    importPc s i bytes listed = some (Client.decision s.daemon.policy busid (infos listed)) := by
  obtain ⟨s₁, c, hstep₁, hpolicy, hc, hpc, rfl⟩ := step_request hi hreq
  obtain ⟨s₂, hstep₂, hdecision⟩ := step_lookup hc hpc listed
  have hrun : serve.run s [.request i bytes, .lookup i (some listed)] = some s₂ := by
    simp only [System.run, System.replay, serve, if_true, hstep₁, Option.bind_some, hstep₂]
  rw [importPc, hrun, Option.bind_some, hdecision, hpolicy]

theorem permitted_iff (hnodup : (listed.map (·.info.busid)).Nodup) :
    Client.decision policy busid (infos listed) = .permitted ↔
      ∃ d ∈ listed, d.info.busid = busid ∧ permitsListed policy d = true := by
  rw [decision_infos]
  have hfind : ((find listed busid).filter (permitsListed policy)).isSome = true ↔
      ∃ d ∈ listed, d.info.busid = busid ∧ permitsListed policy d = true := by
    simp only [Option.isSome_iff_exists, Option.filter_eq_some_iff, find,
      find?_eq_some_iff_of_nodup hnodup, and_assoc]
  rw [← hfind]
  split_ifs with h <;> simp [h]

end Agreement

/-- The reply has a busid that may be imported, and no other, exactly where no permitted hub
is listed under it. -/
theorem devlist_import_agree (policy : AccessPolicy) (listed : List Listed)
    (hnodup : (listed.map (·.info.busid)).Nodup)
    (hbusid : ∀ d ∈ listed, NulFree d.info.busid ∧ (utf8 d.info.busid).length ≤ 32)
    (s : State) (i : Nat) (hs : s.daemon.policy = policy) (hi : s.awaitsRequest i = true)
    (bytes : Bytes) (busid : String) (hreq : handleSession bytes = .attach busid) :
    (Advertised policy listed busid ↔ importPc s i bytes listed = some .permitted) ↔
      ∀ d ∈ listed, d.info.busid = busid → permitsListed policy d = true → d.desc.cls ≠ 0x09 := by
  rw [importPc_eq hi hreq, hs, Option.some.injEq, permitted_iff hnodup, advertised_iff hbusid]
  constructor
  · intro hagree d hd hb hpermits
    obtain ⟨d', hd', hb', -, hhub⟩ := hagree.mpr ⟨d, hd, hb, hpermits⟩
    -- The busids are distinct, so the device in the reply is this one.
    obtain rfl : d' = d := List.inj_on_of_nodup_map hnodup hd' hd (hb'.trans hb.symm)
    exact hhub
  · intro hhub
    constructor
    · rintro ⟨d, hd, hb, hpermits, -⟩
      exact ⟨d, hd, hb, hpermits⟩
    · rintro ⟨d, hd, hb, hpermits⟩
      exact ⟨d, hd, hb, hpermits, hhub d hd hb hpermits⟩

namespace Sample

def oneClient (policy : AccessPolicy) : State :=
  { State.new policy false with
    daemon := { Daemon.State.new policy with clients := [{ peer := "tcp:127.0.0.1:50000" }] }
    imports := [{}] }

end Sample

theorem devlist_import_agree_stick :
    ([Sample.hub, Sample.listed Daemon.Sample.info].map (·.info.busid)).Nodup ∧
    (Advertised .allowAll [Sample.hub, Sample.listed Daemon.Sample.info] "1-1" ↔
      importPc (Sample.oneClient .allowAll) 0 (Sample.importBytes "1-1")
        [Sample.hub, Sample.listed Daemon.Sample.info] = some .permitted) := by
  have hagree := devlist_import_agree .allowAll [Sample.hub, Sample.listed Daemon.Sample.info]
    (by decide) (by decide) (Sample.oneClient .allowAll) 0 rfl rfl (Sample.importBytes "1-1") "1-1"
    (by decide)
  refine ⟨by decide, hagree.mpr ?_⟩
  decide

/-- Under `--allow-all` a hub is in no record of the reply, and yet its import gets past
the look-up and the policy check. -/
theorem hub_importable :
    serve.run (.new .allowAll false) [.connect "tcp:127.0.0.1:50000"] =
      some (Sample.oneClient .allowAll) ∧
    ([Sample.hub].map (·.info.busid)).Nodup ∧
    (∀ d ∈ [Sample.hub], NulFree d.info.busid ∧ (utf8 d.info.busid).length ≤ 32) ∧
    handleSession (Sample.importBytes "1-2") = .attach "1-2" ∧
    ¬ Advertised .allowAll [Sample.hub] "1-2" ∧
    importPc (Sample.oneClient .allowAll) 0 (Sample.importBytes "1-2") [Sample.hub] =
      some .permitted := by
  refine ⟨rfl, by decide, by decide, by decide, ?_, by decide⟩
  rintro ⟨r, hr, -⟩
  cases hr

end Usbip.Serve
