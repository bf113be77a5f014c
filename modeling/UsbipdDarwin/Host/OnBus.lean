import UsbipdDarwin.Host.Forward

/-! The SETUP packet that goes to the device against the one the client has sent. `nusb`
takes a control request by its fields and puts the packet together again; how it does so is
a parameter here. -/

namespace Usbip.Host
open Proto

def SetupPacket.Named (p : SetupPacket) : Prop :=
  (p.bmRequestType >>> 5) &&& 0x3 ≠ 3 ∧ p.bmRequestType &&& 0x1F ≤ 3

/-- What is asked of `nusb`, `onBus` being the SETUP packet it makes of a request if it makes
one: the packet has the fields of the request, and the length of an OUT request is that of its
data, which has to fit. -/
structure Assembles (onBus : Request → Option SetupPacket) : Prop where
  controlIn : ∀ req length, ∃ p, onBus (.controlIn req length) = some p ∧ p.Named ∧
    p.isIn = true ∧ controlRequest p = req ∧ p.wLength = length
  controlOut : ∀ req data p, onBus (.controlOut req data) = some p → p.Named ∧
    p.isIn = false ∧ controlRequest p = req ∧ p.wLength.toNat = data.length
  fits : ∀ req data, data.length < 2 ^ 16 → (onBus (.controlOut req data)).isSome = true
  setConfiguration : ∀ cfg, onBus (.setConfiguration cfg) = some ⟨0x00, 0x09, cfg.toUInt16, 0, 0⟩

/-- What `nusb` has no place for: the reserved type and recipients, a length apart from the
data, and anything in a `SET_CONFIGURATION` beyond its one byte. -/
def SetupPacket.Carried (setup : SetupPacket) (outData : Bytes) : Prop :=
  if isSetConfiguration setup then
    setup.wValue.toNat < 256 ∧ setup.wIndex = 0 ∧ setup.wLength = 0
  else setup.Named ∧ (setup.isIn = true ∨ outData.length = setup.wLength.toNat)

variable {setup p q : SetupPacket} {outData : Bytes} {onBus : Request → Option SetupPacket}

def requestType (dirIn : Bool) (controlType : ControlType) (recipient : Recipient) : UInt8 :=
  (if dirIn then 0x80 else 0x00) |||
    (match controlType with
      | .standard => 0x00
      | .cls => 0x20
      | .vendor => 0x40) |||
    (match recipient with
      | .device => 0
      | .interface => 1
      | .endpoint => 2
      | .other => 3)

theorem requestType_fields (hp : p.Named) :
    requestType p.isIn p.controlType p.recipient = p.bmRequestType := by
  have hall : ∀ n : Fin 256, (UInt8.ofNat n >>> 5) &&& 0x3 ≠ 3 → UInt8.ofNat n &&& 0x1F ≤ 3 →
      requestType (⟨UInt8.ofNat n, 0, 0, 0, 0⟩ : SetupPacket).isIn
        (⟨UInt8.ofNat n, 0, 0, 0, 0⟩ : SetupPacket).controlType
        (⟨UInt8.ofNat n, 0, 0, 0, 0⟩ : SetupPacket).recipient = UInt8.ofNat n := by
    decide +kernel
  have hbyte : UInt8.ofNat p.bmRequestType.toNat = p.bmRequestType := UInt8.ofNat_toNat
  have hthis := hall ⟨p.bmRequestType.toNat, p.bmRequestType.toNat_lt⟩
  rw [hbyte] at hthis
  exact hthis hp.1 hp.2

theorem SetupPacket.eq_of_fields (hp : p.Named) (hq : q.Named) (hin : p.isIn = q.isIn)
    (hreq : controlRequest p = controlRequest q) (hlength : p.wLength = q.wLength) : p = q := by
  have hbm : p.bmRequestType = q.bmRequestType := by
    rw [← requestType_fields hp, ← requestType_fields hq, hin,
      show p.controlType = q.controlType from congrArg ControlRequest.controlType hreq,
      show p.recipient = q.recipient from congrArg ControlRequest.recipient hreq]
  have hrequest : p.bRequest = q.bRequest := congrArg ControlRequest.request hreq
  have hvalue : p.wValue = q.wValue := congrArg ControlRequest.value hreq
  have hindex : p.wIndex = q.wIndex := congrArg ControlRequest.index hreq
  cases p
  cases q
  simp only [SetupPacket.mk.injEq]
  exact ⟨hbm, hrequest, hvalue, hindex, hlength⟩

theorem lowByte_eq_iff (x : UInt16) : (x &&& 0xFF).toUInt8.toUInt16 = x ↔ x.toNat < 256 := by
  rw [← UInt16.toNat_inj]
  have hlow : (x &&& 0xFF).toUInt8.toUInt16.toNat = x.toNat % 256 := by
    have hmask (n : Nat) : n &&& 255 = n % 2 ^ 8 := Nat.and_two_pow_sub_one_eq_mod n 8
    simp [hmask]
  rw [hlow]
  omega

theorem onBus_controlIn (hbus : Assembles onBus) (hin : setup.isIn = true) :
    onBus (.controlIn (controlRequest setup) setup.wLength) = some setup ↔ setup.Named := by
  obtain ⟨p, hp, hnamed, hpin, hreq, hlength⟩ :=
    hbus.controlIn (controlRequest setup) setup.wLength
  rw [hp, Option.some.injEq]
  constructor
  · rintro rfl
    exact hnamed
  · intro hsetup
    exact SetupPacket.eq_of_fields hnamed hsetup (hpin.trans hin.symm) hreq hlength

theorem onBus_controlOut (hbus : Assembles onBus) (hout : setup.isIn = false) :
    onBus (.controlOut (controlRequest setup) outData) = some setup ↔
      setup.Named ∧ outData.length = setup.wLength.toNat := by
  constructor
  · intro h
    obtain ⟨hnamed, -, -, hlength⟩ := hbus.controlOut _ _ _ h
    exact ⟨hnamed, hlength.symm⟩
  · rintro ⟨hsetup, hlength⟩
    have hfits : outData.length < 2 ^ 16 := by
      rw [hlength]
      exact setup.wLength.toNat_lt
    obtain ⟨p, hp⟩ := Option.isSome_iff_exists.mp (hbus.fits (controlRequest setup) outData hfits)
    obtain ⟨hnamed, hpout, hreq, hplength⟩ := hbus.controlOut _ _ _ hp
    have hwords : p.wLength = setup.wLength := UInt16.toNat_inj.mp (hplength.trans hlength)
    rw [hp, SetupPacket.eq_of_fields hnamed hsetup (hpout.trans hout.symm) hreq hwords]

theorem onBus_passthrough (hbus : Assembles onBus) (h : isSetConfiguration setup = false) :
    onBus (passthrough setup outData) = some setup ↔ setup.Carried outData := by
  rw [SetupPacket.Carried, if_neg (by rw [h]; exact Bool.false_ne_true), passthrough]
  cases hin : setup.isIn with
  | true =>
    rw [if_pos rfl, onBus_controlIn hbus hin, and_iff_left (.inl rfl)]
  | false =>
    rw [if_neg Bool.false_ne_true, onBus_controlOut hbus hin, or_iff_right Bool.false_ne_true]

theorem onBus_setConfiguration (hbus : Assembles onBus) (h : isSetConfiguration setup = true) :
    onBus (.setConfiguration (setup.wValue &&& 0xFF).toUInt8) = some setup ↔
      setup.Carried outData := by
  rw [SetupPacket.Carried, if_pos h, hbus.setConfiguration, ← lowByte_eq_iff]
  simp only [isSetConfiguration, Bool.and_eq_true, beq_iff_eq] at h
  obtain ⟨⟨-, hbm⟩, hreq⟩ := h
  obtain ⟨bm, request, value, index, length⟩ := setup
  simp only at hbm hreq
  subst hbm hreq
  simp only [Option.some.injEq, SetupPacket.mk.injEq, true_and]
  rw [eq_comm (a := (0 : UInt16)) (b := index), eq_comm (a := (0 : UInt16)) (b := length)]

theorem onBus_eq_iff (hbus : Assembles onBus) {eps : List AnyEp} {req : Request}
    (h : (Call.control setup outData).Asks eps req) :
    onBus req = some setup ↔ setup.Carried outData := by
  simp only [Call.Asks] at h
  split_ifs at h with hconfig
  · rw [h]
    exact onBus_setConfiguration hbus hconfig
  · rw [h]
    exact onBus_passthrough hbus (Bool.eq_false_iff.mpr hconfig)

namespace Sample

def setupPacket : Request → Option SetupPacket
  | .controlIn req length =>
    some ⟨requestType true req.controlType req.recipient, req.request, req.value, req.index, length⟩
  | .controlOut req data =>
    if data.length < 2 ^ 16 then
      some ⟨requestType false req.controlType req.recipient, req.request, req.value, req.index,
        UInt16.ofNat data.length⟩
    else none
  | .setConfiguration cfg => some ⟨0x00, 0x09, cfg.toUInt16, 0, 0⟩
  | _ => none

theorem fields_requestType (dirIn : Bool) (req : ControlRequest) (length : UInt16) :
    let p : SetupPacket := ⟨requestType dirIn req.controlType req.recipient, req.request,
      req.value, req.index, length⟩
    p.Named ∧ p.isIn = dirIn ∧ controlRequest p = req := by
  obtain ⟨controlType, recipient, request, value, index⟩ := req
  -- only the first byte matters, so the rest of the packet is put to zero
  have hbyte : let p : SetupPacket := ⟨requestType dirIn controlType recipient, 0, 0, 0, 0⟩
      p.Named ∧ p.isIn = dirIn ∧ p.controlType = controlType ∧ p.recipient = recipient := by
    unfold SetupPacket.Named
    cases dirIn <;> cases controlType <;> cases recipient <;> decide
  obtain ⟨hnamed, hin, htype, hrecipient⟩ := hbyte
  refine ⟨hnamed, hin, ?_⟩
  change ControlRequest.mk _ _ request value index = _
  rw [ControlRequest.mk.injEq]
  exact ⟨htype, hrecipient, rfl, rfl, rfl⟩

theorem assembles_setupPacket : Assembles setupPacket where
  controlIn req length := by
    obtain ⟨hnamed, hin, hreq⟩ := fields_requestType true req length
    exact ⟨_, rfl, hnamed, hin, hreq, rfl⟩
  controlOut req data p h := by
    simp only [setupPacket] at h
    split_ifs at h with hlt
    cases h
    obtain ⟨hnamed, hin, hreq⟩ := fields_requestType false req (UInt16.ofNat data.length)
    exact ⟨hnamed, hin, hreq, Nat.mod_eq_of_lt hlt⟩
  fits req data hlt := by
    simp only [setupPacket, if_pos hlt, Option.isSome_some]
  setConfiguration _ := rfl

end Sample

end Usbip.Host
