import UsbipdDarwin.Host.Capture

/-! Devices as the daemon lists and announces them, and what `open` and `Drop` do to
the device on the bus. -/

namespace Usbip.Host

structure UsbInterface where
  cls : UInt8
  subclass : UInt8
  protocol : UInt8
  deriving DecidableEq, Repr

/-- The record of a device that goes on the wire; the descriptor strings, which
only the listing command prints, are left out. -/
structure UsbDevice where
  busid : String
  busnum : UInt32
  devnum : UInt32
  speed : UInt32
  vendorId : UInt16
  productId : UInt16
  bcdDevice : UInt16
  cls : UInt8
  subclass : UInt8
  protocol : UInt8
  configurationValue : UInt8
  numConfigurations : UInt8
  interfaces : List UsbInterface
  deriving DecidableEq, Repr

/-- One device of an enumeration: the entry of `nusb` and what `from_info` makes of it. -/
structure Listed where
  info : DeviceInfo
  desc : UsbDevice
  busid_eq : desc.busid = info.busid
  vendorId_eq : desc.vendorId = info.vendorId
  productId_eq : desc.productId = info.productId
  deriving DecidableEq

def u8OrOne (n : Nat) : UInt8 := if n < 256 then UInt8.ofNat n else 1

/-- `descriptor_snapshot` of a device opened under `busid`; `classOf` reads the class
triple of an alternate setting off the descriptors. -/
def descriptorSnapshot (busid : String) (devid : UInt32)
    (classOf : InterfaceDescriptor → UsbInterface) (d : OpenedDevice) : UsbDevice where
  busid := busid
  busnum := devid >>> 16
  devnum := devid &&& 0xFFFF
  speed := 0
  vendorId := 0
  productId := 0
  bcdDevice := 0
  cls := 0
  subclass := 0
  protocol := 0
  configurationValue := (d.activeConfiguration.map (·.configurationValue)).getD 0
  numConfigurations := max (u8OrOne d.configurations.length) 1
  interfaces := (d.activeConfiguration.map fun cfg =>
    (cfg.interfaceAltSettings.filter (·.alternateSetting == 0)).map classOf).getD []

/-- The device `open` goes for: the entry under the busid, looked up once more
after a force-capture. -/
def openTarget (busid : String) (answers : OpenAnswers) :
    Except HostError (DeviceInfo × Option UInt64) :=
  match answers.listed with
  | none => .error .nusb
  | some devices =>
    match devices.find? (·.busid == busid) with
    | none => .error (.notFound busid)
    | some info => maybeCapture answers info

/-- The device that `open` has re-enumerated in capture mode, whatever came of it. -/
def reenumerated (busid : String) (answers : OpenAnswers) : Option DeviceInfo :=
  (answers.listed.bind (·.find? (·.busid == busid))).filter
    fun _ => answers.isRoot && answers.captures

def Capture.releaseInfo (c : Capture) (listed : Option (List DeviceInfo)) : Option DeviceInfo :=
  match c.capturedRegistryId with
  | none => none
  | some _ =>
    match listed.bind (·.find? (·.busid == c.busid)), c.capturedVidPid with
    | some info, some (vid, pid) =>
      if info.vendorId == vid && info.productId == pid then some info else none
    | some info, none => some info
    | none, _ => none

def releaseCapture (busid : String) (isRoot : Bool) (listed : Option (List DeviceInfo)) :
    Option DeviceInfo :=
  if isRoot then listed.bind (·.find? (·.busid == busid)) else none

def DeviceInfo.Same (a b : DeviceInfo) : Prop :=
  a.busid = b.busid ∧ a.vendorId = b.vendorId ∧ a.productId = b.productId

instance (a b : DeviceInfo) : Decidable (a.Same b) := inferInstanceAs (Decidable (_ ∧ _ ∧ _))

variable {busid : String} {answers : OpenAnswers} {listed : Option (List DeviceInfo)}
  {info : DeviceInfo}

theorem Capture.releaseTarget_eq (c : Capture) :
    c.releaseTarget listed = (c.releaseInfo listed).map (·.registryEntryId) := by
  obtain ⟨busid, _ | regId, vidPid⟩ := c
  · rfl
  simp only [Capture.releaseTarget, Capture.releaseInfo]
  generalize (listed.bind fun devices => devices.find? (·.busid == busid)) = found
  rcases found with _ | info
  · rfl
  rcases vidPid with _ | ⟨vid, pid⟩
  · rfl
  · dsimp only
    split_ifs <;> rfl

theorem busid_of_find {devices : List DeviceInfo}
    (h : devices.find? (·.busid == busid) = some info) : info.busid = busid := by
  simpa using List.find?_some h

theorem awaitReenumerated_ok {old : DeviceInfo} {polls : List (Option (List DeviceInfo))}
    {captured : Option UInt64} (h : awaitReenumerated old polls = .ok (info, captured)) :
    info.vendorId = old.vendorId ∧ info.productId = old.productId ∧ captured.isSome := by
  induction polls with
  | nil => cases h
  | cons poll polls ih =>
    cases poll with
    | none => cases h
    | some devices =>
      rw [awaitReenumerated] at h
      split at h
      · rename_i hfound
        cases h
        have hsame := List.find?_some hfound
        simp only [DeviceInfo.comesBackAs, Bool.and_eq_true, beq_iff_eq] at hsame
        exact ⟨hsame.1.2, hsame.2, rfl⟩
      · exact ih h

/-- Whatever is opened is the product found under the busid, and it is marked as
captured only if it was re-enumerated for that. -/
theorem openTarget_ok {captured : Option UInt64}
    (h : openTarget busid answers = .ok (info, captured)) :
    ∃ devices first, answers.listed = some devices ∧
      devices.find? (·.busid == busid) = some first ∧
      info.vendorId = first.vendorId ∧ info.productId = first.productId ∧
      (captured.isSome → reenumerated busid answers = some first) := by
  unfold openTarget at h
  split at h
  · cases h
  rename_i devices hlisted
  split at h
  · cases h
  rename_i first hfirst
  refine ⟨devices, first, hlisted, hfirst, ?_⟩
  unfold maybeCapture at h
  split_ifs at h with hroot hcaptures
  · cases h
    exact ⟨rfl, rfl, fun hc => by cases hc⟩
  · cases h
    exact ⟨rfl, rfl, fun hc => by cases hc⟩
  · obtain ⟨hv, hp, -⟩ := awaitReenumerated_ok h
    refine ⟨hv, hp, fun _ => ?_⟩
    simp_all [reenumerated]

theorem openDevice_ok {device : OpenedDevice} {capture : Capture}
    (h : openDevice busid answers = .ok (device, capture)) :
    ∃ info captured, openTarget busid answers = .ok (info, captured) ∧
      capture = ⟨busid, captured, captured.map fun _ => (info.vendorId, info.productId)⟩ := by
  unfold openDevice at h
  split at h
  · cases h
  rename_i devices hlisted
  split at h
  · cases h
  rename_i first hfirst
  split at h
  · cases h
  rename_i info captured hcapture
  split at h <;> cases h
  refine ⟨info, captured, ?_, rfl⟩
  simp only [openTarget, hlisted, hfirst, hcapture]

theorem Capture.releaseInfo_eq_some {c : Capture}
    (hmarked : c.capturedRegistryId.isSome = c.capturedVidPid.isSome) :
    c.releaseInfo listed = some info ↔
      listed.bind (·.find? (·.busid == c.busid)) = some info ∧
        c.capturedVidPid = some (info.vendorId, info.productId) := by
  obtain ⟨busid, regId, vidPid⟩ := c
  cases regId with
  | none =>
    obtain rfl : vidPid = none := by simpa using hmarked.symm
    simp [Capture.releaseInfo]
  | some regId =>
    obtain ⟨⟨vid, pid⟩, rfl⟩ := Option.isSome_iff_exists.mp hmarked.symm
    simp only [Capture.releaseInfo]
    split
    · rename_i found vid' pid' hfound hvp
      cases hvp
      simp only [hfound, Option.some.injEq, Prod.mk.injEq]
      constructor
      · intro h
        split_ifs at h with hsame
        cases h
        simp only [Bool.and_eq_true, beq_iff_eq] at hsame
        exact ⟨rfl, hsame.1.symm, hsame.2.symm⟩
      · rintro ⟨rfl, rfl, rfl⟩
        simp
    · rename_i hvp
      cases hvp
    · rename_i hfound
      simp [hfound]

/-! The device that `maybe_capture` waits for. A re-enumeration ends one service and
starts another, with a registry id that was never used before; the old one may stay in
the lists for some polls yet. -/

section Recapture

variable {old : DeviceInfo} {regId : UInt64}

def Gone (old : DeviceInfo) (devices : List DeviceInfo) : Prop :=
  ∀ i ∈ devices, i.registryEntryId ≠ old.registryEntryId

instance (old : DeviceInfo) (devices : List DeviceInfo) : Decidable (Gone old devices) :=
  inferInstanceAs (Decidable (∀ i ∈ devices, _))

/-- The lists that the polling loop reads. It ends with the one that shows the device, or
before a call that fails. -/
def listsRead (old : DeviceInfo) : List (Option (List DeviceInfo)) → List (List DeviceInfo)
  | [] => []
  | none :: _ => []
  | some devices :: rest =>
    devices :: if devices.any old.comesBackAs then [] else listsRead old rest

def Vanishes (old : DeviceInfo) (seen : List (List DeviceInfo)) : Prop :=
  seen.Pairwise fun devices later => Gone old devices → Gone old later

instance (old : DeviceInfo) (seen : List (List DeviceInfo)) : Decidable (Vanishes old seen) :=
  inferInstanceAs (Decidable (seen.Pairwise _))

theorem Vanishes.gone {seen : List (List DeviceInfo)} (h : Vanishes old seen)
    (hfirst : ∀ devices ∈ seen.head?, Gone old devices) : ∀ devices ∈ seen, Gone old devices := by
  cases seen with
  | nil => exact nofun
  | cons first later =>
    have hgone : Gone old first := hfirst first rfl
    have hlater := (List.pairwise_cons.mp h).1
    intro devices hd
    rcases List.mem_cons.mp hd with rfl | hd
    · exact hgone
    · exact hlater devices hd hgone

theorem awaitReenumerated_listed {polls : List (Option (List DeviceInfo))}
    (h : awaitReenumerated old polls = .ok (info, some regId)) :
    regId = info.registryEntryId ∧ ∃ devices ∈ listsRead old polls, info ∈ devices := by
  induction polls with
  | nil => cases h
  | cons poll polls ih =>
    cases poll with
    | none => cases h
    | some devices =>
      rw [awaitReenumerated] at h
      rw [listsRead]
      split at h
      · rename_i hfound
        cases h
        exact ⟨rfl, devices, List.mem_cons_self .., List.mem_of_find?_eq_some hfound⟩
      · rename_i hnone
        obtain ⟨hid, later, hlater, hinfo⟩ := ih h
        have hmissing : devices.any old.comesBackAs = false :=
          List.any_eq_false.mpr (List.find?_eq_none.mp hnone)
        rw [hmissing]
        exact ⟨hid, later, List.mem_cons_of_mem _ hlater, hinfo⟩

theorem awaitReenumerated_of_mem {polls : List (Option (List DeviceInfo))}
    {devices : List DeviceInfo} (hhead : (listsRead old polls).head? = some devices)
    (hold : old ∈ devices) : listsRead old polls = [devices] ∧
      ∃ info, awaitReenumerated old polls = .ok (info, some info.registryEntryId) := by
  have hsame : old.comesBackAs old = true := by simp [DeviceInfo.comesBackAs]
  cases polls with
  | nil => cases hhead
  | cons poll polls =>
    cases poll with
    | none => cases hhead
    | some first =>
      rw [listsRead, List.head?_cons, Option.some.injEq] at hhead
      subst hhead
      have hany : first.any old.comesBackAs = true := List.any_eq_true.mpr ⟨old, hold, hsame⟩
      obtain ⟨info, hfind⟩ := Option.isSome_iff_exists.mp (List.find?_isSome.mpr ⟨old, hold, hsame⟩)
      refine ⟨by rw [listsRead, hany]; rfl, info, ?_⟩
      rw [awaitReenumerated, hfind]

end Recapture

/-- What `maybe_capture` returns as captured was listed after the old service had gone. -/
def CapturedFresh (answers : OpenAnswers) (old : DeviceInfo) : Prop :=
  ∀ info regId, maybeCapture answers old = .ok (info, some regId) →
    regId = info.registryEntryId ∧ info.registryEntryId ≠ old.registryEntryId ∧
      ∃ devices ∈ listsRead old answers.polls, Gone old devices ∧ info ∈ devices

/-- After a capture it is so exactly where the first list that is read, if any, no longer has
the old service. -/
theorem captured_is_fresh (answers : OpenAnswers) (old : DeviceInfo)
    (hroot : answers.isRoot = true) (hcaptures : answers.captures = true)
    (hold : ∀ devices ∈ listsRead old answers.polls, ∀ i ∈ devices,
      i.registryEntryId = old.registryEntryId → i = old)
    (hvanishes : Vanishes old (listsRead old answers.polls)) :
    CapturedFresh answers old ↔
      ∀ devices ∈ (listsRead old answers.polls).head?, Gone old devices := by
  have hcapture : maybeCapture answers old = awaitReenumerated old answers.polls := by
    rw [maybeCapture, hroot, hcaptures]
    rfl
  rw [CapturedFresh, hcapture]
  constructor
  · intro hfresh devices hhead i hi hid
    have hmem : devices ∈ listsRead old answers.polls := List.mem_of_mem_head? hhead
    obtain rfl : i = old := hold devices hmem i hi hid
    obtain ⟨hread, info, hawait⟩ := awaitReenumerated_of_mem hhead hi
    obtain ⟨-, -, devices', hmem', hgone, -⟩ := hfresh info _ hawait
    rw [hread, List.mem_singleton] at hmem'
    subst hmem'
    exact hgone i hi rfl
  · intro hfirst info regId h
    obtain ⟨hid, devices, hd, hinfo⟩ := awaitReenumerated_listed h
    have hgone := hvanishes.gone hfirst devices hd
    exact ⟨hid, hgone info hinfo, devices, hd, hgone, hinfo⟩

namespace Sample

def service (regId : UInt64) : DeviceInfo where
  busid := "1-1"
  vendorId := 0x0781
  productId := 0x5581
  locationId := 0x01100000
  registryEntryId := regId
  port := ⟨"1", [1], 4⟩

def recapture (polls : List (List DeviceInfo)) : OpenAnswers where
  listed := some [service 42]
  isRoot := true
  captures := true
  polls := polls.map some
  opens := none

end Sample

theorem captured_is_fresh_absent_first :
    maybeCapture (Sample.recapture [[], [], [Sample.service 57]]) (Sample.service 42) =
      .ok (Sample.service 57, some 57) ∧
    CapturedFresh (Sample.recapture [[], [], [Sample.service 57]]) (Sample.service 42) := by
  refine ⟨rfl, (captured_is_fresh _ _ rfl rfl ?_ ?_).mpr ?_⟩
  · decide
  · decide
  · decide

/-- A first poll that still shows the old service takes it for the new one. -/
theorem lingering_service_captured :
    Vanishes (Sample.service 42) [[Sample.service 42], [], [Sample.service 57]] ∧
    maybeCapture (Sample.recapture [[Sample.service 42], [], [Sample.service 57]])
      (Sample.service 42) = .ok (Sample.service 42, some 42) ∧
    ¬ CapturedFresh (Sample.recapture [[Sample.service 42], [], [Sample.service 57]])
      (Sample.service 42) := by
  refine ⟨by decide, rfl, fun hfresh => ?_⟩
  exact (hfresh (Sample.service 42) 42 rfl).2.1 rfl

end Usbip.Host
