import UsbipdDarwin.Lts.Traced

/-! The force-capture call: `reenumerate_with_options` against IOKit, with what IOKit hands
out and takes back. Whatever IOKit answers, nothing is used or given back that is not held,
and an IOKit that keeps to its contract gets everything back. -/

namespace Usbip.Host
open Lts Traced

/-- `IOReturn`, `kern_return_t` and `HRESULT`; 0 is success in all three. -/
abbrev IOReturn := Int32

def kUSBReEnumerateCaptureDeviceMask : UInt32 := (1 : UInt32) <<< 30

def kUSBReEnumerateReleaseDeviceMask : UInt32 := (1 : UInt32) <<< 29

inductive CaptureError
  | noService (registryEntryId : UInt64)
  | plugIn (ret : IOReturn)
  | queryInterface (ret : IOReturn)
  | openSeize (ret : IOReturn)
  | reEnumerate (ret : IOReturn)
  deriving DecidableEq, Repr

/-- A call that leaves the function early: an error, or an `expect` on an empty slot. -/
inductive CaptureStop
  | err (e : CaptureError)
  | panic
  deriving DecidableEq, Repr

namespace IOKit

structure PlugInVTable where
  queryInterface : Bool
  release : Bool
  deriving DecidableEq, Repr

structure DeviceVTable where
  release : Bool
  usbDeviceClose : Bool
  usbDeviceOpenSeize : Bool
  usbDeviceReEnumerate : Bool
  deriving DecidableEq, Repr

structure Answers where
  matching : Bool
  service : UInt32
  plugInRet : IOReturn
  plugIn : Option PlugInVTable
  queryRet : IOReturn
  device : Option DeviceVTable
  openSeizeRet : IOReturn
  reEnumerateRet : IOReturn
  deriving DecidableEq, Repr

/-- A call, with what came of it where that is handed to the caller. -/
inductive Call
  | registryEntryIDMatching (found : Bool)
  | getMatchingService (service : UInt32)
  | createPlugIn (given : Bool)
  | queryInterface (given : Bool)
  | releasePlugIn
  | openSeize (ret : IOReturn)
  | reEnumerate (options : UInt32) (ret : IOReturn)
  | close
  | releaseDevice
  | releaseService
  deriving DecidableEq, Repr

structure Held where
  matching : Bool := false
  service : Bool := false
  plugIn : Bool := false
  device : Bool := false
  seized : Bool := false
  reEnumerated : List (UInt32 × IOReturn) := []
  deriving DecidableEq, Repr

/-- What a call needs and does. `IOServiceGetMatchingService` takes the dictionary. -/
def step (s : Held) : Call → Option Held
  | .registryEntryIDMatching found =>
    if s.matching then none else some { s with matching := found }
  | .getMatchingService service =>
    if s.matching && !s.service then some { s with matching := false, service := service != 0 }
    else none
  | .createPlugIn given =>
    if s.service && !s.plugIn then some { s with plugIn := given } else none
  | .queryInterface given =>
    if s.plugIn && !s.device then some { s with device := given } else none
  | .releasePlugIn => if s.plugIn then some { s with plugIn := false } else none
  | .openSeize ret =>
    if s.device && !s.seized then some { s with seized := ret == 0 } else none
  | .reEnumerate options ret =>
    if s.device && s.seized then
      some { s with reEnumerated := s.reEnumerated ++ [(options, ret)] }
    else none
  | .close => if s.device && s.seized then some { s with seized := false } else none
  | .releaseDevice => if s.device then some { s with device := false } else none
  | .releaseService => if s.service then some { s with service := false } else none

def refs : System Held Call where
  init s := s = {}
  step := step

end IOKit

section Program
open IOKit

variable (options : UInt32) (answers : Answers)

def expectSlot (slot : Bool) : Traced Call CaptureStop Unit :=
  if slot then pure () else stop .panic

def callIf (slot : Bool) (c : Call) : Traced Call CaptureStop Unit :=
  if slot then call c else pure ()

def failIf (failed : Bool) (e : CaptureError) : Traced Call CaptureStop Unit :=
  if failed then stop (.err e) else pure ()

def seizeAndReEnumerate (dev : DeviceVTable) : Traced Call CaptureStop IOReturn := do
  expectSlot dev.usbDeviceOpenSeize
  call (.openSeize answers.openSeizeRet)
  failIf (answers.openSeizeRet != 0) (.openSeize answers.openSeizeRet)
  expectSlot dev.usbDeviceReEnumerate
  call (.reEnumerate options answers.reEnumerateRet)
  callIf dev.usbDeviceClose .close
  pure answers.reEnumerateRet

def usePlugIn (plugIn : PlugInVTable) : Traced Call CaptureStop Unit := do
  expectSlot plugIn.queryInterface
  call (.queryInterface answers.device.isSome)
  callIf plugIn.release .releasePlugIn
  failIf (answers.queryRet != 0) (.queryInterface answers.queryRet)
  match answers.device with
  | none => stop (.err (.queryInterface answers.queryRet))
  | some dev =>
    let ret ← (seizeAndReEnumerate options answers dev).guarded
      (if dev.release then [.releaseDevice] else [])
    failIf (ret != 0) (.reEnumerate ret)

def useService : Traced Call CaptureStop Unit := do
  call (.createPlugIn answers.plugIn.isSome)
  failIf (answers.plugInRet != 0) (.plugIn answers.plugInRet)
  match answers.plugIn with
  | none => stop (.err (.plugIn answers.plugInRet))
  | some plugIn => usePlugIn options answers plugIn

def reenumerateWithOptions (registryEntryId : UInt64) : Traced Call CaptureStop Unit := do
  call (.registryEntryIDMatching answers.matching)
  failIf (!answers.matching) (.noService registryEntryId)
  call (.getMatchingService answers.service)
  failIf (answers.service == 0) (.noService registryEntryId)
  (useService options answers).guarded [.releaseService]

def reenumerateWithCapture (registryEntryId : UInt64) : Traced Call CaptureStop Unit :=
  reenumerateWithOptions kUSBReEnumerateCaptureDeviceMask answers registryEntryId

def reenumerateRelease (registryEntryId : UInt64) : Traced Call CaptureStop Unit :=
  reenumerateWithOptions kUSBReEnumerateReleaseDeviceMask answers registryEntryId

end Program

namespace IOKit

/-- A call that fails hands nothing out, and the slots of what is handed out are filled. -/
structure Answers.Contract (answers : Answers) : Prop where
  plugIn : answers.plugInRet ≠ 0 → answers.plugIn = none
  device : answers.queryRet ≠ 0 → answers.device = none
  plugInSlots : ∀ p ∈ answers.plugIn, p = ⟨true, true⟩
  deviceSlots : ∀ d ∈ answers.device, d = ⟨true, true, true, true⟩

def Left (answers : Answers) (service : Bool) (moved : List (UInt32 × IOReturn)) (s : Held) :
    Prop :=
  s.matching = false ∧ s.service = service ∧ s.reEnumerated = moved ∧
    (answers.Contract → s = { service := service, reEnumerated := moved })

def Failed (options : UInt32) (answers : Answers) (service : Bool) (s : Held) : Prop :=
  ∃ moved, Left answers service moved s ∧
    (moved = [] ∨ ∃ ret, ret ≠ 0 ∧ moved = [(options, ret)])

end IOKit

section Rules
open IOKit

variable {options : UInt32} {answers : Answers} {P : Held → Prop} {Q : Unit → Held → Prop}
  {E : CaptureStop → Held → Prop} {slot : Bool} {c : Call} {e : CaptureError}

theorem triple_expectSlot (hfull : slot = true → ∀ s, P s → Q () s)
    (hempty : slot = false → ∀ s, P s → E .panic s) : Triple refs P (expectSlot slot) Q E := by
  cases slot with
  | true => exact .pure (hfull rfl)
  | false => exact .stop (hempty rfl)

theorem triple_failIf (hok : slot = false → ∀ s, P s → Q () s)
    (herr : slot = true → ∀ s, P s → E (.err e) s) : Triple refs P (failIf slot e) Q E := by
  cases slot with
  | true => exact .stop (herr rfl)
  | false => exact .pure (hok rfl)

theorem triple_callIf (hfull : slot = true → ∀ s, P s → ∃ s', IOKit.step s c = some s' ∧ Q () s')
    (hempty : slot = false → ∀ s, P s → Q () s) : Triple refs P (callIf slot c) Q E := by
  cases slot with
  | true => exact .call (hfull rfl)
  | false => exact .pure (hempty rfl)

end Rules

section Balance
open IOKit

variable {options : UInt32} {answers : Answers}

/-- The state from `QueryInterface` on, with the plug-in if it could not be released. -/
def withDevice (p z : Bool) (moved : List (UInt32 × IOReturn)) : Held :=
  ⟨false, true, p, true, z, moved⟩

theorem triple_seize (dev : DeviceVTable) (p : Bool) :
    Triple refs (· = withDevice p false []) (seizeAndReEnumerate options answers dev)
      (fun ret s => ret = answers.reEnumerateRet ∧
        s = withDevice p (!dev.usbDeviceClose) [(options, ret)])
      (fun _ s => ∃ z, s = withDevice p z [] ∧ (dev.usbDeviceReEnumerate = true → z = false)) := by
  unfold seizeAndReEnumerate
  refine .bind (triple_expectSlot (Q := fun _ s => s = withDevice p false [])
    (fun _ s hs => hs) fun _ s hs => ⟨false, hs, fun _ => rfl⟩) fun _ => ?_
  refine .bind (.call (Q := fun _ s => s = withDevice p (answers.openSeizeRet == 0) []) ?_)
    fun _ => ?_
  · rintro s rfl
    exact ⟨_, rfl, rfl⟩
  refine .bind (triple_failIf (Q := fun _ s => s = withDevice p true []) ?_ ?_) fun _ => ?_
  · rintro hret s rfl
    rw [bne, Bool.not_eq_false'] at hret
    rw [hret]
  · rintro hret s rfl
    rw [bne, Bool.not_eq_true'] at hret
    exact ⟨false, by rw [hret], fun _ => rfl⟩
  refine .bind (triple_expectSlot (Q := fun _ s => s = withDevice p true [])
    (fun _ s hs => hs) ?_) fun _ => ?_
  · rintro hslot s rfl
    refine ⟨true, rfl, fun hfull => ?_⟩
    rw [hslot] at hfull
    cases hfull
  refine .bind (.call (Q := fun _ s =>
    s = withDevice p true [(options, answers.reEnumerateRet)]) ?_) fun _ => ?_
  · rintro s rfl
    exact ⟨_, rfl, rfl⟩
  refine .bind (triple_callIf (Q := fun _ s =>
    s = withDevice p (!dev.usbDeviceClose) [(options, answers.reEnumerateRet)]) ?_ ?_) fun _ => ?_
  · rintro hslot s rfl
    exact ⟨_, rfl, by rw [hslot]; rfl⟩
  · rintro hslot s rfl
    rw [hslot]
    rfl
  · exact .pure fun s hs => ⟨rfl, hs⟩

theorem drop_device (dev : DeviceVTable) (p z : Bool) (moved : List (UInt32 × IOReturn)) :
    refs.run (withDevice p z moved) (if dev.release then [.releaseDevice] else []) =
      some ⟨false, true, p, !dev.release, z, moved⟩ := by
  cases hrelease : dev.release <;> rfl

theorem triple_useDevice {dev : DeviceVTable} (hdevice : answers.device = some dev) {p : Bool}
    (hp : answers.Contract → p = false) :
    Triple refs (· = withDevice p false [])
      ((seizeAndReEnumerate options answers dev).guarded
          (if dev.release then [.releaseDevice] else []) >>= fun ret =>
        failIf (ret != 0) (.reEnumerate ret))
      (fun _ s => Left answers true [(options, 0)] s)
      (fun _ s => Failed options answers true s) := by
  have hfilled (hc : answers.Contract) : dev = ⟨true, true, true, true⟩ :=
    hc.deviceSlots dev hdevice
  refine .bind (Q := fun ret s => Left answers true [(options, ret)] s)
    ((triple_seize dev p).guarded ?_ ?_) fun ret => ?_
  · rintro ret s ⟨-, rfl⟩
    refine ⟨_, drop_device .., rfl, rfl, rfl, fun hc => ?_⟩
    rw [hp hc, hfilled hc]
    rfl
  · rintro e s ⟨z, rfl, hz⟩
    refine ⟨_, drop_device .., [], ⟨rfl, rfl, rfl, fun hc => ?_⟩, .inl rfl⟩
    rw [hfilled hc] at hz
    rw [hp hc, hfilled hc, hz rfl]
    rfl
  · refine triple_failIf (fun hret s hs => ?_) fun hret s hs => ?_
    · rw [bne, Bool.not_eq_false', beq_iff_eq] at hret
      rw [← hret]
      exact hs
    · exact ⟨_, hs, .inr ⟨ret, bne_iff_ne.mp hret, rfl⟩⟩

theorem triple_usePlugIn (plugIn : PlugInVTable) (hplugIn : answers.plugIn = some plugIn) :
    Triple refs (· = { service := true, plugIn := true }) (usePlugIn options answers plugIn)
      (fun _ s => Left answers true [(options, 0)] s)
      (fun _ s => Failed options answers true s) := by
  have hslots (hc : answers.Contract) : plugIn = ⟨true, true⟩ := hc.plugInSlots plugIn hplugIn
  unfold usePlugIn
  refine .bind (triple_expectSlot (Q := fun _ s => s = { service := true, plugIn := true })
    (fun _ s hs => hs) ?_) fun _ => ?_
  · rintro hslot s rfl
    refine ⟨[], ⟨rfl, rfl, rfl, fun hc => ?_⟩, .inl rfl⟩
    rw [hslots hc] at hslot
    cases hslot
  refine .bind (.call (Q := fun _ s =>
    s = { service := true, plugIn := true, device := answers.device.isSome }) ?_) fun _ => ?_
  · rintro s rfl
    exact ⟨_, rfl, rfl⟩
  refine .bind (triple_callIf (Q := fun _ s => s = { service := true, plugIn := !plugIn.release,
                                                     device := answers.device.isSome }) ?_ ?_)
    fun _ => ?_
  · rintro hslot s rfl
    exact ⟨_, rfl, by rw [hslot]; rfl⟩
  · rintro hslot s rfl
    rw [hslot]
    rfl
  refine .bind (triple_failIf (Q := fun _ s => s = { service := true, plugIn := !plugIn.release,
                                                     device := answers.device.isSome }) ?_ ?_)
    fun _ => ?_
  · exact fun _ s hs => hs
  · rintro hret s rfl
    refine ⟨[], ⟨rfl, rfl, rfl, fun hc => ?_⟩, .inl rfl⟩
    rw [hslots hc, hc.device (bne_iff_ne.mp hret)]
    rfl
  cases hdevice : answers.device with
  | none =>
    refine .stop ?_
    rintro s rfl
    refine ⟨[], ⟨rfl, rfl, rfl, fun hc => ?_⟩, .inl rfl⟩
    rw [hslots hc]
    rfl
  | some dev =>
    refine triple_useDevice hdevice fun hc => ?_
    rw [hslots hc]
    rfl

theorem triple_useService :
    Triple refs (· = { service := true }) (useService options answers)
      (fun _ s => Left answers true [(options, 0)] s)
      (fun _ s => Failed options answers true s) := by
  unfold useService
  refine .bind (.call (Q := fun _ s =>
    s = { service := true, plugIn := answers.plugIn.isSome }) ?_) fun _ => ?_
  · rintro s rfl
    exact ⟨_, rfl, rfl⟩
  refine .bind (triple_failIf (Q := fun _ s =>
    s = { service := true, plugIn := answers.plugIn.isSome }) (fun _ s hs => hs) ?_) fun _ => ?_
  · rintro hret s rfl
    refine ⟨[], ⟨rfl, rfl, rfl, fun hc => ?_⟩, .inl rfl⟩
    rw [hc.plugIn (bne_iff_ne.mp hret)]
    rfl
  cases hplugIn : answers.plugIn with
  | none =>
    refine .stop ?_
    rintro s rfl
    exact ⟨[], ⟨rfl, rfl, rfl, fun _ => rfl⟩, .inl rfl⟩
  | some plugIn => exact triple_usePlugIn plugIn hplugIn

theorem run_releaseService {moved : List (UInt32 × IOReturn)} {s : Held}
    (h : Left answers true moved s) :
    ∃ s', refs.run s [.releaseService] = some s' ∧ Left answers false moved s' := by
  obtain ⟨hmatching, hservice, hmoved, hsound⟩ := h
  refine ⟨{ s with service := false }, ?_, hmatching, rfl, hmoved, fun hc => ?_⟩
  · simp [System.run, System.replay, refs, IOKit.step, hservice]
  · rw [hsound hc]

theorem triple_reenumerate (options : UInt32) (answers : Answers) (registryEntryId : UInt64) :
    Triple refs (· = {}) (reenumerateWithOptions options answers registryEntryId)
      (fun _ s => Left answers false [(options, 0)] s)
      (fun _ s => Failed options answers false s) := by
  have hnothing : Failed options answers false {} :=
    ⟨[], ⟨rfl, rfl, rfl, fun _ => rfl⟩, .inl rfl⟩
  unfold reenumerateWithOptions
  refine .bind (.call (Q := fun _ s => s = { matching := answers.matching }) ?_) fun _ => ?_
  · rintro s rfl
    exact ⟨_, rfl, rfl⟩
  refine .bind (triple_failIf (Q := fun _ s => s = { matching := true }) ?_ ?_) fun _ => ?_
  · rintro hfound s rfl
    rw [Bool.not_eq_false'] at hfound
    rw [hfound]
  · rintro hfound s rfl
    rw [Bool.not_eq_true'] at hfound
    rw [hfound]
    exact hnothing
  refine .bind (.call (Q := fun _ s => s = { service := answers.service != 0 }) ?_) fun _ => ?_
  · rintro s rfl
    exact ⟨_, rfl, rfl⟩
  refine .bind (triple_failIf (Q := fun _ s => s = { service := true }) ?_ ?_) fun _ => ?_
  · rintro hservice s rfl
    rw [bne, hservice]
    rfl
  · rintro hservice s rfl
    rw [bne, hservice]
    exact hnothing
  refine triple_useService.guarded (fun _ s hs => run_releaseService hs) ?_
  rintro e s ⟨moved, hleft, hmoved⟩
  obtain ⟨s', hrun, hleft'⟩ := run_releaseService hleft
  exact ⟨s', hrun, moved, hleft', hmoved⟩

end Balance

/-- Whatever IOKit answers, each call is made with what it needs and no reference is given
back twice; the device is re-enumerated once at most, with the options asked for, and the
function returns `Ok` just when that has succeeded. An IOKit that keeps to its contract has
everything back. -/
theorem reenumerate_balanced (options : UInt32) (answers : IOKit.Answers)
    (registryEntryId : UInt64) :
    ∃ left, IOKit.refs.run {} (reenumerateWithOptions options answers registryEntryId).calls =
        some left ∧
      (left.reEnumerated = [] ∨ ∃ ret, left.reEnumerated = [(options, ret)]) ∧
      ((reenumerateWithOptions options answers registryEntryId).result = .ok () ↔
        left.reEnumerated = [(options, 0)]) ∧
      (answers.Contract → left = { reEnumerated := left.reEnumerated }) := by
  obtain ⟨left, hrun, hends⟩ := triple_reenumerate options answers registryEntryId {} rfl
  refine ⟨left, hrun, ?_⟩
  cases hres : (reenumerateWithOptions options answers registryEntryId).result with
  | ok =>
    rw [hres] at hends
    obtain ⟨-, -, hmoved, hsound⟩ := hends
    rw [hmoved]
    exact ⟨.inr ⟨0, rfl⟩, by simp, hsound⟩
  | error e =>
    rw [hres] at hends
    obtain ⟨moved, ⟨-, -, hmoved, hsound⟩, hfailed⟩ := hends
    rw [hmoved]
    rcases hfailed with rfl | ⟨ret, hret, rfl⟩
    · exact ⟨.inl rfl, by simp, hsound⟩
    · exact ⟨.inr ⟨ret, rfl⟩, by simp [hret], hsound⟩

namespace IOKit.Sample

def granted : Answers where
  matching := true
  service := 7
  plugInRet := 0
  plugIn := some ⟨true, true⟩
  queryRet := 0
  device := some ⟨true, true, true, true⟩
  openSeizeRet := 0
  reEnumerateRet := 0

theorem contract_granted : granted.Contract where
  plugIn h := absurd rfl h
  device h := absurd rfl h
  plugInSlots p hp := by
    cases hp
    rfl
  deviceSlots d hd := by
    cases hd
    rfl

end IOKit.Sample

theorem reenumerate_balanced_granted :
    ∃ left, IOKit.refs.run {} (reenumerateWithCapture IOKit.Sample.granted 3).calls = some left ∧
      left = { reEnumerated := [(kUSBReEnumerateCaptureDeviceMask, 0)] } := by
  obtain ⟨left, hrun, -, hok, hsound⟩ := reenumerate_balanced kUSBReEnumerateCaptureDeviceMask
    IOKit.Sample.granted 3
  have hmoved := hok.mp rfl
  refine ⟨left, hrun, ?_⟩
  rw [← hmoved]
  exact hsound IOKit.Sample.contract_granted

end Usbip.Host
