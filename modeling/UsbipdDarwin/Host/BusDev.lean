import UsbipdDarwin.Proto.Utf8

/-! The bus and device number of a device, made from its bus id, its port chain and
its address. Both have to fit a byte, since the Linux client passes them on as `uint8_t`. -/

namespace Usbip.Host
open Proto

def fnvOffsetBasis : UInt32 := 0x811C9DC5

def fnvStep (h : UInt32) (b : UInt8) : UInt32 := h * 0x01000193 ^^^ b.toUInt32

def foldToU8 (h : UInt32) : UInt8 :=
  h.toUInt8 ^^^ (h >>> 8).toUInt8 ^^^ (h >>> 16).toUInt8 ^^^ (h >>> 24).toUInt8

def parseDigit (n : Nat) (b : UInt8) : Option Nat :=
  if 0x30 ≤ b ∧ b ≤ 0x39 ∧ n * 10 + (b.toNat - 0x30) < 2 ^ 32 then
    some (n * 10 + (b.toNat - 0x30))
  else none

def dropPlus : Bytes → Bytes
  | 0x2B :: digits => digits
  | digits => digits

/-- `str::parse::<u32>`: digits, at least one, after a plus sign or without it. -/
def parseU32 (s : String) : Option UInt32 :=
  if dropPlus (utf8 s) = [] then none
  else ((dropPlus (utf8 s)).foldlM parseDigit 0).map UInt32.ofNat

def clampU8 (n : UInt32) : UInt32 := if n < 1 then 1 else if 0xFF < n then 0xFF else n

def parseBusId (busId : String) : UInt32 :=
  match parseU32 busId with
  | some n => clampU8 n
  | none => max (foldToU8 ((utf8 busId).foldl fnvStep fnvOffsetBasis)).toUInt32 1

def deriveBusDevInner (busId : String) (portChain : List UInt8) (deviceAddress : UInt8) :
    UInt32 × UInt32 :=
  let h := fnvStep (portChain.foldl fnvStep fnvOffsetBasis) deviceAddress
  (parseBusId busId, max (foldToU8 h).toUInt32 1)

structure Port where
  busId : String
  portChain : List UInt8
  deviceAddress : UInt8
  deriving DecidableEq, Repr

def deriveBusDev (p : Port) : UInt32 × UInt32 :=
  deriveBusDevInner p.busId p.portChain p.deviceAddress

/-- `(busnum << 16) | devnum`, as `open` and `urb_loop` both compute it. -/
def devidOf (numbers : UInt32 × UInt32) : UInt32 := numbers.1 <<< 16 ||| numbers.2

def Slot (x : UInt32) : Prop := ∃ b : UInt8, b ≠ 0 ∧ x = b.toUInt32

theorem slot_of_toNat {x : UInt32} (hpos : 0 < x.toNat) (hlt : x.toNat < 256) : Slot x := by
  refine ⟨x.toUInt8, ?_, ?_⟩
  · intro h0
    have h := congrArg UInt8.toNat h0
    rw [UInt32.toNat_toUInt8, Nat.mod_eq_of_lt hlt] at h
    exact hpos.ne' h
  · apply UInt32.toNat_inj.mp
    rw [UInt8.toNat_toUInt32, UInt32.toNat_toUInt8, Nat.mod_eq_of_lt hlt]

theorem toNat_max_one (b : UInt8) : (max b.toUInt32 1).toNat = max b.toNat 1 := by
  have h1 : UInt32.toNat 1 = 1 := rfl
  change (if b.toUInt32 ≤ 1 then 1 else b.toUInt32).toNat = _
  split_ifs with h
  all_goals
    rw [UInt32.le_iff_toNat_le, UInt8.toNat_toUInt32, h1] at h
  · rw [h1]
    omega
  · rw [UInt8.toNat_toUInt32]
    omega

theorem slot_max_one (b : UInt8) : Slot (max b.toUInt32 1) := by
  have hb : b.toNat < 256 := b.toNat_lt
  apply slot_of_toNat <;> rw [toNat_max_one] <;> omega

theorem slot_clampU8 (n : UInt32) : Slot (clampU8 n) := by
  unfold clampU8
  split_ifs with hlow hhigh
  · exact slot_of_toNat (by decide) (by decide)
  · exact slot_of_toNat (by decide) (by decide)
  · simp only [UInt32.lt_iff_toNat_lt] at hlow hhigh
    have h1 : UInt32.toNat 1 = 1 := rfl
    have h255 : UInt32.toNat 0xFF = 255 := rfl
    exact slot_of_toNat (by omega) (by omega)

theorem slot_parseBusId (busId : String) : Slot (parseBusId busId) := by
  unfold parseBusId
  split
  · exact slot_clampU8 _
  · exact slot_max_one _

theorem slot_deriveBusDev (p : Port) : Slot (deriveBusDev p).1 ∧ Slot (deriveBusDev p).2 :=
  ⟨slot_parseBusId _, slot_max_one _⟩

section Devid

variable {busnum devnum : UInt32}

theorem devidOf_shiftRight (hb : Slot busnum) (hd : Slot devnum) :
    devidOf (busnum, devnum) >>> 16 = busnum := by
  obtain ⟨b, -, rfl⟩ := hb
  obtain ⟨d, -, rfl⟩ := hd
  apply UInt32.toBitVec_inj.mp
  ext i hi
  simp [devidOf]
  grind

theorem devidOf_and (hb : Slot busnum) (hd : Slot devnum) :
    devidOf (busnum, devnum) &&& 0xFFFF = devnum := by
  obtain ⟨b, -, rfl⟩ := hb
  obtain ⟨d, -, rfl⟩ := hd
  have hmask : ∀ i (hi : i < 32), (0xFFFF : BitVec 32)[i] = decide (i < 16) := by decide
  apply UInt32.toBitVec_inj.mp
  ext i hi
  simp [devidOf]
  grind

theorem Slot.truncate {x : UInt32} (h : Slot x) : x.toUInt8.toUInt32 = x ∧ x.toUInt8 ≠ 0 := by
  obtain ⟨b, hb, rfl⟩ := h
  rw [UInt8.toUInt8_toUInt32]
  exact ⟨rfl, hb⟩

end Devid

section Address

variable {busId : String} {portChain : List UInt8} {a a' : UInt8}

theorem foldToU8_xor (h : UInt32) (b : UInt8) : foldToU8 (h ^^^ b.toUInt32) = foldToU8 h ^^^ b := by
  apply UInt8.toBitVec_inj.mp
  ext i hi
  simp [foldToU8]
  grind

def portFold (portChain : List UInt8) : UInt8 :=
  foldToU8 (portChain.foldl fnvStep fnvOffsetBasis * 0x01000193)

theorem deriveBusDevInner_eq (busId : String) (portChain : List UInt8) (a : UInt8) :
    deriveBusDevInner busId portChain a =
      (parseBusId busId, max (portFold portChain ^^^ a).toUInt32 1) := by
  rw [deriveBusDevInner, fnvStep, foldToU8_xor, portFold]

/-- The two addresses are one, or the port's fold takes each of them to 0 or 1, which
both become device number 1. -/
def SameSlot (portChain : List UInt8) (a a' : UInt8) : Prop :=
  a = a' ∨ (portFold portChain ^^^ a ≤ 1 ∧ portFold portChain ^^^ a' ≤ 1)

instance (portChain : List UInt8) (a a' : UInt8) : Decidable (SameSlot portChain a a') :=
  inferInstanceAs (Decidable (_ ∨ _ ∧ _))

theorem deriveBusDevInner_eq_iff : deriveBusDevInner busId portChain a =
    deriveBusDevInner busId portChain a' ↔ SameSlot portChain a a' := by
  have hcancel : a = a' ↔ portFold portChain ^^^ a = portFold portChain ^^^ a' :=
    (UInt8.xor_right_inj _).symm
  rw [SameSlot, deriveBusDevInner_eq, deriveBusDevInner_eq, Prod.mk.injEq, hcancel,
    eq_self_iff_true, true_and]
  generalize portFold portChain ^^^ a = x
  generalize portFold portChain ^^^ a' = y
  have h1 : UInt8.toNat 1 = 1 := rfl
  rw [← UInt32.toNat_inj, toNat_max_one, toNat_max_one, ← UInt8.toNat_inj, UInt8.le_iff_toNat_le,
    UInt8.le_iff_toNat_le, h1]
  omega

end Address

end Usbip.Host
