import Mathlib.Data.Vector.Basic

/-! Big-endian integers, the byte order of every multi-byte field of the USB/IP wire format. -/

namespace Usbip.Proto

abbrev Bytes := List UInt8

def u32ToBeBytes (x : UInt32) : Bytes :=
  [(x >>> 24).toUInt8, (x >>> 16).toUInt8, (x >>> 8).toUInt8, x.toUInt8]

def u32FromBeBytes (b₀ b₁ b₂ b₃ : UInt8) : UInt32 :=
  b₀.toUInt32 <<< 24 ||| b₁.toUInt32 <<< 16 ||| b₂.toUInt32 <<< 8 ||| b₃.toUInt32

def i32ToBeBytes (x : Int32) : Bytes := u32ToBeBytes x.toUInt32

/-- The four bytes at `off`; every caller has checked the length first. -/
def readU32 (buf : Bytes) (off : Nat) : UInt32 :=
  u32FromBeBytes (buf.getD off 0) (buf.getD (off + 1) 0) (buf.getD (off + 2) 0)
    (buf.getD (off + 3) 0)

def readI32 (buf : Bytes) (off : Nat) : Int32 := (readU32 buf off).toInt32

@[simp] theorem length_u32ToBeBytes (x : UInt32) : (u32ToBeBytes x).length = 4 := rfl

@[simp] theorem length_i32ToBeBytes (x : Int32) : (i32ToBeBytes x).length = 4 := rfl

@[simp] theorem u32FromBeBytes_toBeBytes (x : UInt32) :
    u32FromBeBytes (x >>> 24).toUInt8 (x >>> 16).toUInt8 (x >>> 8).toUInt8 x.toUInt8 = x := by
  apply UInt32.toBitVec_inj.mp
  ext i hi
  simp [u32FromBeBytes, -UInt32.toUInt32_toUInt8]
  grind

theorem u32ToBeBytes_fromBeBytes (b₀ b₁ b₂ b₃ : UInt8) :
    u32ToBeBytes (u32FromBeBytes b₀ b₁ b₂ b₃) = [b₀, b₁, b₂, b₃] := by
  simp only [u32ToBeBytes, u32FromBeBytes, List.cons.injEq, and_true]
  refine ⟨?_, ?_, ?_, ?_⟩
  all_goals
    apply UInt8.toBitVec_inj.mp
    ext i hi
    simp
  all_goals grind

theorem take_drop_cons {buf : Bytes} {off : Nat} (n : Nat) (h : off < buf.length) :
    (buf.drop off).take (n + 1) = buf.getD off 0 :: (buf.drop (off + 1)).take n := by
  rw [List.drop_eq_getElem_cons h, List.take_succ_cons, List.getD_eq_getElem?_getD,
    List.getElem?_eq_getElem h, Option.getD_some]

theorem u32ToBeBytes_readU32 {buf : Bytes} {off : Nat} (h : off + 4 ≤ buf.length) :
    u32ToBeBytes (readU32 buf off) = (buf.drop off).take 4 := by
  rw [readU32, u32ToBeBytes_fromBeBytes]
  iterate 4 rw [take_drop_cons _ (by omega)]
  rw [List.take_zero]

theorem i32ToBeBytes_readI32 {buf : Bytes} {off : Nat} (h : off + 4 ≤ buf.length) :
    i32ToBeBytes (readI32 buf off) = (buf.drop off).take 4 := by
  rw [i32ToBeBytes, readI32, UInt32.toUInt32_toInt32, u32ToBeBytes_readU32 h]

theorem take_drop_append (buf : Bytes) (off m n : Nat) :
    (buf.drop off).take m ++ (buf.drop (off + m)).take n = (buf.drop off).take (m + n) := by
  rw [List.take_add, List.drop_drop]

end Usbip.Proto
