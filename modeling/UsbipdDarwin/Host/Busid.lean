import UsbipdDarwin.Host.BusDev
import UsbipdDarwin.Lts.Escape

/-! The busid of a device: the bus it is on and the ports that lead to it. The attach lock,
the import lookup and the hotplug snapshot all take it for the device. -/

namespace Usbip.Host
open Lts.Escape

def formatBusid (p : Port) : String :=
  let ports := p.portChain.map toString
  -- a root hub has no ports, and its address tells it from the others of its bus
  if ports.isEmpty then p.busId ++ "-0." ++ toString p.deviceAddress
  else p.busId ++ "-" ++ ".".intercalate ports

def busidNumbers (p : Port) : List Nat :=
  if p.portChain = [] then [0, p.deviceAddress.toNat] else p.portChain.map UInt8.toNat

section Dotted

def dotted (ns : List Nat) : List Char := ['.'].intercalate (ns.map (Nat.toDigits 10))

theorem not_mem_toDigits {c : Char} (hc : c.isDigit = false) (n : Nat) : c ∉ Nat.toDigits 10 n := by
  intro h
  rw [Nat.isDigit_of_mem_toDigits (by decide) (by decide) h] at hc
  cases hc

theorem hyphen_not_mem_dotted (ns : List Nat) : '-' ∉ dotted ns := by
  cases ns with
  | nil => exact List.not_mem_nil
  | cons n ns =>
    rw [dotted, List.map_cons, intercalate_cons, List.mem_append, List.mem_flatMap]
    rintro (h | ⟨l, hl, h⟩)
    · exact not_mem_toDigits (by decide) n h
    · obtain ⟨m, -, rfl⟩ := List.mem_map.mp hl
      obtain h | h := List.mem_cons.mp h
      · cases h
      · exact not_mem_toDigits (by decide) m h

theorem splitOn_dotted {ns : List Nat} (h : ns ≠ []) :
    (dotted ns).splitOn '.' = ns.map (Nat.toDigits 10) := by
  refine List.splitOn_intercalate _ ?_ (by simpa using h)
  intro l hl
  obtain ⟨n, -, rfl⟩ := List.mem_map.mp hl
  exact not_mem_toDigits (by decide) n

theorem dotted_inj {ns ms : List Nat} (hns : ns ≠ []) (hms : ms ≠ []) (h : dotted ns = dotted ms) :
    ns = ms := by
  have hdigits : Function.Injective (Nat.toDigits 10) := by
    intro n m hnm
    rw [← Nat.ofDigitChars_ten_toDigits (n := n), hnm, Nat.ofDigitChars_ten_toDigits]
  have hmap := splitOn_dotted hns
  rw [h, splitOn_dotted hms] at hmap
  exact (List.map_injective_iff.mpr hdigits hmap).symm

end Dotted

theorem toList_toString (x : UInt8) : (toString x).toList = Nat.toDigits 10 x.toNat := by
  change x.toNat.repr.toList = _
  rw [Nat.repr_eq_ofList_toDigits, String.toList_ofList]

theorem toList_formatBusid (p : Port) :
    (formatBusid p).toList = p.busId.toList ++ '-' :: dotted (busidNumbers p) := by
  obtain ⟨busId, _ | ⟨port, ports⟩, address⟩ := p
  · simp [formatBusid, busidNumbers, dotted, toList_toString]
  · simp [formatBusid, busidNumbers, dotted, String.toList_intercalate, Function.comp_def,
      toList_toString]

theorem busidNumbers_ne_nil (p : Port) : busidNumbers p ≠ [] := by
  rw [busidNumbers]
  split_ifs with h
  · exact List.cons_ne_nil _ _
  · rwa [Ne, List.map_eq_nil_iff]

theorem formatBusid_inj {p q : Port} :
    formatBusid p = formatBusid q ↔ p.busId = q.busId ∧ busidNumbers p = busidNumbers q := by
  rw [← String.toList_inj, toList_formatBusid, toList_formatBusid]
  constructor
  · intro h
    obtain ⟨hbus, hnumbers⟩ := append_sep_inj (hyphen_not_mem_dotted _) (hyphen_not_mem_dotted _) h
    exact ⟨String.toList_inj.mp hbus,
      dotted_inj (busidNumbers_ne_nil p) (busidNumbers_ne_nil q) hnumbers⟩
  · rintro ⟨hbus, hnumbers⟩
    rw [hbus, hnumbers]

theorem busidNumbers_ne_fallback {p : Port} (hp : ∀ port ∈ p.portChain, 1 ≤ port)
    (h : p.portChain ≠ []) (address : Nat) : busidNumbers p ≠ [0, address] := by
  rw [busidNumbers, if_neg h]
  intro hnumbers
  have hzero : 0 ∈ p.portChain.map UInt8.toNat := by
    rw [hnumbers]
    exact List.mem_cons_self
  obtain ⟨port, hport, h0⟩ := List.mem_map.mp hzero
  have hle := UInt8.le_iff_toNat_le.mp (hp port hport)
  rw [h0] at hle
  exact absurd hle (by decide)

theorem toNat_injective : Function.Injective UInt8.toNat := fun _ _ h => UInt8.toNat_inj.mp h

/-- Two devices share a busid only if they share the bus and the ports, or are both without
ports and share the address. -/
theorem busid_identifies_port (p q : Port) (hp : ∀ port ∈ p.portChain, 1 ≤ port)
    (hq : ∀ port ∈ q.portChain, 1 ≤ port) :
    formatBusid p = formatBusid q ↔ p.busId = q.busId ∧
      (p.portChain ≠ [] ∧ q.portChain ≠ [] ∧ p.portChain = q.portChain ∨
        p.portChain = [] ∧ q.portChain = [] ∧ p.deviceAddress = q.deviceAddress) := by
  rw [formatBusid_inj, and_congr_right_iff]
  intro _
  -- where one chain is empty and the other is not, only the fallback begins with 0
  by_cases hpc : p.portChain = [] <;> by_cases hqc : q.portChain = []
  · simp [busidNumbers, hpc, hqc, UInt8.toNat_inj]
  · have hne := (busidNumbers_ne_fallback hq hqc p.deviceAddress.toNat).symm
    rw [show busidNumbers p = [0, p.deviceAddress.toNat] from if_pos hpc]
    simp [hpc, hqc, hne]
  · have hne := busidNumbers_ne_fallback hp hpc q.deviceAddress.toNat
    rw [show busidNumbers q = [0, q.deviceAddress.toNat] from if_pos hqc]
    simp [hpc, hqc, hne]
  · rw [busidNumbers, if_neg hpc, busidNumbers, if_neg hqc,
      (List.map_injective_iff.mpr toNat_injective).eq_iff]
    simp [hpc, hqc]

/-- A drive behind two hubs, and a root hub on a bus whose name ends like a busid. -/
theorem busid_identifies_port_hubs :
    (∀ port ∈ [2, 4, 1], (1 : UInt8) ≤ port) ∧
      formatBusid ⟨"20", [2, 4, 1], 7⟩ = "20-2.4.1" ∧
      formatBusid ⟨"20-2", [], 4⟩ = "20-2-0.4" ∧
      formatBusid ⟨"20", [2, 4, 1], 7⟩ ≠ formatBusid ⟨"20-2", [], 4⟩ := by
  have hports : ∀ port ∈ [2, 4, 1], (1 : UInt8) ≤ port := by simp
  refine ⟨hports, by decide, by decide, fun h => ?_⟩
  have hsame := (busid_identifies_port ⟨"20", [2, 4, 1], 7⟩ ⟨"20-2", [], 4⟩ hports (by simp)).mp h
  exact absurd hsame.1 (by decide)

end Usbip.Host
