import Mathlib.Data.List.TakeWhile
import UsbipdDarwin.Lts.Reader
import UsbipdDarwin.Proto.Utf8

/-! A string in a field of fixed width, whatever it is: it ends at its first NUL, and if it
is too long it is cut, perhaps inside a character, which then reads as one U+FFFD. -/

namespace Usbip.Proto
open Lts

/-- What comes out of a field of `width` bytes that a string was put into. -/
def fixedStr (width : Nat) (s : String) : String := readFixedStr (writeFixedStr s width)

section Cut

variable {a b c : Nat} {b₀ b₁ b₂ : UInt8}

theorem second3_zero (b₀ : UInt8) : second3 b₀ 0 = false := by
  rw [second3]
  split_ifs <;> decide

theorem second4_zero (b₀ : UInt8) : second4 b₀ 0 = false := by
  rw [second4]
  split_ifs <;> decide

theorem isContinuation_zero : isContinuation 0 = false := rfl

theorem decodeHead_lead (h₀ : b₀.toNat = a) (ha : 128 ≤ a) : decodeHead b₀ [] = ('�', 0) := by
  have hlead : ¬ b₀ < 0x80 := by
    rw [UInt8.lt_iff_toNat_lt, h₀]
    exact Nat.not_lt.mpr ha
  simp [decodeHead, hlead, isContinuation_zero, second3_zero, second4_zero]

theorem decodeHead_three_cut (h₀ : b₀.toNat = a + 224) (ha : a < 16) (h₁ : b₁.toNat = b + 128)
    (hb : b < 64) (hlow : a = 0 → 32 ≤ b) (hhigh : a = 13 → b < 32) :
    decodeHead b₀ [b₁] = ('�', 1) := by
  simp [decodeHead, lead3_of_toNat h₀ ha, second3_of_toNat h₀ h₁ hb hlow hhigh,
    isContinuation_zero]

theorem decodeHead_four_cut (h₀ : b₀.toNat = a + 240) (ha : a ≤ 4) (h₁ : b₁.toNat = b + 128)
    (hb : b < 64) (h₂ : b₂.toNat = c + 128) (hc : c < 64) (hlow : a = 0 → 16 ≤ b)
    (hhigh : a = 4 → b < 16) :
    decodeHead b₀ [b₁] = ('�', 1) ∧ decodeHead b₀ [b₁, b₂] = ('�', 2) := by
  have hlead := lead4_of_toNat h₀ ha
  have hsecond := second4_of_toNat h₀ h₁ hb hlow hhigh
  constructor
  · simp [decodeHead, hlead, hsecond, isContinuation_zero]
  · simp [decodeHead, hlead, hsecond, isContinuation_of_toNat h₂ hc, isContinuation_zero]

end Cut

theorem decodeHead_cut {c : Char} {b₀ : UInt8} {p : Bytes}
    (hp : b₀ :: p <+: String.utf8EncodeChar c)
    (hlt : p.length + 1 < (String.utf8EncodeChar c).length) :
    decodeHead b₀ p = ('�', p.length) := by
  have hvalid : c.toNat < 0xD800 ∨ (0xDFFF < c.toNat ∧ c.toNat < 0x110000) := c.valid
  simp only [String.utf8EncodeChar] at hp hlt
  generalize hv : c.val.toNat = v at hp hlt
  have hcv : c.toNat = v := hv
  rw [hcv] at hvalid
  split_ifs at hp hlt with h1 h2 h3 <;> simp only [List.length_cons, List.length_nil] at hlt
  · omega
  · -- two bytes: only the first can be there
    obtain rfl : p = [] := List.eq_nil_of_length_eq_zero (by omega)
    obtain ⟨rfl, -⟩ := List.cons_prefix_cons.mp hp
    exact decodeHead_lead (toNat_byte (by omega)) (by omega)
  · obtain ⟨rfl, hp₁⟩ := List.cons_prefix_cons.mp hp
    rcases p with _ | ⟨b₁, _ | ⟨b₂, p⟩⟩
    · exact decodeHead_lead (toNat_byte (by omega)) (by omega)
    · obtain ⟨rfl, -⟩ := List.cons_prefix_cons.mp hp₁
      exact decodeHead_three_cut (toNat_byte (by omega)) (by omega) (toNat_byte (by omega))
        (by omega) (by omega) (by omega)
    · simp only [List.length_cons] at hlt
      omega
  · obtain ⟨rfl, hp₁⟩ := List.cons_prefix_cons.mp hp
    rcases p with _ | ⟨b₁, p⟩
    · exact decodeHead_lead (toNat_byte (by omega)) (by omega)
    · obtain ⟨rfl, hp₂⟩ := List.cons_prefix_cons.mp hp₁
      have hcut := decodeHead_four_cut (toNat_byte (n := v / 262144 % 8 + 240) (by omega))
        (by omega) (toNat_byte (n := v / 4096 % 64 + 128) (by omega)) (by omega)
        (toNat_byte (n := v / 64 % 64 + 128) (by omega)) (by omega) (by omega) (by omega)
      rcases p with _ | ⟨b₂, _ | ⟨b₃, p⟩⟩
      · exact hcut.1
      · obtain ⟨rfl, -⟩ := List.cons_prefix_cons.mp hp₂
        exact hcut.2
      · simp only [List.length_cons] at hlt
        omega

theorem lossyChars_last {c : Char} {t : Bytes} {n : Nat} (hn : t.length ≤ n) (ht : t ≠ [])
    (hp : t <+: String.utf8EncodeChar c) :
    lossyChars n t = [if t.length < (String.utf8EncodeChar c).length then '�' else c] := by
  split_ifs with hlt
  · cases t with
    | nil => exact absurd rfl ht
    | cons b₀ p =>
      cases n with
      | zero => cases hn
      | succ n =>
        rw [lossyChars, decodeHead_cut hp hlt]
        simp only [List.drop_length, lossyChars_nil]
  · have hwhole : t = [c].flatMap String.utf8EncodeChar ++ [] := by
      rw [List.flatMap_singleton, List.append_nil]
      exact hp.eq_of_length_le (Nat.not_lt.mp hlt)
    obtain ⟨m, -, hchars⟩ := lossyChars_append [c] (hwhole ▸ hn)
    rw [hwhole, hchars, lossyChars_nil]
    rfl

section Field

variable {s : String} {width : Nat}

theorem takeWhile_utf8 (cs : List Char) :
    (cs.flatMap String.utf8EncodeChar).takeWhile (· != 0) =
      (cs.takeWhile (· != '\x00')).flatMap String.utf8EncodeChar := by
  induction cs with
  | nil => rfl
  | cons c cs ih =>
    by_cases hc : c = '\x00'
    · subst hc
      rfl
    · rw [List.flatMap_cons, List.takeWhile_append_of_pos, ih,
        List.takeWhile_cons_of_pos (by simpa using hc), List.flatMap_cons]
      intro b hb
      simpa using ne_zero_of_mem_utf8EncodeChar hc hb

theorem takeWhile_writeFixedStr (s : String) (width : Nat) :
    (writeFixedStr s width).takeWhile (· != 0) =
      ((s.toList.takeWhile (· != '\x00')).flatMap String.utf8EncodeChar).take width := by
  change ((utf8 s).take width ++ List.replicate (width - (utf8 s).length) 0).takeWhile (· != 0) = _
  rw [← takeWhile_utf8, ← utf8_eq, List.take_takeWhile, List.takeWhile_append]
  split_ifs with hall
  · have hpad : (List.replicate (width - (utf8 s).length) (0 : UInt8)).takeWhile (· != 0) = [] := by
      rw [List.takeWhile_replicate]
      rfl
    rw [hpad, List.append_nil, (List.takeWhile_prefix _).eq_of_length hall]
  · rfl

theorem not_mem_takeWhile_nul (cs : List Char) : '\x00' ∉ cs.takeWhile (· != '\x00') := by
  intro hmem
  simpa using List.mem_takeWhile_imp hmem

theorem takeWhile_nul_eq {cs : List Char} (h : '\x00' ∉ cs) : cs.takeWhile (· != '\x00') = cs := by
  rw [List.takeWhile_eq_self_iff]
  rintro c hc
  simpa using ne_of_mem_of_not_mem hc h

theorem fromUtf8Lossy_last (ds : List Char) {c : Char} {t : Bytes} (ht : t ≠ [])
    (hp : t <+: String.utf8EncodeChar c) :
    fromUtf8Lossy (ds.flatMap String.utf8EncodeChar ++ t) = String.ofList
      (ds ++ [if t.length < (String.utf8EncodeChar c).length then '�' else c]) := by
  obtain ⟨m, hm, hchars⟩ := lossyChars_append ds (t := t) (Nat.le_refl _)
  rw [fromUtf8Lossy, hchars, lossyChars_last hm ht hp]

theorem fromUtf8Lossy_chars (ds : List Char) :
    fromUtf8Lossy (ds.flatMap String.utf8EncodeChar) = String.ofList ds := by
  rw [← String.toList_ofList (l := ds), ← utf8_eq, fromUtf8Lossy_utf8, String.toList_ofList]

/-- What a field gives back: characters of the string, and perhaps one replacement for the
character the field was too narrow for. -/
theorem fixedStr_cases (width : Nat) (s : String) :
    ∃ ds, '\x00' ∉ ds ∧ (fixedStr width s = String.ofList ds ∧
        (ds.flatMap String.utf8EncodeChar).length ≤ width ∨
      fixedStr width s = String.ofList (ds ++ ['�']) ∧
        (ds.flatMap String.utf8EncodeChar).length < width) := by
  set cs := s.toList.takeWhile (· != '\x00') with hcs
  obtain ⟨n, -, t, htext, hcut⟩ :=
    Reader.exists_cut (List.take_prefix width (cs.flatMap String.utf8EncodeChar))
  have hread : fixedStr width s =
      fromUtf8Lossy ((cs.take n).flatMap String.utf8EncodeChar ++ t) := by
    rw [fixedStr, readFixedStr, takeWhile_writeFixedStr, ← hcs, htext]
  have hlen : ((cs.take n).flatMap String.utf8EncodeChar ++ t).length ≤ width := by
    rw [← htext]
    exact List.length_take_le _ _
  rw [List.length_append] at hlen
  refine ⟨cs.take n, fun hmem => not_mem_takeWhile_nul _ (List.mem_of_mem_take hmem), ?_⟩
  -- the field ends between two characters, or inside one of which `t` is left
  by_cases ht : t = []
  · left
    rw [hread, ht, List.append_nil, fromUtf8Lossy_chars]
    exact ⟨rfl, by omega⟩
  · right
    obtain ⟨rfl, -⟩ | ⟨c, -, hp, hlt⟩ := hcut
    · exact absurd rfl ht
    · rw [hread, fromUtf8Lossy_last _ ht hp, if_pos hlt]
      have := List.length_pos_iff.mpr ht
      exact ⟨rfl, by omega⟩

theorem fixedStr_fixedStr (width : Nat) (s : String) :
    fixedStr width (fixedStr width s) = fixedStr width s := by
  obtain ⟨ds, hnul, ⟨h, hlen⟩ | ⟨h, hlen⟩⟩ := fixedStr_cases width s
  · rw [h]
    refine readFixedStr_writeFixedStr ?_ ?_
    · rwa [NulFree, String.toList_ofList]
    · rwa [utf8_eq, String.toList_ofList]
  · -- the replacement character takes three bytes: it is cut again, to the same replacement
    have hnul' : '\x00' ∉ ds ++ ['�'] := by
      rw [List.mem_append, not_or]
      exact ⟨hnul, by decide⟩
    set room := width - (ds.flatMap String.utf8EncodeChar).length with hroom
    have hfield : ((ds ++ ['�']).flatMap String.utf8EncodeChar).take width =
        ds.flatMap String.utf8EncodeChar ++ (String.utf8EncodeChar '�').take room := by
      rw [List.flatMap_append, List.take_append, List.take_of_length_le hlen.le,
        List.flatMap_singleton]
    have hne : (String.utf8EncodeChar '�').take room ≠ [] := by
      rw [Ne, List.take_eq_nil_iff, not_or]
      exact ⟨by omega, by decide⟩
    rw [h, fixedStr, readFixedStr, takeWhile_writeFixedStr, String.toList_ofList,
      takeWhile_nul_eq hnul', hfield, fromUtf8Lossy_last ds hne (List.take_prefix _ _), ite_self]

end Field

end Usbip.Proto
