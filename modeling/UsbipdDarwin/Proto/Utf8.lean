import UsbipdDarwin.Proto.Op

/-! Strings on the wire. `from_utf8_lossy` gives back every string that was encoded,
and a field of fixed width holds every string that fits into it. -/

namespace Usbip.Proto

def utf8 (s : String) : Bytes := s.toUTF8.data.toList

theorem utf8_eq (s : String) : utf8 s = s.toList.flatMap String.utf8EncodeChar := by
  rw [utf8, String.toUTF8, ← String.utf8Encode_toList, List.utf8Encode,
    List.toList_data_toByteArray]

section Head

variable {a b c d : Nat} {b₀ b₁ b₂ b₃ : UInt8}

theorem low_bits {k base : Nat} {mask : UInt8} (h₀ : b₀.toNat = a + base)
    (hmask : mask.toNat = 2 ^ k - 1) (ha : a < 2 ^ k) (hbase : 2 ^ k ∣ base) :
    (b₀ &&& mask).toNat = a := by
  obtain ⟨q, rfl⟩ := hbase
  rw [UInt8.toNat_and, h₀, hmask, Nat.and_two_pow_sub_one_eq_mod, Nat.add_mul_mod_self_left,
    Nat.mod_eq_of_lt ha]

theorem low6 (h₁ : b₁.toNat = b + 128) (hb : b < 64) : (b₁ &&& 0x3F).toNat = b :=
  low_bits (k := 6) h₁ rfl hb (by decide)

theorem isContinuation_of_toNat (h₁ : b₁.toNat = b + 128) (hb : b < 64) :
    isContinuation b₁ = true := by
  have hall : ∀ n : Fin 64, isContinuation (UInt8.ofNat (n + 128)) = true := by decide
  have hbyte : b₁ = UInt8.ofNat (b + 128) := by rw [← h₁, UInt8.ofNat_toNat]
  rw [hbyte]
  exact hall ⟨b, hb⟩

theorem decodeHead_one (h₀ : b₀.toNat = a) (ha : a ≤ 127) (rest : Bytes) :
    decodeHead b₀ rest = (Char.ofNat a, 0) := by
  have hlt : b₀ < 0x80 := by
    rw [UInt8.lt_iff_toNat_lt, h₀]
    exact Nat.lt_succ_of_le ha
  simp only [decodeHead, if_pos hlt, h₀]

theorem decodeHead_two (h₀ : b₀.toNat = a + 192) (ha : 2 ≤ a) (ha' : a < 32)
    (h₁ : b₁.toNat = b + 128) (hb : b < 64) (rest : Bytes) :
    decodeHead b₀ (b₁ :: rest) = (Char.ofNat (a * 64 + b), 1) := by
  have hlead : (b₀ &&& 0x1F).toNat = a := low_bits (k := 5) h₀ rfl ha' (by decide)
  have hrange : ¬ b₀ < 0x80 ∧ (0xC2 ≤ b₀ && b₀ ≤ 0xDF) = true := by
    simp [UInt8.lt_iff_toNat_lt, UInt8.le_iff_toNat_le, h₀]
    omega
  simp [decodeHead, hrange, isContinuation_of_toNat h₁ hb, low6 h₁ hb, hlead]

theorem lead3_of_toNat (h₀ : b₀.toNat = a + 224) (ha : a < 16) :
    ¬ b₀ < 0x80 ∧ ¬ (0xC2 ≤ b₀ && b₀ ≤ 0xDF) = true ∧ (0xE0 ≤ b₀ && b₀ ≤ 0xEF) = true := by
  simp [UInt8.lt_iff_toNat_lt, UInt8.le_iff_toNat_le, h₀]
  omega

theorem second3_of_toNat (h₀ : b₀.toNat = a + 224) (h₁ : b₁.toNat = b + 128) (hb : b < 64)
    (hlow : a = 0 → 32 ≤ b) (hhigh : a = 13 → b < 32) : second3 b₀ b₁ = true := by
  rw [second3]
  split_ifs with hE0 hED
  · have ha : a = 0 := by
      rw [beq_iff_eq.mp hE0] at h₀
      have hlit : UInt8.toNat 224 = 224 := rfl
      omega
    simp [UInt8.le_iff_toNat_le, h₁]
    omega
  · have ha : a = 13 := by
      rw [beq_iff_eq.mp hED] at h₀
      have hlit : UInt8.toNat 237 = 237 := rfl
      omega
    simp [UInt8.le_iff_toNat_le, h₁]
    omega
  · exact isContinuation_of_toNat h₁ hb

theorem decodeHead_three (h₀ : b₀.toNat = a + 224) (ha : a < 16) (h₁ : b₁.toNat = b + 128)
    (hb : b < 64) (h₂ : b₂.toNat = c + 128) (hc : c < 64) (hlow : a = 0 → 32 ≤ b)
    (hhigh : a = 13 → b < 32) (rest : Bytes) :
    decodeHead b₀ (b₁ :: b₂ :: rest) = (Char.ofNat ((a * 64 + b) * 64 + c), 2) := by
  have hlead : (b₀ &&& 0x0F).toNat = a := low_bits (k := 4) h₀ rfl ha (by decide)
  have hsecond := second3_of_toNat h₀ h₁ hb hlow hhigh
  simp [decodeHead, lead3_of_toNat h₀ ha, hsecond, isContinuation_of_toNat h₂ hc, low6 h₁ hb,
    low6 h₂ hc, hlead]

theorem lead4_of_toNat (h₀ : b₀.toNat = a + 240) (ha : a ≤ 4) :
    ¬ b₀ < 0x80 ∧ ¬ (0xC2 ≤ b₀ && b₀ ≤ 0xDF) = true ∧ ¬ (0xE0 ≤ b₀ && b₀ ≤ 0xEF) = true ∧
      (0xF0 ≤ b₀ && b₀ ≤ 0xF4) = true := by
  simp [UInt8.lt_iff_toNat_lt, UInt8.le_iff_toNat_le, h₀]
  omega

theorem second4_of_toNat (h₀ : b₀.toNat = a + 240) (h₁ : b₁.toNat = b + 128) (hb : b < 64)
    (hlow : a = 0 → 16 ≤ b) (hhigh : a = 4 → b < 16) : second4 b₀ b₁ = true := by
  rw [second4]
  split_ifs with hF0 hF4
  · have ha : a = 0 := by
      rw [beq_iff_eq.mp hF0] at h₀
      have hlit : UInt8.toNat 240 = 240 := rfl
      omega
    simp [UInt8.le_iff_toNat_le, h₁]
    omega
  · have ha : a = 4 := by
      rw [beq_iff_eq.mp hF4] at h₀
      have hlit : UInt8.toNat 244 = 244 := rfl
      omega
    simp [UInt8.le_iff_toNat_le, h₁]
    omega
  · exact isContinuation_of_toNat h₁ hb

theorem decodeHead_four (h₀ : b₀.toNat = a + 240) (ha : a ≤ 4) (h₁ : b₁.toNat = b + 128)
    (hb : b < 64) (h₂ : b₂.toNat = c + 128) (hc : c < 64) (h₃ : b₃.toNat = d + 128) (hd : d < 64)
    (hlow : a = 0 → 16 ≤ b) (hhigh : a = 4 → b < 16) (rest : Bytes) :
    decodeHead b₀ (b₁ :: b₂ :: b₃ :: rest) =
      (Char.ofNat (((a * 64 + b) * 64 + c) * 64 + d), 3) := by
  have hlead : (b₀ &&& 0x07).toNat = a := low_bits (k := 3) h₀ rfl (by omega) (by decide)
  have hsecond := second4_of_toNat h₀ h₁ hb hlow hhigh
  simp [decodeHead, lead4_of_toNat h₀ ha, hsecond, isContinuation_of_toNat h₂ hc,
    isContinuation_of_toNat h₃ hd, low6 h₁ hb, low6 h₂ hc, low6 h₃ hd, hlead]

end Head

theorem toNat_byte {n : Nat} (h : n < 256) : (UInt8.ofNat n).toNat = n := by
  rw [UInt8.toNat_ofNat']
  exact Nat.mod_eq_of_lt h

theorem decodeHead_encode (c : Char) (rest : Bytes) :
    ∃ b₀ tail, String.utf8EncodeChar c = b₀ :: tail ∧
      decodeHead b₀ (tail ++ rest) = (c, tail.length) := by
  have hvalid : c.toNat < 0xD800 ∨ (0xDFFF < c.toNat ∧ c.toNat < 0x110000) := c.valid
  have hback : Char.ofNat c.toNat = c := Char.ofNat_toNat c
  simp only [String.utf8EncodeChar]
  generalize hv : c.val.toNat = v
  have hcv : c.toNat = v := hv
  rw [hcv] at hvalid hback
  split_ifs with h1 h2 h3
  · refine ⟨_, [], rfl, ?_⟩
    rw [decodeHead_one (toNat_byte (by omega)) h1, hback]
    rfl
  · refine ⟨_, [_], rfl, ?_⟩
    rw [List.singleton_append, decodeHead_two (toNat_byte (by omega)) (by omega) (by omega)
      (toNat_byte (by omega)) (by omega), ← hback]
    congr 2
    omega
  · refine ⟨_, [_, _], rfl, ?_⟩
    rw [List.cons_append, List.singleton_append,
      decodeHead_three (toNat_byte (by omega)) (by omega) (toNat_byte (by omega)) (by omega)
        (toNat_byte (by omega)) (by omega) (by omega) (by omega), ← hback]
    congr 2
    omega
  · refine ⟨_, [_, _, _], rfl, ?_⟩
    rw [List.cons_append, List.cons_append, List.singleton_append,
      decodeHead_four (toNat_byte (by omega)) (by omega) (toNat_byte (by omega)) (by omega)
        (toNat_byte (by omega)) (by omega) (toNat_byte (by omega)) (by omega) (by omega)
        (by omega), ← hback]
    congr 2
    omega

theorem lossyChars_append (cs : List Char) {t : Bytes} {n : Nat}
    (h : (cs.flatMap String.utf8EncodeChar ++ t).length ≤ n) :
    ∃ m, t.length ≤ m ∧
      lossyChars n (cs.flatMap String.utf8EncodeChar ++ t) = cs ++ lossyChars m t := by
  induction cs generalizing n with
  | nil => exact ⟨n, h, rfl⟩
  | cons c cs ih =>
    obtain ⟨b₀, tail, henc, hhead⟩ := decodeHead_encode c (cs.flatMap String.utf8EncodeChar ++ t)
    rw [List.flatMap_cons, henc, List.append_assoc, List.cons_append] at h ⊢
    cases n with
    | zero => cases h
    | succ n =>
      rw [List.length_cons, List.length_append] at h
      obtain ⟨m, hm, hrest⟩ := ih (n := n) (by omega)
      refine ⟨m, hm, ?_⟩
      rw [lossyChars, hhead]
      simp only [List.drop_left, hrest, List.cons_append]

theorem lossyChars_nil (n : Nat) : lossyChars n [] = [] := by
  cases n <;> rfl

theorem fromUtf8Lossy_utf8 (s : String) : fromUtf8Lossy (utf8 s) = s := by
  obtain ⟨m, -, hchars⟩ := lossyChars_append s.toList (t := []) (Nat.le_refl _)
  rw [lossyChars_nil, List.append_nil, List.append_nil, ← utf8_eq] at hchars
  rw [fromUtf8Lossy, hchars, String.ofList_toList]

def NulFree (s : String) : Prop := '\x00' ∉ s.toList

instance (s : String) : Decidable (NulFree s) := inferInstanceAs (Decidable (_ ∉ _))

theorem ne_zero_of_mem_utf8EncodeChar {c : Char} (hc : c ≠ '\x00') {b : UInt8}
    (hb : b ∈ String.utf8EncodeChar c) : b ≠ 0 := by
  have hpos : c.val.toNat ≠ 0 := by
    intro h0
    exact hc (Char.ext (UInt32.toNat_inj.mp h0))
  simp only [String.utf8EncodeChar] at hb
  generalize c.val.toNat = v at hb hpos
  -- a byte of a longer encoding carries its marker bits, a byte of the short one the character
  have hbyte : ∃ n, 0 < n ∧ n < 256 ∧ b = UInt8.ofNat n := by
    split_ifs at hb
    · exact ⟨v, by omega, by omega, by simpa using hb⟩
    all_goals
      simp only [List.mem_cons, List.not_mem_nil, or_false] at hb
      rcases hb with rfl | rfl | rfl | rfl
    all_goals exact ⟨_, by omega, by omega, rfl⟩
  obtain ⟨n, hn, hlt, rfl⟩ := hbyte
  intro h0
  have htn := toNat_byte hlt
  rw [h0] at htn
  exact hn.ne htn

theorem ne_zero_of_mem_utf8 {s : String} (hs : NulFree s) {b : UInt8} (hb : b ∈ utf8 s) :
    b ≠ 0 := by
  rw [utf8_eq, List.mem_flatMap] at hb
  obtain ⟨c, hc, hb⟩ := hb
  refine ne_zero_of_mem_utf8EncodeChar ?_ hb
  rintro rfl
  exact hs hc

theorem toNat_of_mem_utf8EncodeChar {c : Char} {b : UInt8} (hb : b ∈ String.utf8EncodeChar c)
    (hascii : b.toNat < 0x80) : c.toNat = b.toNat := by
  simp only [String.utf8EncodeChar] at hb
  change c.val.toNat = b.toNat
  generalize c.val.toNat = v at hb
  split_ifs at hb with hone
  · obtain rfl : b = UInt8.ofNat v := by simpa using hb
    exact (toNat_byte (by omega)).symm
  all_goals
    simp only [List.mem_cons, List.not_mem_nil, or_false] at hb
    rcases hb with rfl | rfl | rfl | rfl
  all_goals
    rw [toNat_byte (by omega)] at hascii
    omega

section FixedStr

variable {s : String} {width : Nat}

theorem writeFixedStr_eq (h : (utf8 s).length ≤ width) :
    writeFixedStr s width = utf8 s ++ List.replicate (width - (utf8 s).length) 0 := by
  change (utf8 s).take width ++ _ = _
  rw [List.take_of_length_le h]
  rfl

@[simp] theorem length_writeFixedStr (s : String) (width : Nat) :
    (writeFixedStr s width).length = width := by
  change ((utf8 s).take width ++ List.replicate (width - (utf8 s).length) 0).length = width
  rw [List.length_append, List.length_take, List.length_replicate]
  omega

theorem readFixedStr_writeFixedStr (hs : NulFree s) (h : (utf8 s).length ≤ width) :
    readFixedStr (writeFixedStr s width) = s := by
  have htake : (writeFixedStr s width).takeWhile (· != 0) = utf8 s := by
    rw [writeFixedStr_eq h, List.takeWhile_append_of_pos]
    · rw [List.takeWhile_replicate]
      simp
    · intro b hb
      simpa using ne_zero_of_mem_utf8 hs hb
  rw [readFixedStr, htake, fromUtf8Lossy_utf8]

end FixedStr

end Usbip.Proto
