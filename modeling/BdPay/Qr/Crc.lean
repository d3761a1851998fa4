import Mathlib

namespace BdPay.Qr

open List Function

/-! CRC-16/CCITT-FALSE, and the corruptions of a payload it never misses.

A burst of at most sixteen bits fits into the register at once.  The register then
only shifts, and a shift loses nothing, because the polynomial's lowest bit is set.
-/

/-- One turn of the inner loop; `crc & 0x8000` is the highest bit. -/
def shift (crc : BitVec 16) : BitVec 16 := if crc.msb then crc <<< 1 ^^^ 0x1021#16 else crc <<< 1

def absorb (crc : BitVec 16) (byte : UInt8) : BitVec 16 := shift^[8] (crc ^^^ byte.toBitVec.setWidth 16 <<< 8)

def crc16CcittFalse (data : List UInt8) : BitVec 16 := data.foldl absorb 0xFFFF#16

/-- The bits of a byte in the order in which they enter the register. -/
def byteBits (byte : BitVec 8) : List Bool := (range 8).map byte.getMsbD

def bits (data : List UInt8) : List Bool := data.flatMap fun byte => byteBits byte.toBitVec

/-- The register's highest bit, if the bit is set. -/
def top (bit : Bool) : BitVec 16 := (BitVec.ofBool bit).setWidth 16 <<< 15

/-- The same loop, with one bit entering at a time. -/
def feed (crc : BitVec 16) (bit : Bool) : BitVec 16 := shift (crc ^^^ top bit)

/-- At most sixteen bits, next to each other at the top of the register. -/
def pack : List Bool → BitVec 16
  | [] => 0#16
  | bit :: rest => top bit ^^^ pack rest >>> 1

theorem shift_xor (left right : BitVec 16) : shift (left ^^^ right) = shift left ^^^ shift right := by
  unfold shift
  rw [BitVec.msb_xor, BitVec.shiftLeft_xor_distrib]
  cases left.msb <;> cases right.msb <;> simp
  · ac_rfl
  · ac_rfl
  · rw [BitVec.xor_assoc, BitVec.xor_comm (right <<< 1), ← BitVec.xor_assoc (0x1021#16), BitVec.xor_self,
      BitVec.zero_xor]

theorem eq_zero_of_shift (gone : shift word = 0#16) : word = 0#16 := by
  unfold shift at gone
  split at gone
  next => simpa using congrArg (BitVec.getLsbD · 0) gone
  next low =>
    rw [Bool.not_eq_true, BitVec.msb_eq_false_iff_two_mul_lt] at low
    have zero := congrArg BitVec.toNat gone
    rw [BitVec.toNat_shiftLeft, Nat.shiftLeft_eq] at zero
    apply BitVec.eq_of_toNat_eq
    simp at zero ⊢
    omega

theorem shift_injective : Injective shift := by
  intro left right same
  rw [← BitVec.xor_eq_zero_iff]
  exact eq_zero_of_shift (by rw [shift_xor, same, BitVec.xor_self])

/-- Shifting undoes the step down, as long as no bit was lost. -/
theorem shift_ushiftRight {word : BitVec 16} (even : word.getLsbD 0 = false) : shift (word >>> 1) = word := by
  have down : (word >>> 1).msb = false := by simp [BitVec.msb_ushiftRight]
  rw [shift, down, if_neg (by decide)]
  apply BitVec.eq_of_toNat_eq
  simp [BitVec.getLsbD, Nat.testBit_zero] at even
  simp [Nat.shiftLeft_eq, Nat.shiftRight_eq_div_pow]
  omega

theorem getLsbD_pack {block : List Bool} (room : index + block.length < 16) : (pack block).getLsbD index = false := by
  induction block generalizing index with
  | nil => simp [pack]
  | cons bit rest lower =>
    rw [length_cons] at room
    have below := @lower (1 + index) (by omega)
    simp [pack, top, below]
    omega

theorem foldl_feed {block : List Bool} (short : block.length ≤ 16) :
    block.foldl feed crc = shift^[block.length] (crc ^^^ pack block) := by
  induction block generalizing crc with
  | nil => simp [pack]
  | cons bit rest fed =>
    rw [length_cons] at short
    have even : (pack rest).getLsbD 0 = false := getLsbD_pack (by omega)
    rw [foldl_cons, fed (by omega), length_cons, iterate_succ_apply, feed, pack, ← BitVec.xor_assoc,
      shift_xor (crc ^^^ top bit), shift_ushiftRight even]

theorem pack_injective (short : left.length ≤ 16) (sameLength : left.length = right.length)
    (same : pack left = pack right) : left = right := by
  induction left generalizing right with
  | nil => exact (length_eq_zero_iff.mp sameLength.symm).symm
  | cons bit rest packed =>
    obtain ⟨other, others, rfl⟩ := exists_cons_of_length_eq_add_one sameLength.symm
    rw [length_cons] at short
    simp only [length_cons, Nat.add_right_cancel_iff] at sameLength
    obtain rfl : bit = other := by simpa [pack, top, BitVec.msb_ushiftRight] using congrArg BitVec.msb same
    have lower := congrArg shift ((BitVec.xor_right_inj _).mp same)
    rw [shift_ushiftRight (getLsbD_pack (by omega)), shift_ushiftRight (getLsbD_pack (by omega))] at lower
    rw [packed (by omega) sameLength lower]

theorem pack_byteBits : ∀ byte : BitVec 8, pack (byteBits byte) = byte.setWidth 16 <<< 8 := by decide +kernel

theorem unpack_byteBits : ∀ byte : BitVec 8, (pack (byteBits byte) >>> 8).setWidth 8 = byte := by decide +kernel

theorem crc16CcittFalse_eq (data : List UInt8) : crc16CcittFalse data = (bits data).foldl feed 0xFFFF#16 := by
  rw [crc16CcittFalse, bits, foldl_flatMap]
  congr
  funext crc byte
  rw [foldl_feed (by simp [byteBits]), pack_byteBits]
  simp [absorb, byteBits]

@[simp]
theorem bits_append (left right : List UInt8) : bits (left ++ right) = bits left ++ bits right := flatMap_append

@[simp]
theorem length_bits (data : List UInt8) : (bits data).length = data.length * 8 := by
  simp [bits, byteBits]

theorem bits_injective (sameLength : left.length = right.length) (same : bits left = bits right) : left = right := by
  induction left generalizing right with
  | nil => exact (length_eq_zero_iff.mp sameLength.symm).symm
  | cons byte rest equal =>
    obtain ⟨other, others, rfl⟩ := exists_cons_of_length_eq_add_one sameLength.symm
    simp only [length_cons, Nat.add_right_cancel_iff] at sameLength
    obtain ⟨first, later⟩ : byteBits byte.toBitVec = byteBits other.toBitVec ∧ bits rest = bits others :=
      append_inj same (by simp [byteBits])
    have words := congrArg (fun block => (pack block >>> 8).setWidth 8) first
    simp only [unpack_byteBits] at words
    rw [UInt8.toBitVec_inj.mp words, equal sameLength later]

theorem foldl_feed_injective (block : List Bool) : Injective fun crc => block.foldl feed crc := by
  induction block with
  | nil => exact injective_id
  | cons bit rest fed =>
    intro left right same
    exact (BitVec.xor_left_inj _).mp (shift_injective (fed same))

/-- All the bits in which the two differ lie among sixteen consecutive ones. -/
def Burst (start : Nat) (left right : List UInt8) : Prop :=
  ∀ index, (bits left)[index]? ≠ (bits right)[index]? → start ≤ index ∧ index < start + 16

theorem crc16CcittFalse_ne (sameLength : left.length = right.length) (different : left ≠ right)
    (burst : Burst start left right) : crc16CcittFalse left ≠ crc16CcittFalse right := by
  unfold Burst at burst
  have before : (bits left).take start = (bits right).take start := by
    ext1 index
    grind
  have after : (bits left).drop (start + 16) = (bits right).drop (start + 16) := by
    ext1 index
    grind
  have parts : ∀ block : List Bool,
      block = block.take start ++ ((block.drop start).take 16 ++ block.drop (start + 16)) := by
    intro block
    rw [← drop_drop, take_append_drop, take_append_drop]
  have sizes : (bits left).length = (bits right).length := by simp [sameLength]
  intro same
  rw [crc16CcittFalse_eq, crc16CcittFalse_eq, parts (bits left), parts (bits right), before, after] at same
  simp only [foldl_append] at same
  have middle := foldl_feed_injective _ same
  have lengths : (((bits left).drop start).take 16).length = (((bits right).drop start).take 16).length := by
    simp [sizes]
  rw [foldl_feed (length_take_le _ _), foldl_feed (length_take_le _ _), lengths] at middle
  have packed := (BitVec.xor_right_inj _).mp (shift_injective.iterate _ middle)
  have whole := pack_injective (length_take_le _ _) lengths packed
  exact different (bits_injective sameLength (by rw [parts (bits left), parts (bits right), before, after, whole]))

def crcPrefix : List Char := ['6', '3', '0', '4']

def hexDigit (digit : Nat) : Char := ("0123456789ABCDEF".toList[digit]?).getD '0'

/-- `f"\x7bcrc:04X\x7d"`. -/
def hex4 (crc : BitVec 16) : List Char := [4096, 256, 16, 1].map fun unit => hexDigit (crc.toNat / unit % 16)

def encode (payload : List Char) : List UInt8 := payload.flatMap String.utf8EncodeChar

def verifyCrc (payload : List Char) : Bool :=
  if payload.length < 8 || (payload.drop (payload.length - 8)).take 4 != crcPrefix then false
  else payload.drop (payload.length - 4) == hex4 (crc16CcittFalse (encode (payload.take (payload.length - 4))))

@[simp]
theorem encode_append (left right : List Char) : encode (left ++ right) = encode left ++ encode right := flatMap_append

theorem encode_hex4 (crc : BitVec 16) :
    encode (hex4 crc) = [4096, 256, 16, 1].map fun unit => (hexDigit (crc.toNat / unit % 16)).val.toUInt8 := by
  have ascii : ∀ digit < 16, String.utf8EncodeChar (hexDigit digit) = [(hexDigit digit).val.toUInt8] := by decide
  simp [encode, hex4, ascii _ (Nat.mod_lt _ (by decide : 0 < 16))]

theorem encode_hex4_injective (same : encode (hex4 left) = encode (hex4 right)) : left = right := by
  have digits : ∀ left < 16, ∀ right < 16, (hexDigit left).val.toUInt8 = (hexDigit right).val.toUInt8 →
      left = right := by decide
  have nibble := fun unit => digits (left.toNat / unit % 16) (Nat.mod_lt _ (by decide)) (right.toNat / unit % 16)
    (Nat.mod_lt _ (by decide))
  simp only [encode_hex4, map_cons, cons.injEq] at same
  have := nibble _ same.1
  have := nibble _ same.2.1
  have := nibble _ same.2.2.1
  have := nibble _ same.2.2.2.1
  apply BitVec.eq_of_toNat_eq
  omega

theorem verifyCrc_split (verified : verifyCrc payload = true) :
    ∃ base, payload = base ++ crcPrefix ++ hex4 (crc16CcittFalse (encode (base ++ crcPrefix))) := by
  unfold verifyCrc at verified
  split at verified
  · cases verified
  next shape =>
    simp at shape verified
    refine ⟨payload.take (payload.length - 8), ?_⟩
    have front : payload.take (payload.length - 4) = payload.take (payload.length - 8) ++ crcPrefix := by
      rw [← shape.2, ← take_add]
      congr 1
      omega
    rw [← front, ← verified, take_append_drop]

theorem exists_differing (sameLength : left.length = right.length) (different : left ≠ right) :
    ∃ index < left.length * 8, (bits left)[index]? ≠ (bits right)[index]? := by
  by_contra none
  push Not at none
  refine different (bits_injective sameLength (ext_getElem? fun index => ?_))
  by_cases inside : index < left.length * 8
  · exact none index inside
  · rw [getElem?_eq_none (by simp; omega), getElem?_eq_none (by simp; omega)]

theorem verifyCrc_corrupted (verified : verifyCrc sent = true)
    (sameLength : (encode sent).length = (encode received).length) (different : encode sent ≠ encode received)
    (burst : Burst start (encode sent) (encode received)) : verifyCrc received = false := by
  by_contra accepted
  obtain ⟨base, rfl⟩ := verifyCrc_split verified
  obtain ⟨other, rfl⟩ := verifyCrc_split (Bool.not_eq_false _ ▸ accepted)
  have code : ∀ crc, (encode (hex4 crc)).length = 4 := by simp [encode_hex4]
  have fixed : (encode crcPrefix).length = 4 := by decide
  simp only [encode_append, length_append, code, Nat.add_right_cancel_iff] at sameLength different burst
  have equal : encode base ≠ encode other := fun equal => different (by rw [equal])
  have front : Burst start (encode base ++ encode crcPrefix) (encode other ++ encode crcPrefix) := by
    intro index differ
    refine burst index fun same => differ ?_
    simp only [bits_append, getElem?_append, length_append, length_bits, sameLength] at same ⊢
    grind
  have codes := mt encode_hex4_injective (crc16CcittFalse_ne (by simp [sameLength]) (by simpa using equal) front)
  obtain ⟨index, inside, differ⟩ := exists_differing sameLength equal
  obtain ⟨place, -, apart⟩ := exists_differing ((code _).trans (code _).symm) codes
  -- The literal between the two differences is longer than the burst.
  have first := burst index (by
    simp only [bits_append, append_assoc]
    rwa [getElem?_append_left (by simpa using inside), getElem?_append_left (by simpa [← sameLength] using inside)])
  have second := burst ((encode base).length * 8 + 32 + place) (by
    simp only [bits_append]
    rwa [getElem?_append_right (by simp [fixed]), getElem?_append_right (by simp [fixed, ← sameLength]), length_append,
      length_append, length_bits, length_bits, length_bits, ← sameLength, fixed, Nat.add_sub_cancel_left])
  omega

/-- A burst changes the CRC of every byte string, and a payload that was hit by one is never accepted. -/
theorem bursts_detected :
    (∀ left right start, left.length = right.length → left ≠ right → Burst start left right →
      crc16CcittFalse left ≠ crc16CcittFalse right) ∧
    ∀ sent received start, verifyCrc sent = true → (encode sent).length = (encode received).length →
      encode sent ≠ encode received → Burst start (encode sent) (encode received) → verifyCrc received = false :=
  ⟨fun _ _ _ => crc16CcittFalse_ne, fun _ _ _ => verifyCrc_corrupted⟩

theorem short_burst_detected : crc16CcittFalse [0, 1] ≠ crc16CcittFalse [128, 0] :=
  bursts_detected.1 _ _ 0 rfl (by decide) fun index differ => by
    by_contra outside
    rw [getElem?_eq_none (by simp; omega), getElem?_eq_none (by simp; omega)] at differ
    exact differ rfl

end BdPay.Qr
