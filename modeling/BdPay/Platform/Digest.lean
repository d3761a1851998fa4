import BdPay.Data.Text

namespace BdPay.Platform

open List

/-! Hex digests, and what stands in for SHA-256 in samples. -/

def isHexDigit (char : Char) : Bool := char.isDigit || ['a', 'b', 'c', 'd', 'e', 'f'].contains char

/-- A number in a fixed count of hex digits. -/
def hexDigits : Nat → Nat → List Char
  | 0, _ => []
  | count + 1, value => hexDigits count (value / 16) ++ [Nat.digitChar (value % 16)]

theorem length_hexDigits (count value : Nat) : (hexDigits count value).length = count := by
  induction count generalizing value with
  | zero => rfl
  | succ _ ih => simp [hexDigits, ih]

theorem isHexDigit_of_mem_hexDigits {count value : Nat} (member : digit ∈ hexDigits count value) :
    isHexDigit digit = true := by
  have small : ∀ remainder : Fin 16, isHexDigit (Nat.digitChar remainder) = true := by decide
  induction count generalizing value with
  | zero => simp [hexDigits] at member
  | succ _ ih =>
    rcases mem_append.mp member with front | last
    · exact ih front
    · rw [mem_singleton.mp last]
      exact small ⟨value % 16, Nat.mod_lt _ (by decide)⟩

theorem hexDigits_injective {count left right : Nat} (leftSmall : left < 16 ^ count) (rightSmall : right < 16 ^ count)
    (same : hexDigits count left = hexDigits count right) : left = right := by
  have digitChar_injective : ∀ first second : Fin 16, Nat.digitChar first = Nat.digitChar second → first = second := by
    decide
  induction count generalizing left right with
  | zero => omega
  | succ _ ih =>
    obtain ⟨front, last⟩ := append_inj' same rfl
    rw [Nat.pow_succ] at leftSmall rightSmall
    have quotients := ih (by omega) (by omega) front
    have remainders := congrArg Fin.val (digitChar_injective ⟨left % 16, Nat.mod_lt _ (by decide)⟩
      ⟨right % 16, Nat.mod_lt _ (by decide)⟩ (cons.inj last).1)
    simp only at remainders
    omega

/-- A number in hex digits that every byte of a text goes into. -/
def checksum (width : Nat) (text : String) : List Char :=
  hexDigits width
    (text.toByteArray.data.toList.foldl (fun value byte => (value * 0x9e3779b1 + byte.toNat) % 16 ^ width) 1)

/-- A short stand-in for SHA-256 in samples. -/
def standInDigest (text : String) : String := String.ofList (checksum 8 text)

/-- The bytes of a text in hex digits, behind more digits than a digest has. -/
def spelledOut (text : String) : String :=
  String.ofList (replicate 65 'f' ++ text.toByteArray.data.toList.flatMap fun byte => hexDigits 2 byte.toNat)

theorem flatMap_hexDigits_injective :
    Function.Injective fun bytes : List UInt8 => bytes.flatMap fun byte => hexDigits 2 byte.toNat := by
  intro left right same
  have lengths := congrArg length same
  simp only [length_flatMap, length_hexDigits, map_const', sum_replicate, smul_eq_mul] at lengths
  induction left generalizing right with
  | nil => exact (length_eq_zero_iff.mp (by simpa using lengths.symm)).symm
  | cons first rest ih =>
    cases right with
    | nil => simp at lengths
    | cons second others =>
      obtain ⟨heads, tails⟩ := append_inj same (by rw [length_hexDigits, length_hexDigits])
      have bytes := hexDigits_injective first.toNat_lt second.toNat_lt heads
      rw [UInt8.toNat_inj.mp bytes, ih tails (by simpa using lengths)]

theorem spelledOut_injective : Function.Injective spelledOut := by
  intro left right same
  simp only [spelledOut, String.ofList_inj, append_cancel_left_eq] at same
  exact String.toByteArray_inj.mp (ByteArray.ext (Array.toList_inj.mp (flatMap_hexDigits_injective same)))

/-- A stand-in for SHA-256 that tells all texts apart: 64 digits for the texts in the list, which begin
with their place in it, and every other text is spelled out. -/
def knownDigest (known : List String) (text : String) : String :=
  if known.idxOf text < known.length then String.ofList (hexDigits 64 ((known.idxOf text + 1) * 16 ^ 56))
  else spelledOut text

variable {known : List String}

theorem hex_knownDigest (text : String) : ∀ digit ∈ (knownDigest known text).toList, isHexDigit digit = true := by
  intro digit member
  rw [knownDigest] at member
  split_ifs at member
  · exact isHexDigit_of_mem_hexDigits (String.toList_ofList ▸ member)
  · rw [spelledOut, String.toList_ofList, mem_append] at member
    rcases member with padding | spelled
    · rw [eq_of_mem_replicate padding]
      decide
    · obtain ⟨_, -, inside⟩ := mem_flatMap.mp spelled
      exact isHexDigit_of_mem_hexDigits inside

theorem knownDigest_injective (few : known.length < 16 ^ 8) : Function.Injective (knownDigest known) := by
  have longer : ∀ value text, String.ofList (hexDigits 64 value) ≠ spelledOut text := by
    intro value text same
    have lengths := congrArg length (String.ofList_inj.mp same)
    simp only [length_append, length_hexDigits, length_replicate] at lengths
    omega
  intro left right same
  simp only [knownDigest] at same
  split_ifs at same with isLeft isRight isRight
  · have places := hexDigits_injective (by omega) (by omega) (String.ofList_inj.mp same)
    exact (idxOf_inj (idxOf_lt_length_iff.mp isLeft)).mp (by omega)
  · exact absurd same (longer _ right)
  · exact absurd same.symm (longer _ left)
  · exact spelledOut_injective same

end BdPay.Platform
