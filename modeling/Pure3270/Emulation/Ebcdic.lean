import Mathlib.Data.List.Nodup

/-!
# EBCDIC text

Code page 037 is a permutation of the first 256 characters.  Decoding replaces
control characters by spaces, so that a byte comes back from a decode and an
encode as it was or as an EBCDIC space.
-/

namespace Pure3270

namespace Ebcdic

/-- The code points of code page 037. -/
def cp037 : List Nat :=
  [0, 1, 2, 3, 156, 9, 134, 127, 151, 141, 142, 11, 12, 13, 14, 15,
    16, 17, 18, 19, 157, 133, 8, 135, 24, 25, 146, 143, 28, 29, 30, 31,
    128, 129, 130, 131, 132, 10, 23, 27, 136, 137, 138, 139, 140, 5, 6, 7,
    144, 145, 22, 147, 148, 149, 150, 4, 152, 153, 154, 155, 20, 21, 158, 26,
    32, 160, 226, 228, 224, 225, 227, 229, 231, 241, 162, 46, 60, 40, 43, 124,
    38, 233, 234, 235, 232, 237, 238, 239, 236, 223, 33, 36, 42, 41, 59, 172,
    45, 47, 194, 196, 192, 193, 195, 197, 199, 209, 166, 44, 37, 95, 62, 63,
    248, 201, 202, 203, 200, 205, 206, 207, 204, 96, 58, 35, 64, 39, 61, 34,
    216, 97, 98, 99, 100, 101, 102, 103, 104, 105, 171, 187, 240, 253, 254, 177,
    176, 106, 107, 108, 109, 110, 111, 112, 113, 114, 170, 186, 230, 184, 198, 164,
    181, 126, 115, 116, 117, 118, 119, 120, 121, 122, 161, 191, 208, 221, 222, 174,
    94, 163, 165, 183, 169, 167, 182, 188, 189, 190, 91, 93, 175, 168, 180, 215,
    123, 65, 66, 67, 68, 69, 70, 71, 72, 73, 173, 244, 246, 242, 243, 245,
    125, 74, 75, 76, 77, 78, 79, 80, 81, 82, 185, 251, 252, 249, 250, 255,
    92, 247, 83, 84, 85, 86, 87, 88, 89, 90, 178, 212, 214, 210, 211, 213,
    48, 49, 50, 51, 52, 53, 54, 55, 56, 57, 179, 219, 220, 217, 218, 159]

theorem cp037_length : cp037.length = 256 := by decide +kernel

/-- Whether the values are distinct and none of their bits is in the mask. -/
private def freshIn : List Nat → Nat → Bool
  | [], _ => true
  | value :: rest, seen => !seen.testBit value && freshIn rest (seen ||| 2 ^ value)

private theorem nodup_of_freshIn {values : List Nat} {seen : Nat}
    (fresh : freshIn values seen = true) :
    values.Nodup ∧ ∀ value ∈ values, seen.testBit value = false := by
  induction values generalizing seen with
  | nil => exact ⟨List.nodup_nil, nofun⟩
  | cons value rest ih =>
      obtain ⟨unseen, later⟩ := Bool.and_eq_true_iff.mp fresh
      obtain ⟨distinct, others⟩ := ih later
      have apart : ∀ other ∈ rest, seen.testBit other = false ∧
          (2 ^ value).testBit other = false := by
        intro other member
        have bit := others other member
        rwa [Nat.testBit_or, Bool.or_eq_false_iff] at bit
      refine ⟨List.nodup_cons.mpr ⟨fun again => ?_, distinct⟩, fun other member => ?_⟩
      · have bit := (apart value again).2
        rw [Nat.testBit_two_pow_self] at bit
        cases bit
      · rcases List.mem_cons.mp member with rfl | inside
        · exact (Bool.not_eq_true' _).mp unseen
        · exact (apart other inside).1

theorem cp037_nodup : cp037.Nodup :=
  (@nodup_of_freshIn cp037 0 (by decide +kernel)).1

theorem cp037_valid : ∀ point ∈ cp037, point.isValidChar := by decide +kernel

/-- The character of a byte in code page 037. -/
def cp037Char (byte : UInt8) : Char := Char.ofNat (cp037.getD byte.toNat 32)

/-- The tables of the code pages.  Only code page 037 is spelled out. -/
structure Codepages where
  table : String → UInt8 → Char
  table_cp037 : table "cp037" = cp037Char

/-- The control characters that decoding keeps. -/
def preserveChars : List Char := ['\x00', '\t', '\n', '\r']

/-- What decoding makes of one character. -/
def cleanChar (char : Char) : Char :=
  if (32 ≤ char.toNat ∧ char ≠ '\x7f') ∨ char ∈ preserveChars then char else ' '

/-- `EBCDICCodec.decode` under a table. -/
def decode (table : UInt8 → Char) (data : List UInt8) : List Char :=
  data.map fun byte => cleanChar (table byte)

/-- The byte of a character in code page 037; what has none becomes an EBCDIC
space.  Both `EBCDICCodec.encode` and `EmulationEncoder.encode` come down to
this. -/
def encodeChar (char : Char) : UInt8 :=
  if char.toNat ∈ cp037 then UInt8.ofNat (cp037.idxOf char.toNat) else 0x40

def encode (text : List Char) : List UInt8 := text.map encodeChar

private theorem toNat_lt_length (byte : UInt8) : byte.toNat < cp037.length := by
  rw [cp037_length]
  exact byte.toNat_lt

private theorem toNat_ofNat {point : Nat} (valid : point.isValidChar) :
    (Char.ofNat point).toNat = point := by
  unfold Char.ofNat
  rw [dif_pos valid]
  rfl

theorem cp037Char_toNat (byte : UInt8) :
    (cp037Char byte).toNat = cp037.get ⟨byte.toNat, toNat_lt_length byte⟩ := by
  unfold cp037Char
  rw [List.getD_eq_getElem?_getD, List.getElem?_eq_getElem (toNat_lt_length byte),
    Option.getD_some, toNat_ofNat (cp037_valid _ (List.getElem_mem _))]
  rfl

private theorem idxOf_get {values : List Nat} (distinct : values.Nodup)
    {index : Nat} (inside : index < values.length) :
    values.idxOf (values.get ⟨index, inside⟩) = index :=
  distinct.idxOf_getElem index inside

/-- Encoding gives back the byte a character came from. -/
theorem encodeChar_cp037Char (byte : UInt8) : encodeChar (cp037Char byte) = byte := by
  unfold encodeChar
  rw [cp037Char_toNat, if_pos (List.get_mem _ _), idxOf_get cp037_nodup]
  exact UInt8.ofNat_toNat

/-- A byte after decoding and encoding again. -/
def reencoded (byte : UInt8) : UInt8 := encodeChar (cleanChar (cp037Char byte))

theorem reencoded_eq (byte : UInt8) :
    reencoded byte = byte ∨ reencoded byte = 0x40 := by
  unfold reencoded cleanChar
  split
  · exact .inl (encodeChar_cp037Char byte)
  · exact .inr (by decide)

/-- Decoding leaves no device control character, so that none is encoded. -/
theorem encodeChar_cleanChar_ne (char : Char) : encodeChar (cleanChar char) ≠ 0x12 := by
  have control : ∀ char : Char, encodeChar char = 0x12 → char.toNat = 18 := by
    intro char encoded
    unfold encodeChar at encoded
    split at encoded
    · rename_i listed
      have index := List.idxOf_lt_length_of_mem listed
      have found := List.getElem_idxOf index
      rw [cp037_length] at index
      have position : cp037.idxOf char.toNat = 18 := by
        have same := congrArg UInt8.toNat encoded
        rwa [UInt8.toNat_ofNat_of_lt' index] at same
      simp only [position] at found
      exact found.symm
    · cases encoded
  intro encoded
  have point := control _ encoded
  unfold cleanChar at point
  split at point
  · rename_i kept
    rcases kept with ⟨printable, _⟩ | preserved
    · omega
    · simp only [preserveChars, List.mem_cons, List.not_mem_nil, or_false] at preserved
      rcases preserved with rfl | rfl | rfl | rfl <;> cases point
  · cases point

@[simp] theorem encode_decode (data : List UInt8) :
    encode (decode cp037Char data) = data.map reencoded := by
  simp [encode, decode, reencoded]

end Ebcdic

end Pure3270
