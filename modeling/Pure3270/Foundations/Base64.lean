import Mathlib.Data.List.Basic

/-!
# Base 64

Bytes are written in groups of three as four characters, each for six bits, and
an incomplete group is filled up with padding.  Reading is strict: a character
outside the alphabet, or padding anywhere but at the end, refuses the text.
-/

namespace Foundations.Base64

/-- So many characters from the first one on. -/
def charsFrom (first : Char) (count : Nat) : List Char :=
  (List.range count).map fun offset => Char.ofNat (first.toNat + offset)

/-- Capital and small letters, digits, and two more. -/
def alphabet : List Char :=
  charsFrom 'A' 26 ++ charsFrom 'a' 26 ++ charsFrom '0' 10 ++ ['+', '/']

def padding : Char := '='

/-- The character of six bits. -/
def symbol (value : Nat) : Char := alphabet.getD (value % 64) padding

/-- The six bits of a character. -/
def symbolValue (ch : Char) : Option Nat :=
  if ch.isUpper then some (ch.toNat - 65)
  else if ch.isLower then some (ch.toNat - 97 + 26)
  else if ch.isDigit then some (ch.toNat - 48 + 52)
  else if ch = '+' then some 62
  else if ch = '/' then some 63
  else none

/-- The number that four characters write in base 64. -/
def groupValue (first second third fourth : Char) : Option Nat := do
  let first ← symbolValue first
  let second ← symbolValue second
  let third ← symbolValue third
  let fourth ← symbolValue fourth
  some (((first * 64 + second) * 64 + third) * 64 + fourth)

/-- The characters of a group of 24 bits, the most significant one first. -/
def groupSymbols (group : Nat) : List Char :=
  [symbol (group / 262144), symbol (group / 4096), symbol (group / 64), symbol group]

def encode : List UInt8 → List Char
  | first :: second :: third :: rest =>
      groupSymbols (first.toNat * 65536 + second.toNat * 256 + third.toNat) ++ encode rest
  | [first, second] =>
      (groupSymbols (first.toNat * 65536 + second.toNat * 256)).take 3 ++ [padding]
  | [first] => (groupSymbols (first.toNat * 65536)).take 2 ++ [padding, padding]
  | [] => []

/-- The three bytes of a group. -/
def groupBytes (group : Nat) : List UInt8 :=
  [.ofNat (group / 65536), .ofNat (group / 256), .ofNat group]

/-- Padding stands for six bits of zero. -/
def decode : List Char → Option (List UInt8)
  | first :: second :: third :: fourth :: rest =>
      if rest = [] ∧ third = padding ∧ fourth = padding then do
        let group ← groupValue first second (symbol 0) (symbol 0)
        some ((groupBytes group).take 1)
      else if rest = [] ∧ fourth = padding then do
        let group ← groupValue first second third (symbol 0)
        some ((groupBytes group).take 2)
      else do
        let group ← groupValue first second third fourth
        let bytes ← decode rest
        some (groupBytes group ++ bytes)
  | [] => some []
  | _ => none

theorem symbolValue_symbol (value : Nat) : symbolValue (symbol value) = some (value % 64) := by
  have every : ∀ bits, bits < 64 → symbolValue (symbol bits) = some bits := by decide +kernel
  have reduced : symbol value = symbol (value % 64) := by
    unfold symbol
    rw [Nat.mod_mod]
  rw [reduced]
  exact every _ (Nat.mod_lt _ (by decide))

theorem symbol_ne_padding (value : Nat) : symbol value ≠ padding := by
  intro same
  have read := symbolValue_symbol value
  rw [same] at read
  cases read

theorem groupValue_symbols (first second third fourth : Nat) :
    groupValue (symbol first) (symbol second) (symbol third) (symbol fourth) =
      some (((first % 64 * 64 + second % 64) * 64 + third % 64) * 64 + fourth % 64) := by
  unfold groupValue
  simp only [symbolValue_symbol]
  rfl

/-- The characters of a group of 24 bits give the group. -/
theorem groupValue_group {group : Nat} (small : group < 16777216) :
    groupValue (symbol (group / 262144)) (symbol (group / 4096)) (symbol (group / 64))
      (symbol group) = some group := by
  rw [groupValue_symbols]
  congr 1
  omega

theorem groupBytes_group (first second third : UInt8) :
    groupBytes (first.toNat * 65536 + second.toNat * 256 + third.toNat) =
      [first, second, third] := by
  have firstSmall := first.toNat_lt
  have secondSmall := second.toNat_lt
  have thirdSmall := third.toNat_lt
  have high : (first.toNat * 65536 + second.toNat * 256 + third.toNat) / 65536 =
      first.toNat := by omega
  have middle : (first.toNat * 65536 + second.toNat * 256 + third.toNat) / 256 % 256 =
      second.toNat := by omega
  have low : (first.toNat * 65536 + second.toNat * 256 + third.toNat) % 256 =
      third.toNat := by omega
  have ofMod : ∀ value : Nat, UInt8.ofNat value = UInt8.ofNat (value % 256) :=
    fun value => UInt8.toNat_inj.mp (by simp)
  unfold groupBytes
  rw [high, ofMod (_ / 256), middle, ofMod (_ + _), low, UInt8.ofNat_toNat, UInt8.ofNat_toNat,
    UInt8.ofNat_toNat]

theorem decode_encode (bytes : List UInt8) : decode (encode bytes) = some bytes := by
  induction bytes using encode.induct with
  | case1 first second third rest ih =>
      have firstSmall := first.toNat_lt
      have secondSmall := second.toNat_lt
      have thirdSmall := third.toNat_lt
      have unpadded : ∀ value, ¬ (encode rest = [] ∧ symbol value = padding) :=
        fun value both => symbol_ne_padding value both.2
      rw [encode, groupSymbols, List.cons_append, List.cons_append, List.cons_append,
        List.cons_append, List.nil_append, decode,
        if_neg (fun both => symbol_ne_padding _ both.2.1), if_neg (unpadded _),
        groupValue_group (by omega), ih]
      exact congrArg (fun group => some (group ++ rest)) (groupBytes_group first second third)
  | case2 first second =>
      have firstSmall := first.toNat_lt
      have secondSmall := second.toNat_lt
      have group := groupBytes_group first second 0
      rw [UInt8.toNat_zero, Nat.add_zero] at group
      have last : symbol 0 = symbol (first.toNat * 65536 + second.toNat * 256) := by
        unfold symbol
        congr 1
        omega
      rw [encode, groupSymbols, List.take, List.take, List.take, List.take, List.cons_append,
        List.cons_append, List.cons_append, List.nil_append, decode,
        if_neg (fun both => symbol_ne_padding _ both.2.1), if_pos ⟨rfl, rfl⟩, last,
        groupValue_group (by omega)]
      exact congrArg (fun group => some (group.take 2)) group
  | case3 first =>
      have firstSmall := first.toNat_lt
      have group := groupBytes_group first 0 0
      rw [UInt8.toNat_zero, Nat.zero_mul, Nat.add_zero] at group
      have third : symbol 0 = symbol (first.toNat * 65536 / 64) := by
        unfold symbol
        congr 1
        omega
      have fourth : symbol 0 = symbol (first.toNat * 65536) := by
        unfold symbol
        congr 1
        omega
      rw [encode, groupSymbols, List.take, List.take, List.take, List.cons_append,
        List.cons_append, List.nil_append, decode, if_pos ⟨rfl, rfl, rfl⟩]
      have whole := @groupValue_group (first.toNat * 65536) (by omega)
      rw [← third, ← fourth] at whole
      rw [whole]
      exact congrArg (fun group => some (group.take 1)) group
  | case4 => rfl

/-- Different bytes have different texts. -/
theorem encode_injective : Function.Injective encode := by
  intro first second same
  have decoded := congrArg decode same
  rw [decode_encode, decode_encode] at decoded
  exact Option.some.inj decoded

end Foundations.Base64
