import Pure3270.Emulation.Ebcdic

/-!
# The code pages of the codec

The codec has a table for code page 037 and for five code pages that replace a part of
it.  Decoding and the test for encodable characters go by the table; the encoding of a
text in which every character is encodable is left to the standard library, which knows
code page 037 only.  A character is a code point, so that a text may hold surrogates.
-/

namespace Pure3270

inductive Codepage where
  | cp037
  | cp930
  | cp933
  | cp935
  | cp937
  | cp939
  deriving DecidableEq

namespace Codepage

def name : Codepage → String
  | cp037 => "cp037"
  | cp930 => "cp930"
  | cp933 => "cp933"
  | cp935 => "cp935"
  | cp937 => "cp937"
  | cp939 => "cp939"

/-- `_CUSTOM_CODEPAGES`: the characters of the bytes from 0x41 on. -/
def customMappings : Codepage → List Char
  | cp037 => []
  | cp930 =>
      ['｡', '｢', '｣', '､', '･', 'ｦ', 'ｧ', 'ｨ', 'ｩ', 'ｪ', 'ｫ', 'ｬ', 'ｭ', 'ｮ', 'ｯ', 'ｰ',
        'ｱ', 'ｲ', 'ｳ', 'ｴ', 'ｵ', 'ｶ', 'ｷ', 'ｸ', 'ｹ', 'ｺ', 'ｻ', 'ｼ', 'ｽ', 'ｾ', 'ｿ', 'ﾀ',
        'ﾁ', 'ﾂ', 'ﾃ', 'ﾄ', 'ﾅ', 'ﾆ', 'ﾇ', 'ﾈ', 'ﾉ', 'ﾊ', 'ﾋ', 'ﾌ', 'ﾍ', 'ﾎ', 'ﾏ', 'ﾐ',
        'ﾑ', 'ﾒ', 'ﾓ', 'ﾔ', 'ﾕ', 'ﾖ', 'ﾗ', 'ﾘ', 'ﾙ', 'ﾚ', 'ﾛ', 'ﾜ', 'ﾝ', 'ﾞ', 'ﾟ']
  | cp933 =>
      ['ㄱ', 'ㄲ', 'ㄳ', 'ㄴ', 'ㄵ', 'ㄶ', 'ㄷ', 'ㄸ', 'ㄹ', 'ㄺ', 'ㄻ', 'ㄼ', 'ㄽ', 'ㄾ', 'ㄿ', 'ㅀ',
        'ㅁ', 'ㅂ', 'ㅃ', 'ㅄ', 'ㅅ', 'ㅆ', 'ㅇ', 'ㅈ', 'ㅉ', 'ㅊ', 'ㅋ', 'ㅌ', 'ㅍ', 'ㅎ', 'ㅏ', 'ㅐ',
        'ㅑ', 'ㅒ', 'ㅓ', 'ㅔ', 'ㅕ', 'ㅖ', 'ㅗ', 'ㅘ', 'ㅙ', 'ㅚ', 'ㅛ', 'ㅜ', 'ㅝ', 'ㅞ', 'ㅟ', 'ㅠ',
        'ㅡ', 'ㅢ', 'ㅣ', '가', '나', '다', '라', '마', '바', '사', '아', '자', '차', '카', '타']
  | cp935 =>
      ['一', '二', '三', '四', '五', '六', '七', '八', '九', '十', '百', '千', '萬', '億', '兆', '年',
        '月', '日', '時', '分', '秒', '中', '國', '人', '大', '小', '上', '下', '左', '右', '東', '西',
        '南', '北', '山', '水', '火', '土', '木', '金', '天', '地', '風', '雲', '雨', '雪', '電', '雷',
        '冰', '霧', '露', '霜', '花', '草', '樹', '林', '森', '竹', '石', '岩', '砂', '土', '泥']
  | cp937 =>
      ['一', '二', '三', '四', '五', '六', '七', '八', '九', '十', '百', '千', '万', '亿', '兆', '年',
        '月', '日', '时', '分', '秒', '中', '国', '人', '大', '小', '上', '下', '左', '右', '东', '西',
        '南', '北', '山', '水', '火', '土', '木', '金', '天', '地', '风', '云', '雨', '雪', '电', '雷',
        '冰', '雾', '露', '霜', '花', '草', '树', '林', '森', '竹', '石', '岩', '沙', '土', '泥']
  | cp939 =>
      ['あ', 'い', 'う', 'え', 'お', 'か', 'き', 'く', 'け', 'こ', 'さ', 'し', 'す', 'せ', 'そ', 'た',
        'ち', 'つ', 'て', 'と', 'な', 'に', 'ぬ', 'ね', 'の', 'は', 'ひ', 'ふ', 'へ', 'ほ', 'ま', 'み',
        'む', 'め', 'も', 'や', 'ゆ', 'よ', 'ら', 'り', 'る', 'れ', 'ろ', 'わ', 'を', 'ん', 'が', 'ぎ',
        'ぐ', 'げ', 'ご', 'ざ', 'じ', 'ず', 'ぜ', 'ぞ', 'だ', 'ぢ', 'づ', 'で', 'ど', 'ば', 'び']

/-- `_get_ebcdic_to_unicode_table`: code page 037 with the characters of the page stored
over it. -/
def table (page : Codepage) : List Nat :=
  (page.customMappings.zipIdx 0x41).foldl
    (fun table entry => table.set entry.2 entry.1.toNat) Ebcdic.cp037

end Codepage

/-- What an encoding raises. -/
inductive EncodeError where
  | lookupError (message : String)
  | unicodeEncodeError (point : Nat)
  deriving DecidableEq

namespace EbcdicCodec

/-- The first byte that stands for a character. -/
def reverseByte (table : List Nat) (point : Nat) : Option UInt8 :=
  if point ∈ table then some (UInt8.ofNat (table.idxOf point)) else none

/-- `str.encode` of the standard library. -/
def strEncode (page : Codepage) (text : List Nat) : Except EncodeError (List UInt8) :=
  match page with
  | .cp037 =>
      text.mapM fun point =>
        match reverseByte Ebcdic.cp037 point with
        | some byte => .ok byte
        | none => .error (.unicodeEncodeError point)
  | custom => .error (.lookupError s!"unknown encoding: {custom.name}")

/-- `_encode_ebcdic` without the optional package.  Only an unencodable character is
replaced. -/
def encodeEbcdic (page : Codepage) (text : List Nat) : Except EncodeError (List UInt8) :=
  if text = [] then .ok []
  else
    match strEncode page text with
    | .error (.unicodeEncodeError _) =>
        strEncode page (text.map fun point =>
          match strEncode page [point] with
          | .error (.unicodeEncodeError _) => 0x20
          | _ => point)
    | encoded => encoded

/-- The characters that pass the test before an encoding: those of the table and those of
code page 037. -/
def Representable (page : Codepage) (point : Nat) : Prop :=
  point ∈ page.table ∨ point ∈ Ebcdic.cp037

instance (page : Codepage) (point : Nat) : Decidable (Representable page point) :=
  inferInstanceAs (Decidable (_ ∨ _))

/-- The conservative encoding of one character. -/
def conservativeByte (compat : Option String) (page : Codepage) (point : Nat) : UInt8 :=
  match reverseByte page.table point with
  | some byte => byte
  | none =>
      if (0xDC80 ≤ point ∧ point ≤ 0xDCFF) ∨ (0xD800 ≤ point ∧ point ≤ 0xDBFF) then 0x6F
      else if compat = some "p3270" then 0x7A
      else 0x40

/-- `EBCDICCodec.encode` of a string. -/
def encode (compat : Option String) (page : Codepage) (text : List Nat) :
    Except EncodeError (List UInt8 × Nat) :=
  if text = [] then .ok ([], 0)
  else if ∀ point ∈ text, Representable page point then do
    let result ← encodeEbcdic page text
    .ok (result, result.length)
  else
    let out := text.map (conservativeByte compat page)
    .ok (out, out.length)

/-- What decoding makes of one character of the table. -/
def cleanPoint (point : Nat) : Nat :=
  if (32 ≤ point ∧ point ≠ 0x7F) ∨ point ∈ [0x00, 0x09, 0x0A, 0x0D] then point else 0x20

/-- `EBCDICCodec.decode`. -/
def decode (page : Codepage) (data : List UInt8) : List Nat × Nat :=
  let decoded := data.map fun byte => cleanPoint (page.table.getD byte.toNat 0x20)
  (decoded, decoded.length)

/-- The text is encoded, and a text over the characters of the table that have one byte
comes back. -/
def RoundTrips (compat : Option String) (page : Codepage) (text : List Nat) : Prop :=
  ∃ result, encode compat page text = .ok result ∧
    ((∀ point ∈ text, page.table.count point = 1) → (decode page result.1).1 = text)

/-- A text is empty, or has a character that fails the test, or is one of code page 037
without the control characters that decoding blanks. -/
def Survives (page : Codepage) (text : List Nat) : Prop :=
  text = [] ∨ (∃ point ∈ text, ¬ Representable page point) ∨
    (page = .cp037 ∧ ∀ point ∈ text, cleanPoint point = point)

/-- The byte of a character of code page 037. -/
def cp037Byte (point : Nat) : UInt8 := UInt8.ofNat (Ebcdic.cp037.idxOf point)

variable {compat : Option String} {page : Codepage} {text : List Nat} {point : Nat}

theorem table_cp037 : Codepage.cp037.table = Ebcdic.cp037 := rfl

theorem representable_cp037 : Representable .cp037 point ↔ point ∈ Ebcdic.cp037 :=
  or_self_iff

theorem cp037Byte_toNat (known : point ∈ Ebcdic.cp037) :
    (cp037Byte point).toNat = Ebcdic.cp037.idxOf point := by
  have inside := List.idxOf_lt_length_of_mem known
  rw [Ebcdic.cp037_length] at inside
  exact UInt8.toNat_ofNat_of_lt' inside

/-- Decoding the byte of a character gives the character, cleaned. -/
theorem decode_cp037Byte (known : ∀ point ∈ text, point ∈ Ebcdic.cp037) :
    (decode .cp037 (text.map cp037Byte)).1 = text.map cleanPoint := by
  show (text.map cp037Byte).map _ = _
  rw [List.map_map]
  refine List.map_congr_left fun point member => ?_
  have found := List.getElem_idxOf (List.idxOf_lt_length_of_mem (known point member))
  show cleanPoint (Ebcdic.cp037.getD (cp037Byte point).toNat 0x20) = _
  rw [cp037Byte_toNat (known point member), List.getD_eq_getElem?_getD,
    List.getElem?_eq_getElem (List.idxOf_lt_length_of_mem (known point member)), found]
  rfl

theorem strEncode_cp037 (known : ∀ point ∈ text, point ∈ Ebcdic.cp037) :
    strEncode .cp037 text = .ok (text.map cp037Byte) := by
  induction text with
  | nil => rfl
  | cons point rest ih =>
      have found : reverseByte Ebcdic.cp037 point = some (cp037Byte point) :=
        if_pos (known point List.mem_cons_self)
      have later := ih fun other member => known other (List.mem_cons_of_mem _ member)
      unfold strEncode at later ⊢
      dsimp only at later ⊢
      rw [List.mapM_cons, later, found]
      rfl

/-- What stands in the table passes the test. -/
theorem representable_of_count (single : page.table.count point = 1) :
    Representable page point :=
  .inl (List.count_pos_iff.mp (by omega))

theorem encode_cp037 (known : ∀ point ∈ text, point ∈ Ebcdic.cp037) :
    encode compat .cp037 text = .ok (text.map cp037Byte, text.length) := by
  have passes : ∀ point ∈ text, Representable .cp037 point :=
    fun point member => .inr (known point member)
  unfold encode encodeEbcdic
  rw [if_pos passes, strEncode_cp037 known]
  by_cases empty : text = []
  · rw [if_pos empty, empty]
    rfl
  · rw [if_neg empty, if_neg empty]
    show Except.ok (_, (text.map cp037Byte).length) = _
    rw [List.length_map]

/-- The standard library knows no custom page. -/
theorem encode_custom (custom : page ≠ .cp037) (some : text ≠ [])
    (passes : ∀ point ∈ text, Representable page point) :
    encode compat page text =
      .error (.lookupError s!"unknown encoding: {page.name}") := by
  unfold encode encodeEbcdic
  rw [if_neg some, if_pos passes, if_neg some]
  cases page with
  | cp037 => exact absurd rfl custom
  | _ => rfl

/-- A text that fails the test is encoded character by character. -/
theorem encode_unrepresentable (fails : ∃ point ∈ text, ¬ Representable page point) :
    encode compat page text = .ok (text.map (conservativeByte compat page),
      (text.map (conservativeByte compat page)).length) := by
  obtain ⟨point, member, unknown⟩ := fails
  have some : text ≠ [] := List.ne_nil_of_mem member
  have blocked : ¬ ∀ point ∈ text, Representable page point :=
    fun passes => unknown (passes point member)
  unfold encode
  rw [if_neg some, if_neg blocked]

/-- Such a text is no text over the table. -/
theorem roundTrips_of_unrepresentable (fails : ∃ point ∈ text, ¬ Representable page point) :
    RoundTrips compat page text := by
  refine ⟨_, encode_unrepresentable fails, fun single => ?_⟩
  obtain ⟨point, member, unknown⟩ := fails
  exact absurd (representable_of_count (single point member)) unknown

/-- A text survives if and only if the codec encodes it and, where its characters have
one byte, gives it back. -/
theorem roundTrips_iff_survives : RoundTrips compat page text ↔ Survives page text := by
  constructor
  · rintro ⟨result, encoded, back⟩
    by_cases empty : text = []
    · exact .inl empty
    by_cases passes : ∀ point ∈ text, Representable page point
    · refine .inr (.inr ?_)
      by_cases custom : page = .cp037
      · subst custom
        have known : ∀ point ∈ text, point ∈ Ebcdic.cp037 :=
          fun point member => representable_cp037.mp (passes point member)
        rw [encode_cp037 known] at encoded
        cases encoded
        have single : ∀ point ∈ text, Codepage.cp037.table.count point = 1 :=
          fun point member => List.count_eq_one_of_mem Ebcdic.cp037_nodup (known point member)
        have same := (decode_cp037Byte known).symm.trans (back single)
        exact ⟨rfl, List.map_inj_left.mp (same.trans (List.map_id text).symm)⟩
      · rw [encode_custom custom empty passes] at encoded
        cases encoded
    · push Not at passes
      exact .inr (.inl passes)
  · rintro (rfl | fails | ⟨rfl, kept⟩)
    · exact ⟨_, rfl, fun _ => rfl⟩
    · exact roundTrips_of_unrepresentable fails
    · by_cases known : ∀ point ∈ text, point ∈ Ebcdic.cp037
      · refine ⟨_, encode_cp037 known, fun _ => ?_⟩
        rw [decode_cp037Byte known]
        exact (List.map_congr_left kept).trans (List.map_id text)
      · push Not at known
        obtain ⟨point, member, unknown⟩ := known
        exact roundTrips_of_unrepresentable
          ⟨point, member, fun passes => unknown (representable_cp037.mp passes)⟩

/-- One letter under a page of its own. -/
theorem not_roundTrips_letter : ¬ RoundTrips none .cp930 [0x61] := by
  rintro ⟨result, encoded, _⟩
  rw [encode_custom (by decide) (by decide) (by decide +kernel)] at encoded
  cases encoded

theorem cleanChar_toNat (char : Char) :
    (Ebcdic.cleanChar char).toNat = cleanPoint char.toNat := by
  have inj : ∀ other : Char, char = other ↔ char.toNat = other.toNat :=
    fun other => Char.toNat_inj.symm
  unfold Ebcdic.cleanChar cleanPoint Ebcdic.preserveChars
  simp only [ne_eq, List.mem_cons, List.not_mem_nil, or_false, inj]
  split
  · rename_i kept
    exact (if_pos kept).symm
  · rename_i blanked
    exact (if_neg blanked).symm

theorem decode_cp037 (data : List UInt8) :
    (decode .cp037 data).1 = (Ebcdic.decode Ebcdic.cp037Char data).map Char.toNat := by
  show data.map _ = List.map _ (data.map _)
  rw [List.map_map]
  refine List.map_congr_left fun byte _ => ?_
  have inside : byte.toNat < Ebcdic.cp037.length := by
    rw [Ebcdic.cp037_length]
    exact byte.toNat_lt
  show cleanPoint (Ebcdic.cp037.getD byte.toNat 0x20) = (Ebcdic.cleanChar _).toNat
  rw [cleanChar_toNat, Ebcdic.cp037Char_toNat, List.getD_eq_getElem?_getD,
    List.getElem?_eq_getElem inside]
  rfl

/-- A character is no surrogate, and an unknown one becomes an EBCDIC space. -/
theorem conservativeByte_char (char : Char) :
    conservativeByte none .cp037 char.toNat = Ebcdic.encodeChar char := by
  have noSurrogate : ¬ ((0xDC80 ≤ char.toNat ∧ char.toNat ≤ 0xDCFF) ∨
      (0xD800 ≤ char.toNat ∧ char.toNat ≤ 0xDBFF)) := by
    have valid : char.toNat.isValidChar := char.valid
    unfold Nat.isValidChar at valid
    omega
  unfold conservativeByte reverseByte Ebcdic.encodeChar
  rw [table_cp037]
  by_cases known : char.toNat ∈ Ebcdic.cp037
  · rw [if_pos known, if_pos known]
  · rw [if_neg known, if_neg known]
    dsimp only
    rw [if_neg noSurrogate, if_neg (by decide)]

theorem encode_chars (text : List Char) :
    (encode none .cp037 (text.map Char.toNat)).map Prod.fst = .ok (Ebcdic.encode text) := by
  by_cases known : ∀ point ∈ text.map Char.toNat, point ∈ Ebcdic.cp037
  · rw [encode_cp037 known, List.map_map]
    refine congrArg Except.ok (List.map_congr_left fun char member => ?_)
    exact (if_pos (known _ (List.mem_map_of_mem member))).symm
  · push Not at known
    obtain ⟨point, member, unknown⟩ := known
    rw [encode_unrepresentable
      ⟨point, member, fun passes => unknown (representable_cp037.mp passes)⟩, List.map_map]
    exact congrArg Except.ok (List.map_congr_left fun char _ => conservativeByte_char char)

end EbcdicCodec

end Pure3270
