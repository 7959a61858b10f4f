import WebIdl.Json
import WebIdl.Json.Scan

set_option autoImplicit false

namespace WebIdl.Json

def utf8 (text : String) : Bytes := text.toUTF8.toList

theorem byte_array_to_list_from (bytes : ByteArray) (index : Nat) (front : List UInt8) :
    ByteArray.toList.loop bytes index front = front.reverse ++ bytes.data.toList.drop index := by
  fun_induction ByteArray.toList.loop bytes index front with
  | case1 index front inside ih =>
      have bound : index < bytes.data.toList.length := by simpa using inside
      have here : bytes.get! index = bytes.data.toList[index] := by
        simp [ByteArray.get!, inside]
      rw [ih, List.drop_eq_getElem_cons bound, List.reverse_cons, List.append_assoc, here]
      rfl
  | case2 index front outside =>
      rw [List.drop_of_length_le (by simpa using outside), List.append_nil]

theorem utf8_eq (text : String) : utf8 text = text.toByteArray.data.toList := by
  rw [utf8, ByteArray.toList, byte_array_to_list_from]
  rfl

theorem utf8_append (front back : String) : utf8 (front ++ back) = utf8 front ++ utf8 back := by
  simp [utf8_eq]

theorem utf8_of_list (chars : List Char) :
    utf8 (String.ofList chars) = chars.flatMap String.utf8EncodeChar := by
  simp [utf8_eq, List.utf8Encode]

theorem from_utf8 (text : String) : String.fromUTF8? ⟨(utf8 text).toArray⟩ = some text := by
  have bytes : (⟨(utf8 text).toArray⟩ : ByteArray) = text.toByteArray := by rw [utf8_eq]
  rw [bytes, String.fromUTF8?, dif_pos text.isValidUTF8]
  rfl

theorem ahead_append (front back : Bytes) (result : Except Fault (Bytes × Bytes)) :
    ahead front (ahead back result) = ahead (front ++ back) result := by
  cases result with
  | ok read => rw [ahead, ahead, ahead, List.append_assoc]
  | error fault => rfl

structure Plain (byte : UInt8) : Prop where
  quote : byte ≠ 0x22
  backslash : byte ≠ 0x5C
  control : ¬ byte < 0x20

theorem plain_byte_read (byte : UInt8) (rest : Bytes) (plain : Plain byte) :
    readStringBytes (byte :: rest) = ahead [byte] (readStringBytes rest) := by
  rw [readStringBytes, if_neg plain.quote, if_neg plain.control]
  all_goals simp [plain.backslash]

theorem plain_bytes_read (bytes rest : Bytes) (plain : ∀ byte ∈ bytes, Plain byte) :
    readStringBytes (bytes ++ rest) = ahead bytes (readStringBytes rest) := by
  induction bytes with
  | nil =>
      rw [List.nil_append]
      cases readStringBytes rest <;> rfl
  | cons byte bytes ih =>
      obtain ⟨first, later⟩ := List.forall_mem_cons.mp plain
      rw [List.cons_append, plain_byte_read byte _ first, ih later, ahead_append]
      rfl

theorem escaped_byte_read (byte value : UInt8) (rest : Bytes) (short : byte ≠ 0x75)
    (escaped : escapedByte byte = some value) :
    readStringBytes (0x5C :: byte :: rest) = ahead [value] (readStringBytes rest) := by
  rw [readStringBytes, escaped]
  all_goals simp [short]

theorem code_read (a b c d : UInt8) (code : Nat) (rest : Bytes)
    (quad : hexQuad a b c d = some code) (last : ¬ (0xDC00 ≤ code ∧ code ≤ 0xDFFF))
    (whole : code < 0xD800 ∨ 0xDBFF < code) :
    readStringBytes (0x5C :: 0x75 :: a :: b :: c :: d :: rest) =
      ahead (charBytes code) (readStringBytes rest) := by
  rw [readStringBytes, quad]
  dsimp only
  rw [if_neg last, if_pos whole]

theorem plain_of_nat (code : Nat) (small : code < 256) (quote : code ≠ 34) (backslash : code ≠ 92)
    (printed : 32 ≤ code) : Plain (UInt8.ofNat code) := by
  have value : (UInt8.ofNat code).toNat = code := UInt8.toNat_ofNat_of_lt' small
  constructor
  · intro same
    exact quote (value.symm.trans (congrArg UInt8.toNat same))
  · intro same
    exact backslash (value.symm.trans (congrArg UInt8.toNat same))
  · rw [UInt8.lt_iff_toNat_lt, value]
    exact Nat.not_lt.mpr printed

theorem high_plain (code : Nat) (small : code < 256) (high : 128 ≤ code) :
    Plain (UInt8.ofNat code) :=
  plain_of_nat code small (by omega) (by omega) (by omega)

theorem char_plain (c : Char) (quote : c ≠ '"') (backslash : c ≠ '\\') (printed : 32 ≤ c.toNat) :
    ∀ byte ∈ String.utf8EncodeChar c, Plain byte := by
  have noQuote : c.toNat ≠ 34 := fun same => quote (Char.toNat_inj.mp same)
  have noBackslash : c.toNat ≠ 92 := fun same => backslash (Char.toNat_inj.mp same)
  have code : c.val.toNat = c.toNat := rfl
  unfold String.utf8EncodeChar
  simp only [code]
  intro byte member
  split at member
  · obtain rfl := List.mem_singleton.mp member
    exact plain_of_nat _ (by omega) noQuote noBackslash printed
  · -- Every byte of a longer character has its highest bit.
    split at member
    · simp only [List.mem_cons, List.not_mem_nil, or_false] at member
      rcases member with rfl | rfl <;> exact high_plain _ (by omega) (by omega)
    · split at member
      · simp only [List.mem_cons, List.not_mem_nil, or_false] at member
        rcases member with rfl | rfl | rfl <;> exact high_plain _ (by omega) (by omega)
      · simp only [List.mem_cons, List.not_mem_nil, or_false] at member
        rcases member with rfl | rfl | rfl | rfl <;> exact high_plain _ (by omega) (by omega)

theorem padded_quad : ∀ code < 32, ∃ a b c d : UInt8,
    (Text.hexPadded 4 code).flatMap String.utf8EncodeChar = [a, b, c, d] ∧
      hexQuad a b c d = some code := by
  have digits : ∀ code < 32,
      let last := (String.utf8EncodeChar (Text.hexDigit (code % 16))).headD 0
      (Text.hexPadded 4 code).flatMap String.utf8EncodeChar =
          [0x30, 0x30, UInt8.ofNat (48 + code / 16), last] ∧
        hexQuad 0x30 0x30 (UInt8.ofNat (48 + code / 16)) last = some code := by decide
  exact fun code control => ⟨_, _, _, _, digits code control⟩

theorem escape_read (c : Char) (rest : Bytes) :
    readStringBytes ((escape c).flatMap String.utf8EncodeChar ++ rest) =
      ahead (String.utf8EncodeChar c) (readStringBytes rest) := by
  unfold escape
  split
  · exact escaped_byte_read 0x22 0x22 rest (by decide) rfl
  · exact escaped_byte_read 0x5C 0x5C rest (by decide) rfl
  · exact escaped_byte_read 0x6E 0x0A rest (by decide) rfl
  · exact escaped_byte_read 0x72 0x0D rest (by decide) rfl
  · exact escaped_byte_read 0x74 0x09 rest (by decide) rfl
  · rename_i quote backslash _ _ _
    split
    · rename_i backspace
      obtain rfl : c = Char.ofNat 8 := by rw [← backspace, Char.ofNat_toNat]
      exact escaped_byte_read 0x62 0x08 rest (by decide) rfl
    · split
      · rename_i feed
        obtain rfl : c = Char.ofNat 12 := by rw [← feed, Char.ofNat_toNat]
        exact escaped_byte_read 0x66 0x0C rest (by decide) rfl
      · split
        · rename_i control
          obtain ⟨one, two, three, four, digits, quad⟩ := padded_quad c.toNat control
          have read := code_read one two three four c.toNat rest quad (by omega) (by omega)
          rw [charBytes, Char.ofNat_toNat] at read
          rw [List.flatMap_cons, List.flatMap_cons, digits]
          exact read
        · rename_i printed
          rw [List.flatMap_singleton]
          exact plain_bytes_read _ rest (char_plain c quote backslash (by omega))

theorem chars_read (chars : List Char) (rest : Bytes) :
    readStringBytes ((chars.flatMap escape).flatMap String.utf8EncodeChar ++ 0x22 :: rest) =
      .ok (chars.flatMap String.utf8EncodeChar, rest) := by
  induction chars with
  | nil => rfl
  | cons c chars ih =>
      rw [List.flatMap_cons, List.flatMap_append, List.append_assoc, escape_read, ih, ahead,
        List.flatMap_cons]

def quoted (text : String) : Bytes :=
  (text.toList.flatMap escape).flatMap String.utf8EncodeChar ++ [0x22]

theorem utf8_quote (text : String) : utf8 (quote text) = 0x22 :: quoted text := by
  rw [quote, utf8_of_list, List.flatMap_append, List.flatMap_append]
  rfl

theorem quoted_read (text : String) (rest : Bytes) :
    readString (quoted text ++ rest) = .ok (text, rest) := by
  have written : text.toList.flatMap String.utf8EncodeChar = utf8 text := by
    rw [← utf8_of_list, String.ofList_toList]
  rw [readString, quoted, List.append_assoc, List.singleton_append, chars_read]
  dsimp only
  rw [written, from_utf8]

end WebIdl.Json
