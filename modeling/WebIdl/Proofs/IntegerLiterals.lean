import WebIdl.Attempt
import WebIdl.Definitions.OfNode
import WebIdl.Projection
import WebIdl.Proofs.Numerals

set_option autoImplicit false

namespace WebIdl

namespace Literal

inductive Unsigned : List Char → Nat → Prop
  | hexadecimal (mark : Char) (digits : List Char) (value : Nat) (marked : mark = 'x' ∨ mark = 'X')
      (denotes : Decimal.Denotes 16 digits value) : Unsigned ('0' :: mark :: digits) value
  | octal (digits : List Char) (value : Nat) (denotes : Decimal.Denotes 8 digits value) :
      Unsigned ('0' :: digits) value
  | decimal (digits : List Char) (value : Nat) (denotes : Decimal.Denotes 10 digits value)
      (leading : digits.head? = some '0' → digits = ['0']) : Unsigned digits value

inductive Written : List Char → Int → Prop
  | unsigned (text : List Char) (value : Nat) (read : Unsigned text value) : Written text value
  | positive (text : List Char) (value : Nat) (read : Unsigned text value) :
      Written ('+' :: text) value
  | negative (text : List Char) (value : Nat) (read : Unsigned text value) :
      Written ('-' :: text) (-value)

theorem denotes_begins (radix : Nat) (c : Char) (rest : List Char) (value : Nat)
    (denotes : Decimal.Denotes radix (c :: rest) value) :
    ∃ count, Decimal.IsDigit radix c count := by
  obtain ⟨-, _, _ | ⟨digit, _⟩, -⟩ := denotes
  exact ⟨_, digit⟩

theorem sign_no_digit (radix : Nat) (c : Char) (count : Nat) (few : radix ≤ 10)
    (digit : Decimal.IsDigit radix c count) : c ≠ '+' ∧ c ≠ '-' ∧ c ≠ 'x' ∧ c ≠ 'X' := by
  have apart : ∀ n < 10, Nat.digitChar n ∉ ['+', '-', 'x', 'X'] ∧
      (Nat.digitChar n).toUpper ∉ ['+', '-', 'x', 'X'] := by decide
  obtain ⟨below, spelled⟩ := digit
  obtain ⟨letter, capital⟩ := apart count (by omega)
  have other : c ∉ ['+', '-', 'x', 'X'] := by
    obtain rfl | rfl := spelled
    · exact letter
    · exact capital
  simpa using other

theorem radixed_octal (c : Char) (rest : List Char) (plain : c ≠ 'x' ∧ c ≠ 'X') :
    radixed ('0' :: c :: rest) = (8, c :: rest) := by
  unfold radixed
  split <;> simp_all

theorem radixed_decimal (text : List Char) (leading : text.head? = some '0' → text = ['0']) :
    radixed text = (10, text) := by
  unfold radixed
  split <;> simp_all

theorem unsigned_iff (text : List Char) (value : Nat) :
    Decimal.readNat (radixed text).1 (radixed text).2 = some value ↔ Unsigned text value := by
  have denoted : ∀ radix ≤ 16, ∀ digits, Decimal.readNat radix digits = some value ↔
      Decimal.Denotes radix digits value := fun radix bound digits =>
    Decimal.read_nat_iff radix digits value bound
  constructor
  · intro read
    unfold radixed at read
    split at read
    · exact .hexadecimal 'x' _ value (.inl rfl) ((denoted 16 (by decide) _).mp read)
    · exact .hexadecimal 'X' _ value (.inr rfl) ((denoted 16 (by decide) _).mp read)
    · exact .octal _ value ((denoted 8 (by decide) _).mp read)
    · next _ _ longer =>
        refine .decimal text value ((denoted 10 (by decide) _).mp read) fun zero => ?_
        obtain ⟨rest, rfl⟩ := List.head?_eq_some_iff.mp zero
        cases rest with
        | nil => rfl
        | cons next rest => exact absurd rfl (longer next rest)
  · intro written
    cases written with
    | hexadecimal mark digits _ marked denotes =>
        obtain rfl | rfl := marked <;> exact (denoted 16 (by decide) _).mpr denotes
    | octal digits _ denotes =>
        cases digits with
        | nil => exact absurd rfl denotes.1
        | cons c rest =>
            obtain ⟨count, digit⟩ := denotes_begins 8 c rest value denotes
            obtain ⟨-, -, plain⟩ := sign_no_digit 8 c count (by decide) digit
            rw [radixed_octal c rest plain]
            exact (denoted 8 (by decide) _).mpr denotes
    | decimal _ _ denotes leading =>
        rw [radixed_decimal text leading]
        exact (denoted 10 (by decide) _).mpr denotes

theorem magnitude_iff (text : List Char) (value : Nat) :
    magnitude text = some value ↔ Unsigned text value ∧ value < 2 ^ 127 := by
  rw [← unsigned_iff]
  simp [magnitude, Option.filter_eq_some_iff]

def signOf : List Char → Int × List Char
  | '-' :: rest => (-1, rest)
  | '+' :: rest => (1, rest)
  | text => (1, text)

theorem sign_plain (c : Char) (rest : List Char) (plus : c ≠ '+') (minus : c ≠ '-') :
    signOf (c :: rest) = (1, c :: rest) := by
  unfold signOf
  split <;> simp_all

theorem digits_sign (radix : Nat) (text : List Char) (value : Nat) (few : radix ≤ 10)
    (denotes : Decimal.Denotes radix text value) : signOf text = (1, text) := by
  cases text with
  | nil => exact absurd rfl denotes.1
  | cons c rest =>
      obtain ⟨count, digit⟩ := denotes_begins radix c rest value denotes
      obtain ⟨plus, minus, -⟩ := sign_no_digit radix c count few digit
      exact sign_plain c rest plus minus

theorem unsigned_sign (text : List Char) (value : Nat) (written : Unsigned text value) :
    signOf text = (1, text) := by
  cases written with
  | hexadecimal | octal => exact sign_plain _ _ (by decide) (by decide)
  | decimal _ _ denotes => exact digits_sign 10 text value (by decide) denotes

theorem written_iff (text : List Char) (value : Int) :
    Written text value ↔ ∃ n : Nat, Unsigned (signOf text).2 n ∧ (signOf text).1 * n = value := by
  constructor
  · rintro (⟨_, n, read⟩ | ⟨_, n, read⟩ | ⟨_, n, read⟩)
    · rw [unsigned_sign text n read]
      exact ⟨n, read, by simp⟩
    · exact ⟨n, read, by simp [signOf]⟩
    · exact ⟨n, read, by simp [signOf]⟩
  · rintro ⟨n, read, rfl⟩
    unfold signOf at read ⊢
    split at read
    · simpa using Written.negative _ n read
    · simpa using Written.positive _ n read
    · simpa using Written.unsigned _ n read

theorem signed_integer_eq (text : List Char) :
    signedInteger text = (magnitude (signOf text).2).map fun n : Nat => (signOf text).1 * n := by
  unfold signedInteger
  split
  · next rest => cases read : magnitude rest <;> simp [signOf, read]
  · next rest => cases read : magnitude rest <;> simp [signOf, read]
  · cases read : magnitude text <;> simp [signOf, read]

theorem sign_unit (text : List Char) : (signOf text).1 = 1 ∨ (signOf text).1 = -1 := by
  unfold signOf
  split <;> simp

theorem signed_size (text : List Char) (n : Nat) : ((signOf text).1 * (n : Int)).natAbs = n := by
  obtain same | same := sign_unit text <;> simp [same]

theorem signed_integer_iff (text : List Char) (value : Int) :
    signedInteger text = some value ↔ Written text value ∧ value.natAbs < 2 ^ 127 := by
  rw [signed_integer_eq, Option.map_eq_some_iff, written_iff]
  constructor
  · rintro ⟨n, read, rfl⟩
    obtain ⟨written, small⟩ := (magnitude_iff _ n).mp read
    exact ⟨⟨n, written, rfl⟩, by rwa [signed_size]⟩
  · rintro ⟨⟨n, written, rfl⟩, small⟩
    rw [signed_size] at small
    exact ⟨n, (magnitude_iff _ n).mpr ⟨written, small⟩, rfl⟩

theorem of_integer_iff (text : String) (literal : Literal) :
    ofInteger text = .ok literal ↔ ∃ value, literal = .integer value ∧
      Written (Unicode.trim text.toList) value ∧ value.natAbs < 2 ^ 127 := by
  simp only [← signed_integer_iff]
  cases read : signedInteger (Unicode.trim text.toList) with
  | none => simp [ofInteger, read]
  | some value => simp [ofInteger, read, eq_comm]

def heldMagnitude (text : List Char) : Option Int :=
  match radixed text with
  | (_, []) => none
  | (radix, digits) => Decimal.heldFrom radix 0 digits

def heldInteger (text : List Char) : Option Int :=
  (heldMagnitude (signOf text).2).bind fun n => Decimal.held ((signOf text).1 * n)

theorem held_magnitude_eq (text : List Char) :
    heldMagnitude text = (magnitude text).map fun n : Nat => (n : Int) := by
  have some_radix : 0 < (radixed text).1 := by
    unfold radixed
    split <;> simp
  have start : 0 < Nat.pow 2 127 := by decide
  unfold heldMagnitude magnitude
  cases shape : (radixed text) with
  | mk radix digits =>
      cases digits with
      | nil => rfl
      | cons c rest =>
          rw [shape] at some_radix
          exact Decimal.held_from_eq radix 0 (c :: rest) some_radix start

theorem held_integer_eq (text : List Char) : heldInteger text = signedInteger text := by
  rw [heldInteger, held_magnitude_eq, signed_integer_eq]
  cases read : magnitude (signOf text).2 with
  | none => rfl
  | some n =>
      have small := ((magnitude_iff _ n).mp read).2
      rw [Option.map_some, Option.map_some, Option.bind_some]
      exact Decimal.held_small _ (by rwa [signed_size])

theorem decimal_unsigned (n : Nat) : Unsigned (Decimal.digits n) n :=
  .decimal _ _ ((Decimal.read_nat_iff 10 _ n (by decide)).mp (Decimal.read_digits n))
    (Decimal.digits_leading n)

theorem decimal_written (value : Int) : Written (toString value).toList value := by
  rw [Int.toString_eq_repr, Int.repr_eq_if]
  split
  · next whole =>
      rw [Nat.repr_eq_ofList_toDigits, String.toList_ofList]
      have written := Written.unsigned _ _ (decimal_unsigned value.toNat)
      rwa [Int.toNat_of_nonneg whole] at written
  · next below =>
      rw [Nat.repr_eq_ofList_toDigits, String.toList_append]
      have written := Written.negative _ _ (decimal_unsigned (-value).toNat)
      rw [Int.toNat_of_nonneg (by omega), Int.neg_neg] at written
      simpa [Decimal.digits] using written

theorem written_once (text : List Char) (value other : Int) (written : Written text value)
    (again : Written text other) : value = other := by
  obtain ⟨n, read, rfl⟩ := (written_iff text value).mp written
  obtain ⟨m, reread, rfl⟩ := (written_iff text other).mp again
  have same := ((unsigned_iff _ n).mpr read).symm.trans ((unsigned_iff _ m).mpr reread)
  rw [Option.some.inj same]

theorem integer_to_json_inj (value other : Int)
    (same : integerToJson value = integerToJson other) : value = other := by
  unfold integerToJson at same
  split at same <;> split at same
  · exact Json.int.inj same
  · cases same
  · cases same
  · have written := decimal_written value
    rw [Json.string.inj same] at written
    exact written_once _ _ _ written (decimal_written other)

theorem of_node_integer (node : Node) (value : PropertyValue)
    (kind : node.text? "TYPE" = some "integer") (given : node.property "VALUE" = some value) :
    ofNode node = ofInteger value.shown := by
  simp [ofNode, kind, given]

end Literal

namespace DictionaryMember

theorem gather_cons (name : String) (parts made : Parts) (child : Node) (rest : List Node)
    (read : gather name parts (child :: rest) = .ok made) :
    ∃ next, gather name next rest = .ok made ∧
      (child.kind = "Default" →
        ∃ default, Literal.ofNode child = .ok default ∧ next.default = some default) ∧
      (child.kind ≠ "Default" → next.default = parts.default) := by
  rw [gather] at read
  split at read
  · next kind =>
      obtain ⟨type, -, read⟩ := (bind_ok_iff _ _ _).mp read
      exact ⟨_, read, by simp [kind], fun _ => rfl⟩
  · next kind =>
      obtain ⟨default, made, read⟩ := (bind_ok_iff _ _ _).mp read
      exact ⟨_, read, fun _ => ⟨default, made, rfl⟩, fun other => absurd kind other⟩
  · next kind =>
      obtain ⟨attrs, -, read⟩ := (bind_ok_iff _ _ _).mp read
      exact ⟨_, read, by simp [kind], fun _ => rfl⟩
  · cases read

theorem gather_behind (name : String) (parts made : Parts) (front back : List Node)
    (read : gather name parts (front ++ back) = .ok made) :
    ∃ next, gather name next back = .ok made := by
  induction front generalizing parts with
  | nil => exact ⟨parts, read⟩
  | cons child rest ih =>
      obtain ⟨next, read, -⟩ := gather_cons name parts made child (rest ++ back) read
      exact ih next read

theorem gather_keeps_default (name : String) (parts made : Parts) (children : List Node)
    (others : ∀ child ∈ children, child.kind ≠ "Default")
    (read : gather name parts children = .ok made) : made.default = parts.default := by
  induction children generalizing parts with
  | nil =>
      cases read
      rfl
  | cons child rest ih =>
      obtain ⟨other, others⟩ := List.forall_mem_cons.mp others
      obtain ⟨next, read, -, keeps⟩ := gather_cons name parts made child rest read
      rw [ih next others read, keeps other]

structure SaysInteger (node : Node) (text : String) : Prop where
  last : ∃ front child back value, node.children = front ++ child :: back ∧
    child.kind = "Default" ∧ (∀ other ∈ back, other.kind ≠ "Default") ∧
    child.text? "TYPE" = some "integer" ∧ child.property "VALUE" = some value ∧ value.shown = text

theorem of_node_default (node : Node) (member : DictionaryMember) (text : String)
    (integer : SaysInteger node text) (read : ofNode node = .ok member) :
    ∃ value, Literal.ofInteger text = .ok (.integer value) ∧
      member.default = some (.integer value) := by
  obtain ⟨front, child, back, value, children, kind, others, type, given, rfl⟩ := integer.last
  rw [ofNode, bind_ok_iff] at read
  obtain ⟨parts, gathered, read⟩ := read
  rw [children] at gathered
  obtain ⟨before, gathered⟩ := gather_behind _ _ _ _ _ gathered
  obtain ⟨next, gathered, takes, -⟩ := gather_cons _ _ _ _ _ gathered
  obtain ⟨default, made, taken⟩ := takes kind
  rw [Literal.of_node_integer child value type given] at made
  obtain ⟨number, rfl, -⟩ := (Literal.of_integer_iff _ _).mp made
  have kept := gather_keeps_default _ _ _ _ others gathered
  simp only [bind_ok_iff] at read
  obtain ⟨_, _, _, _, _, _, ⟨⟩⟩ := read
  exact ⟨number, made, kept.trans taken⟩

end DictionaryMember

-- An integer literal is read for what it denotes if that is below `2 ^ 127` in size, whether or not
-- every step of the reading is held to 128 bits, and the record of a default tells it exactly.
theorem Literal.integer_told_exactly (text : String) :
    (∀ literal, ofInteger text = .ok literal ↔ ∃ value, literal = .integer value ∧
      Written (Unicode.trim text.toList) value ∧ value.natAbs < 2 ^ 127) ∧
    heldInteger (Unicode.trim text.toList) = signedInteger (Unicode.trim text.toList) ∧
    (∀ node member, DictionaryMember.SaysInteger node text →
      DictionaryMember.ofNode node = .ok member →
        ∃ value, ofInteger text = .ok (.integer value) ∧ member.default = some (.integer value)) ∧
    (∀ (member : DictionaryMember) value, member.default = some (.integer value) →
      Written (toString value).toList value ∧
      (Projection.memberOf member).default =
        if -2 ^ 63 ≤ value ∧ value < 2 ^ 64 then .int value else .string (toString value)) ∧
    ∀ (member other : DictionaryMember) value otherValue,
      member.default = some (.integer value) → other.default = some (.integer otherValue) →
        (Projection.memberOf member).default = (Projection.memberOf other).default →
          value = otherValue := by
  refine ⟨of_integer_iff text, held_integer_eq _,
    fun node member => DictionaryMember.of_node_default node member text, ?_, ?_⟩
  · intro member value given
    refine ⟨decimal_written value, ?_⟩
    simp [Projection.memberOf, given, Projection.defaultOf, toJson, integerToJson]
  · intro member other value otherValue given otherGiven same
    apply integer_to_json_inj
    simpa [Projection.memberOf, given, otherGiven, Projection.defaultOf, toJson] using same

def DictionaryMember.integerKey (text : String) : Node :=
  (Node.leaf "Key").withChildren
    [(Node.leaf "Type").withChild ((Node.leaf "PrimitiveType").named "long"),
      ((Node.leaf "Default").withProperty "TYPE" (.text "integer")).withProperty "VALUE"
        (.text text)]

theorem Literal.hexadecimal_told :
    DictionaryMember.SaysInteger (DictionaryMember.integerKey "\u00a0-0X1f\n") "\u00a0-0X1f\n" ∧
      ∃ member,
        DictionaryMember.ofNode (DictionaryMember.integerKey "\u00a0-0X1f\n") = .ok member ∧
          member.default = some (.integer (-31)) ∧
          (Projection.memberOf member).default = .int (-31) := by
  have integer : DictionaryMember.SaysInteger (DictionaryMember.integerKey "\u00a0-0X1f\n")
      "\u00a0-0X1f\n" := ⟨[_], _, [], .text _, rfl, rfl, by simp, rfl, rfl, rfl⟩
  obtain ⟨member, read⟩ : ∃ member,
      DictionaryMember.ofNode (DictionaryMember.integerKey "\u00a0-0X1f\n") = .ok member := ⟨_, rfl⟩
  have literal : ofInteger "\u00a0-0X1f\n" = .ok (.integer (-31)) := rfl
  obtain ⟨-, -, defaults, records, -⟩ := integer_told_exactly "\u00a0-0X1f\n"
  obtain ⟨value, made, given⟩ := defaults _ member integer read
  cases literal.symm.trans made
  exact ⟨integer, member, read, given, (records member _ given).2⟩

namespace Literal

theorem digit_solid (radix : Nat) (c : Char) (count : Nat) (bound : radix ≤ 16)
    (digit : Decimal.IsDigit radix c count) : Unicode.isBlank c = false := by
  have inked : ∀ n < 16, Unicode.isBlank (Nat.digitChar n) = false ∧
      Unicode.isBlank (Nat.digitChar n).toUpper = false := by decide
  obtain ⟨below, spelled⟩ := digit
  obtain ⟨letter, capital⟩ := inked count (by omega)
  obtain rfl | rfl := spelled
  · exact letter
  · exact capital

theorem denotes_solid (radix : Nat) (text : List Char) (value : Nat) (bound : radix ≤ 16)
    (denotes : Decimal.Denotes radix text value) : ∀ c ∈ text, Unicode.isBlank c = false := by
  obtain ⟨-, counts, digits, -⟩ := denotes
  induction digits with
  | nil => exact List.forall_mem_nil _
  | cons digit _ ih => exact List.forall_mem_cons.mpr ⟨digit_solid radix _ _ bound digit, ih⟩

theorem unsigned_solid (text : List Char) (value : Nat) (written : Unsigned text value) :
    ∀ c ∈ text, Unicode.isBlank c = false := by
  have zero : Unicode.isBlank '0' = false := by decide
  cases written with
  | hexadecimal mark digits _ marked denotes =>
      have inked : Unicode.isBlank mark = false := by obtain rfl | rfl := marked <;> decide
      exact List.forall_mem_cons.mpr ⟨zero, List.forall_mem_cons.mpr
        ⟨inked, denotes_solid 16 digits value (by decide) denotes⟩⟩
  | octal digits _ denotes =>
      exact List.forall_mem_cons.mpr ⟨zero, denotes_solid 8 digits value (by decide) denotes⟩
  | decimal _ _ denotes => exact denotes_solid 10 text value (by decide) denotes

theorem written_trimmed (text : List Char) (value : Int) (written : Written text value) :
    Unicode.trim text = text := by
  apply Unicode.trim_solid
  cases written with
  | unsigned _ n read => exact unsigned_solid text n read
  | positive rest n read =>
      exact List.forall_mem_cons.mpr ⟨by decide, unsigned_solid rest n read⟩
  | negative rest n read =>
      exact List.forall_mem_cons.mpr ⟨by decide, unsigned_solid rest n read⟩

theorem of_integer_written (text : String) (value : Int) (written : Written text.toList value) :
    ofInteger text = if value.natAbs < 2 ^ 127 then .ok (.integer value)
      else .error (.malformedValue .integerLiteral text) := by
  have trimmed := written_trimmed text.toList value written
  split
  · next small =>
      have read := (signed_integer_iff text.toList value).mpr ⟨written, small⟩
      simp only [ofInteger, trimmed, read]
  · next large =>
      have unread : signedInteger text.toList = none := by
        rw [Option.eq_none_iff_forall_ne_some]
        intro other read
        obtain ⟨again, small⟩ := (signed_integer_iff _ _).mp read
        rw [← written_once _ _ _ written again] at small
        exact large small
      simp only [ofInteger, trimmed, unread]

theorem of_integer_text (value : Int) :
    ofInteger (integer value).text = if value.natAbs < 2 ^ 127 then .ok (.integer value)
      else .error (.malformedValue .integerLiteral (integer value).text) :=
  of_integer_written (integer value).text value (decimal_written value)

theorem small_unless_least (value : Int) (fits : Decimal.fits128 value = true)
    (other : value ≠ Decimal.least128) : value.natAbs < 2 ^ 127 := by
  have power : 2 ^ 127 = 170141183460469231731687303715884105728 := by decide
  rw [Decimal.fits128, Decimal.least128, Decimal.greatest128, decide_eq_true_eq] at fits
  rw [Decimal.least128] at other
  rw [power]
  omega

end Literal

-- The text of an integer of 128 bits is read back for the integer, but for the least one: its size
-- is read before the sign is put to it, and is no number of 128 bits.
theorem Literal.integer_read_back_iff (value : Int) (fits : Decimal.fits128 value = true) :
    (ofInteger (integer value).text = .ok (.integer value) ↔ value ≠ Decimal.least128) ∧
      (value = Decimal.least128 → ofInteger (integer value).text =
        .error (.malformedValue .integerLiteral (integer value).text)) := by
  have read := of_integer_text value
  constructor
  · constructor
    · rintro back rfl
      rw [read, if_neg (by decide)] at back
      cases back
    · intro other
      rw [read, if_pos (small_unless_least value fits other)]
  · rintro rfl
    rw [read, if_neg (by decide)]

theorem Literal.second_least_read_back :
    Decimal.fits128 (-170141183460469231731687303715884105727) = true ∧
      (integer (-170141183460469231731687303715884105727)).text =
        "-170141183460469231731687303715884105727" ∧
      ofInteger (integer (-170141183460469231731687303715884105727)).text =
        .ok (.integer (-170141183460469231731687303715884105727)) :=
  ⟨by decide, rfl, (integer_read_back_iff _ (by decide)).1.mpr (by decide)⟩

theorem Literal.least_refused :
    ¬ ∀ value, Decimal.fits128 value = true →
      ofInteger (integer value).text = .ok (.integer value) := by
  intro every
  have back := every Decimal.least128 (by decide)
  rw [of_integer_text, if_neg (by decide)] at back
  cases back

end WebIdl
