import WebIdl.Unicode.Ranges

set_option autoImplicit false

/-!
White space in the sense of the property White_Space, and the removal of it from both ends of a
text. Zero-width spaces and the byte order mark are not white space.
-/

namespace WebIdl.Unicode

def blankRanges : List (Nat × Nat) := [
  (0x9, 0xD), (0x20, 0x20), (0x85, 0x85), (0xA0, 0xA0), (0x1680, 0x1680), (0x2000, 0x200A),
  (0x2028, 0x2029), (0x202F, 0x202F), (0x205F, 0x205F), (0x3000, 0x3000)]

def isBlank (c : Char) : Bool := covers blankRanges c.toNat

def trimStart (text : List Char) : List Char := text.dropWhile isBlank

def trimEnd (text : List Char) : List Char := (text.reverse.dropWhile isBlank).reverse

def trim (text : List Char) : List Char := trimEnd (trimStart text)

theorem trim_start_solid (text : List Char) (solid : ∀ c, text.head? = some c → isBlank c = false) :
    trimStart text = text := by
  cases text with
  | nil => rfl
  | cons c rest => simp [trimStart, solid c rfl]

theorem trim_end_solid (text : List Char)
    (solid : ∀ c, text.getLast? = some c → isBlank c = false) : trimEnd text = text := by
  rw [← List.head?_reverse] at solid
  have front := trim_start_solid text.reverse solid
  rw [trimStart] at front
  rw [trimEnd, front, List.reverse_reverse]

theorem trim_enclosed (text : List Char) (front : ∀ c, text.head? = some c → isBlank c = false)
    (back : ∀ c, text.getLast? = some c → isBlank c = false) : trim text = text := by
  rw [trim, trim_start_solid text front, trim_end_solid text back]

theorem trim_blank (c : Char) (rest : List Char) (blank : isBlank c = true) :
    trim (c :: rest) = trim rest := by
  rw [trim, trim, trimStart, trimStart, List.dropWhile_cons_of_pos blank]

theorem trim_solid (text : List Char) (solid : ∀ c ∈ text, isBlank c = false) : trim text = text :=
  trim_enclosed text (fun c first => solid c (List.mem_of_head? first))
    fun c last => solid c (List.mem_of_getLast? last)

end WebIdl.Unicode
