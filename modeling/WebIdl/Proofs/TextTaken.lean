import WebIdl.Attempt
import WebIdl.Proofs.JsonGrammar
import WebIdl.Proofs.JsonStrings

set_option autoImplicit false

namespace WebIdl.Json

-- `goes input rest` tells that a reader goes from one to the other. What it takes it also takes in
-- front of every other rest that is `alike`.
def TakenIf (alike : Bytes → Bytes → Prop) (text : Bytes → Prop) (goes : Bytes → Bytes → Prop)
    (input rest : Bytes) : Prop :=
  ∃ used, input = used ++ rest ∧ text used ∧ ∀ other, alike rest other → goes (used ++ other) other

abbrev Taken := TakenIf fun _ _ => True

def Alike (rest other : Bytes) : Prop :=
  rest.head? = other.head? ∧ (skipBlanks rest).head? = (skipBlanks other).head?

abbrev TakenBefore := TakenIf Alike

theorem alike_append (front rest other : Bytes) (alike : Alike rest other) :
    Alike (front ++ rest) (front ++ other) := by
  induction front with
  | nil => exact alike
  | cons b front ih =>
      refine ⟨rfl, ?_⟩
      rw [List.cons_append, List.cons_append, skipBlanks, skipBlanks]
      split
      · exact ih.2
      · rfl

theorem alike_behind (mark : UInt8) (front rest other : Bytes) (member : mark ∈ front)
    (solid : isBlank mark = false) : Alike (front ++ rest) (front ++ other) := by
  obtain ⟨before, after, rfl⟩ := List.append_of_mem member
  rw [List.append_assoc, List.append_assoc]
  refine alike_append _ _ _ ⟨rfl, ?_⟩
  rw [List.cons_append, List.cons_append, skip_solid _ _ solid, skip_solid _ _ solid]
  rfl

def Joined (front back : Bytes → Prop) (text : Bytes) : Prop :=
  ∃ first second, text = first ++ second ∧ front first ∧ back second

section Taking

variable {alike : Bytes → Bytes → Prop} {text back : Bytes → Prop}
  {goes later : Bytes → Bytes → Prop} {input middle rest : Bytes}

theorem TakenIf.mono {text' : Bytes → Prop} {goes' : Bytes → Bytes → Prop}
    (taken : TakenIf alike text goes input rest) (written : ∀ used, text used → text' used)
    (same : ∀ input rest, goes input rest → goes' input rest) :
    TakenIf alike text' goes' input rest := by
  obtain ⟨used, split, first, second⟩ := taken
  exact ⟨used, split, written used first, fun other alike => same _ _ (second other alike)⟩

theorem TakenIf.weaken (taken : TakenIf alike text goes input rest)
    (wider : ∀ rest other, Alike rest other → alike rest other) :
    TakenBefore text goes input rest := by
  obtain ⟨used, split, written, same⟩ := taken
  exact ⟨used, split, written, fun other again => same other (wider rest other again)⟩

theorem Taken.before (taken : Taken text goes input rest) : TakenBefore text goes input rest :=
  TakenIf.weaken taken fun _ _ _ => trivial

theorem TakenIf.join {alike' : Bytes → Bytes → Prop} (first : TakenIf alike text goes input middle)
    (second : TakenIf alike' back later middle rest)
    (reach : ∀ used other, back used → alike' rest other → alike (used ++ rest) (used ++ other)) :
    TakenIf alike' (Joined text back)
      (fun input rest => ∃ middle, goes input middle ∧ later middle rest) input rest := by
  obtain ⟨used, rfl, written, same⟩ := first
  obtain ⟨used', rfl, written', same'⟩ := second
  refine ⟨used ++ used', (List.append_assoc _ _ _).symm, ⟨used, used', rfl, written, written'⟩, ?_⟩
  intro other again
  rw [List.append_assoc]
  exact ⟨used' ++ other, same _ (reach used' other written' again), same' other again⟩

theorem Taken.then (first : Taken text goes input middle)
    (second : TakenIf alike back later middle rest) :
    TakenIf alike (Joined text back)
      (fun input rest => ∃ middle, goes input middle ∧ later middle rest) input rest :=
  first.join second fun _ _ _ _ => trivial

theorem TakenBefore.then (first : TakenBefore text goes input middle)
    (second : TakenBefore back later middle rest) :
    TakenBefore (Joined text back)
      (fun input rest => ∃ middle, goes input middle ∧ later middle rest) input rest :=
  first.join second fun used _ _ again => alike_append used _ _ again

-- If there is a mark in what the second reader takes, what follows it does not count.
theorem TakenBefore.close (first : TakenBefore text goes input middle)
    (second : Taken back later middle rest)
    (marked : ∀ used, back used → ∃ mark ∈ used, isBlank mark = false) :
    Taken (Joined text back)
      (fun input rest => ∃ middle, goes input middle ∧ later middle rest) input rest := by
  refine first.join second fun used other written _ => ?_
  obtain ⟨mark, member, solid⟩ := marked used written
  exact alike_behind mark used rest other member solid

theorem TakenBefore.here (taken : TakenBefore text goes input rest) : goes input rest := by
  obtain ⟨used, rfl, _, same⟩ := taken
  exact same rest ⟨rfl, rfl⟩

theorem TakenBefore.shorter (taken : TakenBefore text goes input rest)
    (some : ∀ used, text used → used ≠ []) :
    TakenBefore text (fun input rest => goes input rest ∧ rest.length < input.length)
      input rest := by
  obtain ⟨used, split, written, same⟩ := taken
  refine ⟨used, split, written, fun other again => ⟨same other again, ?_⟩⟩
  have more := List.length_pos_iff.mpr (some used written)
  rw [List.length_append]
  omega

theorem TakenIf.length_le (taken : TakenIf alike text goes input rest) :
    rest.length ≤ input.length := by
  obtain ⟨used, rfl, _⟩ := taken
  simp

end Taking

theorem read_word_ok_iff (word input rest : Bytes) :
    readWord word input = .ok rest ↔ input = word ++ rest := by
  induction word generalizing input with
  | nil => simp [readWord]
  | cons letter word ih =>
      cases input with
      | nil => simp [readWord]
      | cons b input =>
          by_cases same : b = letter <;> simp [readWord, same, ih]

theorem word_taken (word input rest : Bytes) (done : readWord word input = .ok rest) :
    Taken (· = word) (fun input rest => readWord word input = .ok rest) input rest :=
  ⟨word, (read_word_ok_iff word input rest).mp done, rfl, fun _ _ =>
    (read_word_ok_iff word _ _).mpr rfl⟩

theorem pair_read (a b c d e f g h : UInt8) (high low : Nat) (rest : Bytes)
    (quad : hexQuad a b c d = some high) (last : ¬ (0xDC00 ≤ high ∧ high ≤ 0xDFFF))
    (half : ¬ (high < 0xD800 ∨ 0xDBFF < high)) (second : hexQuad e f g h = some low)
    (other : ¬ (low < 0xDC00 ∨ 0xDFFF < low)) :
    readStringBytes
        (0x5C :: 0x75 :: a :: b :: c :: d :: 0x5C :: 0x75 :: e :: f :: g :: h :: rest) =
      ahead (charBytes ((high - 0xD800) * 0x400 + (low - 0xDC00) + 0x10000))
        (readStringBytes rest) := by
  rw [readStringBytes, quad]
  simp only [if_neg last, if_neg half, second, if_neg other]

structure Step (step front : Bytes) : Prop where
  reads : ∀ rest, readStringBytes (step ++ rest) = ahead front (readStringBytes rest)
  quoted : ∀ rest, Quoted rest → Quoted (step ++ rest)

def ReadsString (bytes input rest : Bytes) : Prop := readStringBytes input = .ok (bytes, rest)

theorem step_taken (step front bytes input rest : Bytes) (one : Step step front)
    (later : ∀ bytes, ReadsString bytes input rest → Taken Quoted (ReadsString bytes) input rest)
    (done : ahead front (readStringBytes input) = .ok (bytes, rest)) :
    Taken Quoted (ReadsString bytes) (step ++ input) rest := by
  cases read : readStringBytes input with
  | error fault =>
      rw [read] at done
      cases done
  | ok found =>
      obtain ⟨bytes, behind⟩ := found
      rw [read] at done
      cases done
      obtain ⟨used, rfl, quoted, same⟩ := later bytes read
      refine ⟨step ++ used, (List.append_assoc _ _ _).symm, one.quoted used quoted, ?_⟩
      intro other _
      rw [ReadsString, List.append_assoc, one.reads, same other trivial, ahead]

theorem plain_of_tail (b : UInt8) (input : Bytes) (quote : b ≠ 0x22) (printed : ¬ b < 0x20)
    (alone : b = 0x5C → input = [] → False)
    (backslash : ∀ (mark : UInt8) (rest : List UInt8), b = 0x5C → input = mark :: rest → False) :
    Plain b := by
  refine ⟨quote, ?_, printed⟩
  rintro rfl
  cases input with
  | nil => exact alone rfl rfl
  | cons mark rest => exact backslash mark rest rfl rfl

theorem read_string_bytes_taken (input bytes rest : Bytes) (done : ReadsString bytes input rest) :
    Taken Quoted (ReadsString bytes) input rest := by
  unfold ReadsString at done
  fun_induction readStringBytes input generalizing bytes with
  | case4 a b c d input code quad last whole ih =>
      refine step_taken [0x5C, 0x75, a, b, c, d] _ bytes input rest ⟨?_, ?_⟩ ih done
      · exact fun rest => code_read a b c d code rest quad last whole
      · exact fun rest => .code a b c d rest (by rw [quad]; rfl)
  | case7 a b c d high quad last half e f g h input low second other ih =>
      refine step_taken [0x5C, 0x75, a, b, c, d, 0x5C, 0x75, e, f, g, h] _ bytes input rest
        ⟨?_, ?_⟩ ih done
      · exact fun rest => pair_read a b c d e f g h high low rest quad last half second other
      · exact fun rest later => .code a b c d _ (by rw [quad]; rfl)
          (.code e f g h rest (by rw [second]; rfl) later)
  | case14 b input _ short byte escaped ih =>
      refine step_taken [0x5C, b] _ bytes input rest ⟨?_, ?_⟩ ih done
      · exact fun rest => escaped_byte_read b byte rest short escaped
      · exact fun rest => .escaped b rest (by rw [escaped]; rfl)
  | case16 =>
      cases done
      exact ⟨[0x22], rfl, .close, fun _ _ => rfl⟩
  | case18 b input _ _ alone backslash quote printed ih =>
      have plain := plain_of_tail b input quote printed alone backslash
      refine step_taken [b] _ bytes input rest ⟨?_, ?_⟩ ih done
      · exact fun rest => plain_byte_read b rest plain
      · exact fun rest => .plain b rest plain.quote plain.backslash plain.control
  | _ => cases done

theorem read_string_taken (input rest : Bytes) (text : String)
    (done : readString input = .ok (text, rest)) :
    Taken Quoted (fun input rest => readString input = .ok (text, rest)) input rest := by
  unfold readString at done
  cases read : readStringBytes input with
  | error fault => simp [read] at done
  | ok found =>
      obtain ⟨bytes, behind⟩ := found
      simp only [read] at done
      split at done
      · rename_i found valid
        cases done
        refine (read_string_bytes_taken input bytes rest read).mono (fun _ => id) ?_
        intro input rest again
        rw [readString, again]
        simp only [valid]
      · cases done

theorem skip_string_taken (input rest : Bytes) (done : skipString input = .ok rest) :
    Taken Quoted (fun input rest => skipString input = .ok rest) input rest := by
  fun_induction skipString input with
  | case2 a b c d input quad ih =>
      obtain ⟨used, rfl, quoted, same⟩ := ih done
      refine ⟨_, rfl, .code a b c d used quad quoted, fun other _ => ?_⟩
      simp only [List.cons_append]
      rw [skipString, if_pos quad, same other trivial]
  | case6 b input _ short escaped ih =>
      obtain ⟨used, rfl, quoted, same⟩ := ih done
      refine ⟨_, rfl, .escaped b used escaped quoted, fun other _ => ?_⟩
      simp only [List.cons_append]
      have plain : b ≠ 0x75 := short
      rw [skipString, if_pos escaped, same other trivial]
      all_goals simp [plain]
  | case8 =>
      cases done
      exact ⟨[0x22], rfl, .close, fun _ _ => rfl⟩
  | case10 b input _ _ alone backslash quote printed ih =>
      have plain := plain_of_tail b input quote printed alone backslash
      obtain ⟨used, rfl, quoted, same⟩ := ih done
      refine ⟨_, rfl, .plain b used quote plain.backslash printed quoted, fun other _ => ?_⟩
      simp only [List.cons_append]
      rw [skipString, if_neg quote, if_neg printed, same other trivial]
      all_goals simp [plain.backslash]
  | _ => cases done

def Marked (mark : UInt8) (text : Bytes) : Prop := ∃ gap, text = gap ++ [mark] ∧ Blanks gap

theorem blanks_taken (input rest : Bytes) (found : skipBlanks input = rest) :
    TakenBefore Blanks (fun input rest => skipBlanks input = rest) input rest := by
  obtain ⟨lead, blanks, split, solid⟩ := blanks_split input
  rw [found] at split solid
  refine ⟨lead, split, blanks, fun other alike => ?_⟩
  rw [Stopped, alike.1] at solid
  refine (skip_blanks lead other blanks).trans ?_
  exact skip_stopped other solid

theorem marked_taken (mark : UInt8) (input rest : Bytes) (found : skipBlanks input = mark :: rest) :
    Taken (Marked mark) (fun input rest => skipBlanks input = mark :: rest) input rest := by
  obtain ⟨lead, blanks, split, solid⟩ := blanks_split input
  rw [found] at split solid
  refine ⟨lead ++ [mark], by simpa using split, ⟨lead, rfl, blanks⟩, fun other _ => ?_⟩
  rw [List.append_assoc]
  exact (skip_blanks lead _ blanks).trans (skip_solid mark other (solid mark rfl))

theorem value_taken (alike : Bytes → Bytes → Prop) (mark : UInt8) (text value : Bytes → Prop)
    (goes goes' : Bytes → Bytes → Prop) (input behind rest : Bytes)
    (found : skipBlanks input = mark :: behind) (taken : TakenIf alike text goes behind rest)
    (written : ∀ used, text used → value (mark :: used))
    (same : ∀ input behind rest, skipBlanks input = mark :: behind → goes behind rest →
      goes' input rest) : TakenIf alike (Led value) goes' input rest := by
  refine ((marked_taken mark input behind found).then taken).mono ?_ ?_
  · rintro _ ⟨_, used, rfl, ⟨lead, rfl, blanks⟩, inside⟩
    simpa using Led.intro lead _ blanks (written used inside)
  · rintro input rest ⟨behind, found, again⟩
    exact same input behind rest found again

theorem colon_ok_iff (input rest : Bytes) :
    readColon input = .ok rest ↔ skipBlanks input = 0x3A :: rest := by
  unfold readColon
  split <;> simp_all

theorem end_list_ok_iff (input rest : Bytes) :
    endList input = .ok rest ↔ skipBlanks input = 0x5D :: rest := by
  unfold endList
  split
  · simp_all
  · simp_all
  · rename_i found
    split <;> simp [found]
  · simp_all

theorem end_object_ok_iff (input rest : Bytes) :
    endObject input = .ok rest ↔ skipBlanks input = 0x7D :: rest := by
  unfold endObject
  split <;> simp_all

theorem mark_taken (read : Bytes → Except Fault Bytes) (mark : UInt8)
    (reads : ∀ input rest, read input = .ok rest ↔ skipBlanks input = mark :: rest)
    (input rest : Bytes) (done : read input = .ok rest) :
    Taken (Marked mark) (fun input rest => read input = .ok rest) input rest :=
  (marked_taken mark input rest ((reads input rest).mp done)).mono (fun _ => id) fun input rest =>
    (reads input rest).mpr

theorem body_taken (part : Bytes → Prop) (close : UInt8) (solid : isBlank close = false)
    (last : Bytes → Except Fault Bytes)
    (reads : ∀ input rest, last input = .ok rest ↔ skipBlanks input = close :: rest)
    (goes : Bytes → Bytes → Prop) (input middle rest : Bytes)
    (row : TakenBefore (Row part true) goes input middle) (done : last middle = .ok rest) :
    Taken (Body part close) (fun input rest => ∃ middle, goes input middle ∧ last middle = .ok rest)
      input rest := by
  refine (row.close (mark_taken last close reads middle rest done) ?_).mono ?_ fun _ _ => id
  · rintro _ ⟨gap, rfl, _⟩
    exact ⟨close, by simp, solid⟩
  · rintro _ ⟨parts, _, rfl, row, gap, rfl, blanks⟩
    exact .intro parts gap row blanks

inductive Before : Bool → Bytes → Prop
  | first (lead : Bytes) (blanks : Blanks lead) : Before true lead
  | next (gap lead : Bytes) (comma : Blanks gap) (blanks : Blanks lead) :
      Before false (gap ++ 0x2C :: lead)

theorem row_cons (part : Bytes → Prop) (first : Bool) (front text later : Bytes)
    (before : Before first front) (inside : Led part text) (rest : Row part false later) :
    Row part first (front ++ (text ++ later)) := by
  cases before with
  | first front blanks =>
      rw [← List.append_assoc]
      exact .first _ later (led_blanks part front text blanks inside) rest
  | next gap front comma blanks =>
      have row := Row.next gap _ later comma (led_blanks part front text blanks inside) rest
      simpa using row

theorem no_item_iff (first : Bool) (input : Bytes) :
    nextItem first input = .ok none ↔ (skipBlanks input).head? = some 0x5D := by
  unfold nextItem
  split
  · simp [*]
  · simp [*]
  · rename_i b behind other found
    rw [found]
    refine iff_of_false ?_ fun close => other (Option.some.inj close)
    split
    · simp
    · split
      · split <;> simp
      · simp

theorem first_item_iff (input rest : Bytes) :
    nextItem true input = .ok (some rest) ↔
      skipBlanks input = rest ∧ rest ≠ [] ∧ rest.head? ≠ some 0x5D := by
  unfold nextItem
  split
  · rename_i found
    refine iff_of_false (by simp) ?_
    rintro ⟨same, some, _⟩
    exact some (same.symm.trans found)
  · rename_i found
    refine iff_of_false (by simp) ?_
    rintro ⟨rfl, _, other⟩
    exact other (by rw [found]; rfl)
  · rename_i b behind other found
    rw [if_pos rfl, found]
    constructor
    · rintro ⟨⟩
      exact ⟨rfl, List.cons_ne_nil b behind, fun close => other (Option.some.inj close)⟩
    · rintro ⟨rfl, _⟩
      rfl

theorem later_item_iff (input rest : Bytes) :
    nextItem false input = .ok (some rest) ↔
      ∃ behind, skipBlanks input = 0x2C :: behind ∧ skipBlanks behind = rest ∧ rest ≠ [] ∧
        rest.head? ≠ some 0x5D := by
  unfold nextItem
  split
  · simp [*]
  · simp [*]
  · rename_i b behind _ found
    rw [if_neg Bool.false_ne_true, found]
    by_cases comma : b = 0x2C
    · subst comma
      rw [if_pos rfl]
      constructor
      · intro done
        refine ⟨behind, rfl, ?_⟩
        split at done
        · cases done
        · cases done
        · rename_i some other
          cases done
          refine ⟨rfl, some, fun close => ?_⟩
          obtain ⟨tail, there⟩ := List.head?_eq_some_iff.mp close
          exact other tail there
      · rintro ⟨_, ⟨⟩, rfl, some, other⟩
        split
        · exact absurd ‹_› some
        · rename_i there
          exact absurd (by rw [there]; rfl) other
        · rfl
    · simp [comma]

theorem no_name_iff (first : Bool) (input : Bytes) :
    nextName first input = .ok none ↔ (skipBlanks input).head? = some 0x7D := by
  have never : ∀ rest, (readString rest).map some ≠ .ok none := by
    intro rest
    cases readString rest <;> simp [Except.map]
  unfold nextName
  split
  · simp [*]
  · simp [*]
  · rename_i b behind other found
    rw [found]
    refine iff_of_false ?_ fun close => other (Option.some.inj close)
    split
    · split
      · exact never behind
      · simp
    · split
      · split
        · simp
        · exact never _
        · simp
        · simp
      · simp

theorem first_name_iff (name : String) (input rest : Bytes) :
    nextName true input = .ok (some (name, rest)) ↔
      ∃ behind, skipBlanks input = 0x22 :: behind ∧ readString behind = .ok (name, rest) := by
  unfold nextName
  split
  · simp [*]
  · simp [*]
  · rename_i b behind _ found
    rw [if_pos rfl, found]
    by_cases quote : b = 0x22 <;> simp [quote, map_ok_iff]

theorem later_name_iff (name : String) (input rest : Bytes) :
    nextName false input = .ok (some (name, rest)) ↔
      ∃ middle behind, skipBlanks input = 0x2C :: middle ∧ skipBlanks middle = 0x22 :: behind ∧
        readString behind = .ok (name, rest) := by
  unfold nextName
  split
  · simp [*]
  · simp [*]
  · rename_i b middle _ found
    rw [if_neg Bool.false_ne_true, found]
    by_cases comma : b = 0x2C
    · subst comma
      rw [if_pos rfl]
      split
      · simp [*]
      · simp [*, map_ok_iff]
      · simp [*]
      · rename_i b behind other _ there
        have quote : b ≠ 0x22 := other
        simp [there, quote]
    · simp [comma]

theorem next_item_taken (first : Bool) (input rest : Bytes)
    (done : nextItem first input = .ok (some rest)) :
    TakenBefore (Before first) (fun input rest => nextItem first input = .ok (some rest))
      input rest := by
  have heads : ∀ other, Alike rest other → rest ≠ [] → rest.head? ≠ some 0x5D →
      other ≠ [] ∧ other.head? ≠ some 0x5D := by
    rintro other ⟨alike, _⟩ some inside
    rw [← alike]
    refine ⟨?_, inside⟩
    rintro rfl
    exact some (List.head?_eq_none_iff.mp alike)
  cases first with
  | true =>
      obtain ⟨found, some, inside⟩ := (first_item_iff input rest).mp done
      obtain ⟨used, split, blanks, same⟩ := blanks_taken input rest found
      refine ⟨used, split, .first used blanks, fun other alike => ?_⟩
      exact (first_item_iff _ other).mpr ⟨same other alike, heads other alike some inside⟩
  | false =>
      obtain ⟨behind, comma, found, some, inside⟩ := (later_item_iff input rest).mp done
      obtain ⟨used, split, ⟨_, _, rfl, ⟨gap, rfl, blanks⟩, leads⟩, same⟩ :=
        (marked_taken 0x2C input behind comma).then (blanks_taken behind rest found)
      refine ⟨_, split, by simpa using Before.next gap _ blanks leads, fun other alike => ?_⟩
      obtain ⟨middle, again, there⟩ := same other alike
      exact (later_item_iff _ other).mpr ⟨middle, again, there, heads other alike some inside⟩

theorem next_item_none (first : Bool) (input other : Bytes) (alike : Alike input other)
    (done : nextItem first input = .ok none) : nextItem first other = .ok none :=
  (no_item_iff first other).mpr (alike.2 ▸ (no_item_iff first input).mp done)

theorem next_name_taken (first : Bool) (name : String) (input rest : Bytes)
    (done : nextName first input = .ok (some (name, rest))) :
    Taken (fun used => ∃ front quoted, used = front ++ 0x22 :: quoted ∧ Before first front ∧
        Quoted quoted)
      (fun input rest => nextName first input = .ok (some (name, rest))) input rest := by
  cases first with
  | true =>
      obtain ⟨behind, quote, read⟩ := (first_name_iff name input rest).mp done
      refine ((marked_taken 0x22 input behind quote).then
        (read_string_taken behind rest name read)).mono ?_ ?_
      · rintro _ ⟨_, quoted, rfl, ⟨gap, rfl, blanks⟩, inside⟩
        exact ⟨gap, quoted, by simp, .first gap blanks, inside⟩
      · rintro input rest ⟨behind, quote, read⟩
        exact (first_name_iff name input rest).mpr ⟨behind, quote, read⟩
  | false =>
      obtain ⟨middle, behind, comma, quote, read⟩ := (later_name_iff name input rest).mp done
      refine ((marked_taken 0x2C input middle comma).then
        ((marked_taken 0x22 middle behind quote).then
          (read_string_taken behind rest name read))).mono ?_ ?_
      · rintro _ ⟨_, _, rfl, ⟨gap, rfl, blanks⟩, _, quoted, rfl, ⟨lead, rfl, leads⟩, inside⟩
        exact ⟨gap ++ 0x2C :: lead, quoted, by simp, .next gap lead blanks leads, inside⟩
      · rintro input rest ⟨middle, comma, behind, quote, read⟩
        exact (later_name_iff name input rest).mpr ⟨middle, behind, comma, quote, read⟩

theorem next_name_none (first : Bool) (input other : Bytes) (alike : Alike input other)
    (done : nextName first input = .ok none) : nextName first other = .ok none :=
  (no_name_iff first other).mpr (alike.2 ▸ (no_name_iff first input).mp done)

end WebIdl.Json
