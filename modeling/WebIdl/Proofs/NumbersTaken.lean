import WebIdl.Proofs.TextTaken

set_option autoImplicit false

namespace WebIdl.Json

abbrev NumberTaken := TakenIf fun rest other => rest.head? = other.head?

theorem NumberTaken.before {text : Bytes → Prop} {goes : Bytes → Bytes → Prop} {input rest : Bytes}
    (taken : NumberTaken text goes input rest) : TakenBefore text goes input rest :=
  TakenIf.weaken taken fun _ _ alike => alike.1

abbrev Stops : Bytes → Prop := Stopped isDigit

theorem drop_stops (input : Bytes) : Stops (input.dropWhile isDigit) := by
  intro mark first
  have stop := List.head?_dropWhile_not isDigit input
  rw [Option.mem_def] at first
  simpa only [first] using stop

theorem digits_of_take (input : Bytes) (some : input.takeWhile isDigit ≠ []) :
    Digits (input.takeWhile isDigit) :=
  ⟨some, List.all_eq_true.mp List.all_takeWhile⟩

theorem stops_alike (rest other : Bytes) (same : rest.head? = other.head?) (stops : Stops rest) :
    Stops other := fun b first => stops b (same ▸ first)

inductive Sign : Bytes → Prop
  | none : Sign []
  | plus : Sign [0x2B]
  | minus : Sign [0x2D]

theorem sign_split (input : Bytes) :
    ∃ sign rest, input = sign ++ rest ∧ Sign sign ∧
      (sign = [] → rest.head? ≠ some 0x2B ∧ rest.head? ≠ some 0x2D) := by
  cases input with
  | nil => exact ⟨[], [], rfl, .none, by simp⟩
  | cons b rest =>
      by_cases plus : b = 0x2B
      · exact ⟨[b], rest, rfl, plus ▸ .plus, by simp⟩
      · by_cases minus : b = 0x2D
        · exact ⟨[b], rest, rfl, minus ▸ .minus, by simp⟩
        · exact ⟨[], b :: rest, rfl, .none, by simp [plus, minus]⟩

structure ExponentAt (sign digits input rest : Bytes) : Prop where
  split : input = sign ++ (digits ++ rest)
  signed : Sign sign
  some : Digits digits
  stops : Stops rest

theorem exponent_at (input : Bytes) :
    (∃ sign digits rest, ExponentAt sign digits input rest) ∨
      (∀ rest, skipPower input ≠ .ok rest) ∧
        ∀ positive significand before found,
          readPower positive significand before input ≠ .ok found := by
  obtain ⟨sign, behind, rfl, signed, unsigned⟩ := sign_split input
  cases behind with
  | nil => right; cases signed <;> simp [skipPower, readPower]
  | cons b behind =>
      by_cases digit : isDigit b = true
      · have some := digits_of_take (b :: behind) (by simp [digit])
        refine .inl ⟨sign, _, _, ?_, signed, some, drop_stops (b :: behind)⟩
        rw [List.takeWhile_append_dropWhile]
      · right
        cases signed with
        | none =>
            obtain ⟨plus, minus⟩ := unsigned rfl
            have plus : b ≠ 0x2B := by simpa using plus
            have minus : b ≠ 0x2D := by simpa using minus
            simp [skipPower, readPower, digit, plus, minus]
        | plus => simp [skipPower, readPower, digit]
        | minus => simp [skipPower, readPower, digit]

theorem skip_power_at (sign digits input rest : Bytes)
    (exponent : ExponentAt sign digits input rest) : skipPower input = .ok rest := by
  obtain ⟨rfl, signed, some, stops⟩ := exponent
  cases digits with
  | nil => exact absurd rfl some.1
  | cons b digits =>
      have digit := some.2 b List.mem_cons_self
      have run := (run_take isDigit (b :: digits) rest some.2 stops).2
      rw [List.cons_append, List.dropWhile_cons_of_pos digit] at run
      cases signed with
      | none =>
          have plus : b ≠ 0x2B := by rintro rfl; cases digit
          have minus : b ≠ 0x2D := by rintro rfl; cases digit
          simp [skipPower, digit, run, plus, minus]
      | plus => simp [skipPower, digit, run]
      | minus => simp [skipPower, digit, run]

theorem read_power_unsigned (positive : Bool) (significand : Nat) (before : Int) (b : UInt8)
    (rest : Bytes) (digit : isDigit b = true) :
    readPower positive significand before (b :: rest) =
      readPower positive significand before (0x2B :: b :: rest) := by
  have plus : b ≠ 0x2B := by rintro rfl; cases digit
  have minus : b ≠ 0x2D := by rintro rfl; cases digit
  conv =>
    lhs
    unfold readPower
  split
  rename_i rising input same
  obtain ⟨rfl, rfl⟩ : true = rising ∧ b :: rest = input := by simpa [plus, minus] using same
  rfl

theorem map_behind {α : Type} (result : Except Fault α) (rest : Bytes) :
    (result.map fun value => (value, rest)) =
      (result.map fun value => (value, ([] : Bytes))).map fun read => (read.1, rest) := by
  cases result <;> rfl

theorem read_power_signed (positive : Bool) (significand : Nat) (before : Int) (mark : UInt8)
    (digits rest : Bytes) (signs : mark = 0x2B ∨ mark = 0x2D) (some : Digits digits)
    (stops : Stops rest) :
    readPower positive significand before (mark :: (digits ++ rest)) =
      (readPower positive significand before (mark :: digits)).map fun read => (read.1, rest) := by
  have alone := run_take isDigit digits [] some.2 (by simp [Stopped])
  have front := run_take isDigit digits rest some.2 stops
  cases digits with
  | nil => exact absurd rfl some.1
  | cons b digits =>
      have digit := some.2 b List.mem_cons_self
      rw [List.append_nil] at alone
      rw [List.cons_append] at front ⊢
      rcases signs with rfl | rfl <;> simp only [readPower, digit, if_true, front, alone]
      all_goals
        split
        · split <;> rfl
        · exact map_behind _ rest

theorem read_power_at (positive : Bool) (significand : Nat) (before : Int)
    (sign digits input rest : Bytes) (exponent : ExponentAt sign digits input rest) :
    readPower positive significand before input =
      (readPower positive significand before (sign ++ digits)).map fun read => (read.1, rest) := by
  obtain ⟨rfl, signed, some, stops⟩ := exponent
  cases signed with
  | none =>
      have read := read_power_signed positive significand before 0x2B digits rest (.inl rfl) some
        stops
      cases digits with
      | nil => exact absurd rfl some.1
      | cons b digits =>
          have digit := some.2 b List.mem_cons_self
          simp only [List.nil_append, List.cons_append,
            read_power_unsigned _ _ _ b _ digit] at read ⊢
          exact read
  | plus => exact read_power_signed positive significand before _ digits rest (.inl rfl) some stops
  | minus => exact read_power_signed positive significand before _ digits rest (.inr rfl) some stops

def Exponent (text : Bytes) : Prop :=
  ∃ sign digits, text = sign ++ digits ∧ Sign sign ∧ Digits digits

theorem skip_power_taken (input rest : Bytes) (done : skipPower input = .ok rest) :
    NumberTaken Exponent (fun input rest => skipPower input = .ok rest) input rest := by
  obtain ⟨sign, digits, behind, found⟩ | ⟨fails, _⟩ := exponent_at input
  · obtain rfl := Except.ok.inj ((skip_power_at _ _ _ _ found).symm.trans done)
    obtain ⟨rfl, signed, some, stops⟩ := found
    refine ⟨sign ++ digits, by simp, ⟨sign, digits, rfl, signed, some⟩, fun other same => ?_⟩
    exact skip_power_at sign digits _ other
      ⟨List.append_assoc _ _ _, signed, some, stops_alike _ _ same stops⟩
  · exact absurd done (fails rest)

theorem read_power_taken (positive : Bool) (significand : Nat) (before : Int) (value : Float)
    (input rest : Bytes) (done : readPower positive significand before input = .ok (value, rest)) :
    NumberTaken Exponent
      (fun input rest => readPower positive significand before input = .ok (value, rest))
      input rest := by
  obtain ⟨sign, digits, behind, found⟩ | ⟨_, fails⟩ := exponent_at input
  · rw [read_power_at _ _ _ _ _ _ _ found] at done
    obtain ⟨⟨value, nothing⟩, alone, same⟩ := (map_ok_iff _ _ _).mp done
    cases same
    obtain ⟨rfl, signed, some, stops⟩ := found
    refine ⟨sign ++ digits, by simp, ⟨sign, digits, rfl, signed, some⟩, fun other same => ?_⟩
    have again := read_power_at positive significand before sign digits _ other
      ⟨List.append_assoc _ _ _, signed, some, stops_alike _ _ same stops⟩
    rw [alone] at again
    exact again
  · exact absurd done (fails _ _ _ _)

theorem number_begins (goes : Bytes → Bytes → Prop) (input rest : Bytes)
    (taken : NumberTaken Unsigned goes input rest) :
    ∃ b behind, input = b :: behind ∧ isDigit b = true := by
  obtain ⟨used, rfl, number, _⟩ := taken
  obtain ⟨b, behind, rfl, digit⟩ := unsigned_head used number
  exact ⟨b, behind ++ rest, rfl, digit⟩

-- The readers of numbers differ in what they keep of a number, not in how they find its parts.
section Parts

variable (power tail bare goes : Bytes → Bytes → Prop) (kept : Prop)
  (tails : Bytes → Bytes → Bytes → Prop)

theorem tail_taken (powers : ∀ input rest, power input rest → NumberTaken Exponent power input rest)
    (letter : ∀ mark, mark = 0x65 ∨ mark = 0x45 → ∀ input rest,
      tail (mark :: input) rest ↔ power input rest)
    (plain : ∀ input rest, input.head? ≠ some 0x65 → input.head? ≠ some 0x45 →
      (tail input rest ↔ kept ∧ input = rest))
    (input rest : Bytes) (done : tail input rest) : NumberTaken Power tail input rest := by
  by_cases letters : input.head? = some 0x65 ∨ input.head? = some 0x45
  · obtain ⟨mark, behind, rfl, marks⟩ :
        ∃ mark behind, input = mark :: behind ∧ (mark = 0x65 ∨ mark = 0x45) := by
      cases input with
      | nil => simp at letters
      | cons mark behind => exact ⟨mark, behind, rfl, by simpa using letters⟩
    have found := powers _ _ ((letter mark marks behind rest).mp done)
    obtain ⟨_, rfl, ⟨sign, digits, rfl, signed, some⟩, same⟩ := found
    refine ⟨mark :: (sign ++ digits), rfl, ?_, fun other alike => ?_⟩
    · refine .inr ⟨mark, sign, digits, rfl, marks, ?_, some⟩
      cases signed <;> simp
    · exact (letter mark marks _ other).mpr (same other alike)
  · obtain ⟨small, large⟩ := not_or.mp letters
    obtain ⟨holds, rfl⟩ := (plain input rest small large).mp done
    refine ⟨[], rfl, .inl rfl, fun other alike => ?_⟩
    rw [alike] at small large
    exact (plain other other small large).mpr ⟨holds, rfl⟩

def Decimals (text : Bytes) : Prop :=
  ∃ fraction power, text = fraction ++ power ∧ Fraction fraction ∧ Power power

theorem head_append (front rest other : Bytes) (same : rest.head? = other.head?) :
    (front ++ rest).head? = (front ++ other).head? := by
  cases front with
  | nil => exact same
  | cons => rfl

theorem decimals_taken
    (each : ∀ digits input rest, tails digits input rest →
      NumberTaken Power (tails digits) input rest)
    (bares : ∀ input rest, bare input rest → NumberTaken Power bare input rest)
    (point : ∀ input rest, goes (0x2E :: input) rest ↔
      input.takeWhile isDigit ≠ [] ∧
        tails (input.takeWhile isDigit) (input.dropWhile isDigit) rest)
    (others : ∀ input rest, input.head? ≠ some 0x2E → (goes input rest ↔ bare input rest))
    (input rest : Bytes) (done : goes input rest) : NumberTaken Decimals goes input rest := by
  by_cases dot : input.head? = some 0x2E
  · obtain ⟨behind, rfl⟩ := List.head?_eq_some_iff.mp dot
    obtain ⟨some, inside⟩ := (point behind rest).mp done
    have digits := digits_of_take behind some
    have stops := drop_stops behind
    have split : behind.takeWhile isDigit ++ behind.dropWhile isDigit = behind :=
      List.takeWhile_append_dropWhile
    obtain ⟨used, found, written, same⟩ := each _ _ _ inside
    rw [found] at stops split
    refine ⟨0x2E :: (behind.takeWhile isDigit ++ used), by simp [split], ?_, fun other alike => ?_⟩
    · exact ⟨_, used, rfl, .inr ⟨_, rfl, digits⟩, written⟩
    · have cut := run_take isDigit _ (used ++ other) digits.2
        (stops_alike _ _ (head_append used rest other alike) stops)
      have again := (point (behind.takeWhile isDigit ++ (used ++ other)) other).mpr
      rw [cut.1, cut.2] at again
      simpa using again ⟨some, same other alike⟩
  · obtain ⟨used, rfl, written, same⟩ := bares _ _ ((others input rest dot).mp done)
    refine ⟨used, rfl, ⟨[], used, rfl, .inl rfl, written⟩, fun other alike => ?_⟩
    rw [head_append used rest other alike] at dot
    exact (others _ other dot).mpr (same other alike)

theorem unsigned_taken
    (each : ∀ digits input rest, tails digits input rest →
      NumberTaken Decimals (tails digits) input rest)
    (zero : ∀ input rest, goes (0x30 :: input) rest ↔ Stops input ∧ tails [0x30] input rest)
    (positive : ∀ mark input rest, isDigit mark = true → mark ≠ 0x30 →
      (goes (mark :: input) rest ↔
        tails ((mark :: input).takeWhile isDigit) ((mark :: input).dropWhile isDigit) rest))
    (only : ∀ input rest, goes input rest → ∃ mark behind, input = mark :: behind ∧ isDigit mark)
    (input rest : Bytes) (done : goes input rest) : NumberTaken Unsigned goes input rest := by
  obtain ⟨mark, behind, rfl, digit⟩ := only input rest done
  by_cases first : mark = 0x30
  · subst first
    obtain ⟨stops, inside⟩ := (zero behind rest).mp done
    obtain ⟨used, rfl, ⟨fraction, power, rfl, written⟩, same⟩ := each _ _ _ inside
    refine ⟨0x30 :: (fraction ++ power), rfl, ⟨[0x30], fraction, power, rfl, .inl rfl, written⟩, ?_⟩
    intro other alike
    have again := stops_alike _ _ (head_append (fraction ++ power) rest other alike) stops
    exact (zero _ other).mpr ⟨again, same other alike⟩
  · have digits := digits_of_take (mark :: behind) (by simp [digit])
    have stops := drop_stops (mark :: behind)
    have split : (mark :: behind).takeWhile isDigit ++ (mark :: behind).dropWhile isDigit =
        mark :: behind := List.takeWhile_append_dropWhile
    have inside := (positive mark behind rest digit first).mp done
    obtain ⟨used, found, ⟨fraction, power, rfl, written⟩, same⟩ := each _ _ _ inside
    rw [found] at stops split
    have front : (mark :: behind).takeWhile isDigit = mark :: behind.takeWhile isDigit :=
      List.takeWhile_cons_of_pos digit
    refine ⟨(mark :: behind).takeWhile isDigit ++ (fraction ++ power), ?_, ?_, ?_⟩
    · rw [List.append_assoc, split]
    · exact ⟨_, fraction, power, rfl, .inr ⟨digits, by simpa [front] using first⟩, written⟩
    · intro other alike
      have cut := run_take isDigit _ (fraction ++ power ++ other) digits.2
        (stops_alike _ _ (head_append (fraction ++ power) rest other alike) stops)
      rw [front] at cut same ⊢
      have again := (positive mark (behind.takeWhile isDigit ++ (fraction ++ power ++ other)) other
        digit first).mpr
      rw [← List.cons_append, cut.1, cut.2] at again
      simpa using again (same other alike)

end Parts

def skipTail (input : Bytes) : Except Fault Bytes :=
  match input with
  | 0x65 :: rest => skipPower rest
  | 0x45 :: rest => skipPower rest
  | rest => .ok rest

theorem skip_tail_taken (input rest : Bytes) (done : skipTail input = .ok rest) :
    NumberTaken Power (fun input rest => skipTail input = .ok rest) input rest := by
  refine tail_taken _ _ True skip_power_taken ?_ ?_ input rest done
  · rintro mark (rfl | rfl) input rest <;> rfl
  · intro input rest small large
    unfold skipTail
    split
    · exact absurd rfl small
    · exact absurd rfl large
    · simp

theorem skip_decimals_taken (input rest : Bytes) (done : skipAfterWhole input = .ok rest) :
    NumberTaken Decimals (fun input rest => skipAfterWhole input = .ok rest) input rest := by
  refine decimals_taken _ _ (fun _ input rest => skipTail input = .ok rest)
    (fun _ => skip_tail_taken) skip_tail_taken ?_ ?_ input rest done
  · intro input rest
    change (if (input.takeWhile isDigit).isEmpty then _ else skipTail (input.dropWhile isDigit)) = _
      ↔ _
    cases input.takeWhile isDigit <;> simp
  · intro input rest dot
    unfold skipAfterWhole skipTail
    split
    · exact Iff.rfl
    · exact Iff.rfl
    · exact absurd rfl dot
    · rename_i small large _
      split
      · exact absurd rfl (small _)
      · exact absurd rfl (large _)
      · exact Iff.rfl

theorem skip_number_taken (input rest : Bytes) (done : skipNumber input = .ok rest) :
    NumberTaken Unsigned (fun input rest => skipNumber input = .ok rest) input rest := by
  refine unsigned_taken _ (fun _ input rest => skipAfterWhole input = .ok rest)
    (fun _ => skip_decimals_taken) ?_ ?_ ?_ input rest done
  · intro input rest
    cases input with
    | nil => simp [skipNumber, skipAfterWhole, Stopped]
    | cons b input => by_cases digit : isDigit b = true <;> simp [skipNumber, Stopped, digit]
  · intro mark input rest digit first
    simp [skipNumber, digit]
  · intro input rest done
    cases input with
    | nil => cases done
    | cons mark input =>
        refine ⟨mark, input, rfl, ?_⟩
        by_cases first : mark = 0x30
        · rw [first]
          decide
        · refine Decidable.byContradiction fun digit => ?_
          simp [skipNumber, digit] at done

theorem read_tail_plain (positive : Bool) (significand : Nat) (exponent : Int) (input : Bytes)
    (small : input.head? ≠ some 0x65) (large : input.head? ≠ some 0x45) :
    readTail positive significand exponent input =
      (compose positive significand exponent).map fun value => (value, input) := by
  unfold readTail
  split
  · exact absurd rfl small
  · exact absurd rfl large
  · rfl

section Reading

variable (positive : Bool) (value : Float)

theorem read_tail_taken (significand : Nat) (before : Int) (input rest : Bytes)
    (done : readTail positive significand before input = .ok (value, rest)) :
    NumberTaken Power
      (fun input rest => readTail positive significand before input = .ok (value, rest))
      input rest := by
  refine tail_taken
    (fun input rest => readPower positive significand before input = .ok (value, rest)) _
    (compose positive significand before = .ok value) (read_power_taken _ _ _ _) ?_ ?_ input rest
    done
  · rintro mark (rfl | rfl) input rest <;> rfl
  · intro input rest small large
    rw [read_tail_plain _ _ _ _ small large, map_ok_iff]
    constructor
    · rintro ⟨_, composed, same⟩
      cases same
      exact ⟨composed, rfl⟩
    · rintro ⟨composed, rfl⟩
      exact ⟨value, composed, rfl⟩

end Reading

def readBare (positive : Bool) (significand : Nat) (left input : Bytes) :
    Except Fault (Found × Bytes) :=
  match input with
  | 0x65 :: rest => readAfterWhole positive significand left (0x65 :: rest)
  | 0x45 :: rest => readAfterWhole positive significand left (0x45 :: rest)
  | rest => (readAfterWhole positive significand left []).map fun read => (read.1, rest)

theorem read_bare_plain (positive : Bool) (significand : Nat) (left input : Bytes)
    (small : input.head? ≠ some 0x65) (large : input.head? ≠ some 0x45) :
    readBare positive significand left input =
      (readAfterWhole positive significand left []).map fun read => (read.1, input) := by
  unfold readBare
  split
  · exact absurd rfl small
  · exact absurd rfl large
  · rfl

theorem floating_ok_iff (result : Except Fault (Float × Bytes)) (found : Found) (rest : Bytes) :
    (result.map fun (value, rest) => (Found.float value, rest)) = .ok (found, rest) ↔
      ∃ value, found = .float value ∧ result = .ok (value, rest) := by
  rw [map_ok_iff]
  constructor
  · rintro ⟨⟨value, rest⟩, read, same⟩
    cases same
    exact ⟨value, rfl, read⟩
  · rintro ⟨value, rfl, read⟩
    exact ⟨(value, rest), read, rfl⟩

theorem read_bare_taken (positive : Bool) (significand : Nat) (left : Bytes) (found : Found)
    (input rest : Bytes) (done : readBare positive significand left input = .ok (found, rest)) :
    NumberTaken Power
      (fun input rest => readBare positive significand left input = .ok (found, rest))
      input rest := by
  refine tail_taken (fun input rest => ∃ value, found = .float value ∧
      readPower positive significand left.length input = .ok (value, rest))
    _ (∃ rest, readAfterWhole positive significand left [] = .ok (found, rest)) ?_ ?_ ?_ input rest
    done
  · rintro input rest ⟨value, same, read⟩
    obtain ⟨used, split, written, again⟩ := read_power_taken positive significand _ value _ _ read
    exact ⟨used, split, written, fun other alike => ⟨value, same, again other alike⟩⟩
  · rintro mark (rfl | rfl) input rest
    · exact floating_ok_iff _ found rest
    · exact floating_ok_iff _ found rest
  · intro input rest small large
    rw [read_bare_plain _ _ _ _ small large, map_ok_iff]
    constructor
    · rintro ⟨⟨_, behind⟩, read, same⟩
      cases same
      exact ⟨⟨behind, read⟩, rfl⟩
    · rintro ⟨⟨behind, read⟩, rfl⟩
      exact ⟨(found, behind), read, rfl⟩

theorem read_after_whole_bare (positive : Bool) (significand : Nat) (left input : Bytes)
    (dot : input.head? ≠ some 0x2E) :
    readAfterWhole positive significand left input = readBare positive significand left input := by
  by_cases small : input.head? = some 0x65
  · obtain ⟨rest, rfl⟩ := List.head?_eq_some_iff.mp small
    rfl
  · by_cases large : input.head? = some 0x45
    · obtain ⟨rest, rfl⟩ := List.head?_eq_some_iff.mp large
      rfl
    · have here := read_tail_plain positive significand left.length input small large
      have alone := read_tail_plain positive significand left.length [] (by simp) (by simp)
      rw [read_bare_plain _ _ _ _ small large]
      unfold readAfterWhole
      split
      · exact absurd rfl dot
      · exact absurd rfl small
      · exact absurd rfl large
      · dsimp only
        rw [here, alone]
        split
        · cases compose positive significand left.length <;> rfl
        · split
          · rfl
          · split <;> rfl

theorem read_decimals_taken (positive : Bool) (significand : Nat) (left : Bytes) (found : Found)
    (input rest : Bytes)
    (done : readAfterWhole positive significand left input = .ok (found, rest)) :
    NumberTaken Decimals
      (fun input rest => readAfterWhole positive significand left input = .ok (found, rest))
      input rest := by
  refine decimals_taken
    (fun input rest => readBare positive significand left input = .ok (found, rest)) _
    (fun digits input rest => ∃ value, found = .float value ∧
      readTail positive (gather significand digits).1
        (left.length - (digits.length - (gather significand digits).2.length : Nat)) input =
          .ok (value, rest)) ?_ (read_bare_taken _ _ _ _) ?_ ?_ input rest done
  · rintro digits input rest ⟨value, same, read⟩
    obtain ⟨used, split, written, again⟩ := read_tail_taken positive value _ _ _ _ read
    exact ⟨used, split, written, fun other alike => ⟨value, same, again other alike⟩⟩
  · intro input rest
    refine
      (floating_ok_iff (readFraction positive significand left.length input) found rest).trans ?_
    dsimp only [readFraction]
    cases input.takeWhile isDigit with
    | nil => cases input.dropWhile isDigit <;> simp
    | cons b digits => simp
  · intro input rest dot
    rw [read_after_whole_bare _ _ _ _ dot]

theorem read_number_taken (positive : Bool) (found : Found) (input rest : Bytes)
    (done : readNumber positive input = .ok (found, rest)) :
    NumberTaken Unsigned (fun input rest => readNumber positive input = .ok (found, rest))
      input rest := by
  refine unsigned_taken _ (fun digits input rest => readAfterWhole positive (gather 0 digits).1
    (gather 0 digits).2 input = .ok (found, rest)) (fun _ => read_decimals_taken _ _ _ _) ?_ ?_ ?_
    input rest done
  · intro input rest
    have zero : gather 0 [0x30] = (0, []) := rfl
    rw [zero]
    cases input with
    | nil => simp [readNumber, Stopped]
    | cons b input => by_cases digit : isDigit b = true <;> simp [readNumber, Stopped, digit]
  · intro mark input rest digit first
    simp [readNumber, digit]
  · intro input rest done
    cases input with
    | nil => cases done
    | cons mark input =>
        refine ⟨mark, input, rfl, ?_⟩
        by_cases first : mark = 0x30
        · rw [first]
          decide
        · refine Decidable.byContradiction fun digit => ?_
          simp [readNumber, digit] at done

end WebIdl.Json
