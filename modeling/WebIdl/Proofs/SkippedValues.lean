import WebIdl.Proofs.NumbersTaken

set_option autoImplicit false

namespace WebIdl.Json

def Frame.part : Frame → Bytes → Prop
  | .list => Value
  | .object => Member Value

-- What closes all open frames behind a value.
inductive Closing : List Frame → Bytes → Prop
  | none : Closing [] []
  | frame (frame : Frame) (outer : List Frame) (more gap tail : Bytes)
      (row : Row frame.part false more) (blanks : Blanks gap) (later : Closing outer tail) :
      Closing (frame :: outer) (more ++ (gap ++ frame.close :: tail))

theorem closing_cons (frame : Frame) (outer : List Frame) (text : Bytes)
    (closing : Closing (frame :: outer) text) :
    ∃ more gap tail, text = more ++ (gap ++ frame.close :: tail) ∧ Row frame.part false more ∧
      Blanks gap ∧ Closing outer tail := by
  cases closing with
  | frame _ _ more gap tail row blanks later => exact ⟨more, gap, tail, rfl, row, blanks, later⟩

def Following (frames : List Frame) (text : Bytes) : Prop :=
  ∃ value tail, text = value ++ tail ∧ Led Value value ∧ Closing frames tail

def Naming (frame : Frame) (text : Bytes) : Prop :=
  match frame with
  | .list => text = []
  | .object => ∃ lead name gap, text = lead ++ 0x22 :: (name ++ (gap ++ [0x3A])) ∧ Blanks lead ∧
      Quoted name ∧ Blanks gap

theorem naming_part (frame : Frame) (name text : Bytes) (naming : Naming frame name)
    (inside : Led Value text) : Led frame.part (name ++ text) := by
  cases frame with
  | list =>
      obtain rfl := naming
      exact inside
  | object =>
      obtain ⟨lead, name, gap, rfl, blanks, quoted, gaps⟩ := naming
      have member := Led.intro lead _ blanks (Member.intro name gap text quoted gaps inside)
      simpa [Frame.part] using member

theorem skip_member_name_iff (input rest : Bytes) :
    skipName .object input = .ok rest ↔ ∃ behind, skipBlanks input = 0x22 :: behind ∧
      ∃ middle, skipString behind = .ok middle ∧ readColon middle = .ok rest := by
  unfold skipName
  cases skipBlanks input with
  | nil => simp
  | cons b behind =>
      by_cases quote : b = 0x22
      · subst quote
        simp [bind_ok_iff]
      · simp [quote]

theorem skip_name_taken (frame : Frame) (input rest : Bytes)
    (done : skipName frame input = .ok rest) :
    Taken (Naming frame) (fun input rest => skipName frame input = .ok rest) input rest := by
  cases frame with
  | list =>
      cases done
      exact ⟨[], rfl, rfl, fun _ _ => rfl⟩
  | object =>
      obtain ⟨behind, quote, middle, string, colon⟩ := (skip_member_name_iff input rest).mp done
      refine ((marked_taken 0x22 input behind quote).then
        ((skip_string_taken behind middle string).then
          (mark_taken readColon 0x3A colon_ok_iff middle rest colon))).mono ?_ ?_
      · rintro _ ⟨_, _, rfl, ⟨lead, rfl, blanks⟩, name, _, rfl, quoted, gap, rfl, gaps⟩
        exact ⟨lead, name, gap, by simp, blanks, quoted, gaps⟩
      · exact fun input rest again => (skip_member_name_iff input rest).mpr again

theorem skip_scalar_digit (input : Bytes) (b : UInt8) (rest : Bytes)
    (found : skipBlanks input = b :: rest) (digit : isDigit b = true) :
    skipScalar input = (skipNumber (b :: rest)).map (none, ·) := by
  have other := fun mark => digit_ne b mark digit
  simp [skipScalar, found, digit, other 0x6E (by decide), other 0x74 (by decide),
    other 0x66 (by decide), other 0x2D (by decide), other 0x22 (by decide),
    other 0x5B (by decide), other 0x7B (by decide)]

theorem skipped_ok_iff (result : Except Fault Bytes) (rest : Bytes) :
    result.map ((none : Option Frame), ·) = .ok (none, rest) ↔ result = .ok rest := by
  cases result <;> simp [Except.map]

theorem skip_scalar_by (mark : UInt8) (text : Bytes → Prop) (skip : Bytes → Except Fault Bytes)
    (chosen : ∀ input behind, skipBlanks input = mark :: behind →
      skipScalar input = (skip behind).map (none, ·))
    (takes : ∀ input rest, skip input = .ok rest →
      TakenBefore text (fun input rest => skip input = .ok rest) input rest)
    (written : ∀ used, text used → Value (mark :: used)) (input behind rest : Bytes)
    (found : skipBlanks input = mark :: behind) (done : skipScalar input = .ok (none, rest)) :
    TakenBefore (Led Value) (fun input rest => skipScalar input = .ok (none, rest)) input rest := by
  rw [chosen input behind found, skipped_ok_iff] at done
  refine value_taken Alike mark text Value _ _ input behind rest found (takes behind rest done)
    written ?_
  intro input behind rest found again
  rw [chosen input behind found, skipped_ok_iff]
  exact again

theorem skip_word_taken (mark : UInt8) (word : Bytes) (member : mark :: word ∈ words)
    (chosen : ∀ input behind, skipBlanks input = mark :: behind →
      skipScalar input = (readWord word behind).map (none, ·))
    (input behind rest : Bytes) (found : skipBlanks input = mark :: behind)
    (done : skipScalar input = .ok (none, rest)) :
    TakenBefore (Led Value) (fun input rest => skipScalar input = .ok (none, rest)) input rest := by
  refine skip_scalar_by mark (· = word) (readWord word) chosen ?_ ?_ input behind rest found done
  · exact fun input rest done => (word_taken word input rest done).before
  · rintro _ rfl
    exact .word _ member

theorem skip_scalar_taken (input rest : Bytes) (done : skipScalar input = .ok (none, rest)) :
    TakenBefore (Led Value) (fun input rest => skipScalar input = .ok (none, rest)) input rest := by
  have whole := done
  unfold skipScalar at done
  split at done
  · cases done
  · rename_i behind found
    refine skip_word_taken 0x6E ofNull (by decide) ?_ input behind rest found whole
    exact fun input behind found => by simp only [skipScalar, found]
  · rename_i behind found
    refine skip_word_taken 0x74 ofTrue (by decide) ?_ input behind rest found whole
    exact fun input behind found => by simp only [skipScalar, found]
  · rename_i behind found
    refine skip_word_taken 0x66 ofFalse (by decide) ?_ input behind rest found whole
    exact fun input behind found => by simp only [skipScalar, found]
  · rename_i behind found
    refine skip_scalar_by 0x2D Unsigned skipNumber ?_ ?_ .negative input behind rest found whole
    · exact fun input behind found => by simp only [skipScalar, found]
    · exact fun input rest done => (skip_number_taken input rest done).before
  · rename_i behind found
    refine skip_scalar_by 0x22 Quoted skipString ?_ ?_ .string input behind rest found whole
    · exact fun input behind found => by simp only [skipScalar, found]
    · exact fun input rest done => (skip_string_taken input rest done).before
  · cases done
  · cases done
  · rename_i b behind _ _ _ _ _ _ _ found
    split at done
    · rename_i digit
      have number := (skipped_ok_iff _ _).mp done
      refine ((blanks_taken input _ found).then (skip_number_taken _ rest number).before).mono ?_ ?_
      · rintro _ ⟨lead, used, rfl, blanks, inside⟩
        exact .intro lead used blanks (.positive used inside)
      · rintro input rest ⟨middle, found, again⟩
        obtain ⟨b, behind, rfl, digit⟩ :=
          number_begins _ middle rest (skip_number_taken middle rest again)
        rw [skip_scalar_digit input b behind found digit, skipped_ok_iff]
        exact again
    · cases done

def Frame.opening : Frame → UInt8
  | .list => 0x5B
  | .object => 0x7B

theorem skip_opening_iff (frame : Frame) (input rest : Bytes) :
    skipScalar input = .ok (some frame, rest) ↔ skipBlanks input = frame.opening :: rest := by
  have never : ∀ result : Except Fault Bytes,
      result.map ((none : Option Frame), ·) ≠ .ok (some frame, rest) := by
    intro result
    cases result <;> simp [Except.map]
  constructor
  · intro done
    unfold skipScalar at done
    split at done
    · cases done
    · exact absurd done (never _)
    · exact absurd done (never _)
    · exact absurd done (never _)
    · exact absurd done (never _)
    · exact absurd done (never _)
    · rename_i found
      cases done
      exact found
    · rename_i found
      cases done
      exact found
    · split at done
      · exact absurd done (never _)
      · cases done
  · intro found
    cases frame <;> simp only [skipScalar, found, Frame.opening]

def Onward : List Frame → Bytes → Prop
  | [], text => text = []
  | frame :: outer, text => Following (frame :: outer) text

def Left (frames left : List Frame) (used : Bytes) : Prop :=
  ∀ text, Onward left text → Closing frames (used ++ text)

theorem marked_shorter (mark : UInt8) (input rest : Bytes)
    (found : skipBlanks input = mark :: rest) : rest.length < input.length := by
  obtain ⟨lead, _, split, _⟩ := blanks_split input
  rw [split, found, List.length_append, List.length_cons]
  omega

theorem leave_close (frame : Frame) (outer : List Frame) (input rest : Bytes) (fuel : Nat)
    (found : skipBlanks input = frame.close :: rest) :
    leave (frame :: outer) input (fuel + 1) = leave outer rest fuel := by
  simp only [leave, found, if_true]

theorem leave_comma (frame : Frame) (outer : List Frame) (input rest : Bytes) (fuel : Nat)
    (found : skipBlanks input = 0x2C :: rest) :
    leave (frame :: outer) input (fuel + 1) =
      (skipName frame rest).map fun rest => (frame :: outer, rest) := by
  have other : (0x2C : UInt8) ≠ frame.close := by cases frame <;> decide
  simp only [leave, found, if_neg other, if_true]

theorem leave_taken (frames left : List Frame) (input rest : Bytes) (fuel : Nat)
    (enough : input.length < fuel) (done : leave frames input fuel = .ok (left, rest)) :
    TakenBefore (Left frames left)
      (fun input rest => ∀ fuel, input.length < fuel → leave frames input fuel = .ok (left, rest))
      input rest := by
  induction frames generalizing input fuel with
  | nil =>
      simp only [leave] at done
      cases done
      refine ⟨[], rfl, ?_, fun other _ fuel _ => by simp only [leave, List.nil_append]⟩
      rintro text rfl
      exact .none
  | cons frame outer ih =>
      obtain ⟨fuel, rfl⟩ := Nat.exists_eq_add_of_lt enough
      have whole := done
      simp only [leave] at done
      split at done
      · cases done
      · rename_i b behind found
        have shorter := marked_shorter b input behind found
        by_cases close : b = frame.close
        · subst close
          rw [leave_close _ _ _ _ _ found] at whole
          refine ((marked_taken _ input behind found).then
            (ih behind _ (by omega) whole)).mono ?_ ?_
          · rintro _ ⟨_, used, rfl, ⟨gap, rfl, blanks⟩, closes⟩ text onward
            simpa using Closing.frame frame outer [] gap _ (.done false) blanks (closes text onward)
          · rintro input rest ⟨behind, found, again⟩ fuel enough
            have shorter := marked_shorter _ input behind found
            obtain ⟨more, rfl⟩ := Nat.exists_eq_add_of_lt enough
            rw [leave_close _ _ _ _ _ found]
            exact again _ (by omega)
        · by_cases comma : b = 0x2C
          · subst comma
            rw [leave_comma _ _ _ _ _ found] at whole
            obtain ⟨_, named, same⟩ := (map_ok_iff _ _ _).mp whole
            cases same
            refine ((marked_taken _ input behind found).then
              (skip_name_taken frame behind rest named).before).mono ?_ ?_
            · rintro _ ⟨_, name, rfl, ⟨gap, rfl, blanks⟩, naming⟩ _ ⟨value, _, rfl, inside, closing⟩
              obtain ⟨more, last, tail, rfl, row, lasts, later⟩ := closing_cons _ _ _ closing
              have part := naming_part frame name value naming inside
              simpa using Closing.frame frame outer _ last tail
                (.next gap _ more blanks part row) lasts later
            · rintro input rest ⟨behind, found, named⟩ fuel enough
              obtain ⟨more, rfl⟩ := Nat.exists_eq_add_of_lt enough
              rw [leave_comma _ _ _ _ _ found, named]
              rfl
          · rw [if_neg close, if_neg comma] at done
            cases done

def enter (frames : List Frame) (frame : Frame) (input : Bytes) :
    Except Fault (List Frame × Bytes) :=
  match skipBlanks input with
  | [] => .error frame.unended
  | b :: others =>
      if b = frame.close then leave frames others (others.length + 1)
      else (skipName frame (b :: others)).map fun rest => (frame :: frames, rest)

def Entered (frames : List Frame) (frame : Frame) (left : List Frame) (used : Bytes) : Prop :=
  ∀ text, Onward left text →
    ∃ body tail, used ++ text = body ++ tail ∧ Body frame.part frame.close body ∧
      Closing frames tail

theorem enter_taken (frames left : List Frame) (frame : Frame) (input rest : Bytes)
    (done : enter frames frame input = .ok (left, rest)) :
    TakenBefore (Entered frames frame left)
      (fun input rest => enter frames frame input = .ok (left, rest)) input rest := by
  have whole := done
  unfold enter at done
  split at done
  · cases done
  · rename_i b others found
    by_cases close : b = frame.close
    · subst close
      rw [if_pos rfl] at done
      refine ((marked_taken _ input others found).then
        (leave_taken frames left others rest _ (Nat.lt_succ_self _) done)).mono ?_ ?_
      · rintro _ ⟨_, used, rfl, ⟨gap, rfl, blanks⟩, closes⟩ text onward
        exact ⟨gap ++ [frame.close], used ++ text, List.append_assoc _ _ _,
          .intro [] gap (.done true) blanks, closes text onward⟩
      · rintro input rest ⟨others, found, again⟩
        simp only [enter, found, if_true]
        exact again _ (Nat.lt_succ_self _)
    · rw [if_neg close] at done
      obtain ⟨_, named, same⟩ := (map_ok_iff _ _ _).mp done
      cases same
      obtain ⟨gap, blanks, split, solid⟩ := blanks_split input
      obtain ⟨name, front, naming, again⟩ := skip_name_taken frame _ _ named
      rw [found] at split solid
      rw [front] at split
      refine ⟨gap ++ name, by rw [split, List.append_assoc], ?_, ?_⟩
      · rintro _ ⟨value, _, rfl, inside, closing⟩
        obtain ⟨more, last, tail, rfl, row, lasts, later⟩ := closing_cons _ _ _ closing
        have part := led_blanks _ gap _ blanks (naming_part frame name value naming inside)
        refine ⟨_, tail, ?_, .intro _ last (.first _ more part row) lasts, later⟩
        simp
      · intro other alike
        have heads := head_append name rest other alike.1
        rw [← front] at heads
        obtain ⟨behind, same⟩ := List.head?_eq_some_iff.mp heads.symm
        have start : skipBlanks (gap ++ name ++ other) = b :: behind := by
          rw [List.append_assoc, skip_blanks gap _ blanks, same, skip_solid b behind (solid b rfl)]
        simp only [enter, start, if_neg close]
        rw [← same, again other trivial]
        rfl

def next (frames : List Frame) (entered : Option Frame) (input : Bytes) :
    Except Fault (List Frame × Bytes) :=
  match entered with
  | none => leave frames input (input.length + 1)
  | some frame => enter frames frame input

def onward (rounds : Nat) (frames : List Frame) (input : Bytes) : Except Fault Bytes :=
  if frames.isEmpty then .ok input else skipRounds rounds frames input

theorem skip_rounds_eq (rounds : Nat) (frames : List Frame) (input : Bytes) :
    skipRounds (rounds + 1) frames input = (do
      let (entered, behind) ← skipScalar input
      let (left, middle) ← next frames entered behind
      onward rounds left middle) := by
  rw [skipRounds]
  refine bind_congr fun ⟨entered, behind⟩ => ?_
  cases entered with
  | none => rfl
  | some frame =>
      dsimp only [next, enter]
      cases skipBlanks behind with
      | nil => rfl
      | cons b others => by_cases close : b = frame.close <;> simp only [close] <;> rfl

theorem rounds_ok_iff (rounds : Nat) (frames : List Frame) (input rest : Bytes) :
    skipRounds (rounds + 1) frames input = .ok rest ↔
      ∃ entered behind, skipScalar input = .ok (entered, behind) ∧
        ∃ left middle, next frames entered behind = .ok (left, middle) ∧
          onward rounds left middle = .ok rest := by
  rw [skip_rounds_eq, bind_ok_iff]
  constructor
  · rintro ⟨⟨entered, behind⟩, scalar, done⟩
    obtain ⟨⟨left, middle⟩, step, done⟩ := (bind_ok_iff _ _ _).mp done
    exact ⟨entered, behind, scalar, left, middle, step, done⟩
  · rintro ⟨entered, behind, scalar, left, middle, step, done⟩
    exact ⟨(entered, behind), scalar, (bind_ok_iff _ _ _).mpr ⟨(left, middle), step, done⟩⟩

-- One round: a value or the way into a frame, and what is closed behind it.
theorem round_taken (frames left : List Frame) (entered : Option Frame)
    (input behind middle : Bytes) (scalar : skipScalar input = .ok (entered, behind))
    (step : next frames entered behind = .ok (left, middle)) :
    TakenBefore (fun used => ∀ text, Onward left text → Following frames (used ++ text))
      (fun input middle => (∃ behind, skipScalar input = .ok (entered, behind) ∧
        next frames entered behind = .ok (left, middle)) ∧ middle.length < input.length)
      input middle := by
  cases entered with
  | none =>
      have passed := (skip_scalar_taken input behind scalar).then
        (leave_taken frames left behind middle _ (Nat.lt_succ_self _) step)
      refine (passed.shorter ?_).mono ?_ ?_
      · rintro _ ⟨value, used, rfl, inside, _⟩
        simp [led_some Value value_begins value inside]
      · rintro _ ⟨value, used, rfl, inside, closes⟩ text onward
        exact ⟨value, used ++ text, List.append_assoc _ _ _, inside, closes text onward⟩
      · rintro input middle ⟨⟨behind, scalar, again⟩, shorter⟩
        exact ⟨⟨behind, scalar, again _ (Nat.lt_succ_self _)⟩, shorter⟩
  | some frame =>
      have found := (skip_opening_iff frame input behind).mp scalar
      have opened := (marked_taken _ input behind found).then
        (enter_taken frames left frame behind middle step)
      refine (TakenBefore.shorter opened ?_).mono ?_ ?_
      · rintro _ ⟨_, used, rfl, ⟨gap, rfl, _⟩, _⟩
        simp
      · rintro _ ⟨_, used, rfl, ⟨gap, rfl, blanks⟩, entered⟩ text onward
        obtain ⟨body, tail, split, inside, closing⟩ := entered text onward
        refine ⟨_, tail, ?_, .intro gap (frame.opening :: body) blanks ?_, closing⟩
        · simp [split]
        cases frame with
        | list => exact .list body inside
        | object => exact .object body inside
      · rintro input middle ⟨⟨behind, found, step⟩, shorter⟩
        exact ⟨⟨behind, (skip_opening_iff frame input behind).mpr found, step⟩, shorter⟩

theorem rounds_taken (rounds : Nat) (frames : List Frame) (input rest : Bytes)
    (enough : input.length < rounds) (done : skipRounds rounds frames input = .ok rest) :
    TakenBefore (Following frames)
      (fun input rest => ∀ rounds, input.length < rounds →
        skipRounds rounds frames input = .ok rest) input rest := by
  induction rounds generalizing frames input with
  | zero => cases done
  | succ rounds ih =>
      obtain ⟨entered, behind, scalar, left, middle, step, done⟩ :=
        (rounds_ok_iff rounds frames input rest).mp done
      have first := round_taken frames left entered input behind middle scalar step
      have later : TakenBefore (Onward left) (fun input rest => ∀ rounds, input.length < rounds →
          onward rounds left input = .ok rest) middle rest := by
        cases left with
        | nil =>
            cases done
            exact ⟨[], rfl, rfl, fun _ _ _ _ => rfl⟩
        | cons frame outer =>
            have shorter := first.here.2
            exact ih (frame :: outer) middle (by omega) done
      refine (first.then later).mono ?_ ?_
      · rintro _ ⟨used, text, rfl, steps, onward⟩
        exact steps text onward
      · rintro input rest ⟨middle, ⟨⟨behind, scalar, step⟩, shorter⟩, again⟩ rounds enough
        obtain ⟨more, rfl⟩ := Nat.exists_eq_add_of_lt enough
        exact (rounds_ok_iff _ frames input rest).mpr
          ⟨entered, behind, scalar, left, middle, step, again _ (by omega)⟩

theorem skip_value_taken (input rest : Bytes) (done : skipValue input = .ok rest) :
    TakenBefore (Led Value) (fun input rest => skipValue input = .ok rest) input rest := by
  refine (rounds_taken _ [] input rest (Nat.lt_succ_self _) done).mono ?_ ?_
  · rintro _ ⟨value, _, rfl, inside, closing⟩
    cases closing
    simpa using inside
  · exact fun input rest again => again _ (Nat.lt_succ_self _)

end WebIdl.Json
