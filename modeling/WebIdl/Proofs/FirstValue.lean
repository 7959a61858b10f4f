import WebIdl.Attempt
import WebIdl.Proofs.RoundTrip
import WebIdl.Proofs.SkippedValues

set_option autoImplicit false

namespace WebIdl.Node

open Json (Bytes Result written Blanks Led Value Row Body Marked Joined Taken TakenBefore Alike)

-- A reader that looks no further than the marks at the start of what follows.
def Settled {ε α : Type} (read : Bytes → Except ε (α × Bytes)) (text : Bytes → Prop) : Prop :=
  ∀ input value rest, read input = .ok (value, rest) →
    TakenBefore text (fun input rest => read input = .ok (value, rest)) input rest

def Closed {α : Type} (read : Bytes → Result (α × Bytes)) (text : Bytes → Prop) : Prop :=
  ∀ input value rest, read input = .ok (value, rest) →
    Taken text (fun input rest => read input = .ok (value, rest)) input rest

theorem here_ok_iff {α : Type} (result : Except Json.Fault α) (value : α) :
    Json.here result = .ok value ↔ result = .ok value := by
  cases result <;> simp [Json.here, Json.fail]

theorem within_ok_iff {α : Type} (segment : Json.Segment) (result : Result α) (value : α) :
    Json.within segment result = .ok value ↔ result = .ok value := by
  cases result <;> simp [Json.within]

section Parts

variable {α : Type}

theorem Closed.settled {read : Bytes → Result (α × Bytes)} {text : Bytes → Prop}
    (closed : Closed read text) : Settled read text := fun input value rest done =>
  (closed input value rest done).before

theorem Settled.congr {read read' : Bytes → Result (α × Bytes)} {text : Bytes → Prop}
    (settled : Settled read' text) (same : ∀ input, read input = read' input) :
    Settled read text := by
  obtain rfl : read = read' := funext same
  exact settled

theorem here_settled {read : Bytes → Except Json.Fault (α × Bytes)} {text : Bytes → Prop}
    (settled : Settled read text) : Settled (fun input => Json.here (read input)) text := by
  intro input value rest done
  refine (settled input value rest ((here_ok_iff _ _).mp done)).mono (fun _ => id) ?_
  exact fun input rest again => (here_ok_iff _ _).mpr again

theorem map_settled {β : Type} {read : Bytes → Except Json.Fault (α × Bytes)} {text : Bytes → Prop}
    (settled : Settled read text) (as : α → β) :
    Settled (fun input => (read input).map fun found => (as found.1, found.2)) text := by
  intro input value rest done
  obtain ⟨⟨found, behind⟩, read, same⟩ := (map_ok_iff _ _ _).mp done
  cases same
  refine (settled input found behind read).mono (fun _ => id) ?_
  exact fun input rest again => (map_ok_iff _ _ _).mpr ⟨(found, rest), again, rfl⟩

theorem word_settled (word : Bytes) (value : α) :
    Settled (fun input => (Json.readWord word input).map (value, ·)) (· = word) := by
  intro input found rest done
  obtain ⟨_, read, same⟩ := (map_ok_iff _ _ _).mp done
  cases same
  refine (Json.word_taken word input _ read).before.mono (fun _ => id) ?_
  exact fun input rest again => (map_ok_iff _ _ _).mpr ⟨rest, again, rfl⟩

theorem number_settled (positive : Bool) : Settled (Json.readNumber positive) Json.Unsigned :=
  fun input found rest done => (Json.read_number_taken positive found input rest done).before

theorem string_settled : Settled Json.readString Json.Quoted :=
  fun input text rest done => (Json.read_string_taken input rest text done).before

theorem return_settled {β : Type} {read : Bytes → Result (α × Bytes)} {text : Bytes → Prop}
    (settled : Settled read text) (as : α → β) :
    Settled (fun input => do
      let (found, rest) ← read input
      return (as found, rest)) text := by
  intro input value rest done
  obtain ⟨⟨found, behind⟩, read, same⟩ := (bind_ok_iff _ _ _).mp done
  cases same
  refine (settled input found _ read).mono (fun _ => id) ?_
  exact fun input rest again => (bind_ok_iff _ _ _).mpr ⟨(found, rest), again, rfl⟩

theorem once_settled {read : Bytes → Result (α × Bytes)} {text : Bytes → Prop} (twice : Bool)
    (fault : Json.Fault) (settled : Settled read text) :
    Settled (fun input => if twice then Json.fail fault else read input) text := by
  cases twice with
  | false => exact settled.congr fun _ => rfl
  | true => exact fun _ _ _ done => nomatch done

theorem settled_by (read inner : Bytes → Result (α × Bytes)) (mark : UInt8) (text : Bytes → Prop)
    (settled : Settled inner text) (written : ∀ used, text used → Value (mark :: used))
    (chosen : ∀ input behind, Json.skipBlanks input = mark :: behind → read input = inner behind)
    (input behind : Bytes) (value : α) (rest : Bytes)
    (found : Json.skipBlanks input = mark :: behind) (done : read input = .ok (value, rest)) :
    TakenBefore (Led Value) (fun input rest => read input = .ok (value, rest)) input rest := by
  rw [chosen input behind found] at done
  refine Json.value_taken Alike mark text Value _ _ input behind rest found
    (settled behind value rest done) written ?_
  intro input behind rest found again
  rw [chosen input behind found]
  exact again

theorem settled_by_word (read : Bytes → Result (α × Bytes)) (mark : UInt8) (word : Bytes) (as : α)
    (member : mark :: word ∈ Json.words)
    (chosen : ∀ input behind, Json.skipBlanks input = mark :: behind →
      read input = Json.here ((Json.readWord word behind).map (as, ·)))
    (input behind : Bytes) (value : α) (rest : Bytes)
    (found : Json.skipBlanks input = mark :: behind) (done : read input = .ok (value, rest)) :
    TakenBefore (Led Value) (fun input rest => read input = .ok (value, rest)) input rest := by
  refine settled_by read _ mark (· = word) (here_settled (word_settled word as)) ?_ chosen input
    behind value rest found done
  rintro _ rfl
  exact .word _ member

theorem items_taken (read : Bytes → Result (α × Bytes)) (settled : Settled read (Led Value))
    (fuel index : Nat) (input : Bytes) (items : List α) (rest : Bytes)
    (done : readItems read fuel index input = .ok (items, rest)) :
    TakenBefore (Row Value (index == 0))
      (fun input rest => ∀ fuel, input.length < fuel →
        readItems read fuel index input = .ok (items, rest)) input rest := by
  induction fuel generalizing index input items rest with
  | zero => cases done
  | succ fuel ih =>
      rw [readItems] at done
      obtain ⟨next, found, done⟩ := (bind_ok_iff _ _ _).mp done
      rw [here_ok_iff] at found
      cases next with
      | none =>
          cases done
          refine ⟨[], rfl, .done _, fun other alike fuel enough => ?_⟩
          obtain ⟨more, rfl⟩ := Nat.exists_eq_add_of_lt enough
          rw [List.nil_append, readItems, Json.next_item_none _ _ other alike found]
          rfl
      | some middle =>
          obtain ⟨⟨item, behind⟩, first, done⟩ := (bind_ok_iff _ _ _).mp done
          obtain ⟨⟨others, last⟩, later, done⟩ := (bind_ok_iff _ _ _).mp done
          cases done
          rw [within_ok_iff] at first
          have tail := ih (index + 1) behind others rest later
          have step := (settled middle item behind first).shorter
            (Json.led_some Value Json.value_begins)
          refine ((Json.next_item_taken _ input middle found).then (step.then tail)).mono ?_ ?_
          · rintro _ ⟨front, _, rfl, before, text, row, rfl, inside, rows⟩
            exact Json.row_cons Value _ front text row before inside rows
          · rintro input rest ⟨middle, found, behind, ⟨first, shorter⟩, later⟩ fuel enough
            obtain ⟨more, rfl⟩ := Nat.exists_eq_add_of_lt enough
            have least := (Json.next_item_taken _ input middle found).length_le
            rw [readItems, found]
            refine (bind_ok_iff _ _ _).mpr ⟨some middle, rfl, ?_⟩
            refine (bind_ok_iff _ _ _).mpr ⟨(item, behind), (within_ok_iff _ _ _).mpr first, ?_⟩
            exact (bind_ok_iff _ _ _).mpr ⟨(others, rest), later _ (by omega), rfl⟩

theorem list_body_closed (read : Bytes → Result (α × Bytes)) (settled : Settled read (Led Value)) :
    Closed (readListBody read) (Body Value 0x5D) := by
  intro input items rest done
  rw [readListBody] at done
  obtain ⟨⟨items, behind⟩, body, done⟩ := (bind_ok_iff _ _ _).mp done
  obtain ⟨_, last, done⟩ := (bind_ok_iff _ _ _).mp done
  cases done
  rw [here_ok_iff] at last
  have row := items_taken read settled _ _ input items behind body
  refine (Json.body_taken Value 0x5D (by decide) Json.endList Json.end_list_ok_iff _ input behind _
    row last).mono (fun _ => id) ?_
  rintro input rest ⟨behind, again, last⟩
  refine (bind_ok_iff _ _ _).mpr ⟨(items, behind), again _ (Nat.lt_succ_self _), ?_⟩
  exact (bind_ok_iff _ _ _).mpr ⟨rest, (here_ok_iff _ _).mpr last, rfl⟩

abbrev Coloned : Bytes → Prop := Joined (Marked 0x3A) (Led Value)

theorem value_settled (name : String) (read : Bytes → Result (α × Bytes))
    (settled : Settled read (Led Value)) : Settled (readValue name read) Coloned := by
  intro input value rest done
  obtain ⟨behind, colon, done⟩ := (bind_ok_iff _ _ _).mp done
  rw [here_ok_iff] at colon
  rw [within_ok_iff] at done
  have mark := Json.mark_taken Json.readColon 0x3A Json.colon_ok_iff input behind colon
  refine (mark.then (settled behind value rest done)).mono (fun _ => id) ?_
  rintro input rest ⟨behind, colon, done⟩
  exact (bind_ok_iff _ _ _).mpr
    ⟨behind, (here_ok_iff _ _).mpr colon, (within_ok_iff _ _ _).mpr done⟩

theorem members_taken (read : α → String → Bytes → Result (α × Bytes))
    (settled : ∀ state name, Settled (read state name) Coloned) (fuel : Nat) (first : Bool)
    (state final : α) (input rest : Bytes)
    (done : readMembers read fuel first state input = .ok (final, rest)) :
    TakenBefore (Row (Json.Member Value) first)
      (fun input rest => ∀ fuel, input.length < fuel →
        readMembers read fuel first state input = .ok (final, rest)) input rest := by
  induction fuel generalizing first state input with
  | zero => cases done
  | succ fuel ih =>
      rw [readMembers] at done
      obtain ⟨next, found, done⟩ := (bind_ok_iff _ _ _).mp done
      rw [within_ok_iff, here_ok_iff] at found
      cases next with
      | none =>
          cases done
          refine ⟨[], rfl, .done _, fun other alike fuel enough => ?_⟩
          obtain ⟨more, rfl⟩ := Nat.exists_eq_add_of_lt enough
          rw [List.nil_append, readMembers, Json.next_name_none _ _ other alike found]
          rfl
      | some named =>
          obtain ⟨name, middle⟩ := named
          obtain ⟨⟨next, behind⟩, step, done⟩ := (bind_ok_iff _ _ _).mp done
          have tail := ih false next behind done
          have value := (settled state name middle next behind step).shorter ?_
          · refine ((Json.next_name_taken first name input middle found).then
              (value.then tail)).mono ?_ ?_
            · rintro _ ⟨_, _, rfl, ⟨front, quoted, rfl, before, name⟩, _, row, rfl,
                ⟨_, text, rfl, ⟨gap, rfl, blanks⟩, inside⟩, rows⟩
              have member := Led.intro [] _ (by simp [Blanks])
                (Json.Member.intro quoted gap text name blanks inside)
              simpa using Json.row_cons (Json.Member Value) first front _ row before member rows
            · rintro input rest ⟨middle, found, behind, ⟨step, shorter⟩, later⟩ fuel enough
              obtain ⟨more, rfl⟩ := Nat.exists_eq_add_of_lt enough
              have least := (Json.next_name_taken first name input middle found).length_le
              rw [readMembers, found]
              refine (bind_ok_iff _ _ _).mpr ⟨some (name, middle), rfl, ?_⟩
              exact (bind_ok_iff _ _ _).mpr ⟨(next, behind), step, later _ (by omega)⟩
          · rintro _ ⟨_, text, rfl, ⟨gap, rfl, _⟩, _⟩
            simp

theorem object_body_closed (read : α → String → Bytes → Result (α × Bytes))
    (settled : ∀ state name, Settled (read state name) Coloned) (start : α) :
    Closed (readObjectBody read start) (Body (Json.Member Value) 0x7D) := by
  intro input final rest done
  rw [readObjectBody] at done
  obtain ⟨⟨final, behind⟩, body, done⟩ := (bind_ok_iff _ _ _).mp done
  obtain ⟨_, last, done⟩ := (bind_ok_iff _ _ _).mp done
  cases done
  rw [here_ok_iff] at last
  have row := members_taken read settled _ _ start final input behind body
  refine (Json.body_taken (Json.Member Value) 0x7D (by decide) Json.endObject Json.end_object_ok_iff
    _ input behind _ row last).mono (fun _ => id) ?_
  rintro input rest ⟨behind, again, last⟩
  refine (bind_ok_iff _ _ _).mpr ⟨(final, behind), again _ (Nat.lt_succ_self _), ?_⟩
  exact (bind_ok_iff _ _ _).mpr ⟨rest, (here_ok_iff _ _).mpr last, rfl⟩

end Parts

theorem text_settled : Settled readText (Led Value) := by
  intro input text rest done
  have whole := done
  unfold readText at done
  split at done
  · rename_i behind found
    exact settled_by readText _ 0x22 Json.Quoted (here_settled string_settled) .string
      (fun _ _ found => by simp only [readText, found]) input behind text rest found whole
  · cases done

theorem text_begins (input : Bytes) (read : String × Bytes) (done : readText input = .ok read) :
    ∃ behind, Json.skipBlanks input = 0x22 :: behind := by
  unfold readText at done
  split at done
  · rename_i behind found
    exact ⟨behind, found⟩
  · cases done

theorem name_settled : Settled readName (Led Value) := by
  intro input name rest done
  have whole := done
  unfold readName at done
  split at done
  · rename_i behind found
    refine settled_by_word _ 0x6E Json.ofNull none (by decide) ?_ input behind name rest found whole
    exact fun _ _ found => by simp only [readName, found]
  · obtain ⟨read, text, _⟩ := (bind_ok_iff _ _ _).mp done
    obtain ⟨behind, found⟩ := text_begins _ read text
    rw [Json.skip_twice] at found
    exact settled_by readName _ 0x22 Json.Quoted
      (return_settled (here_settled string_settled) some) .string
      (fun _ _ found => by simp only [readName, found]; rfl) input behind name rest found whole

theorem read_number_begins (input : Bytes) (read : Content × Bytes)
    (done : ((Json.readNumber true input).map fun r => (Content.other, r.2)) = .ok read) :
    ∃ b behind, input = b :: behind ∧ Json.isDigit b = true := by
  obtain ⟨⟨found, rest⟩, number, _⟩ := (map_ok_iff _ _ _).mp done
  exact Json.number_begins _ input rest (Json.read_number_taken true found input rest number)

theorem read_content_digit (levels : Nat) (input : Bytes) (b : UInt8) (rest : Bytes)
    (found : Json.skipBlanks input = b :: rest) (digit : Json.isDigit b = true) :
    readContent levels input =
      Json.here ((Json.readNumber true (b :: rest)).map fun r => (.other, r.2)) := by
  have other := fun mark => Json.digit_ne b mark digit
  rw [readContent]
  simp [found, digit, other 0x6E (by decide), other 0x74 (by decide),
    other 0x66 (by decide), other 0x2D (by decide), other 0x22 (by decide),
    other 0x5B (by decide), other 0x7B (by decide)]

theorem content_settled_at (levels : Nat)
    (below : ∀ fewer, levels = fewer + 1 → Settled (readContent fewer) (Led Value)) :
    Settled (readContent levels) (Led Value) := by
  intro input content rest done
  have whole := done
  rw [readContent] at done
  split at done
  · cases done
  · rename_i behind found
    refine settled_by_word _ 0x6E Json.ofNull .other (by decide) ?_ input behind content rest
      found whole
    exact fun _ _ found => by rw [readContent, found]; rfl
  · rename_i behind found
    refine settled_by_word _ 0x74 Json.ofTrue (.flag true) (by decide) ?_ input behind content rest
      found whole
    exact fun _ _ found => by rw [readContent, found]; rfl
  · rename_i behind found
    refine settled_by_word _ 0x66 Json.ofFalse (.flag false) (by decide) ?_ input behind content rest
      found whole
    exact fun _ _ found => by rw [readContent, found]; rfl
  · rename_i behind found
    exact settled_by _ _ 0x2D Json.Unsigned
      (here_settled (map_settled (number_settled false) fun _ => Content.other)) .negative
      (fun _ _ found => by rw [readContent, found]; rfl) input behind content rest found whole
  · rename_i behind found
    exact settled_by _ _ 0x22 Json.Quoted
      (here_settled (map_settled string_settled Content.text)) .string
      (fun _ _ found => by rw [readContent, found]; rfl) input behind content rest found whole
  · rename_i behind found
    cases levels with
    | zero => cases done
    | succ fewer =>
        exact settled_by _ _ 0x5B _
          (return_settled (list_body_closed _ (below fewer rfl)).settled Content.list) .list
          (fun _ _ found => by rw [readContent, found]; rfl) input behind content rest found whole
  · rename_i behind found
    cases levels with
    | zero => cases done
    | succ fewer =>
        have members := object_body_closed _ (fun (_ : Unit) name =>
          return_settled (value_settled name _ (below fewer rfl)) fun _ => ()) ()
        exact settled_by _ _ 0x7B _ (return_settled members.settled fun _ => Content.other) .object
          (fun _ _ found => by rw [readContent, found]; rfl) input behind content rest found whole
  · rename_i b behind _ _ _ _ _ _ _ found
    split at done
    · have number := map_settled (number_settled true) (fun _ => Content.other) (b :: behind)
        content rest ((here_ok_iff _ _).mp done)
      refine ((Json.blanks_taken input _ found).then number).mono ?_ ?_
      · rintro _ ⟨lead, used, rfl, blanks, inside⟩
        exact .intro lead used blanks (.positive used inside)
      · rintro input rest ⟨middle, found, again⟩
        obtain ⟨b, behind, rfl, digit⟩ := read_number_begins middle _ again
        rw [read_content_digit levels input b behind found digit]
        exact (here_ok_iff _ _).mpr again
    · cases done

theorem content_settled (levels : Nat) : Settled (readContent levels) (Led Value) := by
  induction levels with
  | zero => exact content_settled_at 0 fun _ none => nomatch none
  | succ fewer ih =>
      refine content_settled_at (fewer + 1) fun other same => ?_
      cases same
      exact ih

theorem skip_settled {α : Type} (value : α) :
    Settled (fun input => (Json.skipValue input).map (value, ·)) (Led Value) := by
  intro input found rest done
  obtain ⟨_, skip, same⟩ := (map_ok_iff _ _ _).mp done
  cases same
  refine (Json.skip_value_taken input _ skip).mono (fun _ => id) ?_
  exact fun input rest again => (map_ok_iff _ _ _).mpr ⟨rest, again, rfl⟩

theorem property_settled (levels : Nat) : Settled (readProperty levels) (Led Value) := by
  intro input value rest done
  obtain ⟨⟨content, behind⟩, read, done⟩ := (bind_ok_iff _ _ _).mp done
  cases shape : content.toProperty with
  | none =>
      simp only [shape] at done
      cases done
  | some found =>
      simp only [shape] at done
      cases done
      refine (content_settled levels input content _ read).mono (fun _ => id) ?_
      intro input rest again
      refine (bind_ok_iff _ _ _).mpr ⟨(content, rest), again, ?_⟩
      simp only [shape]
      rfl

theorem properties_settled (levels : Nat) : Settled (readProperties levels) (Led Value) := by
  intro input properties rest done
  have whole := done
  unfold readProperties at done
  split at done
  · rename_i behind found
    cases levels with
    | zero => cases done
    | succ levels =>
        have members := object_body_closed _ (fun (table : Table PropertyValue) key =>
          return_settled (value_settled key _ (property_settled levels)) (table.insert key)) .empty
        exact settled_by _ _ 0x7B _ members.settled .object
          (fun _ _ found => by simp only [readProperties, found]) input behind properties rest
          found whole
  · cases done

section Nodes

variable (levels : Nat) (child : Bytes → Result (Node × Bytes))
  (settled : Settled child (Led Value))

include settled

theorem children_settled : Settled (readChildren levels child) (Led Value) := by
  intro input children rest done
  have whole := done
  unfold readChildren at done
  split at done
  · rename_i behind found
    cases levels with
    | zero => cases done
    | succ levels =>
        exact settled_by _ _ 0x5B _ (list_body_closed child settled).settled .list
          (fun _ _ found => by simp only [readChildren, found]) input behind children rest found
          whole
  · cases done

theorem field_settled (fields : Fields) (name : String) :
    Settled (readField levels child fields name) Coloned := by
  by_cases kind : name = "class"
  · exact (once_settled fields.kind.isSome (.duplicateField "class")
      (return_settled (value_settled name _ text_settled)
        fun kind => { fields with kind := some kind })).congr
          fun input => by rw [readField, if_pos kind]
  by_cases own : name = "name"
  · exact (once_settled fields.name.isSome (.duplicateField "name")
      (return_settled (value_settled name _ name_settled)
        fun own => { fields with name := some own })).congr
          fun input => by rw [readField, if_neg kind, if_pos own]
  by_cases given : name = "properties"
  · exact (once_settled fields.properties.isSome (.duplicateField "properties")
      (return_settled (value_settled name _ (properties_settled levels))
        fun properties => { fields with properties := some properties })).congr
          fun input => by rw [readField, if_neg kind, if_neg own, if_pos given]
  by_cases below : name = "children"
  · exact (once_settled fields.children.isSome (.duplicateField "children")
      (return_settled (value_settled name _ (children_settled levels child settled))
        fun children => { fields with children := some children })).congr
          fun input => by rw [readField, if_neg kind, if_neg own, if_neg given, if_pos below]
  · exact (value_settled name _ (here_settled (skip_settled fields))).congr fun input => by
      rw [readField, if_neg kind, if_neg own, if_neg given, if_neg below]

theorem object_closed : Closed (readObject levels child) (Body (Json.Member Value) 0x7D) := by
  intro input node rest done
  obtain ⟨⟨fields, behind⟩, read, done⟩ := (bind_ok_iff _ _ _).mp done
  obtain ⟨found, same, done⟩ := (bind_ok_iff _ _ _).mp done
  obtain ⟨_, last, done⟩ := (bind_ok_iff _ _ _).mp done
  cases done
  rw [here_ok_iff] at last
  have row := members_taken _ (field_settled levels child settled) _ _ _ fields input behind read
  refine (Json.body_taken (Json.Member Value) 0x7D (by decide) Json.endObject Json.end_object_ok_iff
    _ input behind _ row last).mono (fun _ => id) ?_
  rintro input rest ⟨behind, again, last⟩
  refine (bind_ok_iff _ _ _).mpr ⟨(fields, behind), again _ (Nat.lt_succ_self _), ?_⟩
  refine (bind_ok_iff _ _ _).mpr ⟨node, same, ?_⟩
  exact (bind_ok_iff _ _ _).mpr ⟨rest, (here_ok_iff _ _).mpr last, rfl⟩

omit settled in
theorem place_taken {α : Type} (index : Nat) (read : Bytes → Result (α × Bytes))
    (settles : Settled read (Led Value)) (input : Bytes) (found : Option α) (rest : Bytes)
    (done : readPlace index read input = .ok (found, rest)) :
    TakenBefore (fun used => ∀ later, Row Value (index == 0 && found.isNone) later →
        Row Value (index == 0) (used ++ later))
      (fun input rest => readPlace index read input = .ok (found, rest)) input rest := by
  obtain ⟨next, place, done⟩ := (bind_ok_iff _ _ _).mp done
  rw [here_ok_iff] at place
  cases next with
  | none =>
      cases done
      refine ⟨[], rfl, fun later rows => by simpa using rows, fun other alike => ?_⟩
      have again := Json.next_item_none _ _ other alike place
      exact (bind_ok_iff _ _ _).mpr ⟨none, (here_ok_iff _ _).mpr again, rfl⟩
  | some middle =>
      obtain ⟨⟨value, behind⟩, inside, done⟩ := (bind_ok_iff _ _ _).mp done
      cases done
      rw [within_ok_iff] at inside
      refine ((Json.next_item_taken _ input middle place).then
        (settles middle value _ inside)).mono ?_ ?_
      · rintro _ ⟨front, text, rfl, before, led⟩ later rows
        rw [List.append_assoc]
        refine Json.row_cons Value _ front text later before led ?_
        simpa using rows
      · rintro input rest ⟨middle, place, inside⟩
        refine (bind_ok_iff _ _ _).mpr ⟨some middle, (here_ok_iff _ _).mpr place, ?_⟩
        exact (bind_ok_iff _ _ _).mpr ⟨(value, rest), (within_ok_iff _ _ _).mpr inside, rfl⟩

theorem positional_closed : Closed (readPositional levels child) (Body Value 0x5D) := by
  intro input node rest done
  obtain ⟨⟨kind, one⟩, first, done⟩ := (bind_ok_iff _ _ _).mp done
  cases kind with
  | none => cases done
  | some kind =>
      obtain ⟨⟨name, two⟩, second, done⟩ := (bind_ok_iff _ _ _).mp done
      obtain ⟨⟨properties, three⟩, third, done⟩ := (bind_ok_iff _ _ _).mp done
      obtain ⟨⟨children, four⟩, fourth, done⟩ := (bind_ok_iff _ _ _).mp done
      obtain ⟨found, same, done⟩ := (bind_ok_iff _ _ _).mp done
      obtain ⟨_, last, done⟩ := (bind_ok_iff _ _ _).mp done
      cases done
      rw [here_ok_iff] at last
      have places := (place_taken 0 _ text_settled _ _ _ first).then
        ((place_taken 1 _ name_settled _ _ _ second).then
          ((place_taken 2 _ (properties_settled levels) _ _ _ third).then
            (place_taken 3 _ (children_settled levels child settled) _ _ _ fourth)))
      refine (Json.body_taken Value 0x5D (by decide) Json.endList Json.end_list_ok_iff _ input four _
        (places.mono ?_ fun _ _ => id) last).mono (fun _ => id) ?_
      · rintro _ ⟨a, _, rfl, rowA, b, _, rfl, rowB, c, d, rfl, rowC, rowD⟩
        have row := rowA _ (rowB _ (rowC _ (rowD [] (.done false))))
        rwa [List.append_nil] at row
      · rintro input rest ⟨four, ⟨one, first, two, second, three, third, fourth⟩, last⟩
        refine (bind_ok_iff _ _ _).mpr ⟨(some kind, one), first, ?_⟩
        refine (bind_ok_iff _ _ _).mpr ⟨(name, two), second, ?_⟩
        refine (bind_ok_iff _ _ _).mpr ⟨(properties, three), third, ?_⟩
        refine (bind_ok_iff _ _ _).mpr ⟨(children, four), fourth, ?_⟩
        refine (bind_ok_iff _ _ _).mpr ⟨node, same, ?_⟩
        exact (bind_ok_iff _ _ _).mpr ⟨rest, (here_ok_iff _ _).mpr last, rfl⟩

theorem open_closed : Closed (readOpen levels child) (Led Json.Nested) := by
  intro input node rest done
  have whole := done
  unfold readOpen at done
  split at done
  · rename_i behind found
    refine Json.value_taken _ 0x5B _ Json.Nested _ _ input behind rest found
      (positional_closed levels child settled behind node rest done) .list ?_
    intro input behind rest found again
    simpa only [readOpen, found] using again
  · rename_i behind found
    refine Json.value_taken _ 0x7B _ Json.Nested _ _ input behind rest found
      (object_closed levels child settled behind node rest done) .object ?_
    intro input behind rest found again
    simpa only [readOpen, found] using again
  · cases done

end Nodes

theorem nested_led (text : Bytes) (nested : Led Json.Nested text) : Led Value text := by
  obtain ⟨lead, text, blanks, inside⟩ := nested
  exact .intro lead text blanks (Json.nested_value text inside)

theorem nested_settled (read : Bytes → Result (Node × Bytes))
    (closed : Closed read (Led Json.Nested)) : Settled read (Led Value) :=
  fun input node rest done => (closed input node rest done).before.mono nested_led fun _ _ => id

theorem levels_closed : ∀ levels : Nat, Closed (readLevels levels) (Led Json.Nested)
  | 0 => by
      intro input node rest done
      unfold readLevels at done
      split at done <;> cases done
  | 1 => open_closed 0 _ fun _ _ _ done => nomatch done
  | levels + 2 => open_closed (levels + 1) (readLevels levels)
      (nested_settled _ (levels_closed levels))

theorem read_bytes_taken (bytes : Bytes) (node : Node) (done : readBytes bytes = .ok node) :
    ∃ front rest, bytes = front ++ rest ∧ Led Json.Nested front ∧
      ∀ other, readBytes (front ++ other) = .ok node := by
  obtain ⟨⟨_, rest⟩, read, rfl⟩ := (map_ok_iff _ _ _).mp done
  obtain ⟨front, split, nested, same⟩ := levels_closed depthLimit bytes _ rest read
  refine ⟨front, rest, split, nested, fun other => ?_⟩
  exact (map_ok_iff _ _ _).mpr ⟨_, same other trivial, rfl⟩

theorem read_bytes_append (bytes more : Bytes) (node : Node) (done : readBytes bytes = .ok node) :
    readBytes (bytes ++ more) = .ok node := by
  obtain ⟨front, rest, rfl, _, same⟩ := read_bytes_taken bytes node done
  rw [List.append_assoc]
  exact same (rest ++ more)

theorem written_nested (node : Node) (shallow : node.toJson.depth ≤ depthLimit) :
    Led Json.Nested (written node.toJson) := by
  have read := levels_read depthLimit node shallow []
  obtain ⟨used, split, nested, _⟩ := levels_closed depthLimit _ node [] read
  rw [List.append_nil, List.append_nil] at split
  rw [split]
  exact nested

-- What is read is the first value of a text. The text is a JSON text as a whole only if nothing but
-- blanks follows that value.
theorem first_value_read (text : String) (node : Node) :
    (read text = .ok node ↔
      ∃ front rest, text.toUTF8.toList = front ++ rest ∧ Led Value front ∧
        readBytes front = .ok node ∧ (Json.Alone text.toUTF8.toList ↔ Blanks rest)) ∧
      (read text = .ok node → ∀ more : String, read (text ++ more) = .ok node) := by
  constructor
  · constructor
    · intro done
      obtain ⟨front, rest, split, nested, same⟩ := read_bytes_taken _ node done
      have alone := same []
      rw [List.append_nil] at alone
      rw [split]
      exact ⟨front, rest, rfl, nested_led front nested, alone, Json.alone_iff front rest nested⟩
    · rintro ⟨front, rest, split, _, done, _⟩
      rw [read, split]
      exact read_bytes_append front rest node done
  · intro done more
    have bytes : (text ++ more).toUTF8.toList = text.toUTF8.toList ++ more.toUTF8.toList :=
      Json.utf8_append text more
    rw [read, bytes]
    exact read_bytes_append _ _ node done

theorem second_file_left :
    read (leaf "File").write = .ok (leaf "File") ∧
      read ((leaf "File").write ++ (leaf "File").write) = .ok (leaf "File") := by
  have first := read_write (leaf "File") (by decide)
  exact ⟨first, (first_value_read _ _).2 first _⟩

theorem file_before_letter :
    read ((leaf "File").write ++ " x") = .ok (leaf "File") ∧
      ¬ Json.Alone ((leaf "File").write ++ " x").toUTF8.toList := by
  have front := written_nested (leaf "File") (by decide)
  have bytes : ((leaf "File").write ++ " x").toUTF8.toList =
      written (leaf "File").toJson ++ [0x20, 0x78] := by
    have more : Json.utf8 " x" = [0x20, 0x78] := by rw [Json.utf8_eq]; rfl
    rw [← more]
    exact Json.utf8_append _ _
  constructor
  · rw [read, bytes]
    exact write_read_before (leaf "File") (by decide) _
  · rw [bytes, Json.alone_iff _ _ front]
    exact fun blanks => absurd (blanks 0x78 (by simp)) (by decide)

end WebIdl.Node
