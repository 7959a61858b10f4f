import WebIdl.IdlType.Text
import WebIdl.Projection

set_option autoImplicit false

/- The canonical text of a type without annotations can be read in one way only. The words up to the
   first bracket tell what kind of type it is. Question marks are counted from behind, so they are
   kept apart from the type that they stand after. -/
namespace WebIdl

namespace IdlType

def primitiveNames : List String :=
  ["boolean", "byte", "octet", "short", "unsigned short", "long", "unsigned long", "long long",
    "unsigned long long", "float", "double", "object", "void", "undefined", "bigint"]

def stringNames : List String := ["DOMString", "ByteString", "USVString"]

def reserved : List String :=
  primitiveNames ++ stringNames ++ ["any", "sequence", "FrozenArray", "record", "Promise"]

def brackets : List Char := ['<', '>', '(', ')', ',', '?']

-- Every name in letters, digits, hyphens and underscores that is not reserved, and more.
structure Identifier (name : String) : Prop where
  nonempty : name ≠ ""
  noSpace : ' ' ∉ name.toList
  noBracket : ∀ c ∈ name.toList, c ∉ brackets
  free : name ∉ reserved

inductive Supplied : IdlType → Prop
  | primitive (name : String) (known : name ∈ primitiveNames) : Supplied (.primitive name false)
  | unrestricted (name : String) (known : name ∈ floatingNames) : Supplied (.primitive name true)
  | stringLike (name : String) (known : name ∈ stringNames) : Supplied (.stringLike name)
  | any : Supplied .any
  | typeref (name : String) (known : Identifier name) : Supplied (.typeref name)
  | nullable (inner : IdlType) (below : Supplied inner) : Supplied (.nullable inner)
  | sequence (element : IdlType) (below : Supplied element) : Supplied (.sequence element)
  | frozenArray (element : IdlType) (below : Supplied element) : Supplied (.frozenArray element)
  | union (members : List IdlType) (below : ∀ member ∈ members, Supplied member) :
      Supplied (.union members)
  | record (key : String) (value : IdlType) (known : key ∈ stringNames) (below : Supplied value) :
      Supplied (.record key value)
  | promise (members : List IdlType) (below : ∀ member ∈ members, Supplied member) :
      Supplied (.promise members)

theorem texts_eq (types : List IdlType) : texts types = types.map text := by
  induction types with
  | nil => rfl
  | cons type rest ih => rw [texts, ih, List.map_cons]

inductive Stops (marks : List Char) : List Char → Prop
  | finished : Stops marks []
  | marked (c : Char) (rest : List Char) (listed : c ∈ marks) : Stops marks (c :: rest)
  | another (rest : List Char) : Stops marks (' ' :: 'o' :: rest)

def ends : List Char := ['>', ')', ',']

def endsOrMark : List Char := '?' :: ends

theorem stops_cons_iff (marks : List Char) (c : Char) (rest : List Char) :
    Stops marks (c :: rest) ↔ c ∈ marks ∨ c = ' ' ∧ ∃ tail, rest = 'o' :: tail := by
  constructor
  · rintro (_ | ⟨_, _, listed⟩ | ⟨tail⟩)
    · exact .inl listed
    · exact .inr ⟨rfl, tail, rfl⟩
  · rintro (listed | ⟨rfl, tail, rfl⟩)
    · exact .marked c rest listed
    · exact .another tail

theorem Stops.mono (marks more rest : List Char) (fewer : marks ⊆ more)
    (stops : Stops marks rest) : Stops more rest := by
  cases stops with
  | finished => exact .finished
  | marked c rest listed => exact .marked c rest (fewer listed)
  | another rest => exact .another rest

-- A text of words. No word after the first begins with an `o`, which sets it apart from the
-- ` or ` between the members of a union.
structure Worded (text : List Char) : Prop where
  noBracket : ∀ c ∈ text, c ∉ brackets
  noOther : ¬ [' ', 'o'] <:+: text

theorem word_longer (word more rest : List Char) (worded : Worded (word ++ more))
    (stops : Stops brackets (more ++ rest)) (after : Stops brackets rest) : more = [] := by
  cases more with
  | nil => rfl
  | cons c more =>
      exfalso
      obtain listed | ⟨rfl, tail, other⟩ := (stops_cons_iff _ _ _).mp stops
      · exact worded.noBracket c (by simp) listed
      · cases more with
        | nil =>
            obtain rfl : rest = 'o' :: tail := other
            simp [stops_cons_iff, brackets] at after
        | cons o more =>
            obtain ⟨rfl, -⟩ := List.cons.inj other
            exact worded.noOther ⟨word, more, by simp⟩

theorem word_cut (word other rest behind : List Char) (worded : Worded word)
    (otherWorded : Worded other) (stops : Stops brackets rest) (otherStops : Stops brackets behind)
    (same : word ++ rest = other ++ behind) : word = other ∧ rest = behind := by
  obtain ⟨more, rfl, rfl⟩ | ⟨more, rfl, rfl⟩ := List.append_eq_append_iff.mp same
  · obtain rfl := word_longer word more behind otherWorded stops otherStops
    simp
  · obtain rfl := word_longer other more rest worded otherStops stops
    simp

def marks : IdlType → Nat
  | .nullable inner => inner.marks + 1
  | _ => 0

def opening : IdlType → String
  | .sequence _ => "sequence"
  | .frozenArray _ => "FrozenArray"
  | .union _ => ""
  | .record _ _ => "record"
  | .promise _ => "Promise"
  | type => type.text

def following (glue : String) (members : List IdlType) : List Char :=
  members.flatMap fun member => glue.toList ++ member.text.toList

def bracketed : IdlType → List Char
  | .sequence element => '<' :: element.text.toList ++ ['>']
  | .frozenArray element => '<' :: element.text.toList ++ ['>']
  | .union [] => ['(', ')']
  | .union (first :: rest) => '(' :: first.text.toList ++ following " or " rest ++ [')']
  | .record key value => '<' :: key.toList ++ ',' :: ' ' :: value.text.toList ++ ['>']
  | .promise (first :: rest) => '<' :: first.text.toList ++ following ", " rest ++ ['>']
  | _ => []

def outline : IdlType → IdlType
  | .sequence _ => .sequence .any
  | .frozenArray _ => .frozenArray .any
  | .union _ => .union []
  | .record _ _ => .record "" .any
  | .promise _ => .promise []
  | type => type

def outlineOf (opening : String) : IdlType :=
  if opening ∈ primitiveNames then .primitive opening false
  else if opening ∈ stringNames then .stringLike opening
  else if opening = "unrestricted float" then .primitive "float" true
  else if opening = "unrestricted double" then .primitive "double" true
  else if opening = "any" then .any
  else if opening = "sequence" then .sequence .any
  else if opening = "FrozenArray" then .frozenArray .any
  else if opening = "record" then .record "" .any
  else if opening = "Promise" then .promise []
  else if opening = "" then .union []
  else .typeref opening

theorem text_opened (type : IdlType) (supplied : Supplied type) (bare : type.marks = 0) :
    type.text.toList = type.opening.toList ++ type.bracketed := by
  cases supplied with
  | primitive | unrestricted | stringLike | any | typeref => simp [opening, bracketed]
  | nullable => cases bare
  | sequence | frozenArray | record => simp [text, opening, bracketed]
  | union members =>
      cases members with
      | nil => rfl
      | cons first rest =>
          simp [text, texts, texts_eq, Text.joined_to_list, opening, bracketed, following,
            List.flatMap_map]
  | promise members =>
      cases members with
      | nil => simp [text, opening, bracketed]
      | cons first rest =>
          simp [text, texts_eq, Text.joined_to_list, opening, bracketed, following,
            List.flatMap_map]

def fixedOpenings : List String := "" :: "unrestricted float" :: "unrestricted double" :: reserved

theorem fixed_worded (name : String) (fixed : name ∈ fixedOpenings) : Worded name.toList := by
  have each : ∀ name ∈ fixedOpenings,
      (name.toList.all fun c => !brackets.contains c) = true ∧
        ¬ [' ', 'o'] <:+: name.toList := by
    decide +kernel
  obtain ⟨noBracket, noOther⟩ := each name fixed
  exact ⟨by simpa using noBracket, noOther⟩

theorem identifier_of_letters (name : String) (nonempty : name ≠ "")
    (letters : ∀ c ∈ name.toList, c.isAlphanum = true ∨ c = '-' ∨ c = '_')
    (free : name ∉ reserved) : Identifier name := by
  have apart : (' ' :: brackets).all
      (fun c => !c.isAlphanum && c != '-' && c != '_') = true := by decide
  have other : ∀ c ∈ ' ' :: brackets, c ∉ name.toList := by
    intro c marked listed
    have mark := List.all_eq_true.mp apart c marked
    obtain letter | rfl | rfl := letters c listed
    · simp [letter] at mark
    · simp at mark
    · simp at mark
  obtain ⟨space, bracket⟩ := List.forall_mem_cons.mp other
  exact ⟨nonempty, space, fun c listed marked => bracket c marked listed, free⟩

theorem identifier_worded (name : String) (known : Identifier name) : Worded name.toList :=
  ⟨known.noBracket, fun other => known.noSpace (other.subset (by simp))⟩

theorem opening_worded (type : IdlType) (supplied : Supplied type) (bare : type.marks = 0) :
    Worded type.opening.toList := by
  cases supplied with
  | primitive name known | stringLike name known =>
      exact fixed_worded name (by simp [fixedOpenings, reserved, known])
  | unrestricted name known =>
      simp only [floatingNames, List.mem_cons, List.not_mem_nil, or_false] at known
      obtain rfl | rfl := known <;> exact fixed_worded _ (by decide +kernel)
  | typeref name known => exact identifier_worded name known
  | nullable => cases bare
  | any => exact fixed_worded "any" (by decide +kernel)
  | sequence => exact fixed_worded "sequence" (by decide +kernel)
  | frozenArray => exact fixed_worded "FrozenArray" (by decide +kernel)
  | union => exact fixed_worded "" (by decide +kernel)
  | record => exact fixed_worded "record" (by decide +kernel)
  | promise => exact fixed_worded "Promise" (by decide +kernel)

theorem outline_identifier (name : String) (known : Identifier name) :
    outlineOf name = .typeref name := by
  have free := known.free
  have spaced : ∀ other : String, ' ' ∈ other.toList → name ≠ other := by
    rintro other space rfl
    exact known.noSpace space
  simp only [reserved, List.mem_append, List.mem_cons, List.not_mem_nil, or_false, not_or] at free
  obtain ⟨⟨notPrimitive, notString⟩, notAny, notSequence, notArray, notRecord, notPromise⟩ := free
  have notFloat := spaced "unrestricted float" (by decide +kernel)
  have notDouble := spaced "unrestricted double" (by decide +kernel)
  simp only [outlineOf, notPrimitive, notString, notFloat, notDouble, notAny, notSequence, notArray,
    notRecord, notPromise, known.nonempty, if_false]

theorem outline_opening (type : IdlType) (supplied : Supplied type) (bare : type.marks = 0) :
    outlineOf type.opening = type.outline := by
  cases supplied with
  | primitive name known => exact if_pos known
  | stringLike name known =>
      have apart : ∀ name ∈ stringNames, name ∉ primitiveNames := by decide +kernel
      exact (if_neg (apart name known)).trans (if_pos known)
  | unrestricted name known =>
      simp only [floatingNames, List.mem_cons, List.not_mem_nil, or_false] at known
      obtain rfl | rfl := known <;> rfl
  | typeref name known => exact outline_identifier name known
  | nullable => cases bare
  | any | sequence | frozenArray | union | record | promise => rfl

theorem bracketed_stops (type : IdlType) (rest : List Char) (stops : Stops endsOrMark rest) :
    Stops brackets (type.bracketed ++ rest) := by
  have wide := stops.mono _ brackets _ (by decide)
  have opens : ∀ c ∈ ['<', '('], ∀ rest, Stops brackets (c :: rest) := fun c listed rest =>
    .marked c rest (List.Subset.trans (by decide) (List.Subset.refl _) listed)
  cases type with
  | sequence | frozenArray | record => exact opens '<' (by decide) _
  | union members => cases members <;> exact opens '(' (by decide) _
  | promise members =>
      cases members with
      | nil => exact wide
      | cons => exact opens '<' (by decide) _
  | _ => exact wide

theorem opened_alike (type other : IdlType) (supplied : Supplied type) (bare : type.marks = 0)
    (otherSupplied : Supplied other) (otherBare : other.marks = 0) (rest behind : List Char)
    (stops : Stops endsOrMark rest) (otherStops : Stops endsOrMark behind)
    (same : type.text.toList ++ rest = other.text.toList ++ behind) :
    type.outline = other.outline ∧ type.bracketed ++ rest = other.bracketed ++ behind := by
  rw [text_opened type supplied bare, text_opened other otherSupplied otherBare,
    List.append_assoc, List.append_assoc] at same
  obtain ⟨opening, bracketed⟩ := word_cut _ _ _ _ (opening_worded type supplied bare)
    (opening_worded other otherSupplied otherBare) (bracketed_stops type rest stops)
    (bracketed_stops other behind otherStops) same
  refine ⟨?_, bracketed⟩
  rw [← outline_opening type supplied bare, ← outline_opening other otherSupplied otherBare,
    String.toList_inj.mp opening]

theorem text_marked (type : IdlType) (supplied : Supplied type) :
    type.text.toList = type.inner.text.toList ++ List.replicate type.marks '?' := by
  induction supplied with
  | nullable inner _ ih => simp [text, IdlType.inner, marks, ih, List.replicate_succ']
  | _ => simp [IdlType.inner, marks]

theorem inner_supplied (type : IdlType) (supplied : Supplied type) :
    Supplied type.inner ∧ type.inner.marks = 0 := by
  induction supplied with
  | nullable inner _ ih => exact ih
  | primitive name known => exact ⟨.primitive name known, rfl⟩
  | unrestricted name known => exact ⟨.unrestricted name known, rfl⟩
  | stringLike name known => exact ⟨.stringLike name known, rfl⟩
  | any => exact ⟨.any, rfl⟩
  | typeref name known => exact ⟨.typeref name known, rfl⟩
  | sequence element below => exact ⟨.sequence element below, rfl⟩
  | frozenArray element below => exact ⟨.frozenArray element below, rfl⟩
  | union members below => exact ⟨.union members below, rfl⟩
  | record key value known below => exact ⟨.record key value known below, rfl⟩
  | promise members below => exact ⟨.promise members below, rfl⟩

def marked (inner : IdlType) : Nat → IdlType
  | 0 => inner
  | n + 1 => .nullable (marked inner n)

theorem marked_inner (type : IdlType) (supplied : Supplied type) :
    marked type.inner type.marks = type := by
  induction supplied with
  | nullable inner _ ih => simp [IdlType.inner, marks, marked, ih]
  | _ => rfl

theorem marks_cut (count other : Nat) (rest behind : List Char) (stops : Stops ends rest)
    (otherStops : Stops ends behind)
    (same : List.replicate count '?' ++ rest = List.replicate other '?' ++ behind) :
    count = other ∧ rest = behind := by
  have unmarked : ∀ rest, ¬ Stops ends ('?' :: rest) := by simp [stops_cons_iff, ends]
  induction count generalizing other with
  | zero =>
      cases other with
      | zero => exact ⟨rfl, same⟩
      | succ n =>
          obtain rfl : rest = '?' :: (List.replicate n '?' ++ behind) := same
          exact absurd stops (unmarked _)
  | succ n ih =>
      cases other with
      | zero =>
          obtain rfl : behind = '?' :: (List.replicate n '?' ++ rest) := same.symm
          exact absurd otherStops (unmarked _)
      | succ m =>
          rw [List.replicate_succ, List.replicate_succ, List.cons_append, List.cons_append] at same
          obtain ⟨rfl, rest⟩ := ih m (List.cons.inj same).2
          exact ⟨rfl, rest⟩

-- No other type begins a text with this one in front of it. What follows is no question mark.
def ReadOnce (type : IdlType) : Prop :=
  ∀ other, Supplied other → ∀ rest behind, Stops ends rest → Stops ends behind →
    type.text.toList ++ rest = other.text.toList ++ behind → type = other ∧ rest = behind

def CoreReadOnce (type : IdlType) : Prop :=
  ∀ other, Supplied other → other.marks = 0 → ∀ rest behind, Stops endsOrMark rest →
    Stops endsOrMark behind → type.text.toList ++ rest = other.text.toList ++ behind →
      type = other ∧ rest = behind

theorem replicate_stops (count : Nat) (rest : List Char) (stops : Stops ends rest) :
    Stops endsOrMark (List.replicate count '?' ++ rest) := by
  cases count with
  | zero => exact stops.mono _ _ _ (List.subset_cons_self _ _)
  | succ n => exact .marked '?' _ List.mem_cons_self

theorem read_once_of_core (type : IdlType) (supplied : Supplied type)
    (core : CoreReadOnce type.inner) : ReadOnce type := by
  intro other otherSupplied rest behind stops otherStops same
  rw [text_marked type supplied, text_marked other otherSupplied, List.append_assoc,
    List.append_assoc] at same
  obtain ⟨innerSupplied, innerBare⟩ := inner_supplied other otherSupplied
  obtain ⟨inner, behindInner⟩ := core other.inner innerSupplied innerBare _ _
    (replicate_stops _ rest stops) (replicate_stops _ behind otherStops) same
  obtain ⟨marks, rest⟩ := marks_cut _ _ _ _ stops otherStops behindInner
  refine ⟨?_, rest⟩
  rw [← marked_inner type supplied, ← marked_inner other otherSupplied, inner, marks]

section Members

variable (glue : String) (close : Char) (closes : close ∈ ends)
  (joins : ∀ rest, Stops ends (glue.toList ++ rest))
  (apart : ∀ rest behind, glue.toList ++ rest ≠ close :: behind)

include closes joins in
theorem following_stops (members : List IdlType) (rest : List Char) :
    Stops ends (following glue members ++ close :: rest) := by
  cases members with
  | nil => exact .marked close rest closes
  | cons member members => simpa [following] using joins _

include closes joins apart

theorem following_cut (members others : List IdlType) (each : ∀ member ∈ members, ReadOnce member)
    (supplied : ∀ other ∈ others, Supplied other) (rest behind : List Char)
    (same : following glue members ++ close :: rest = following glue others ++ close :: behind) :
    members = others ∧ rest = behind := by
  induction members generalizing others with
  | nil =>
      cases others with
      | nil => simpa [following] using same
      | cons other others =>
          simp only [following, List.flatMap_nil, List.flatMap_cons, List.append_assoc,
            List.nil_append] at same
          exact absurd same.symm (apart _ _)
  | cons member members ih =>
      cases others with
      | nil =>
          simp only [following, List.flatMap_nil, List.flatMap_cons, List.append_assoc,
            List.nil_append] at same
          exact absurd same (apart _ _)
      | cons other others =>
          obtain ⟨read, reads⟩ := List.forall_mem_cons.mp each
          obtain ⟨known, knowns⟩ := List.forall_mem_cons.mp supplied
          simp only [following, List.flatMap_cons, List.append_assoc,
            List.append_cancel_left_eq] at same
          obtain ⟨rfl, later⟩ := read other known _ _
            (following_stops glue close closes joins members rest)
            (following_stops glue close closes joins others behind) same
          obtain ⟨rfl, rest⟩ := ih others reads knowns later
          exact ⟨rfl, rest⟩

theorem members_cut (member other : IdlType) (members others : List IdlType)
    (each : ∀ type ∈ member :: members, ReadOnce type)
    (supplied : ∀ type ∈ other :: others, Supplied type) (rest behind : List Char)
    (same : member.text.toList ++ following glue members ++ [close] ++ rest =
      other.text.toList ++ following glue others ++ [close] ++ behind) :
    member :: members = other :: others ∧ rest = behind := by
  apply following_cut glue close closes joins apart _ _ each supplied rest behind
  simpa [following] using same

end Members

def isLeaf : IdlType → Bool
  | .primitive _ _ | .stringLike _ | .any | .typeref _ => true
  | _ => false

theorem outline_is_leaf (type : IdlType) : type.outline.isLeaf = type.isLeaf := by
  cases type <;> rfl

theorem leaf_outline (type : IdlType) (leaf : type.isLeaf = true) :
    type.outline = type ∧ type.bracketed = [] ∧ type.marks = 0 := by
  cases type with
  | primitive | stringLike | any | typeref => exact ⟨rfl, rfl, rfl⟩
  | _ => cases leaf

def BracketsReadOnce (type : IdlType) : Prop :=
  ∀ other, Supplied other → type.outline = other.outline → ∀ rest behind, Stops endsOrMark rest →
    Stops endsOrMark behind → type.bracketed ++ rest = other.bracketed ++ behind →
      type = other ∧ rest = behind

theorem core_of_brackets (type : IdlType) (supplied : Supplied type) (bare : type.marks = 0)
    (brackets : BracketsReadOnce type) : CoreReadOnce type := by
  intro other otherSupplied otherBare rest behind stops otherStops same
  obtain ⟨outline, bracketed⟩ := opened_alike type other supplied bare otherSupplied otherBare rest
    behind stops otherStops same
  exact brackets other otherSupplied outline rest behind stops otherStops bracketed

theorem leaf_read_once (type : IdlType) (supplied : Supplied type) (leaf : type.isLeaf = true) :
    CoreReadOnce type := by
  obtain ⟨itself, unbracketed, bare⟩ := leaf_outline type leaf
  refine core_of_brackets type supplied bare ?_
  intro other _ outline rest behind _ _ bracketed
  have otherLeaf : other.isLeaf = true := by
    rw [← outline_is_leaf, ← outline, outline_is_leaf, leaf]
  obtain ⟨otherItself, otherUnbracketed, -⟩ := leaf_outline other otherLeaf
  rw [itself, otherItself] at outline
  rw [unbracketed, otherUnbracketed] at bracketed
  exact ⟨outline, bracketed⟩

theorem close_stops (rest : List Char) : Stops ends ('>' :: rest) :=
  .marked '>' rest (by decide)

theorem element_cut (element other : IdlType) (read : ReadOnce element) (known : Supplied other)
    (rest behind : List Char)
    (same : element.text.toList ++ ['>'] ++ rest = other.text.toList ++ ['>'] ++ behind) :
    element = other ∧ rest = behind := by
  rw [List.append_assoc, List.append_assoc] at same
  obtain ⟨rfl, after⟩ := read other known _ _ (close_stops rest) (close_stops behind) same
  exact ⟨rfl, (List.cons.inj after).2⟩

theorem key_cut (key other : String) (known : key ∈ stringNames) (otherKnown : other ∈ stringNames)
    (rest behind : List Char)
    (same : key.toList ++ ',' :: rest = other.toList ++ ',' :: behind) :
    key = other ∧ rest = behind := by
  have worded : ∀ name ∈ stringNames, Worded name.toList := fun name known =>
    fixed_worded name (by simp [fixedOpenings, reserved, known])
  have comma : ∀ rest, Stops brackets (',' :: rest) := fun rest => .marked ',' rest (by decide)
  obtain ⟨names, after⟩ := word_cut _ _ _ _ (worded key known) (worded other otherKnown)
    (comma rest) (comma behind) same
  exact ⟨String.toList_inj.mp names, (List.cons.inj after).2⟩

theorem or_joins (rest : List Char) : Stops ends (" or ".toList ++ rest) :=
  .another ('r' :: ' ' :: rest)

theorem comma_joins (rest : List Char) : Stops ends (", ".toList ++ rest) :=
  .marked ',' (' ' :: rest) (by decide)

theorem sequence_brackets (element : IdlType) (read : ReadOnce element) :
    BracketsReadOnce (.sequence element) := by
  intro other supplied outline rest behind _ _ bracketed
  cases supplied with
  | sequence other known =>
      obtain ⟨rfl, after⟩ := element_cut element other read known rest behind
        (List.cons.inj bracketed).2
      exact ⟨rfl, after⟩
  | _ => cases outline

theorem frozen_array_brackets (element : IdlType) (read : ReadOnce element) :
    BracketsReadOnce (.frozenArray element) := by
  intro other supplied outline rest behind _ _ bracketed
  cases supplied with
  | frozenArray other known =>
      obtain ⟨rfl, after⟩ := element_cut element other read known rest behind
        (List.cons.inj bracketed).2
      exact ⟨rfl, after⟩
  | _ => cases outline

theorem record_brackets (key : String) (value : IdlType) (named : key ∈ stringNames)
    (read : ReadOnce value) : BracketsReadOnce (.record key value) := by
  intro other supplied outline rest behind _ _ bracketed
  cases supplied with
  | record otherKey other otherNamed known =>
      simp only [IdlType.bracketed, List.append_assoc, List.cons_append, List.cons.injEq,
        true_and] at bracketed
      obtain ⟨rfl, values⟩ := key_cut key otherKey named otherNamed _ _ bracketed
      obtain ⟨rfl, after⟩ := element_cut value other read known rest behind
        (by simpa using values)
      exact ⟨rfl, after⟩
  | _ => cases outline

theorem close_apart (type : IdlType) (supplied : Supplied type) (rest behind : List Char)
    (stops : Stops ends rest) : type.text.toList ++ rest ≠ ')' :: behind := by
  intro same
  obtain ⟨innerSupplied, innerBare⟩ := inner_supplied type supplied
  rw [text_marked type supplied, text_opened _ innerSupplied innerBare, List.append_assoc,
    List.append_assoc] at same
  obtain ⟨opening, bracketed⟩ := word_cut _ [] _ _ (opening_worded _ innerSupplied innerBare)
    (fixed_worded "" List.mem_cons_self) (bracketed_stops _ _ (replicate_stops _ rest stops))
    (.marked ')' behind (by decide)) same
  have outline := outline_opening _ innerSupplied innerBare
  rw [String.toList_eq_nil_iff.mp opening] at outline
  -- Only a union begins with a bracket, and with an opening one.
  cases inner : type.inner with
  | union members =>
      rw [inner] at bracketed
      cases members <;> simp [IdlType.bracketed] at bracketed
  | _ =>
      rw [inner] at outline
      cases outline

theorem union_brackets (members : List IdlType) (below : ∀ member ∈ members, Supplied member)
    (each : ∀ member ∈ members, ReadOnce member) : BracketsReadOnce (.union members) := by
  intro other supplied outline rest behind _ _ bracketed
  have stops := following_stops " or " ')' (by decide) or_joins
  cases supplied with
  | union others known =>
      match members, others with
      | [], [] => exact ⟨rfl, by simpa [IdlType.bracketed] using bracketed⟩
      | [], other :: others =>
          have opened : other.text.toList ++ (following " or " others ++ ')' :: behind) =
              ')' :: rest := by
            simpa [IdlType.bracketed] using bracketed.symm
          have otherKnown := known other List.mem_cons_self
          exact absurd opened (close_apart other otherKnown _ _ (stops others behind))
      | member :: members, [] =>
          have opened : member.text.toList ++ (following " or " members ++ ')' :: rest) =
              ')' :: behind := by
            simpa [IdlType.bracketed] using bracketed
          have memberKnown := below member List.mem_cons_self
          exact absurd opened (close_apart member memberKnown _ _ (stops members rest))
      | member :: members, other :: others =>
          obtain ⟨same, after⟩ := members_cut " or " ')' (by decide) or_joins (by simp) member
            other members others each known rest behind (List.cons.inj bracketed).2
          exact ⟨congrArg _ same, after⟩
  | _ => cases outline

theorem promise_brackets (members : List IdlType) (each : ∀ member ∈ members, ReadOnce member) :
    BracketsReadOnce (.promise members) := by
  intro other supplied outline rest behind stops otherStops bracketed
  have unopened : ∀ rest, ¬ Stops endsOrMark ('<' :: rest) := by
    simp [stops_cons_iff, endsOrMark, ends]
  cases supplied with
  | promise others known =>
      match members, others with
      | [], [] => exact ⟨rfl, bracketed⟩
      | [], other :: others =>
          obtain rfl : rest = _ := bracketed
          exact absurd stops (unopened _)
      | member :: members, [] =>
          obtain rfl : behind = _ := bracketed.symm
          exact absurd otherStops (unopened _)
      | member :: members, other :: others =>
          obtain ⟨same, after⟩ := members_cut ", " '>' (by decide) comma_joins (by simp) member
            other members others each known rest behind (List.cons.inj bracketed).2
          exact ⟨congrArg _ same, after⟩
  | _ => cases outline

theorem core_read_once (type : IdlType) (supplied : Supplied type) : CoreReadOnce type.inner := by
  induction supplied with
  | nullable inner _ ih => exact ih
  | primitive name known => exact leaf_read_once _ (.primitive name known) rfl
  | unrestricted name known => exact leaf_read_once _ (.unrestricted name known) rfl
  | stringLike name known => exact leaf_read_once _ (.stringLike name known) rfl
  | any => exact leaf_read_once _ .any rfl
  | typeref name known => exact leaf_read_once _ (.typeref name known) rfl
  | sequence element below ih =>
      exact core_of_brackets _ (.sequence element below) rfl
        (sequence_brackets element (read_once_of_core element below ih))
  | frozenArray element below ih =>
      exact core_of_brackets _ (.frozenArray element below) rfl
        (frozen_array_brackets element (read_once_of_core element below ih))
  | union members below ih =>
      exact core_of_brackets _ (.union members below) rfl (union_brackets members below
        fun member listed => read_once_of_core member (below member listed) (ih member listed))
  | record key value known below ih =>
      exact core_of_brackets _ (.record key value known below) rfl
        (record_brackets key value known (read_once_of_core value below ih))
  | promise members below ih =>
      exact core_of_brackets _ (.promise members below) rfl (promise_brackets members
        fun member listed => read_once_of_core member (below member listed) (ih member listed))

theorem read_once (type : IdlType) (supplied : Supplied type) : ReadOnce type :=
  read_once_of_core type supplied (core_read_once type supplied)

theorem same_all_of (types : List IdlType) (each : ∀ type ∈ types, IdlType.same type type = true) :
    IdlType.sameAll types types = true := by
  induction types with
  | nil => rfl
  | cons type rest ih =>
      obtain ⟨first, later⟩ := List.forall_mem_cons.mp each
      rw [sameAll, first, ih later, Bool.and_self]

theorem supplied_same (type : IdlType) (supplied : Supplied type) : (type == type) = true := by
  change IdlType.same type type = true
  induction supplied with
  | nullable _ _ ih | sequence _ _ ih | frozenArray _ _ ih => simp [IdlType.same, ih]
  | union members _ ih | promise members _ ih => simp [IdlType.same, same_all_of members ih]
  | record key value _ _ ih => simp [IdlType.same, ih]
  | _ => simp [IdlType.same]

end IdlType

open IdlType

theorem IdlType.text_identifies (type other : IdlType) (supplied : Supplied type)
    (otherSupplied : Supplied other) :
    (type.text = other.text → (type == other) = true ∧ type = other) ∧
      (type ≠ other →
        (Projection.TypeRecord.ofType type).raw ≠ (Projection.TypeRecord.ofType other).raw) := by
  have identified : type.text = other.text → type = other := by
    intro same
    exact (read_once type supplied other otherSupplied [] [] .finished .finished (by rw [same])).1
  refine ⟨fun same => ?_, fun different same => different (identified same)⟩
  obtain rfl := identified same
  exact ⟨supplied_same type supplied, rfl⟩

theorem IdlType.mark_told_apart :
    Supplied (.promise [.union [.typeref "Node", .nullable (.primitive "long long" false)]]) ∧
      Supplied (.promise [.nullable (.union [.typeref "Node", .primitive "long long" false])]) ∧
      (Projection.TypeRecord.ofType
        (.promise [.union [.typeref "Node", .nullable (.primitive "long long" false)]])).raw ≠
      (Projection.TypeRecord.ofType
        (.promise [.nullable (.union [.typeref "Node", .primitive "long long" false])])).raw := by
  have node : Supplied (.typeref "Node") := .typeref _ (identifier_of_letters _ (by decide +kernel)
    (by simp) (by decide +kernel))
  have number : Supplied (.primitive "long long" false) := .primitive _ (by decide +kernel)
  have inside : Supplied (.promise [.union [.typeref "Node",
      .nullable (.primitive "long long" false)]]) := by
    refine .promise _ (List.forall_mem_singleton.mpr (.union _ ?_))
    simp [node, number.nullable]
  have outside : Supplied (.promise [.nullable (.union [.typeref "Node",
      .primitive "long long" false])]) := by
    refine .promise _ (List.forall_mem_singleton.mpr (.nullable _ (.union _ ?_)))
    simp [node, number]
  exact ⟨inside, outside, (text_identifies _ _ inside outside).2 (by simp)⟩

end WebIdl
