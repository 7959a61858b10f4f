import WebIdl.Proofs.Constructors

set_option autoImplicit false

namespace WebIdl

theorem ExtAttrValue.eq_of_same (one other : ExtAttrValue) (uncalled : one.isCall = false)
    (same : (one == other) = true) : one = other := by
  cases one with
  | call => cases uncalled
  | valueless =>
      cases other with
      | valueless => rfl
      | _ => cases same
  | text value =>
      cases other with
      | text value' => exact congrArg text (eq_of_beq same)
      | _ => cases same
  | list items =>
      cases other with
      | list items' => exact congrArg list (eq_of_beq same)
      | _ => cases same
  | exposures items =>
      cases other with
      | exposures items' => exact congrArg exposures (eq_of_beq same)
      | _ => cases same

def Node.bareAttr (name : String) : Node := (leaf "ExtAttribute").named name

def Node.attrOf (name value : String) : Node := (bareAttr name).withProperty "VALUE" (.text value)

def Node.constructorOf (attrs : List Node) : Node :=
  (leaf "Constructor").withChildren [leaf "Arguments", (leaf "ExtAttributes").withChildren attrs]

namespace ConstructorDeclaration

def WrittenAmong (children : List Node) (declarations : List ConstructorDeclaration) : Prop :=
  List.Forall₂ (fun child declaration => declaration.Written child)
    (children.filter (·.isConstructor)) declarations

theorem written_append_one (front : List Node) (declarations : List ConstructorDeclaration)
    (child : Node) (declaration : ConstructorDeclaration) (one : child.isConstructor = true)
    (written : declaration.Written child) (before : WrittenAmong front declarations) :
    WrittenAmong (front ++ [child]) (declarations ++ [declaration]) := by
  rw [WrittenAmong, List.filter_append, List.filter_cons, if_pos one]
  exact List.rel_append before (.cons written .nil)

theorem written_among_calls (children : List Node) (declarations : List ConstructorDeclaration)
    (written : WrittenAmong children declarations) :
    ∀ declaration ∈ declarations, declaration.attrs.CallsNamed := by
  intro declaration listed
  obtain ⟨child, read⟩ := (all_related_iff declarations).mp ⟨_, written.flip⟩ declaration listed
  exact written_calls child declaration read

def agreedNames : List String := ["CallWith", "RaisesException"]

def ordinary (declarations : List ConstructorDeclaration) : List ConstructorDeclaration :=
  declarations.filter (!·.isCustom)

def custom (declarations : List ConstructorDeclaration) : List ConstructorDeclaration :=
  declarations.filter (·.isCustom)

def sources (declarations : List ConstructorDeclaration) : List String :=
  (declarations.flatMap (·.attrs.keys)).eraseDups

def lastGiven (declarations : List ConstructorDeclaration) (name : String) : Option ExtAttrValue :=
  (declarations.filterMap (·.attrs.get? name)).getLast?

def told (declarations : List ConstructorDeclaration) : List (String × ExtAttrValue) :=
  (sources declarations).filterMap fun name =>
    (lastGiven declarations name).map fun value => lifted (name, value)

def together (declarations : List ConstructorDeclaration) : ExtAttrs :=
  .insertAll .empty (declarations.flatMap (·.attrs.entries))

theorem together_append_one (front : List ConstructorDeclaration) (last : ConstructorDeclaration) :
    together (front ++ [last]) = (together front).extend last.attrs := by
  rw [together, List.flatMap_append, List.flatMap_singleton]
  exact List.foldl_append

section Together

variable (declarations : List ConstructorDeclaration)

theorem together_keys : (together declarations).keys = sources declarations := by
  have all : ∀ name ∈ declarations.flatMap (·.attrs.keys),
      (!(Table.empty : ExtAttrs).keys.contains name) = true := fun _ _ => rfl
  rw [together, Table.keys_insert_all, List.map_flatMap]
  simp only [← Table.keys_eq]
  exact congrArg List.eraseDups (List.filter_eq_self.mpr all)

theorem mem_together (entry : String × ExtAttrValue)
    (member : entry ∈ (together declarations).entries) :
    ∃ declaration ∈ declarations, entry ∈ declaration.attrs.entries := by
  rcases Table.mem_insert_all _ _ entry member with said | nothing
  · exact List.mem_flatMap.mp said
  · exact absurd nothing List.not_mem_nil

theorem together_calls (calls : ∀ declaration ∈ declarations, declaration.attrs.CallsNamed) :
    (together declarations).CallsNamed := by
  intro entry member
  obtain ⟨declaration, listed, said⟩ := mem_together declarations entry member
  exact calls declaration listed entry said

theorem together_get (name : String) :
    (together declarations).get? name = lastGiven declarations name := by
  simp only [together, Table.get_insert_all, Table.under_flat_map, Table.under_entries,
    ← List.filterMap_eq_flatMap_toList]
  exact Option.or_none

theorem together_told : (together declarations).entries.map lifted = told declarations := by
  rw [Table.entries_listed, List.map_filterMap, together_keys, told]
  refine List.filterMap_congr fun name _ => ?_
  rw [together_get, Option.map_map]
  rfl

theorem converted_told (converted : ExtAttrs)
    (convert : convertAll (together declarations) = .ok converted) :
    converted.entries = told declarations ∧
      converted.keys = (sources declarations).map liftedName ∧
      ∀ entry ∈ (together declarations).entries, Liftable entry.1 entry.2 := by
  obtain ⟨liftable, listed⟩ := (convert_all_iff _ converted).mp convert
  have names := lifted_names (together declarations)
  rw [together_keys, ← listed, ← Table.keys_eq] at names
  exact ⟨listed.trans (together_told declarations), names, liftable⟩

end Together

theorem agreeing_value (known fresh : Option ExtAttrValue)
    (uncalled : ∀ value, known = some value → value.isCall = false)
    (same : (known != fresh) = false) : known = fresh := by
  rw [bne, Bool.not_eq_false'] at same
  cases known with
  | none =>
      cases fresh with
      | none => rfl
      | some => cases same
  | some value =>
      cases fresh with
      | none => cases same
      | some other => exact congrArg some (value.eq_of_same other (uncalled value rfl) same)

theorem check_agreement_agreed (known fresh : ExtAttrs) (calls : known.CallsNamed)
    (agree : checkAgreement known fresh = .ok ()) (name : String) (agreed : name ∈ agreedNames) :
    known.get? name = fresh.get? name := by
  have uncalled : ∀ value, known.get? name = some value → value.isCall = false := by
    intro value found
    refine Bool.eq_false_iff.mpr fun call => ?_
    have named : name = "NamedConstructor" :=
      calls (name, value) (Table.mem_of_get known name value found) call
    exact absurd (named ▸ agreed) (by decide)
  unfold checkAgreement at agree
  split at agree
  · cases agree
  · rename_i callWith
    split at agree
    · cases agree
    · rename_i raises
      refine agreeing_value _ _ uncalled ?_
      rcases List.mem_cons.mp agreed with rfl | last
      · exact Bool.eq_false_iff.mpr callWith
      · rw [List.mem_singleton.mp last]
        exact Bool.eq_false_iff.mpr raises

def Appears (attrs : ExtAttrs) (entry : String × ExtAttrValue) : Prop :=
  ∃ converted, convert entry.1 entry.2 = .ok converted ∧
    attrs.get? converted.1 = some converted.2

theorem appears_iff (attrs : ExtAttrs) (entry : String × ExtAttrValue) :
    Appears attrs entry ↔ Liftable entry.1 entry.2 ∧ lifted entry ∈ attrs.entries := by
  simp only [Appears, convert_iff]
  refine ⟨?_, ?_⟩
  · intro ⟨converted, ⟨liftable, same⟩, found⟩
    subst same
    exact ⟨liftable, Table.mem_of_get attrs _ _ found⟩
  · intro ⟨liftable, member⟩
    exact ⟨lifted entry, ⟨liftable, rfl⟩, Table.get_of_mem attrs _ _ member⟩

end ConstructorDeclaration

namespace Interface

open ConstructorDeclaration (ordinary custom sources told together lifted Liftable agreedNames)

namespace Draft

structure Records (front : List Node) (declarations : List ConstructorDeclaration)
    (draft : Draft) : Prop where
  written : ConstructorDeclaration.WrittenAmong front declarations
  constructors : draft.constructors = (ordinary declarations).map (·.constructor)
  customConstructors : draft.customConstructors = (custom declarations).map (·.constructor)
  attrs : draft.constructorAttrs = together (ordinary declarations)
  agreed : ∀ declaration ∈ ordinary declarations, ∀ name ∈ agreedNames,
    declaration.attrs.get? name = draft.constructorAttrs.get? name

theorem records_calls (front : List Node) (declarations : List ConstructorDeclaration)
    (draft : Draft) (records : Records front declarations draft) :
    draft.constructorAttrs.CallsNamed := by
  rw [records.attrs]
  refine ConstructorDeclaration.together_calls _ fun declaration listed => ?_
  exact ConstructorDeclaration.written_among_calls front declarations records.written declaration
    (List.mem_filter.mp listed).1

theorem start_records (node : Node) (name : String) : Records [] [] (start node name) :=
  ⟨.nil, rfl, rfl, rfl, List.forall_mem_nil _⟩

-- All have said alike, so what is said last overwrites nothing.
theorem extended_agreed (front : List Node) (declarations : List ConstructorDeclaration)
    (draft : Draft) (records : Records front declarations draft) (fresh : ExtAttrs)
    (agree : draft.constructors ≠ [] →
      ConstructorDeclaration.checkAgreement draft.constructorAttrs fresh = .ok ())
    (name : String) (agreed : name ∈ agreedNames) :
    (draft.constructorAttrs.extend fresh).get? name = fresh.get? name ∧
      ∀ declaration ∈ ordinary declarations, declaration.attrs.get? name = fresh.get? name := by
  by_cases first : draft.constructors = []
  · have nothing : ordinary declarations = [] :=
      List.map_eq_nil_iff.mp (records.constructors.symm.trans first)
    rw [records.attrs, nothing, Table.get_extend]
    exact ⟨Option.or_none, List.forall_mem_nil _⟩
  · have same : draft.constructorAttrs.get? name = fresh.get? name :=
      ConstructorDeclaration.check_agreement_agreed _ _
        (records_calls front declarations draft records) (agree first) name agreed
    rw [Table.get_extend, same, Option.or_self]
    refine ⟨rfl, fun declaration listed => ?_⟩
    rw [records.agreed declaration listed name agreed, same]

theorem taken_records (front : List Node) (draft next : Draft) (child : Node)
    (taken : Taken draft child next) (declarations : List ConstructorDeclaration)
    (before : Records front declarations draft) :
    ∃ declarations, Records (front ++ [child]) declarations next := by
  cases taken_adds draft next child taken with
  | nothing other plain custom attrs =>
      refine ⟨declarations, ?_, ?_, ?_, ?_, ?_⟩
      · simpa [ConstructorDeclaration.WrittenAmong, other] using before.written
      · rw [plain, before.constructors]
      · rw [custom, before.customConstructors]
      · rw [attrs, before.attrs]
      · rw [attrs]
        exact before.agreed
  | custom declaration one written isCustom same =>
      subst same
      have alike : ordinary (declarations ++ [declaration]) = ordinary declarations := by
        simp [ordinary, isCustom]
      have grown := ConstructorDeclaration.written_append_one front declarations child declaration
        one written before.written
      refine ⟨declarations ++ [declaration], grown, ?_, ?_, ?_, ?_⟩
      · rw [alike]
        exact before.constructors
      · simp [custom, isCustom, before.customConstructors]
      · rw [alike]
        exact before.attrs
      · rw [alike]
        exact before.agreed
  | plain declaration one written isPlain agree same =>
      subst same
      have more : ordinary (declarations ++ [declaration]) =
          ordinary declarations ++ [declaration] := by
        simp [ordinary, isPlain]
      have grown := ConstructorDeclaration.written_append_one front declarations child declaration
        one written before.written
      refine ⟨declarations ++ [declaration], grown, ?_, ?_, ?_, ?_⟩
      · simp [more, before.constructors]
      · simp [custom, isPlain, before.customConstructors]
      · rw [more, ConstructorDeclaration.together_append_one, before.attrs]
      · intro other listed name agreed
        obtain ⟨latest, earlier⟩ :=
          extended_agreed front declarations draft before declaration.attrs agree name agreed
        rw [latest]
        rw [more] at listed
        rcases List.mem_append.mp listed with known | last
        · exact earlier other known
        · rw [List.mem_singleton.mp last]

theorem take_all_records (node : Node) (name : String) (draft : Draft)
    (taken : (start node name).takeAll node.children = .ok draft) :
    ∃ declarations, Records node.children declarations draft := by
  refine take_all_keeps_after (fun front draft => ∃ declarations, Records front declarations draft)
    ?_ [] node.children _ draft taken ⟨[], start_records node name⟩
  intro front draft child next step before
  obtain ⟨declarations, records⟩ := before
  exact taken_records front draft next child step declarations records

end Draft

-- What the interface says itself, and behind it what its ordinary constructor operations tell.
structure Carries (interface : Interface) (node : Node)
    (declarations : List ConstructorDeclaration) (own : ExtAttrs) : Prop where
  written : ConstructorDeclaration.WrittenAmong node.children declarations
  given : Node.lastAttrs node.children = .ok own
  unnamed : own.contains "NamedConstructor" = false
  attrs : interface.attrs.entries = own.entries ++ told (ordinary declarations)
  names : (told (ordinary declarations)).map (·.1) =
    (sources (ordinary declarations)).map ConstructorDeclaration.liftedName
  once : ((told (ordinary declarations)).map (·.1)).Nodup
  apart : ∀ entry ∈ told (ordinary declarations), entry.1 ∉ own.keys
  constructors : interface.constructors = (ordinary declarations).map (·.constructor)
  customConstructors : interface.customConstructors = (custom declarations).map (·.constructor)

theorem of_node_carries (node child : Node) (interface : Interface)
    (built : ofNode node = .ok interface) (listed : child ∈ node.children)
    (one : child.isConstructor = true) :
    ∃ declarations own draft, interface.Carries node declarations own ∧
      Draft.Records node.children declarations draft ∧
      ∀ entry ∈ (together (ordinary declarations)).entries, Liftable entry.1 entry.2 := by
  obtain ⟨name, draft, _, taken, finish⟩ := (of_node_ok_iff node interface).mp built
  obtain ⟨declarations, records⟩ := Draft.take_all_records node name draft taken
  obtain ⟨own, given, split⟩ := Draft.take_all_last_attrs node name draft taken
  obtain ⟨_, _, _, _, constructed⟩ := Draft.finish_finished draft interface finish
  cases constructed with
  | without plain custom =>
      have kept := (Draft.take_all_kept node name draft taken).setAside
      have nothing := Draft.nothing_set_aside node.children draft kept plain custom
      exact absurd (List.mem_filter.mpr ⟨listed, one⟩) (nothing ▸ List.not_mem_nil)
  | operations converted _ free _ convert apart =>
      rw [show draft.interface.constructors = [] from free] at split
      obtain ⟨absent, same⟩ := Draft.named_constructors_free own _ split
      rw [records.attrs] at convert
      obtain ⟨listed, names, liftable⟩ := ConstructorDeclaration.converted_told _ _ convert
      have behind : ∀ entry ∈ converted.entries, entry.1 ∉ own.keys := by
        intro entry member present
        have absent := apart entry.1 (same ▸ present)
        rw [← Bool.not_eq_true, Table.contains_iff] at absent
        exact absent (Table.key_of_mem converted entry member)
      have attrs : (own.extend converted).entries =
          own.entries ++ told (ordinary declarations) := by
        rw [← listed]
        exact Table.extend_fresh own converted behind
      refine ⟨declarations, own, draft, ?_, records, liftable⟩
      refine ⟨records.written, given, absent, same ▸ attrs, ?_, ?_, listed ▸ behind,
        records.constructors, records.customConstructors⟩
      · rw [← listed, ← Table.keys_eq, names]
      · rw [← listed]
        exact converted.entries_distinct

inductive Restated : Node → Node → Prop
  | same (child : Node) : Restated child child
  | custom (child other : Node) (declaration restated : ConstructorDeclaration)
      (kind : child.kind = "Constructor") (alsoKind : other.kind = "Constructor")
      (read : ConstructorDeclaration.ofNode child = .ok declaration)
      (alsoRead : ConstructorDeclaration.ofNode other = .ok restated)
      (isCustom : declaration.isCustom = true) (alsoCustom : restated.isCustom = true)
      (alike : declaration.constructor = restated.constructor) : Restated child other

namespace Draft

theorem take_custom (draft : Draft) (child : Node) (declaration : ConstructorDeclaration)
    (kind : child.kind = "Constructor")
    (read : ConstructorDeclaration.ofNode child = .ok declaration)
    (isCustom : declaration.isCustom = true) :
    draft.take child = .ok { draft with
      customConstructors := draft.customConstructors ++ [declaration.constructor] } := by
  have taken : draft.take child = draft.takeConstructor child := by simp only [take, kind]
  rw [taken, takeConstructor, read]
  show (if declaration.isCustom then _ else _) = _
  rw [if_pos isCustom]
  rfl

theorem take_restated (draft : Draft) (child other : Node) (restated : Restated child other) :
    draft.take other = draft.take child := by
  cases restated with
  | same => rfl
  | custom _ declaration again kind alsoKind read alsoRead isCustom alsoCustom alike =>
      rw [take_custom draft child declaration kind read isCustom,
        take_custom draft other again alsoKind alsoRead alsoCustom, alike]

theorem take_all_restated (draft : Draft) (children others : List Node)
    (restated : List.Forall₂ Restated children others) :
    draft.takeAll others = draft.takeAll children := by
  induction restated generalizing draft with
  | nil => rfl
  | cons first _ ih =>
      rw [takeAll, takeAll, take_restated draft _ _ first]
      exact congrArg _ (funext fun next => ih next)

end Draft

theorem of_node_restated (node : Node) (children : List Node)
    (restated : List.Forall₂ Restated node.children children) :
    ofNode { node with children } = ofNode node := by
  unfold ofNode
  refine congrArg _ (funext fun name => ?_)
  exact congrArg (· >>= Draft.finish)
    (Draft.take_all_restated (Draft.start node name) node.children children restated)

-- The attributes of custom ones appear by chance only: where the interface itself or an ordinary
-- one says what they are converted to.
theorem custom_metadata_unread (node child : Node) (interface : Interface)
    (built : ofNode node = .ok interface) (listed : child ∈ node.children)
    (one : child.isConstructor = true) :
    (∀ children, List.Forall₂ Restated node.children children →
      ofNode { node with children } = .ok interface) ∧
    ∃ declarations own, interface.Carries node declarations own ∧
      ∀ declaration ∈ custom declarations, ∀ entry ∈ declaration.attrs.entries,
        (ConstructorDeclaration.Appears interface.attrs entry ↔
          Liftable entry.1 entry.2 ∧
            (lifted entry ∈ own.entries ∨ lifted entry ∈ told (ordinary declarations))) := by
  obtain ⟨declarations, own, _, carries, _, _⟩ :=
    of_node_carries node child interface built listed one
  refine ⟨?_, declarations, own, carries, ?_⟩
  · intro children restated
    rw [of_node_restated node children restated, built]
  · intro declaration _ entry _
    rw [← List.mem_append, ← carries.attrs]
    exact ConstructorDeclaration.appears_iff interface.attrs entry

def touchBehind (custom : List Node) : Node :=
  (Node.interfaceOf "Touch" []).withChildren
    [Node.constructorOf [Node.attrOf "CallWith" "Document"],
      Node.constructorOf (Node.bareAttr "Custom" :: custom)]

theorem custom_metadata_said_before :
    ∃ interface,
      ofNode (touchBehind [Node.attrOf "CallWith" "Document", Node.bareAttr "Global"]) =
        .ok interface ∧
      ofNode (touchBehind []) = .ok interface ∧
      ConstructorDeclaration.Appears interface.attrs ("CallWith", .text "Document") := by
  refine ⟨_, rfl, ?_, ⟨_, rfl, rfl⟩⟩
  obtain ⟨unread, _⟩ := custom_metadata_unread
    (touchBehind [Node.attrOf "CallWith" "Document", Node.bareAttr "Global"]) _ _ rfl
    List.mem_cons_self rfl
  refine unread (touchBehind []).children (.cons (.same _) (.cons ?_ .nil))
  exact .custom _ _ _ _ rfl rfl rfl rfl rfl rfl rfl

theorem custom_metadata_lost :
    ∃ interface declaration,
      ofNode ((Node.interfaceOf "Touch" []).withChild (Node.constructorOf
        [Node.bareAttr "Custom", Node.attrOf "CallWith" "Document", Node.bareAttr "Global"])) =
          .ok interface ∧
      ConstructorDeclaration.ofNode (Node.constructorOf
        [Node.bareAttr "Custom", Node.attrOf "CallWith" "Document", Node.bareAttr "Global"]) =
          .ok declaration ∧
      declaration.isCustom = true ∧ declaration.attrs.keys = ["CallWith", "Global"] ∧
      (∀ entry ∈ declaration.attrs.entries,
        ¬ ConstructorDeclaration.Appears interface.attrs entry) ∧
      ofNode ((Node.interfaceOf "Touch" []).withChild (Node.constructorOf
        [Node.attrOf "CallWith" "Document", Node.bareAttr "Global"])) =
          .error (.onConstructorOperation "Global") := by
  refine ⟨_, _, rfl, rfl, rfl, rfl, ?_, rfl⟩
  intro entry _ appears
  obtain ⟨converted, _, found⟩ := appears
  cases found

end Interface

end WebIdl
