import Mathlib.Data.List.FinRange
import Mathlib.Data.List.Sort

set_option autoImplicit false

namespace WebIdl

section Places

variable {α : Type} (items : List α) (place : Equiv.Perm (Fin items.length))

-- The same items in another order: what stands at a position now stood at its place before.
def rearranged : List α := List.ofFn fun position => items[place position]

theorem rearranged_perm : (rearranged items place).Perm items := by
  have whole : List.ofFn (fun position : Fin items.length => items[position]) = items :=
    List.ofFn_getElem
  conv => rhs; rw [← whole]
  exact place.ofFn_comp_perm fun position => items[position]

-- The places of items that keep their order increase, so they are the same places in the same
-- order.
theorem rearranged_filter (test : α → Bool)
    (kept : ∀ one two, test items[place one] = true → test items[place two] = true →
      (one < two ↔ place one < place two)) :
    (rearranged items place).filter test = items.filter test := by
  let passing : Fin items.length → Bool := fun position => test items[position]
  have before : (List.finRange items.length).map (fun position => items[position]) = items := by
    rw [← List.ofFn_eq_map]
    exact List.ofFn_getElem
  have after : ((List.finRange items.length).map place).map (fun position => items[position]) =
      rearranged items place := by
    rw [rearranged, List.ofFn_eq_map, List.map_map]
    rfl
  have places : ((List.finRange items.length).map place).filter passing =
      (List.finRange items.length).filter passing := by
    apply List.Perm.eq_of_pairwise' (r := (· < ·)) _ _ (place.map_finRange_perm.filter passing)
    · rw [List.filter_map, List.pairwise_map]
      refine List.Pairwise.imp_of_mem ?_ ((List.pairwise_lt_finRange _).filter _)
      intro one two first second earlier
      exact (kept one two (List.mem_filter.mp first).2 (List.mem_filter.mp second).2).mp earlier
    · exact (List.pairwise_lt_finRange _).filter _
  calc (rearranged items place).filter test
      = (((List.finRange items.length).map place).filter passing).map
          (fun position => items[position]) := by rw [← after, List.filter_map]; rfl
    _ = ((List.finRange items.length).filter passing).map (fun position => items[position]) := by
          rw [places]
    _ = items.filter test := by
          conv => rhs; rw [← before, List.filter_map]
          rfl

end Places

section Runs

variable {σ α : Type} (step : σ → α → Option σ) (strand : α → String)
  (commutes : ∀ state one two, strand one ≠ strand two →
    (step state one).bind (step · two) = (step state two).bind (step · one))

include commutes

theorem moved_to_front (front back : List α) (item : α) (state : σ)
    (apart : ∀ other ∈ front, strand other ≠ strand item) :
    (front ++ item :: back).foldlM step state = (item :: (front ++ back)).foldlM step state := by
  induction front generalizing state with
  | nil => rfl
  | cons other rest ih =>
      obtain ⟨first, later⟩ := List.forall_mem_cons.mp apart
      calc (other :: rest ++ item :: back).foldlM step state
          = (step state other).bind fun next => (item :: (rest ++ back)).foldlM step next := by
            rw [List.cons_append, List.foldlM_cons]
            exact Option.bind_congr fun next _ => ih next later
        _ = ((step state other).bind (step · item)).bind ((rest ++ back).foldlM step ·) := by
            simp only [List.foldlM_cons, Option.bind_assoc, Option.bind_eq_bind]
        _ = ((step state item).bind (step · other)).bind ((rest ++ back).foldlM step ·) := by
            rw [commutes state other item first]
        _ = (item :: (other :: rest ++ back)).foldlM step state := by
            simp only [List.cons_append, List.foldlM_cons, Option.bind_assoc, Option.bind_eq_bind]

-- Induction on the first list: its head is the first of its strand in the other list as well, and
-- nothing that stands before it there is of its strand.
theorem run_by_strands (items others : List α) (state : σ)
    (same : ∀ name, items.filter (strand · == name) = others.filter (strand · == name)) :
    items.foldlM step state = others.foldlM step state := by
  induction items generalizing others state with
  | nil =>
      have nothing : others = [] := by
        refine List.eq_nil_iff_forall_not_mem.mpr fun other listed => ?_
        have found : other ∈ others.filter (strand · == strand other) :=
          List.mem_filter.mpr ⟨listed, beq_self_eq_true _⟩
        rw [← same] at found
        cases found
      rw [nothing]
  | cons item rest ih =>
      have own : others.filter (strand · == strand item) =
          item :: rest.filter (strand · == strand item) := by
        rw [← same, List.filter_cons, if_pos (beq_self_eq_true _)]
      obtain ⟨front, back, rfl, before, _, _⟩ := List.filter_eq_cons_iff.mp own
      have apart : ∀ other ∈ front, strand other ≠ strand item :=
        fun other listed alike => before other listed (beq_iff_eq.mpr alike)
      rw [moved_to_front step strand commutes front back item state apart, List.foldlM_cons,
        List.foldlM_cons]
      refine Option.bind_congr fun next _ => ih (front ++ back) next fun name => ?_
      have row := same name
      rw [List.filter_append, List.filter_cons, List.filter_cons] at row
      rw [List.filter_append]
      by_cases alike : strand item = name
      · have none : front.filter (strand · == name) = [] :=
          List.filter_eq_nil_iff.mpr (alike ▸ before)
        simpa [alike, none] using row
      · simpa [alike] using row

end Runs

end WebIdl
