import WebIdl.Proofs.Entries

set_option autoImplicit false

namespace WebIdl.Definitions

-- A resolution that breaks off leaves definitions behind, and these count as well.
inductive Produced (files : List Node) : Definitions → Prop
  | read (root : Node) (definitions : Definitions) (listed : root ∈ files)
      (built : ofNode root = .ok definitions) : Produced files definitions
  | merge (units : List Definitions) (whole : Definitions)
      (parts : ∀ unit ∈ units, Produced files unit) (done : merge units = .ok whole) :
      Produced files whole
  | resolve (definitions : Definitions) (before : Produced files definitions) :
      Produced files (resolveInheritance definitions).state

theorem produced_each (files : List Node) (holds : String → Declaration → Prop)
    (read : ∀ root ∈ files, ∀ child ∈ root.children, ∀ declaration,
      Declaration.ofNode? child = some declaration → holds declaration.name declaration)
    (merged : Mergeable holds) (inherited : Inheritable holds)
    (definitions : Definitions) (produced : Produced files definitions) :
    definitions.Each holds := by
  induction produced with
  | read root definitions listed built =>
      exact of_node_each holds root definitions built (read root listed)
  | merge units whole _ done every => exact merge_each holds merged units whole done every
  | resolve definitions _ every => exact resolve_each holds inherited definitions every

theorem produced_all (files : List Node) (holds : Interface → Prop)
    (read : ∀ root ∈ files, ∀ child ∈ root.children, child.kind = "Interface" →
      ∀ interface, Interface.ofNode child = .ok interface → holds interface)
    (merged : ∀ base fragment, holds base → holds fragment → holds (base.merge fragment))
    (inherited : ∀ interface parent, holds interface → holds parent →
      holds (interface.inherit parent))
    (definitions : Definitions) (produced : Produced files definitions) :
    definitions.interfaces.All holds := by
  rw [← each_interfaces_iff]
  refine produced_each files _ ?_ (mergeable_interfaces holds merged)
    (inheritable_interfaces holds inherited) definitions produced
  intro root listed child present declaration made
  cases declaration with
  | interface value =>
      exact read root listed child present (Declaration.of_node_interface child value made) value
        (Declaration.of_node_reads child _ made)
  | _ => trivial

end WebIdl.Definitions
