set_option autoImplicit false

namespace WebIdl.Unicode

def covers : List (Nat × Nat) → Nat → Bool
  | [], _ => false
  | (first, last) :: rest, n =>
      if n < first then false else if n ≤ last then true else covers rest n

end WebIdl.Unicode
