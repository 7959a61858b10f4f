set_option autoImplicit false

/-!
Changes that are made in place and may break off. What has been changed before an error stays
changed, so the state counts even if there is an error.
-/

namespace WebIdl

structure Attempt (ε σ : Type) where
  state : σ
  failure : Option ε

namespace Attempt

variable {ε σ τ : Type}

def done (state : σ) : Attempt ε σ := ⟨state, none⟩

def broken (state : σ) (error : ε) : Attempt ε σ := ⟨state, some error⟩

def andThen (attempt : Attempt ε σ) (next : σ → Attempt ε σ) : Attempt ε σ :=
  match attempt.failure with
  | none => next attempt.state
  | some _ => attempt

def lift (attempt : Attempt ε σ) (put : σ → τ) : Attempt ε τ :=
  ⟨put attempt.state, attempt.failure⟩

def each {α : Type} (change : σ → α → Attempt ε σ) : List α → σ → Attempt ε σ
  | [], state => done state
  | item :: rest, state => (change state item).andThen (each change rest)

def result (attempt : Attempt ε σ) : Except ε σ :=
  match attempt.failure with
  | none => .ok attempt.state
  | some error => .error error

@[simp] theorem done_state (state : σ) : (done state : Attempt ε σ).state = state := rfl

@[simp] theorem done_failure (state : σ) : (done state : Attempt ε σ).failure = none := rfl

@[simp] theorem broken_failure (state : σ) (error : ε) :
    (broken state error).failure = some error := rfl

theorem and_then_done (state : σ) (next : σ → Attempt ε σ) :
    (done state : Attempt ε σ).andThen next = next state := rfl

theorem result_ok_iff (attempt : Attempt ε σ) (state : σ) :
    attempt.result = .ok state ↔ attempt.failure = none ∧ attempt.state = state := by
  unfold result
  cases attempt.failure <;> simp

theorem each_cons_done {α : Type} (change : σ → α → Attempt ε σ) (item : α) (rest : List α)
    (state : σ) (went : (change state item).failure = none) :
    each change (item :: rest) state = each change rest (change state item).state := by
  simp only [each, andThen, went]

theorem each_cons_broken {α : Type} (change : σ → α → Attempt ε σ) (item : α) (rest : List α)
    (state : σ) (error : ε) (broke : (change state item).failure = some error) :
    each change (item :: rest) state = change state item := by
  simp only [each, andThen, broke]

theorem each_append {α : Type} (change : σ → α → Attempt ε σ) (front back : List α) (state : σ) :
    each change (front ++ back) state = (each change front state).andThen (each change back) := by
  induction front generalizing state with
  | nil => rfl
  | cons item rest ih =>
      simp only [List.cons_append, each]
      cases broke : (change state item).failure with
      | none => simp only [andThen, broke, ih]
      | some error => simp only [andThen, broke]

theorem each_append_done {α : Type} (change : σ → α → Attempt ε σ) (front back : List α)
    (state : σ) (went : (each change front state).failure = none) :
    each change (front ++ back) state = each change back (each change front state).state := by
  simp only [each_append, andThen, went]

theorem each_append_broken {α : Type} (change : σ → α → Attempt ε σ) (front back : List α)
    (state : σ) (error : ε) (broke : (each change front state).failure = some error) :
    each change (front ++ back) state = each change front state := by
  simp only [each_append, andThen, broke]

theorem and_then_keeps (attempt : Attempt ε σ) (next : σ → Attempt ε σ) (holds : σ → Prop)
    (kept : ∀ state, holds state → holds (next state).state) (start : holds attempt.state) :
    holds (attempt.andThen next).state := by
  unfold andThen
  cases attempt.failure with
  | none => exact kept _ start
  | some error => exact start

theorem each_keeps {α : Type} (change : σ → α → Attempt ε σ) (holds : σ → Prop) (items : List α)
    (kept : ∀ item ∈ items, ∀ state, holds state → holds (change state item).state)
    (state : σ) (start : holds state) : holds (each change items state).state := by
  induction items generalizing state with
  | nil => exact start
  | cons item rest ih =>
      refine and_then_keeps _ _ holds ?_ (kept item List.mem_cons_self state start)
      exact ih fun later member => kept later (List.mem_cons_of_mem item member)

theorem each_keeps_after {α : Type} (change : σ → α → Attempt ε σ) (holds : List α → σ → Prop)
    (kept : ∀ front state item, (change state item).failure = none → holds front state →
      holds (front ++ [item]) (change state item).state)
    (front items : List α) (state : σ) (went : (each change items state).failure = none)
    (start : holds front state) : holds (front ++ items) (each change items state).state := by
  induction items generalizing front state with
  | nil => rwa [List.append_nil]
  | cons item rest ih =>
      cases first : (change state item).failure with
      | some error =>
          rw [each_cons_broken change item rest state error first, first] at went
          cases went
      | none =>
          rw [each_cons_done change item rest state first] at went ⊢
          rw [List.append_cons]
          exact ih (front ++ [item]) _ went (kept front state item first start)

theorem each_broken {α : Type} (change : σ → α → Attempt ε σ) (items : List α) (state : σ)
    (error : ε) (broke : (each change items state).failure = some error) :
    ∃ front item back, items = front ++ item :: back ∧
      (each change front state).failure = none ∧
      (change (each change front state).state item).failure = some error ∧
      (each change items state).state = (change (each change front state).state item).state := by
  induction items generalizing state with
  | nil => cases broke
  | cons item rest ih =>
      cases first : (change state item).failure with
      | some error' =>
          rw [each_cons_broken change item rest state error' first] at broke ⊢
          exact ⟨[], item, rest, rfl, rfl, broke, rfl⟩
      | none =>
          rw [each_cons_done change item rest state first] at broke ⊢
          obtain ⟨front, last, back, rfl, went, broke, ended⟩ := ih _ broke
          refine ⟨item :: front, last, back, rfl, ?_⟩
          rw [each_cons_done change item front state first]
          exact ⟨went, broke, ended⟩

end Attempt

theorem bind_ok_iff {ε α β : Type} (first : Except ε α) (next : α → Except ε β) (result : β) :
    first >>= next = .ok result ↔ ∃ value, first = .ok value ∧ next value = .ok result := by
  cases first with
  | error error => simp [bind, Except.bind]
  | ok value => simp [bind, Except.bind]

theorem to_option_eq_some_iff {ε α : Type} (attempt : Except ε α) (value : α) :
    attempt.toOption = some value ↔ attempt = .ok value := by
  cases attempt <;> simp [Except.toOption]

theorem map_ok_iff {ε α β : Type} (first : Except ε α) (next : α → β) (result : β) :
    first.map next = .ok result ↔ ∃ value, first = .ok value ∧ next value = result := by
  cases first with
  | error error => simp [Except.map]
  | ok value => simp [Except.map]

end WebIdl
