/-! Loops whose body may end the whole loop. A visit is a state and an item with which the body
was entered. -/

namespace ExitLoop

inductive Exit where
  | next
  | leave
deriving DecidableEq

variable {State Item : Type}

def run (body : State → Item → Exit × State) : State → List Item → State
  | state, [] => state
  | state, item :: rest =>
      match body state item with
      | (.leave, state) => state
      | (.next, state) => run body state rest

def visits (body : State → Item → Exit × State) : State → List Item → List (State × Item)
  | _, [] => []
  | state, item :: rest =>
      (state, item) ::
        match body state item with
        | (.leave, _) => []
        | (.next, state) => visits body state rest

variable {body : State → Item → Exit × State}

@[simp] theorem run_nil (state : State) : run body state [] = state := rfl

@[simp] theorem visits_nil (state : State) : visits body state [] = [] := rfl

theorem run_cons (state : State) (item : Item) (rest : List Item) :
    run body state (item :: rest) =
      if (body state item).1 = .leave then (body state item).2
      else run body (body state item).2 rest := by
  rw [run]
  rcases outcome : body state item with ⟨exit, next⟩
  cases exit <;> simp

theorem visits_cons (state : State) (item : Item) (rest : List Item) :
    visits body state (item :: rest) =
      (state, item) ::
        if (body state item).1 = .leave then [] else visits body (body state item).2 rest := by
  rw [visits]
  rcases outcome : body state item with ⟨exit, next⟩
  cases exit <;> simp

theorem run_frame {Value : Type} (read : State → Value) {items : List Item} {state : State}
    (kept : ∀ visit ∈ visits body state items, read (body visit.1 visit.2).2 = read visit.1) :
    read (run body state items) = read state := by
  induction items generalizing state with
  | nil => rfl
  | cons item rest ih =>
      rw [visits_cons] at kept
      rw [run_cons]
      have here := kept (state, item) List.mem_cons_self
      split
      · exact here
      · rename_i stays
        rw [if_neg stays] at kept
        rw [ih fun visit member => kept visit (List.mem_cons_of_mem _ member)]
        exact here

theorem run_invariant (Holds : State → Prop) {items : List Item} {state : State}
    (start : Holds state)
    (kept : ∀ state, ∀ item ∈ items, Holds state → Holds (body state item).2) :
    Holds (run body state items) := by
  induction items generalizing state with
  | nil => exact start
  | cons item rest ih =>
      have here := kept state item List.mem_cons_self start
      rw [run_cons]
      split
      · exact here
      · exact ih here fun state other member => kept state other (List.mem_cons_of_mem _ member)

theorem visits_head {items : List Item} {state : State} {first : State × Item}
    {rest : List (State × Item)} (visited : visits body state items = first :: rest) :
    first.1 = state := by
  cases items with
  | nil => simp at visited
  | cons item items =>
      rw [visits_cons, List.cons.injEq] at visited
      rw [← visited.1]

theorem run_eq_of_visits {items : List Item} {state : State} {before : List (State × Item)}
    {last : State × Item} (visited : visits body state items = before ++ [last]) :
    run body state items = (body last.1 last.2).2 := by
  induction items generalizing state before with
  | nil => simp at visited
  | cons item rest ih =>
      rw [visits_cons] at visited
      rw [run_cons]
      split at visited
      · rename_i left
        rw [if_pos left]
        cases before with
        | nil =>
            simp only [List.nil_append, List.cons.injEq, and_true] at visited
            rw [← visited]
        | cons first before => simp at visited
      · rename_i stays
        rw [if_neg stays]
        cases before with
        | nil =>
            simp only [List.nil_append, List.cons.injEq] at visited
            cases rest with
            | nil => simp [← visited.1]
            | cons other rest => simp [visits_cons] at visited
        | cons first before =>
            simp only [List.cons_append, List.cons.injEq] at visited
            exact ih visited.2

theorem visits_chain {items : List Item} {state : State} {before : List (State × Item)}
    {previous last : State × Item} {after : List (State × Item)}
    (visited : visits body state items = before ++ previous :: last :: after) :
    body previous.1 previous.2 = (.next, last.1) := by
  induction items generalizing state before with
  | nil => simp at visited
  | cons item rest ih =>
      rw [visits_cons] at visited
      split at visited
      · cases before with
        | nil => simp at visited
        | cons first before => simp at visited
      · rename_i stays
        cases before with
        | nil =>
            simp only [List.nil_append, List.cons.injEq] at visited
            obtain ⟨rfl, later⟩ := visited
            have start : last.1 = (body state item).2 := by
              cases rest with
              | nil => simp at later
              | cons other rest =>
                  rw [visits_cons] at later
                  simp only [List.cons.injEq] at later
                  rw [← later.1]
            rcases outcome : body state item with ⟨exit, next⟩
            rw [outcome] at stays start
            cases exit with
            | next => rw [start]
            | leave => exact absurd rfl stays
        | cons first before =>
            simp only [List.cons_append, List.cons.injEq] at visited
            exact ih visited.2

end ExitLoop
