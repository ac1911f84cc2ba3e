import Std

/-! Histories of events, oldest first. `Since` looks back for an event that nothing has undone, and
`Always` requires a condition on every event and what came before it. -/

namespace PastTime

variable {Event : Type} {start stop : Event → Prop} {history : List Event} {event : Event}

/-- There is a starting event with no stopping event after it. -/
def Since (start stop : Event → Prop) (history : List Event) : Prop :=
  ∃ before event after, history = before ++ event :: after ∧ start event ∧
    ∀ later ∈ after, ¬ stop later

theorem not_since_nil : ¬ Since start stop ([] : List Event) := by
  rintro ⟨before, event, after, empty, -, -⟩
  exact absurd empty.symm (by simp)

theorem since_append_singleton :
    Since start stop (history ++ [event]) ↔
      start event ∨ ¬ stop event ∧ Since start stop history := by
  constructor
  · rintro ⟨before, first, after, split, starts, unstopped⟩
    rcases List.eq_nil_or_concat after with rfl | ⟨middle, last, rfl⟩
    · obtain ⟨rfl, -⟩ := List.cons.inj (List.append_inj_right' split rfl)
      exact .inl starts
    · have parts : history ++ [event] = (before ++ first :: middle) ++ [last] := by
        rw [split, List.concat_eq_append, List.append_assoc, List.cons_append]
      obtain ⟨rfl, same⟩ := List.append_inj' parts rfl
      obtain ⟨rfl, -⟩ := List.cons.inj same
      refine .inr ⟨unstopped event (by simp), before, first, middle, rfl, starts, ?_⟩
      intro later member
      exact unstopped later (by simp [member])
  · rintro (starts | ⟨keeps, before, first, after, rfl, starts, unstopped⟩)
    · exact ⟨history, event, [], rfl, starts, by simp⟩
    · refine ⟨before, first, after ++ [event], by simp, starts, ?_⟩
      intro later member
      rcases List.mem_append.mp member with earlier | last
      · exact unstopped later earlier
      · rw [List.mem_singleton.mp last]
        exact keeps

theorem since_append {events : List Event} (others : ∀ event ∈ events, ¬ start event ∧ ¬ stop event) :
    Since start stop (history ++ events) ↔ Since start stop history := by
  induction events generalizing history with
  | nil => rw [List.append_nil]
  | cons event events ih =>
      obtain ⟨starts, stops⟩ := others event List.mem_cons_self
      rw [List.append_cons, ih fun other member => others other (List.mem_cons_of_mem _ member),
        since_append_singleton]
      constructor
      · rintro (started | ⟨-, since⟩)
        · exact absurd started starts
        · exact since
      · exact fun since => .inr ⟨stops, since⟩

theorem Since.of_append {events : List Event} (since : Since start stop (history ++ events))
    (before : ¬ Since start stop history) : ∃ event ∈ events, start event := by
  induction events generalizing history with
  | nil =>
      rw [List.append_nil] at since
      exact absurd since before
  | cons event events ih =>
      by_cases starts : start event
      · exact ⟨event, List.mem_cons_self, starts⟩
      · rw [List.append_cons] at since
        have still : ¬ Since start stop (history ++ [event]) := by
          rw [since_append_singleton]
          rintro (started | ⟨-, earlier⟩)
          · exact starts started
          · exact before earlier
        obtain ⟨found, member, started⟩ := ih since still
        exact ⟨found, List.mem_cons_of_mem _ member, started⟩

/-- A condition on every event and the events before it. -/
def Always (condition : List Event → Event → Prop) (history : List Event) : Prop :=
  ∀ before event after, history = before ++ event :: after → condition before event

variable {condition : List Event → Event → Prop}

theorem always_nil : Always condition [] := by
  intro before event after empty
  exact absurd empty.symm (by simp)

theorem Always.of_append {events : List Event} (always : Always condition (history ++ events)) :
    Always condition history := by
  intro before event after split
  refine always before event (after ++ events) ?_
  rw [split, List.append_assoc, List.cons_append]

theorem Always.append (always : Always condition history) {events : List Event}
    (new : ∀ before event after, events = before ++ event :: after →
      condition (history ++ before) event) : Always condition (history ++ events) := by
  intro before event after split
  rcases List.append_eq_append_iff.mp split with ⟨middle, first, rest⟩ | ⟨middle, first, rest⟩
  · subst first
    exact new middle event after rest
  · cases middle with
    | nil =>
        rw [List.append_nil] at first
        subst first
        have here := new [] event after (by rw [List.nil_append] at rest ⊢; exact rest.symm)
        rwa [List.append_nil] at here
    | cons head tail =>
        rw [List.cons_append] at rest
        obtain ⟨rfl, -⟩ := List.cons.inj rest
        exact always before event tail first

theorem Always.append_singleton (always : Always condition history) (new : condition history event) :
    Always condition (history ++ [event]) := by
  refine always.append fun before found after split => ?_
  cases before with
  | nil =>
      obtain ⟨rfl, -⟩ := List.cons.inj split
      rwa [List.append_nil]
  | cons head tail => exact absurd (List.cons.inj split).2 (by simp)

end PastTime
