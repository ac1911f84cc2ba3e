import Std

/-! Updating the first element of a list that satisfies a test, and how that update commutes
with filters, searches and maps. -/

namespace FirstMatch

variable {α : Type}

def modifyFirst (test : α → Bool) (update : α → α) : List α → List α
  | [] => []
  | value :: rest => if test value then update value :: rest else value :: modifyFirst test update rest

variable {test keep : α → Bool} {update : α → α}

@[simp] theorem modifyFirst_nil : modifyFirst test update [] = [] := rfl

theorem modifyFirst_of_none {values : List α} (absent : values.find? test = none) :
    modifyFirst test update values = values := by
  induction values with
  | nil => rfl
  | cons value rest ih =>
      rw [List.find?_cons] at absent
      split at absent
      · cases absent
      · rename_i rejected
        simp only [modifyFirst, rejected, Bool.false_eq_true, ↓reduceIte, ih absent]

@[simp] theorem length_modifyFirst (values : List α) :
    (modifyFirst test update values).length = values.length := by
  induction values with
  | nil => rfl
  | cons value rest ih =>
      simp only [modifyFirst]
      split <;> simp [ih]

theorem mem_modifyFirst {values : List α} {result : α}
    (member : result ∈ modifyFirst test update values) :
    result ∈ values ∨ ∃ value ∈ values, test value = true ∧ result = update value := by
  induction values with
  | nil => cases member
  | cons value rest ih =>
      simp only [modifyFirst] at member
      split at member
      · rename_i accepted
        rcases List.mem_cons.mp member with rfl | inRest
        · exact .inr ⟨value, List.mem_cons_self, accepted, rfl⟩
        · exact .inl (List.mem_cons_of_mem _ inRest)
      · rcases List.mem_cons.mp member with rfl | inRest
        · exact .inl List.mem_cons_self
        · rcases ih inRest with old | ⟨source, inSource, accepted, same⟩
          · exact .inl (List.mem_cons_of_mem _ old)
          · exact .inr ⟨source, List.mem_cons_of_mem _ inSource, accepted, same⟩

/-- A filter that holds of every candidate and is kept by the update selects the same entry. -/
theorem filter_modifyFirst_of_imp {values : List α}
    (kept : ∀ value, test value = true → keep value = true)
    (stable : ∀ value, test value = true → keep (update value) = true) :
    (modifyFirst test update values).filter keep =
      modifyFirst test update (values.filter keep) := by
  induction values with
  | nil => rfl
  | cons value rest ih =>
      cases accepted : test value with
      | true => simp [modifyFirst, accepted, kept value accepted, stable value accepted]
      | false =>
          cases keeps : keep value <;> simp [modifyFirst, accepted, keeps, ih]

theorem filter_modifyFirst_of_not {values : List α}
    (dropped : ∀ value, test value = true → keep value = false)
    (stable : ∀ value, test value = true → keep (update value) = false) :
    (modifyFirst test update values).filter keep = values.filter keep := by
  induction values with
  | nil => rfl
  | cons value rest ih =>
      cases accepted : test value with
      | true => simp [modifyFirst, accepted, dropped value accepted, stable value accepted]
      | false => cases keeps : keep value <;> simp [modifyFirst, accepted, keeps, ih]

theorem modifyFirst_congr {other : α → Bool} {values : List α}
    (same : ∀ value ∈ values, test value = other value) :
    modifyFirst test update values = modifyFirst other update values := by
  induction values with
  | nil => rfl
  | cons value rest ih =>
      rw [modifyFirst, modifyFirst, same value List.mem_cons_self,
        ih fun entry member => same entry (List.mem_cons_of_mem _ member)]

theorem map_modifyFirst {β : Type} {view : α → β} (values : List α)
    (same : ∀ value, test value = true → view (update value) = view value) :
    (modifyFirst test update values).map view = values.map view := by
  induction values with
  | nil => rfl
  | cons value rest ih =>
      cases accepted : test value with
      | true => simp [modifyFirst, accepted, same value accepted]
      | false => simp [modifyFirst, accepted, ih]

theorem modifyFirst_of_some {values : List α} {first : α} (found : values.find? test = some first)
    (update : α → α) :
    ∃ before after, values = before ++ first :: after ∧
      modifyFirst test update values = before ++ update first :: after := by
  induction values with
  | nil => cases found
  | cons value rest ih =>
      rw [List.find?_cons] at found
      split at found
      · rename_i accepted
        obtain rfl := Option.some.inj found
        exact ⟨[], rest, rfl, by simp [modifyFirst, accepted]⟩
      · rename_i rejected
        obtain ⟨before, after, same, updated⟩ := ih found
        refine ⟨value :: before, after, by rw [same]; rfl, ?_⟩
        rw [modifyFirst, rejected, if_neg Bool.false_ne_true, updated]
        rfl

theorem update_mem_modifyFirst {values : List α} {first : α}
    (found : values.find? test = some first) (update : α → α) :
    update first ∈ modifyFirst test update values := by
  obtain ⟨before, after, _, changed⟩ := modifyFirst_of_some found update
  rw [changed]
  exact List.mem_append_right _ List.mem_cons_self

theorem find?_filter_of_some {values : List α} {first : α} (found : values.find? test = some first)
    (kept : keep first = true) : (values.filter keep).find? test = some first := by
  obtain ⟨accepted, before, after, rfl, earlier⟩ := List.find?_eq_some_iff_append.mp found
  refine List.find?_eq_some_iff_append.mpr
    ⟨accepted, before.filter keep, after.filter keep, ?_, ?_⟩
  · rw [List.filter_append, List.filter_cons_of_pos kept]
  · intro value member
    exact earlier value (List.mem_filter.mp member).1

section Keyed

variable {κ : Type} [DecidableEq κ] {key : α → κ} {values : List α}

theorem find?_of_mem (distinct : (values.map key).Nodup) {value : α} (member : value ∈ values) :
    values.find? (fun other => key other == key value) = some value := by
  induction values with
  | nil => cases member
  | cons first rest ih =>
      rw [List.map_cons, List.nodup_cons] at distinct
      rw [List.find?_cons]
      rcases List.mem_cons.mp member with rfl | later
      · simp
      · have different : key first ≠ key value := by
          intro same
          exact distinct.1 (same ▸ List.mem_map_of_mem later)
        rw [beq_eq_false_iff_ne.mpr different]
        exact ih distinct.2 later

theorem eraseP_eq_filter (distinct : (values.map key).Nodup) (target : κ) :
    values.eraseP (fun value => key value == target) =
      values.filter fun value => key value != target := by
  induction values with
  | nil => rfl
  | cons first rest ih =>
      rw [List.map_cons, List.nodup_cons] at distinct
      by_cases same : key first = target
      · have absent : ∀ value ∈ rest, (key value != target) = true := by
          intro value member
          simp only [bne_iff_ne, ne_eq, ← same]
          intro repeated
          exact distinct.1 (repeated ▸ List.mem_map_of_mem member)
        simp [same, List.filter_eq_self.mpr absent]
      · simp [same, ih distinct.2]

theorem modifyFirst_eq_map (distinct : (values.map key).Nodup) (target : κ) :
    modifyFirst (fun value => key value == target) update values =
      values.map fun value => if key value = target then update value else value := by
  induction values with
  | nil => rfl
  | cons first rest ih =>
      rw [List.map_cons, List.nodup_cons] at distinct
      by_cases same : key first = target
      · have absent : rest.map (fun value => if key value = target then update value else value) =
            rest := by
          refine List.map_congr_left (g := id) ?_ |>.trans (List.map_id rest)
          intro value member
          rw [if_neg, id]
          intro repeated
          exact distinct.1 (same ▸ repeated ▸ List.mem_map_of_mem member)
        simp [modifyFirst, same, absent]
      · simp [modifyFirst, same, ih distinct.2]

end Keyed

end FirstMatch
