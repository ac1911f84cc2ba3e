import Std

/-! Lists of values grouped by a key: a list is determined up to order by its filters at each
key, and exactly when it is sorted by the key. The second form characterizes a stable sort. -/

namespace KeyedGroups

variable {α κ : Type} [DecidableEq κ]

def atKey (key : α → κ) (wanted : κ) (values : List α) : List α :=
  values.filter fun value => decide (key value = wanted)

section

variable {key : α → κ} {wanted : κ}

@[simp] theorem atKey_nil : atKey key wanted [] = [] := rfl

@[simp] theorem atKey_append (left right : List α) :
    atKey key wanted (left ++ right) = atKey key wanted left ++ atKey key wanted right := by
  simp [atKey]

theorem atKey_cons_self (value : α) (rest : List α) :
    atKey key (key value) (value :: rest) = value :: atKey key (key value) rest := by
  simp [atKey]

theorem atKey_of_forall {values : List α} (same : ∀ value ∈ values, key value = wanted) :
    atKey key wanted values = values := by
  simpa [atKey, List.filter_eq_self] using same

theorem atKey_of_forall_ne {values : List α} (different : ∀ value ∈ values, key value ≠ wanted) :
    atKey key wanted values = [] := by
  simpa [atKey, List.filter_eq_nil_iff] using different

theorem mem_of_atKey_eq {left right : List α}
    (same : ∀ wanted, atKey key wanted left = atKey key wanted right) {value : α}
    (member : value ∈ left) : value ∈ right := by
  have inKey : value ∈ atKey key (key value) left := by
    simp [atKey, member]
  rw [same] at inKey
  exact (List.mem_filter.mp inKey).1

end

theorem perm_of_atKey_eq [DecidableEq α] {key : α → κ} {left right : List α}
    (same : ∀ wanted, atKey key wanted left = atKey key wanted right) : left.Perm right := by
  rw [List.perm_iff_count]
  intro value
  have counted (values : List α) :
      (atKey key (key value) values).count value = values.count value :=
    List.count_filter (by simp)
  rw [← counted left, ← counted right, same]

section Sorted

variable {cmp : κ → κ → Ordering} [Std.TransCmp cmp] [Std.LawfulEqCmp cmp] {key : α → κ}

def SortedBy (cmp : κ → κ → Ordering) (key : α → κ) (values : List α) : Prop :=
  values.Pairwise fun left right => (cmp (key left) (key right)).isLE = true

/-- Sorted lists with the same filters at each key are equal. -/
theorem eq_of_sortedBy {left right : List α} (sortedLeft : SortedBy cmp key left)
    (sortedRight : SortedBy cmp key right)
    (same : ∀ wanted, atKey key wanted left = atKey key wanted right) : left = right := by
  induction left generalizing right with
  | nil =>
      cases right with
      | nil => rfl
      | cons value rest =>
          have filtered := same (key value)
          rw [atKey_cons_self] at filtered
          cases filtered
  | cons first leftRest ih =>
      cases right with
      | nil =>
          have filtered := same (key first)
          rw [atKey_cons_self] at filtered
          cases filtered
      | cons second rightRest =>
          -- Each head occurs in the other list, so the heads have the same key.
          have headLE {low high : α} {rest : List α} (sorted : SortedBy cmp key (low :: rest))
              (member : high ∈ low :: rest) : (cmp (key low) (key high)).isLE = true := by
            rcases List.mem_cons.mp member with rfl | inRest
            · simp [Std.ReflCmp.compare_self]
            · exact List.rel_of_pairwise_cons sorted inRest
          have forward := headLE sortedLeft
            (mem_of_atKey_eq (fun wanted => (same wanted).symm) List.mem_cons_self)
          have backward := headLE sortedRight (mem_of_atKey_eq same List.mem_cons_self)
          have sameKey : key first = key second :=
            Std.LawfulEqCmp.eq_of_compare (Std.OrientedCmp.isLE_antisymm forward backward)
          have filtered := same (key first)
          rw [atKey_cons_self] at filtered
          rw [sameKey, atKey_cons_self] at filtered
          have sameHead : first = second := (List.cons.inj filtered).1
          subst sameHead
          congr 1
          refine ih sortedLeft.of_cons sortedRight.of_cons ?_
          intro wanted
          have whole := same wanted
          simp only [atKey, List.filter_cons] at whole
          split at whole
          · exact (List.cons.inj whole).2
          · exact whole

def sortByKey (cmp : κ → κ → Ordering) (key : α → κ) (values : List α) : List α :=
  values.mergeSort fun left right => (cmp (key left) (key right)).isLE

omit [DecidableEq κ] [Std.LawfulEqCmp cmp] in
theorem isLE_total (left right : κ) : ((cmp left right).isLE || (cmp right left).isLE) = true := by
  have swapped : (cmp left right).isGE = (cmp right left).isLE := Std.OrientedCmp.isGE_eq_isLE
  cases order : cmp left right <;> simp_all

omit [DecidableEq κ] [Std.LawfulEqCmp cmp] in
theorem sortByKey_sortedBy (values : List α) : SortedBy cmp key (sortByKey cmp key values) := by
  refine List.pairwise_mergeSort ?_ ?_ values
  · intro first second third
    exact Std.TransCmp.isLE_trans
  · intro first second
    exact isLE_total (key first) (key second)

theorem atKey_sortByKey (values : List α) (wanted : κ) :
    atKey key wanted (sortByKey cmp key values) = atKey key wanted values := by
  have constant : (atKey key wanted values).Pairwise fun left right =>
      (cmp (key left) (key right)).isLE = true := by
    refine List.pairwise_of_forall_mem_list ?_
    intro left leftMember right rightMember
    simp only [atKey, List.mem_filter, decide_eq_true_eq] at leftMember rightMember
    rw [leftMember.2, rightMember.2]
    simp [Std.ReflCmp.compare_self]
  have contained : (atKey key wanted values).Sublist (sortByKey cmp key values) :=
    List.sublist_mergeSort (fun _ _ _ => Std.TransCmp.isLE_trans)
      (fun left right => isLE_total (key left) (key right)) constant List.filter_sublist
  have refiltered : (atKey key wanted values).Sublist
      (atKey key wanted (sortByKey cmp key values)) := by
    have again := contained.filter fun value => decide (key value = wanted)
    simpa only [atKey, List.filter_filter, Bool.and_self] using again
  refine (refiltered.eq_of_length ?_).symm
  exact (((List.mergeSort_perm values _).filter _).length_eq).symm

theorem eq_sortByKey {left right : List α} (sorted : SortedBy cmp key left)
    (same : ∀ wanted, atKey key wanted left = atKey key wanted right) :
    left = sortByKey cmp key right :=
  eq_of_sortedBy sorted (sortByKey_sortedBy right) fun wanted => by
    rw [atKey_sortByKey, same]

end Sorted

section Groups

variable {ν : Type} {cmp : κ → κ → Ordering} {key : α → κ} {items : ν → List α}

theorem atKey_flatMap_of_mem {groups : List (κ × ν)}
    (distinct : groups.Pairwise fun left right => left.1 ≠ right.1)
    (keyed : ∀ group ∈ groups, ∀ value ∈ items group.2, key value = group.1) {wanted : κ}
    {stored : ν} (member : (wanted, stored) ∈ groups) :
    atKey key wanted (groups.flatMap fun group => items group.2) = items stored := by
  induction groups with
  | nil => cases member
  | cons group rest ih =>
      have restKeyed : ∀ other ∈ rest, ∀ value ∈ items other.2, key value = other.1 :=
        fun other inRest => keyed other (List.mem_cons_of_mem _ inRest)
      rw [List.flatMap_cons, atKey_append]
      rcases List.mem_cons.mp member with rfl | inRest
      · rw [atKey_of_forall (keyed _ List.mem_cons_self), atKey_of_forall_ne, List.append_nil]
        intro value inValues
        obtain ⟨other, inOther, inItems⟩ := List.mem_flatMap.mp inValues
        rw [restKeyed other inOther value inItems]
        exact (List.rel_of_pairwise_cons distinct inOther).symm
      · rw [ih distinct.tail restKeyed inRest, atKey_of_forall_ne, List.nil_append]
        intro value inValues
        rw [keyed group List.mem_cons_self value inValues]
        exact List.rel_of_pairwise_cons distinct inRest

theorem atKey_flatMap_of_not_mem {groups : List (κ × ν)}
    (keyed : ∀ group ∈ groups, ∀ value ∈ items group.2, key value = group.1) {wanted : κ}
    (absent : ∀ group ∈ groups, group.1 ≠ wanted) :
    atKey key wanted (groups.flatMap fun group => items group.2) = [] := by
  refine atKey_of_forall_ne ?_
  intro value inValues
  obtain ⟨group, inGroups, inItems⟩ := List.mem_flatMap.mp inValues
  rw [keyed group inGroups value inItems]
  exact absent group inGroups

omit [DecidableEq κ] in
theorem sortedBy_flatMap [Std.ReflCmp cmp] {groups : List (κ × ν)}
    (ordered : groups.Pairwise fun left right => (cmp left.1 right.1).isLE = true)
    (keyed : ∀ group ∈ groups, ∀ value ∈ items group.2, key value = group.1) :
    SortedBy cmp key (groups.flatMap fun group => items group.2) := by
  induction groups with
  | nil => exact List.Pairwise.nil
  | cons group rest ih =>
      have restKeyed : ∀ other ∈ rest, ∀ value ∈ items other.2, key value = other.1 :=
        fun other inRest => keyed other (List.mem_cons_of_mem _ inRest)
      rw [List.flatMap_cons, SortedBy, List.pairwise_append]
      refine ⟨?_, ih ordered.tail restKeyed, ?_⟩
      · refine List.pairwise_of_forall_mem_list ?_
        intro left leftMember right rightMember
        rw [keyed group List.mem_cons_self left leftMember,
          keyed group List.mem_cons_self right rightMember]
        simp [Std.ReflCmp.compare_self]
      · intro left leftMember right rightMember
        obtain ⟨other, inOther, inItems⟩ := List.mem_flatMap.mp rightMember
        rw [keyed group List.mem_cons_self left leftMember, restKeyed other inOther right inItems]
        exact List.rel_of_pairwise_cons ordered inOther

end Groups

end KeyedGroups
