import WindowsKext.FilterEngineCore

/-! A reset of the filters either replaces the resettable ones, in WFP and in the callouts, or changes
nothing. -/

namespace WindowsKext

open FilterEngine

def FilterEngine.boxes (engine : FilterEngine) : List Callout := engine.callouts.getD []

def FiltersRecorded (filters : Filters) (callouts : List Callout) : Prop :=
  ∀ box callout, callouts[box]? = some callout → callout.filterId ≠ 0 →
    filters callout.filterId = some box

def FiltersOwned (filters : Filters) (callouts : List Callout) : Prop :=
  ∀ id box, filters id = some box →
    id ≠ 0 ∧ ∃ callout, callouts[box]? = some callout ∧ callout.filterId = id

/-- What a successful reset does to one callout: the id of a resettable one is the id that WFP gave to
its new filter. -/
def ResetCallout (answers : WfpAnswers) (box : Nat) (callout new : Callout) : Prop :=
  match callout.filterType with
  | .nonResettable => new = callout
  | .resettable => ∃ id, answers.addFilter box = .ok id ∧ id ≠ 0 ∧ new = { callout with filterId := id }

section Views

variable {view : Filters} {done rest : List Callout} {callout : Callout} {id : Nat}

theorem getElem?_middle (first second : Callout) {box : Nat} :
    (done ++ second :: rest)[box]? =
      if box = done.length then some second else (done ++ first :: rest)[box]? := by
  rcases Nat.lt_trichotomy box done.length with before | same | behind
  · rw [if_neg (by omega), List.getElem?_append_left before, List.getElem?_append_left before]
  · subst same
    rw [if_pos rfl, List.getElem?_append_right (Nat.le_refl _), Nat.sub_self]
    rfl
  · rw [if_neg (by omega), List.getElem?_append_right (by omega),
      List.getElem?_append_right (by omega)]
    obtain ⟨offset, shifted⟩ : ∃ offset, box - done.length = offset + 1 :=
      ⟨box - done.length - 1, by omega⟩
    rw [shifted]
    rfl

def withoutOld (view : Filters) (callout : Callout) : Filters :=
  if callout.filterId ≠ 0 then view.set callout.filterId none else view

theorem withoutOld_eq_some {box : Nat} (kept : withoutOld view callout id = some box) :
    view id = some box ∧ (id = callout.filterId → callout.filterId = 0) := by
  unfold withoutOld at kept
  split at kept
  · unfold Filters.set at kept
    split at kept
    · cases kept
    · rename_i different
      exact ⟨kept, fun same => absurd same different⟩
  · rename_i zero
    exact ⟨kept, fun _ => Decidable.not_not.mp zero⟩

theorem FiltersRecorded.replace (recorded : FiltersRecorded view (done ++ callout :: rest))
    (fresh : withoutOld view callout id = none) :
    FiltersRecorded ((withoutOld view callout).set id (some done.length))
      (done ++ { callout with filterId := id } :: rest) := by
  intro box other found known
  rw [getElem?_middle callout] at found
  split at found
  · rename_i here
    cases found
    rw [Filters.set, if_pos rfl, here]
  · rename_i elsewhere
    have held := recorded box other found known
    have kept : withoutOld view callout other.filterId = some box := by
      unfold withoutOld
      split
      · rename_i old
        have own := recorded done.length callout (by simp) old
        rw [Filters.set, if_neg]
        · exact held
        · intro same
          rw [same, own] at held
          exact elsewhere (Option.some.inj held).symm
      · exact held
    rw [Filters.set, if_neg]
    · exact kept
    · intro same
      rw [same, fresh] at kept
      cases kept

theorem FiltersOwned.replace (owned : FiltersOwned view (done ++ callout :: rest)) (known : id ≠ 0) :
    FiltersOwned ((withoutOld view callout).set id (some done.length))
      (done ++ { callout with filterId := id } :: rest) := by
  intro other box held
  unfold Filters.set at held
  split at held
  · rename_i same
    cases held
    exact ⟨same ▸ known, { callout with filterId := id }, by simp, same.symm⟩
  · obtain ⟨before, onlyZero⟩ := withoutOld_eq_some held
    obtain ⟨nonzero, owner, found, names⟩ := owned other box before
    refine ⟨nonzero, owner, ?_, names⟩
    rw [getElem?_middle callout, if_neg]
    · exact found
    · rintro rfl
      simp only [List.getElem?_append_right (Nat.le_refl _), Nat.sub_self, List.getElem?_cons_zero,
        Option.some.injEq] at found
      subst found
      exact nonzero (names.symm.trans (onlyZero names.symm))

end Views

section Loop

variable {answers : WfpAnswers} {wfp : WfpState} {view : Filters}

theorem deleteOldFilter_cases (box : Nat) (callout : Callout) (inside : wfp.transaction = some view) :
    (∃ error, deleteOldFilter answers box callout wfp = (.error error, wfp)) ∨
      deleteOldFilter answers box callout wfp =
        (.ok (), { wfp with transaction := some (withoutOld view callout) }) := by
  unfold deleteOldFilter withoutOld
  by_cases old : callout.filterId ≠ 0
  · rw [if_pos old, if_pos old]
    unfold WfpState.filterDelete
    cases answers.deleteFilter box with
    | error error => exact .inl ⟨error, rfl⟩
    | ok =>
        rw [inside]
        by_cases absent : view callout.filterId = none
        · exact .inl ⟨_, if_pos absent⟩
        · exact .inr (if_neg absent)
  · rw [if_neg old, if_neg old, ← inside]
    exact .inr rfl

theorem Callout.registerFilter_cases (answer : Except String Nat) (box : Nat) (callout : Callout)
    (inside : wfp.transaction = some view) :
    (∃ error left, callout.registerFilter answer box wfp =
        (.error error, callout, { wfp with transaction := some left })) ∨
      ∃ id, answer = .ok id ∧ id ≠ 0 ∧ view id = none ∧
        callout.registerFilter answer box wfp = (.ok (), { callout with filterId := id },
          { wfp with transaction := some (view.set id (some box)) }) := by
  have unchanged : wfp = { wfp with transaction := some view } := by rw [← inside]
  unfold Callout.registerFilter WindowsKext.registerFilter WfpState.filterAdd
  cases answer with
  | error error => exact .inl ⟨_, view, by rw [← inside]⟩
  | ok id =>
      rw [inside]
      dsimp only
      by_cases taken : view id ≠ none
      · rw [if_pos taken]
        exact .inl ⟨_, view, by rw [← inside]⟩
      · rw [if_neg taken]
        cases id with
        | zero => exact .inl ⟨_, _, rfl⟩
        | succ id => exact .inr ⟨id + 1, rfl, Nat.succ_ne_zero id, Decidable.not_not.mp taken, rfl⟩

theorem replaceFilter_cases (box : Nat) (callout : Callout) (inside : wfp.transaction = some view) :
    (∃ error left, replaceFilter answers box callout wfp =
        (.error error, callout, { wfp with transaction := some left })) ∨
      ∃ id, answers.addFilter box = .ok id ∧ id ≠ 0 ∧ withoutOld view callout id = none ∧
        replaceFilter answers box callout wfp = (.ok (), { callout with filterId := id },
          { wfp with transaction := some ((withoutOld view callout).set id (some box)) }) := by
  unfold replaceFilter
  rcases @deleteOldFilter_cases answers wfp view box callout inside with ⟨error, result⟩ | result
  · rw [result]
    exact .inl ⟨_, view, by rw [← inside]⟩
  · rw [result]
    dsimp only
    rcases @Callout.registerFilter_cases
        { wfp with transaction := some (withoutOld view callout) } _ (answers.addFilter box) box
        callout rfl with
      ⟨error, left, added⟩ | ⟨id, answer, known, fresh, added⟩
    · rw [added]
      exact .inl ⟨_, left, rfl⟩
    · rw [added]
      exact .inr ⟨id, answer, known, fresh, rfl⟩

theorem resetFilter_cases (box : Nat) (callout : Callout) (inside : wfp.transaction = some view) :
    (∃ error left, resetFilter answers box callout wfp =
        (.error error, callout, { wfp with transaction := some left })) ∨
      (callout.filterType = .nonResettable ∧
        resetFilter answers box callout wfp = (.ok (), callout, wfp)) ∨
      ∃ id, callout.filterType = .resettable ∧ answers.addFilter box = .ok id ∧ id ≠ 0 ∧
        withoutOld view callout id = none ∧
        resetFilter answers box callout wfp = (.ok (), { callout with filterId := id },
          { wfp with transaction := some ((withoutOld view callout).set id (some box)) }) := by
  by_cases kind : callout.filterType = .nonResettable
  · have kept : resetFilter answers box callout wfp = (.ok (), callout, wfp) := by
      rw [resetFilter, kind]
    exact .inr (.inl ⟨kind, kept⟩)
  · have resettable : callout.filterType = .resettable := by
      cases other : callout.filterType with
      | resettable => rfl
      | nonResettable => exact absurd other kind
    have replaces : resetFilter answers box callout wfp = replaceFilter answers box callout wfp := by
      rw [resetFilter, resettable]
    rw [replaces]
    rcases @replaceFilter_cases answers wfp view box callout inside with
      failed | ⟨id, answer, known, fresh, result⟩
    · exact .inl failed
    · exact .inr (.inr ⟨id, resettable, answer, known, fresh, result⟩)

/-- The restored ids are those from before the loop, wherever it stopped. -/
theorem zipWith_restoreFilterId (box : Nat) (callouts : List Callout)
    (inside : wfp.transaction = some view) :
    List.zipWith restoreFilterId (resetFilters answers box callouts wfp).2.1
      (callouts.map Callout.filterId) = callouts := by
  have same : ∀ others : List Callout,
      List.zipWith restoreFilterId others (others.map Callout.filterId) = others := by
    intro others
    induction others with
    | nil => rfl
    | cons other others ih => exact congrArg (other :: ·) ih
  induction callouts generalizing box wfp view with
  | nil => rfl
  | cons callout rest ih =>
      rw [resetFilters]
      rcases @resetFilter_cases answers wfp view box callout inside with
        ⟨error, left, result⟩ | ⟨_, result⟩ | ⟨id, _, _, _, _, result⟩
      · rw [result]
        exact same (callout :: rest)
      · rw [result]
        exact congrArg (callout :: ·) (ih (box + 1) inside)
      · rw [result]
        exact congrArg (callout :: ·) (ih (box + 1) rfl)

theorem resetFilters_transaction (box : Nat) (callouts : List Callout)
    (inside : wfp.transaction = some view) :
    ∃ left, (resetFilters answers box callouts wfp).2.2 = { wfp with transaction := some left } := by
  induction callouts generalizing box wfp view with
  | nil => exact ⟨view, by rw [← inside]; rfl⟩
  | cons callout rest ih =>
      rw [resetFilters]
      rcases @resetFilter_cases answers wfp view box callout inside with
        ⟨error, left, result⟩ | ⟨_, result⟩ | ⟨id, _, _, _, _, result⟩
      · rw [result]
        exact ⟨left, rfl⟩
      · rw [result]
        exact ih (box + 1) inside
      · rw [result]
        exact ih (box + 1) rfl

structure LoopDone (answers : WfpAnswers) (box : Nat) (view left : Filters)
    (callouts new : List Callout) : Prop where
  length : new.length = callouts.length
  reset : ∀ index callout, callouts[index]? = some callout →
    ∃ moved, new[index]? = some moved ∧ ResetCallout answers (box + index) callout moved
  recorded : ∀ done : List Callout, done.length = box → FiltersRecorded view (done ++ callouts) →
    FiltersRecorded left (done ++ new)
  owned : ∀ done : List Callout, done.length = box → FiltersOwned view (done ++ callouts) →
    FiltersOwned left (done ++ new)

theorem LoopDone.cons {box : Nat} {middle left : Filters} {callout moved : Callout}
    {rest new : List Callout} (reset : ResetCallout answers box callout moved)
    (recorded : ∀ done : List Callout, done.length = box →
      FiltersRecorded view (done ++ callout :: rest) → FiltersRecorded middle (done ++ moved :: rest))
    (owned : ∀ done : List Callout, done.length = box →
      FiltersOwned view (done ++ callout :: rest) → FiltersOwned middle (done ++ moved :: rest))
    (later : LoopDone answers (box + 1) middle left rest new) :
    LoopDone answers box view left (callout :: rest) (moved :: new) := by
  refine ⟨congrArg (· + 1) later.length, ?_, ?_, ?_⟩
  · intro index other found
    cases index with
    | zero =>
        cases found
        exact ⟨moved, rfl, reset⟩
    | succ index =>
        obtain ⟨after, there, does⟩ := later.reset index other found
        exact ⟨after, there, by rwa [Nat.add_assoc, Nat.add_comm 1] at does⟩
  · intro done length before
    rw [List.append_cons]
    refine later.recorded (done ++ [moved]) (by simp [length]) ?_
    rw [← List.append_cons]
    exact recorded done length before
  · intro done length before
    rw [List.append_cons]
    refine later.owned (done ++ [moved]) (by simp [length]) ?_
    rw [← List.append_cons]
    exact owned done length before

theorem resetFilters_ok {box : Nat} {callouts : List Callout} (inside : wfp.transaction = some view)
    (ok : (resetFilters answers box callouts wfp).1 = .ok ()) :
    ∃ left, (resetFilters answers box callouts wfp).2.2 = { wfp with transaction := some left } ∧
      LoopDone answers box view left callouts (resetFilters answers box callouts wfp).2.1 := by
  induction callouts generalizing box wfp view with
  | nil =>
      refine ⟨view, by rw [← inside]; rfl, rfl, ?_, fun _ _ => id, fun _ _ => id⟩
      intro index callout found
      cases found
  | cons callout rest ih =>
      rw [resetFilters] at ok ⊢
      rcases @resetFilter_cases answers wfp view box callout inside with
        ⟨error, left, result⟩ | ⟨kind, result⟩ | ⟨id, kind, answer, known, fresh, result⟩
      · rw [result] at ok
        cases ok
      · rw [result] at ok ⊢
        obtain ⟨left, after, done⟩ := ih inside ok
        have reset : ResetCallout answers box callout callout := by
          rw [ResetCallout, kind]
        exact ⟨left, after, done.cons reset (fun _ _ => id) (fun _ _ => id)⟩
      · rw [result] at ok ⊢
        obtain ⟨left, after, done⟩ := ih rfl ok
        have reset : ResetCallout answers box callout { callout with filterId := id } := by
          rw [ResetCallout, kind]
          exact ⟨id, answer, known, rfl⟩
        refine ⟨left, after, done.cons reset ?_ ?_⟩
        · rintro earlier rfl before
          exact before.replace fresh
        · rintro earlier rfl before
          exact before.replace known

end Loop

section Reset

variable {answers : WfpAnswers} {engine : FilterEngine} {wfp : WfpState}

theorem beginTransaction_cases :
    (∃ error, beginTransaction answers wfp = (.error error, wfp)) ∨
      (wfp.transaction = none ∧
        beginTransaction answers wfp = (.ok (), { wfp with transaction := some wfp.filters })) := by
  unfold beginTransaction WfpState.transactionBegin
  cases wfp.sessionOpen with
  | false => exact .inl ⟨_, rfl⟩
  | true =>
      cases busy : wfp.transaction with
      | some view => exact .inl ⟨_, rfl⟩
      | none =>
          cases answers.begin with
          | error error => exact .inl ⟨_, rfl⟩
          | ok => exact .inr ⟨rfl, rfl⟩

theorem commitTransaction_cases {view : Filters} (inside : wfp.transaction = some view) :
    (∃ error, commitTransaction answers wfp = (.error error, wfp)) ∨
      commitTransaction answers wfp = (.ok (), { wfp with filters := view, transaction := none }) := by
  unfold commitTransaction WfpState.transactionCommit
  rw [inside]
  cases answers.commit with
  | error error => exact .inl ⟨_, rfl⟩
  | ok => exact .inr rfl

theorem resetInTransaction_cases {view : Filters} (callouts : List Callout)
    (inside : wfp.transaction = some view) :
    (∃ error left new, resetInTransaction answers callouts wfp =
        (.error error, new, { wfp with transaction := some left }) ∧
      List.zipWith restoreFilterId new (callouts.map Callout.filterId) = callouts) ∨
      ∃ new left, LoopDone answers 0 view left callouts new ∧
        resetInTransaction answers callouts wfp =
          (.ok (), new, { wfp with filters := left, transaction := none }) := by
  have restores := @zipWith_restoreFilterId answers wfp view 0 callouts inside
  have frame := @resetFilters_transaction answers wfp view 0 callouts inside
  have ok := @resetFilters_ok answers wfp view 0 callouts inside
  unfold resetInTransaction
  generalize resetFilters answers 0 callouts wfp = looped at restores frame ok
  obtain ⟨result, new, after⟩ := looped
  cases result with
  | error error =>
      obtain ⟨left, same⟩ := frame
      exact .inl ⟨error, left, new, congrArg (fun wfp => (Except.error error, new, wfp)) same, restores⟩
  | ok =>
      obtain ⟨left, same, done⟩ := ok rfl
      obtain rfl : after = { wfp with transaction := some left } := same
      dsimp only
      rcases @commitTransaction_cases answers { wfp with transaction := some left } left rfl with
        ⟨error, result⟩ | result
      · rw [result]
        exact .inl ⟨error, left, new, rfl, restores⟩
      · rw [result]
        exact .inr ⟨new, left, done, rfl⟩

theorem map_boxes (engine : FilterEngine) :
    { engine with callouts := engine.callouts.map fun _ => engine.boxes } = engine := by
  obtain ⟨handleValid, committed, callouts⟩ := engine
  cases callouts <;> rfl

theorem resetAllFilters_cases :
    (∃ error, resetAllFilters answers engine wfp = (.error error, engine, wfp)) ∨
      ∃ new left, LoopDone answers 0 wfp.filters left engine.boxes new ∧
        resetAllFilters answers engine wfp =
          (.ok (), { engine with callouts := engine.callouts.map fun _ => new },
            { wfp with filters := left }) := by
  unfold resetAllFilters
  rcases @beginTransaction_cases answers wfp with ⟨error, result⟩ | ⟨idle, result⟩
  · rw [result]
    exact .inl ⟨error, rfl⟩
  · have outside : wfp = { wfp with transaction := none } := by rw [← idle]
    rw [result]
    dsimp only
    rcases @resetInTransaction_cases answers { wfp with transaction := some wfp.filters } wfp.filters
        engine.boxes rfl with ⟨error, left, new, inside, restores⟩ | ⟨new, left, done, inside⟩
    · refine .inl ⟨error, ?_⟩
      rw [← boxes, inside]
      dsimp only
      rw [restores, map_boxes, WfpState.transactionAbort]
      dsimp only
      rw [← outside]
    · refine .inr ⟨new, left, done, ?_⟩
      rw [← boxes, inside]
      dsimp only
      rw [← idle]

end Reset

structure ResetAtomic (answers : WfpAnswers) (engine : FilterEngine) (wfp : WfpState)
    (after : Except String Unit × FilterEngine × WfpState) : Prop where
  ok : after.1 = .ok () → after.2.1.boxes.length = engine.boxes.length ∧
    ∀ box callout, engine.boxes[box]? = some callout →
      ∃ new, after.2.1.boxes[box]? = some new ∧ ResetCallout answers box callout new
  error : ∀ error, after.1 = .error error → after.2.1 = engine
  recorded : FiltersRecorded wfp.filters engine.boxes →
    FiltersRecorded after.2.2.filters after.2.1.boxes

def runResets (answers : List WfpAnswers) (engine : FilterEngine) (wfp : WfpState) :
    FilterEngine × WfpState :=
  answers.foldl (fun state answers => (resetAllFilters answers state.1 state.2).2) (engine, wfp)

theorem boxes_map {engine : FilterEngine} {new : List Callout}
    (length : new.length = engine.boxes.length) :
    FilterEngine.boxes { engine with callouts := engine.callouts.map fun _ => new } = new := by
  obtain ⟨handleValid, committed, callouts⟩ := engine
  cases callouts with
  | none => exact (List.eq_nil_of_length_eq_zero length).symm
  | some callouts => rfl

theorem resetAllFilters_atomic (answers : WfpAnswers) (engine : FilterEngine) (wfp : WfpState) :
    ResetAtomic answers engine wfp (resetAllFilters answers engine wfp) := by
  rcases @resetAllFilters_cases answers engine wfp with ⟨error, result⟩ | ⟨new, left, done, result⟩
  · rw [result]
    refine ⟨?_, fun _ _ => rfl, id⟩
    intro ok
    cases ok
  · rw [result]
    refine ⟨?_, ?_, ?_⟩
    · intro _
      rw [boxes_map done.length]
      refine ⟨done.length, ?_⟩
      intro box callout found
      obtain ⟨moved, there, reset⟩ := done.reset box callout found
      exact ⟨moved, there, Nat.zero_add box ▸ reset⟩
    · intro error failed
      cases failed
    · intro before
      rw [boxes_map done.length]
      exact done.recorded [] rfl before

theorem resetAllFilters_owned {answers : WfpAnswers} {engine : FilterEngine} {wfp : WfpState}
    (owned : FiltersOwned wfp.filters engine.boxes) :
    FiltersOwned (resetAllFilters answers engine wfp).2.2.filters
      (resetAllFilters answers engine wfp).2.1.boxes := by
  rcases @resetAllFilters_cases answers engine wfp with ⟨error, result⟩ | ⟨new, left, done, result⟩
  · rw [result]
    exact owned
  · rw [result, boxes_map done.length]
    exact done.owned [] rfl owned

theorem runResets_owned {resets : List WfpAnswers} {engine : FilterEngine} {wfp : WfpState}
    (owned : FiltersOwned wfp.filters engine.boxes) :
    FiltersOwned (runResets resets engine wfp).2.filters (runResets resets engine wfp).1.boxes := by
  induction resets generalizing engine wfp with
  | nil => exact owned
  | cons answers rest ih => exact ih (resetAllFilters_owned owned)

section Commit

variable {answers : WfpAnswers} {wfp : WfpState} {view : Filters} {callouts : List Callout}

theorem FiltersRecorded.append_new (recorded : FiltersRecorded view callouts) {callout : Callout}
    (unfiltered : callout.filterId = 0) : FiltersRecorded view (callouts ++ [callout]) := by
  intro box other found known
  rw [List.getElem?_append] at found
  split at found
  · exact recorded box other found known
  · rw [List.mem_singleton.mp (List.mem_of_getElem? found)] at known
    exact absurd unfiltered known

theorem FiltersOwned.append_new (owned : FiltersOwned view callouts) (callout : Callout) :
    FiltersOwned view (callouts ++ [callout]) := by
  intro id box held
  obtain ⟨known, owner, found, names⟩ := owned id box held
  refine ⟨known, owner, ?_, names⟩
  rw [List.getElem?_append_left (List.getElem?_eq_some_iff.mp found).1]
  exact found

theorem Callout.registerRuntimeCallout_cases (callout : Callout) (answer : Except String Nat)
    (box : Nat) :
    (∃ error, callout.registerRuntimeCallout answer box wfp = (.error error, callout, wfp)) ∨
      ∃ id, (wfp.runtime.any fun registration =>
          registration.key == callout.guid || (id != 0 && registration.id == id)) = false ∧
        callout.registerRuntimeCallout answer box wfp =
          (.ok (), { callout with registered := true, id := id },
            { wfp with
              runtime := wfp.runtime ++ [{ box := box, id := id, key := callout.guid }] }) := by
  unfold Callout.registerRuntimeCallout WfpState.calloutRegister
  cases answer with
  | error error => exact .inl ⟨_, rfl⟩
  | ok id =>
      dsimp only
      by_cases taken : (wfp.runtime.any fun registration =>
          registration.key == callout.guid || (id != 0 && registration.id == id)) = true
      · rw [if_pos taken]
        exact .inl ⟨_, rfl⟩
      · rw [if_neg taken]
        exact .inr ⟨id, Bool.eq_false_iff.mpr taken, rfl⟩

theorem registerCallouts_filters {specs : List CalloutSpec} (inside : wfp.transaction = some view)
    (recorded : FiltersRecorded view callouts) (owned : FiltersOwned view callouts)
    (ok : (registerCallouts answers specs callouts wfp).1 = .ok ()) :
    ∃ left, (registerCallouts answers specs callouts wfp).2.2.transaction = some left ∧
      FiltersRecorded left (registerCallouts answers specs callouts wfp).2.1 ∧
      FiltersOwned left (registerCallouts answers specs callouts wfp).2.1 := by
  induction specs generalizing callouts wfp view with
  | nil => exact ⟨view, inside, recorded, owned⟩
  | cons spec rest ih =>
      rw [registerCallouts] at ok ⊢
      rcases @Callout.registerRuntimeCallout_cases wfp spec.callout
          (answers.registerCallout callouts.length) callouts.length with
        ⟨error, result⟩ | ⟨id, _, result⟩
      · rw [result] at ok
        cases ok
      · rw [result] at ok ⊢
        dsimp only at ok ⊢
        cases management : answers.addCallout callouts.length with
        | error error =>
            rw [management] at ok
            cases ok
        | ok =>
            rw [management] at ok
            dsimp only at ok ⊢
            rcases @Callout.registerFilter_cases
                { wfp with runtime := wfp.runtime ++
                    [{ box := callouts.length, id := id, key := spec.callout.guid }] } view
                (answers.addFilter callouts.length) callouts.length
                { spec.callout with registered := true, id := id } inside with
              ⟨error, left, added⟩ | ⟨filterId, answer, known, fresh, added⟩
            · rw [added] at ok
              cases ok
            · rw [added] at ok ⊢
              dsimp only at ok ⊢
              -- A new callout has no old filter to delete.
              have recordedNew := (@FiltersRecorded.append_new view callouts recorded
                { spec.callout with registered := true, id := id } rfl).replace fresh
              have ownedNew := (owned.append_new
                { spec.callout with registered := true, id := id }).replace known
              exact ih rfl recordedNew ownedNew ok

theorem commitInner_filters {specs : List CalloutSpec}
    (ok : (commitInner answers specs WfpState.new).1 = .ok ()) :
    FiltersRecorded (commitInner answers specs WfpState.new).2.2.filters
        (commitInner answers specs WfpState.new).2.1 ∧
      FiltersOwned (commitInner answers specs WfpState.new).2.2.filters
        (commitInner answers specs WfpState.new).2.1 := by
  unfold commitInner at ok ⊢
  rcases @beginTransaction_cases answers WfpState.new with ⟨error, result⟩ | ⟨-, result⟩
  · rw [result] at ok
    cases ok
  · rw [result] at ok ⊢
    dsimp only at ok ⊢
    unfold commitInTransaction at ok ⊢
    cases sublayer : answers.sublayer with
    | error error =>
        rw [sublayer] at ok
        cases ok
    | ok =>
        rw [sublayer] at ok
        dsimp only at ok ⊢
        have filters := @registerCallouts_filters answers
          { WfpState.new with transaction := some WfpState.new.filters } WfpState.new.filters [] specs
          rfl (fun _ _ found => by cases found) (fun _ _ held => by cases held)
        generalize registerCallouts answers specs []
          { WfpState.new with transaction := some WfpState.new.filters } = looped at ok filters ⊢
        obtain ⟨result, callouts, middle⟩ := looped
        cases result with
        | error error => cases ok
        | ok =>
            obtain ⟨left, inside, recorded, owned⟩ := filters rfl
            dsimp only at ok ⊢
            rcases @commitTransaction_cases answers middle left inside with ⟨error, last⟩ | last
            · rw [last] at ok
              cases ok
            · rw [last]
              exact ⟨recorded, owned⟩

end Commit

/-- For every list of callouts and every pattern of failures, a reset is atomic in the callouts and in
WFP. No sequence of resets leaves a filter that no callout records, and `commit` starts without one. -/
theorem filterReset_atomic :
    (∀ answers engine wfp, ResetAtomic answers engine wfp (resetAllFilters answers engine wfp)) ∧
    (∀ resets engine wfp, FiltersOwned wfp.filters engine.boxes →
      FiltersOwned (runResets resets engine wfp).2.filters (runResets resets engine wfp).1.boxes) ∧
    ∀ answers specs, (commitInner answers specs WfpState.new).1 = .ok () →
      FiltersRecorded (commitInner answers specs WfpState.new).2.2.filters
          (commitInner answers specs WfpState.new).2.1 ∧
        FiltersOwned (commitInner answers specs WfpState.new).2.2.filters
          (commitInner answers specs WfpState.new).2.1 :=
  ⟨resetAllFilters_atomic, fun _ _ _ => runResets_owned, fun _ _ => commitInner_filters⟩

/-- Every call succeeds. The filters get consecutive ids. -/
def grantedFrom (firstId : Nat) : WfpAnswers where
  begin := .ok ()
  commit := .ok ()
  sublayer := .ok ()
  registerCallout := fun box => .ok (box + 1)
  addCallout := fun _ => .ok ()
  addFilter := fun box => .ok (firstId + box)
  deleteFilter := fun _ => .ok ()
  close := .ok ()
  unregisterCallout := fun _ => .removed

def aleAndStream : List CalloutSpec :=
  [{ name := "ale", guid := 1, filterType := .resettable },
    { name := "stream", guid := 2, filterType := .nonResettable }]

def committedEngine : FilterEngine where
  handleValid := true
  committed := true
  callouts := some (commitInner (grantedFrom 1) aleAndStream .new).2.1

theorem filterReset_atomic_secondReset :
    (commitInner (grantedFrom 1) aleAndStream .new).1 = .ok () ∧
      (runResets [grantedFrom 11, grantedFrom 21] committedEngine
        (commitInner (grantedFrom 1) aleAndStream .new).2.2).1.boxes.map Callout.filterId = [21, 2] ∧
      FiltersOwned
        (runResets [grantedFrom 11, grantedFrom 21] committedEngine
          (commitInner (grantedFrom 1) aleAndStream .new).2.2).2.filters
        (runResets [grantedFrom 11, grantedFrom 21] committedEngine
          (commitInner (grantedFrom 1) aleAndStream .new).2.2).1.boxes := by
  obtain ⟨-, runs, commits⟩ := filterReset_atomic
  exact ⟨rfl, by decide, runs _ committedEngine _ (commits (grantedFrom 1) aleAndStream rfl).2⟩

end WindowsKext
