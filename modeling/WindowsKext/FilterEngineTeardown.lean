import WindowsKext.FilterEngineResets

/-! The runtime callouts under every sequence of calls and failures. The flags of the callouts are an
exact record of what WFP has registered, so no call names something that is already gone. -/

namespace WindowsKext

open FilterEngine

def Callout.runtimeView (callout : Callout) : Bool × Nat × Nat :=
  (callout.registered, callout.id, callout.guid)

/-- The registrations are those that the callouts record, and an id or a key names one of them. -/
structure RuntimeExact (runtime : List RuntimeRegistration) (callouts : List Callout) : Prop where
  recorded : ∀ registration, registration ∈ runtime ↔
    (callouts.map Callout.runtimeView)[registration.box]? =
      some (true, registration.id, registration.key)
  keys : ∀ first ∈ runtime, ∀ second ∈ runtime, first.key = second.key → first = second
  ids : ∀ first ∈ runtime, ∀ second ∈ runtime, first.id = second.id → first.id ≠ 0 → first = second

/-- The session is closed once, a registration that still exists is removed after that, and a Box is
freed when WFP has no registration of it. -/
def WfpCall.Legitimate : WfpCall → Prop
  | .close sessionOpen _ => sessionOpen = true
  | .unregister sessionOpen target _ => sessionOpen = false ∧ target ≠ none
  | .free _ held => held = false

def WfpCall.closes : WfpCall → Bool
  | .close _ closed => closed
  | _ => false

def WfpCall.removedBox : WfpCall → Option Nat
  | .unregister _ (some target) true => some target.box
  | _ => none

structure CallsSound (wfp : WfpState) : Prop where
  legitimate : ∀ call ∈ wfp.calls, call.Legitimate
  closed : wfp.calls.countP WfpCall.closes = (!wfp.sessionOpen).toNat
  removedOnce : (wfp.calls.filterMap WfpCall.removedBox).Nodup
  removed : ∀ registration ∈ wfp.runtime,
    registration.box ∉ wfp.calls.filterMap WfpCall.removedBox
  inSession : wfp.sessionOpen = true → wfp.calls.filterMap WfpCall.removedBox = []

section Runtime

variable {runtime : List RuntimeRegistration} {callouts done rest : List Callout} {callout : Callout}
  {id key : Nat} {wfp : WfpState}

theorem RuntimeExact.same (exact : RuntimeExact runtime callouts) {others : List Callout}
    (view : others.map Callout.runtimeView = callouts.map Callout.runtimeView) :
    RuntimeExact runtime others :=
  ⟨fun registration => view ▸ exact.recorded registration, exact.keys, exact.ids⟩

theorem RuntimeExact.nil : RuntimeExact [] [] := by
  refine ⟨?_, ?_, ?_⟩
  · intro registration
    constructor
    · intro member
      cases member
    · intro view
      cases view
  · intro first member
    cases member
  · intro first member
    cases member

theorem RuntimeExact.setFilterId (exact : RuntimeExact runtime (callouts ++ [callout]))
    (filterId : Nat) : RuntimeExact runtime (callouts ++ [{ callout with filterId := filterId }]) := by
  refine exact.same ?_
  rw [List.map_append, List.map_append]
  rfl

theorem RuntimeExact.box_unique (exact : RuntimeExact runtime callouts)
    {first second : RuntimeRegistration} (left : first ∈ runtime) (right : second ∈ runtime)
    (same : first.box = second.box) : first = second := by
  have firstView := (exact.recorded first).mp left
  have secondView := (exact.recorded second).mp right
  rw [same, secondView] at firstView
  obtain ⟨box, id, key⟩ := first
  obtain ⟨otherBox, otherId, otherKey⟩ := second
  simp only [Option.some.injEq, Prod.mk.injEq, true_and] at firstView
  cases same
  rw [firstView.1, firstView.2]

theorem map_middle (first : Callout) {box : Nat} :
    ((done ++ callout :: rest).map Callout.runtimeView)[box]? =
      if box = done.length then some callout.runtimeView
      else ((done ++ first :: rest).map Callout.runtimeView)[box]? := by
  rw [List.getElem?_map, getElem?_middle first callout, List.getElem?_map]
  split <;> rfl

theorem RuntimeExact.own (exact : RuntimeExact runtime (done ++ callout :: rest))
    (registered : callout.registered = true) :
    { box := done.length, id := callout.id, key := callout.guid } ∈ runtime := by
  rw [exact.recorded, map_middle callout, if_pos rfl, Callout.runtimeView, registered]

theorem RuntimeExact.named (exact : RuntimeExact wfp.runtime (done ++ callout :: rest))
    (registered : callout.registered = true) :
    wfp.named callout.id callout.guid =
      some { box := done.length, id := callout.id, key := callout.guid } := by
  have own := exact.own registered
  unfold WfpState.named
  cases found : wfp.runtime.find? fun registration =>
      if callout.id != 0 then registration.id == callout.id else registration.key == callout.guid with
  | none =>
      have missed := List.find?_eq_none.mp found _ own
      simp at missed
  | some target =>
      have member := List.mem_of_find?_eq_some found
      have matching := List.find?_some found
      refine congrArg some ?_
      by_cases known : callout.id = 0
      · simp only [known, bne_self_eq_false, Bool.false_eq_true, ↓reduceIte, beq_iff_eq] at matching
        exact exact.keys target member _ own matching
      · simp only [bne_iff_ne, ne_eq, known, not_false_eq_true, ↓reduceIte, beq_iff_eq] at matching
        exact exact.ids target member _ own matching (matching ▸ known)

theorem RuntimeExact.remove (exact : RuntimeExact runtime (done ++ callout :: rest))
    (registered : callout.registered = true) :
    RuntimeExact
      (runtime.filter fun other =>
        other != { box := done.length, id := callout.id, key := callout.guid })
      (done ++ { callout with registered := false, id := 0 } :: rest) := by
  have own := exact.own registered
  refine ⟨?_, ?_, ?_⟩
  · intro registration
    rw [List.mem_filter, bne_iff_ne, map_middle callout]
    by_cases here : registration.box = done.length
    · rw [if_pos here]
      constructor
      · rintro ⟨member, different⟩
        exact absurd (exact.box_unique member own here) different
      · intro view
        cases view
    · rw [if_neg here, exact.recorded registration]
      constructor
      · exact fun both => both.1
      · intro view
        refine ⟨view, ?_⟩
        rintro rfl
        exact here rfl
  · intro first left second right
    exact exact.keys first (List.mem_filter.mp left).1 second (List.mem_filter.mp right).1
  · intro first left second right
    exact exact.ids first (List.mem_filter.mp left).1 second (List.mem_filter.mp right).1

theorem RuntimeExact.append_new (exact : RuntimeExact runtime callouts)
    (unregistered : callout.registered = false) : RuntimeExact runtime (callouts ++ [callout]) := by
  refine ⟨?_, exact.keys, exact.ids⟩
  intro registration
  rw [exact.recorded registration, List.map_append, List.getElem?_append]
  split
  · rfl
  · rename_i behind
    rw [List.getElem?_eq_none (by omega)]
    constructor
    · intro view
      cases view
    · intro view
      have last := List.mem_singleton.mp (List.mem_of_getElem? view)
      rw [Callout.runtimeView, unregistered] at last
      cases last

theorem forall_append_pair {new : RuntimeRegistration}
    {relation : RuntimeRegistration → RuntimeRegistration → Prop}
    (old : ∀ first ∈ runtime, ∀ second ∈ runtime, relation first second)
    (left : ∀ first ∈ runtime, relation first new) (right : ∀ second ∈ runtime, relation new second)
    (self : relation new new) :
    ∀ first ∈ runtime ++ [new], ∀ second ∈ runtime ++ [new], relation first second := by
  intro first inFirst second inSecond
  rcases List.mem_append.mp inFirst with there | last
  · rcases List.mem_append.mp inSecond with there' | last'
    · exact old first there second there'
    · rw [List.mem_singleton.mp last']
      exact left first there
  · rw [List.mem_singleton.mp last]
    rcases List.mem_append.mp inSecond with there' | last'
    · exact right second there'
    · rw [List.mem_singleton.mp last']
      exact self

theorem RuntimeExact.register (exact : RuntimeExact runtime callouts)
    (fresh : (runtime.any fun registration =>
      registration.key == callout.guid || (id != 0 && registration.id == id)) = false) :
    RuntimeExact (runtime ++ [{ box := callouts.length, id := id, key := callout.guid }])
      (callouts ++ [{ callout with registered := true, id := id }]) := by
  rw [List.any_eq_false] at fresh
  have differs : ∀ registration ∈ runtime, registration.key ≠ callout.guid ∧
      (registration.id = id → id = 0) := by
    intro registration member
    have none := fresh registration member
    simp only [Bool.or_eq_true, Bool.and_eq_true, beq_iff_eq, bne_iff_ne, not_or, not_and] at none
    exact ⟨none.1, fun same => Decidable.byContradiction fun known => none.2 known same⟩
  refine ⟨?_, ?_, ?_⟩
  · intro registration
    rw [List.mem_append, List.mem_singleton, exact.recorded registration, List.map_append,
      List.getElem?_append, List.length_map]
    by_cases before : registration.box < callouts.length
    · rw [if_pos before]
      constructor
      · rintro (view | rfl)
        · exact view
        · exact absurd before (Nat.lt_irrefl _)
      · exact .inl
    · rw [if_neg before, List.getElem?_eq_none (by simpa using before)]
      constructor
      · rintro (view | rfl)
        · cases view
        · rw [Nat.sub_self]
          rfl
      · intro view
        obtain ⟨box, other, key⟩ := registration
        obtain ⟨bound, last⟩ := List.getElem?_eq_some_iff.mp view
        simp only [List.map_cons, List.map_nil, List.length_cons, List.length_nil] at bound
        obtain rfl : box = callouts.length := by
          simp only at before bound
          omega
        simp only [List.map_cons, List.map_nil, Nat.sub_self, List.getElem_cons_zero,
          Callout.runtimeView, Prod.mk.injEq, true_and] at last
        rw [last.1, last.2]
        exact .inr rfl
  · refine forall_append_pair exact.keys ?_ ?_ fun _ => rfl
    · intro registration member same
      exact absurd same (differs registration member).1
    · intro registration member same
      exact absurd same.symm (differs registration member).1
  · refine forall_append_pair exact.ids ?_ ?_ fun _ _ => rfl
    · intro registration member same known
      exact absurd (same.trans ((differs registration member).2 same)) known
    · intro registration member same known
      exact absurd ((differs registration member).2 same.symm) known

end Runtime

section Calls

variable {wfp next : WfpState}

theorem CallsSound.congr (calls : CallsSound wfp) (same : next.calls = wfp.calls)
    (session : next.sessionOpen = wfp.sessionOpen)
    (removed : ∀ registration ∈ next.runtime,
      registration.box ∉ wfp.calls.filterMap WfpCall.removedBox) : CallsSound next := by
  refine ⟨?_, ?_, ?_, ?_, ?_⟩
  · rw [same]
    exact calls.legitimate
  · rw [same, session]
    exact calls.closed
  · rw [same]
    exact calls.removedOnce
  · rw [same]
    exact removed
  · rw [same, session]
    exact calls.inSession

theorem CallsSound.append (calls : CallsSound wfp) {new : List WfpCall}
    (quiet : ∀ call ∈ new, call.Legitimate ∧ call.closes = false ∧ call.removedBox = none) :
    CallsSound { wfp with calls := wfp.calls ++ new } := by
  have removed : (wfp.calls ++ new).filterMap WfpCall.removedBox =
      wfp.calls.filterMap WfpCall.removedBox := by
    have none := List.filterMap_eq_nil_iff.mpr fun call member => (quiet call member).2.2
    rw [List.filterMap_append, none, List.append_nil]
  have closed : new.countP WfpCall.closes = 0 := by
    rw [List.countP_eq_zero]
    intro call member
    rw [(quiet call member).2.1]
    exact Bool.false_ne_true
  refine ⟨?_, ?_, ?_, ?_, ?_⟩
  · intro call member
    rcases List.mem_append.mp member with earlier | last
    · exact calls.legitimate call earlier
    · exact (quiet call last).1
  · rw [List.countP_append, closed]
    exact calls.closed
  · rw [removed]
    exact calls.removedOnce
  · rw [removed]
    exact calls.removed
  · rw [removed]
    exact calls.inSession

theorem CallsSound.record (calls : CallsSound wfp) {call : WfpCall} (legitimate : call.Legitimate)
    (closes : call.closes = false) (removedBox : call.removedBox = none) :
    CallsSound (wfp.record call) := by
  refine calls.append ?_
  intro other member
  rw [List.mem_singleton.mp member]
  exact ⟨legitimate, closes, removedBox⟩

theorem CallsSound.refuse (calls : CallsSound wfp) (closed : wfp.sessionOpen = false)
    (target : RuntimeRegistration) :
    CallsSound (wfp.record (.unregister wfp.sessionOpen (some target) false)) :=
  calls.record ⟨closed, fun none => by cases none⟩ rfl rfl

theorem CallsSound.close (calls : CallsSound wfp) (isOpen : wfp.sessionOpen = true) (filters : Filters)
    (transaction : Option Filters) :
    CallsSound { wfp.record (.close wfp.sessionOpen true) with
      sessionOpen := false
      filters := filters
      transaction := transaction } := by
  have removed : (wfp.calls ++ [WfpCall.close wfp.sessionOpen true]).filterMap WfpCall.removedBox =
      wfp.calls.filterMap WfpCall.removedBox := by
    rw [List.filterMap_append]
    exact List.append_nil _
  refine ⟨?_, ?_, ?_, ?_, ?_⟩
  · intro call member
    rcases List.mem_append.mp member with earlier | last
    · exact calls.legitimate call earlier
    · rw [List.mem_singleton.mp last]
      exact isOpen
  · rw [WfpState.record, List.countP_append, calls.closed, isOpen]
    rfl
  · rw [WfpState.record, removed]
    exact calls.removedOnce
  · rw [WfpState.record, removed]
    exact calls.removed
  · intro stillOpen
    cases stillOpen

theorem CallsSound.remove (calls : CallsSound wfp) (closed : wfp.sessionOpen = false)
    {target : RuntimeRegistration} (member : target ∈ wfp.runtime)
    (unique : ∀ other ∈ wfp.runtime, other.box = target.box → other = target) :
    CallsSound { wfp.record (.unregister wfp.sessionOpen (some target) true) with
      runtime := wfp.runtime.filter fun other => other != target } := by
  have removed : (wfp.calls ++ [WfpCall.unregister wfp.sessionOpen (some target) true]).filterMap
      WfpCall.removedBox = wfp.calls.filterMap WfpCall.removedBox ++ [target.box] := by
    rw [List.filterMap_append]
    rfl
  refine ⟨?_, ?_, ?_, ?_, ?_⟩
  · intro call there
    rcases List.mem_append.mp there with earlier | last
    · exact calls.legitimate call earlier
    · rw [List.mem_singleton.mp last]
      exact ⟨closed, fun none => by cases none⟩
  · rw [WfpState.record, List.countP_append]
    exact calls.closed
  · rw [WfpState.record, removed, List.nodup_append]
    refine ⟨calls.removedOnce, List.pairwise_singleton _ _, ?_⟩
    intro earlier there last same
    rw [List.mem_singleton.mp same]
    rintro rfl
    exact calls.removed target member there
  · rw [WfpState.record, removed]
    intro registration kept again
    obtain ⟨there, different⟩ := List.mem_filter.mp kept
    rcases List.mem_append.mp again with earlier | last
    · exact calls.removed registration there earlier
    · exact bne_iff_ne.mp different (unique registration there (List.mem_singleton.mp last))
  · intro isOpen
    exact absurd (closed.symm.trans isOpen) Bool.false_ne_true

end Calls

structure TeardownSound (wfp : WfpState) (callouts : List Callout) : Prop where
  exact : RuntimeExact wfp.runtime callouts
  calls : CallsSound wfp

section Unregister

variable {answers : WfpAnswers} {wfp : WfpState} {callouts done rest : List Callout}
  {callout : Callout}

/-- The call for a callout that is flagged names its own registration. -/
theorem unregisterCallout_cases (answer : UnregisterAnswer)
    (sound : TeardownSound wfp (done ++ callout :: rest)) (closed : wfp.sessionOpen = false)
    (registered : callout.registered = true) :
    ((unregisterCallout answer callout.id callout.guid wfp).1 ≠ .ok .removed ∧
        (unregisterCallout answer callout.id callout.guid wfp).2.sessionOpen = false ∧
        TeardownSound (unregisterCallout answer callout.id callout.guid wfp).2
          (done ++ callout :: rest)) ∨
      ((unregisterCallout answer callout.id callout.guid wfp).1 = .ok .removed ∧
        (unregisterCallout answer callout.id callout.guid wfp).2.sessionOpen = false ∧
        TeardownSound (unregisterCallout answer callout.id callout.guid wfp).2
          (done ++ { callout with registered := false, id := 0 } :: rest)) := by
  have own := sound.exact.own registered
  have kept := sound.calls.refuse closed
    { box := done.length, id := callout.id, key := callout.guid }
  unfold unregisterCallout
  rw [sound.exact.named registered]
  cases answer with
  | removed =>
      refine .inr ⟨rfl, closed, sound.exact.remove registered, ?_⟩
      refine sound.calls.remove closed own ?_
      intro other member same
      exact sound.exact.box_unique member own same
  | busy => exact .inl ⟨(fun same => by cases same), closed, sound.exact, kept⟩
  | failed error => exact .inl ⟨(fun same => by cases same), closed, sound.exact, kept⟩

structure UnregisterDone (done callouts : List Callout)
    (after : Except String UnregisterCalloutsResult × List Callout × WfpState) : Prop where
  sound : TeardownSound after.2.2 (done ++ after.2.1)
  closed : after.2.2.sessionOpen = false
  length : after.2.1.length = callouts.length
  complete : after.1 = .ok .complete → ∀ callout ∈ after.2.1, callout.registered = false

theorem UnregisterDone.stop {result : Except String UnregisterCalloutsResult}
    (sound : TeardownSound wfp (done ++ callouts)) (closed : wfp.sessionOpen = false)
    (incomplete : result ≠ .ok .complete) : UnregisterDone done callouts (result, callouts, wfp) :=
  ⟨sound, closed, rfl, fun complete => absurd complete incomplete⟩

theorem UnregisterDone.cons {moved : Callout}
    {after : Except String UnregisterCalloutsResult × List Callout × WfpState}
    (later : UnregisterDone (done ++ [moved]) rest after) (free : moved.registered = false) :
    UnregisterDone done (callout :: rest) (after.1, moved :: after.2.1, after.2.2) := by
  refine ⟨?_, later.closed, congrArg (· + 1) later.length, ?_⟩
  · rw [List.append_cons]
    exact later.sound
  · intro complete other member
    rcases List.mem_cons.mp member with rfl | there
    · exact free
    · exact later.complete complete other there

theorem unregisterCallouts_done (box : Nat) (sound : TeardownSound wfp (done ++ callouts))
    (closed : wfp.sessionOpen = false) :
    UnregisterDone done callouts (unregisterCallouts answers box callouts wfp) := by
  induction callouts generalizing box wfp done with
  | nil => exact ⟨sound, closed, rfl, fun _ callout member => by cases member⟩
  | cons callout rest ih =>
      rw [unregisterCallouts]
      cases registered : callout.registered with
      | false =>
          rw [List.append_cons] at sound
          exact (ih (box + 1) sound closed).cons registered
      | true =>
          rw [Bool.not_true, if_neg Bool.false_ne_true]
          have cases := unregisterCallout_cases (answers.unregisterCallout box) sound closed registered
          generalize unregisterCallout (answers.unregisterCallout box) callout.id callout.guid wfp =
            called at cases ⊢
          obtain ⟨result, after⟩ := called
          rcases cases with ⟨refused, stillClosed, kept⟩ | ⟨removed, stillClosed, gone⟩
          · cases result with
            | error error => exact .stop kept stillClosed (fun same => by cases same)
            | ok result =>
                cases result with
                | removed => exact absurd rfl refused
                | busy => exact .stop kept stillClosed (fun same => by cases same)
          · obtain rfl : result = .ok .removed := removed
            rw [List.append_cons] at gone
            exact (ih (box + 1) gone stillClosed).cons rfl

theorem RuntimeExact.eq_nil (exact : RuntimeExact wfp.runtime callouts)
    (free : ∀ callout ∈ callouts, callout.registered = false) : wfp.runtime = [] := by
  rw [List.eq_nil_iff_forall_not_mem]
  intro registration member
  have view := (exact.recorded registration).mp member
  rw [List.getElem?_map] at view
  obtain ⟨callout, found, same⟩ := Option.map_eq_some_iff.mp view
  have flagged := congrArg Prod.fst same
  rw [Callout.runtimeView, free callout (List.mem_of_getElem? found)] at flagged
  cases flagged

end Unregister

/-- The handle of an engine tells whether its session is open. -/
structure EngineSound (engine : FilterEngine) (wfp : WfpState) : Prop where
  handle : engine.handleValid = wfp.sessionOpen
  sound : TeardownSound wfp engine.boxes

section UnregisterAll

variable {answers : WfpAnswers} {engine : FilterEngine} {wfp : WfpState}

theorem closeDynamicSession_sound (sound : EngineSound engine wfp) :
    EngineSound (engine.closeDynamicSession answers wfp).2.1
        (engine.closeDynamicSession answers wfp).2.2 ∧
      ((engine.closeDynamicSession answers wfp).1 = .ok () →
        (engine.closeDynamicSession answers wfp).2.2.sessionOpen = false) := by
  unfold closeDynamicSession
  by_cases valid : engine.handleValid = true
  · have isOpen : wfp.sessionOpen = true := sound.handle ▸ valid
    rw [if_neg (by rw [valid]; exact Bool.false_ne_true)]
    unfold WfpState.engineClose
    cases answers.close with
    | error error =>
        have calls := sound.sound.calls.record (show (WfpCall.close wfp.sessionOpen false).Legitimate
          from isOpen) rfl rfl
        exact ⟨⟨sound.handle, sound.sound.exact, calls⟩, fun ok => by cases ok⟩
    | ok =>
        refine ⟨⟨rfl, ?_, sound.sound.calls.close isOpen _ _⟩, fun _ => rfl⟩
        refine sound.sound.exact.same ?_
        unfold FilterEngine.boxes
        cases engine.callouts with
        | none => rfl
        | some callouts => exact List.map_map
  · rw [if_pos (by rw [Bool.eq_false_iff.mpr valid]; rfl)]
    exact ⟨sound, fun _ => sound.handle.symm.trans (Bool.eq_false_iff.mpr valid)⟩

structure UnregisterAllDone
    (after : Except String UnregisterCalloutsResult × FilterEngine × WfpState) : Prop where
  sound : EngineSound after.2.1 after.2.2
  complete : after.1 = .ok .complete → after.2.2.sessionOpen = false ∧ after.2.2.runtime = []

theorem unregisterRuntimeCallouts_done (sound : EngineSound engine wfp)
    (closed : wfp.sessionOpen = false) :
    UnregisterAllDone (engine.unregisterRuntimeCallouts answers wfp) := by
  unfold unregisterRuntimeCallouts
  cases stored : engine.callouts with
  | none =>
      have noBoxes : engine.boxes = [] := by
        rw [boxes, stored]
        rfl
      refine ⟨sound, fun _ => ⟨closed, sound.sound.exact.eq_nil ?_⟩⟩
      intro callout member
      rw [noBoxes] at member
      cases member
  | some callouts =>
      have allBoxes : engine.boxes = callouts := by
        rw [boxes, stored]
        rfl
      have before : TeardownSound wfp ([] ++ callouts) := allBoxes ▸ sound.sound
      have done := @unregisterCallouts_done answers wfp callouts [] 0 before closed
      refine ⟨⟨?_, done.sound⟩, fun complete => ⟨done.closed, ?_⟩⟩
      · exact sound.handle.trans (closed.trans done.closed.symm)
      · exact done.sound.exact.eq_nil (done.complete complete)

theorem unregisterAll_done (sound : EngineSound engine wfp) :
    UnregisterAllDone (engine.unregisterAll answers wfp) := by
  have close := @closeDynamicSession_sound answers engine wfp sound
  unfold unregisterAll
  generalize engine.closeDynamicSession answers wfp = closing at close
  obtain ⟨result, engine, wfp⟩ := closing
  cases result with
  | error error => exact ⟨close.1, fun complete => by cases complete⟩
  | ok => exact unregisterRuntimeCallouts_done close.1 (close.2 rfl)

end UnregisterAll

section Commit

variable {answers : WfpAnswers} {wfp : WfpState} {view : Filters} {callouts : List Callout}

/-- What registration leaves after an error too: the registrations are those of the Boxes. -/
structure RegisterDone (after : Except String Unit × List Callout × WfpState) (sessionOpen : Bool)
    (calls : List WfpCall) : Prop where
  exact : RuntimeExact after.2.2.runtime after.2.1
  session : after.2.2.sessionOpen = sessionOpen
  calls : after.2.2.calls = calls

theorem registerCallouts_done (specs : List CalloutSpec) (inside : wfp.transaction = some view)
    (exact : RuntimeExact wfp.runtime callouts) :
    RegisterDone (registerCallouts answers specs callouts wfp) wfp.sessionOpen wfp.calls ∧
      ∃ left, (registerCallouts answers specs callouts wfp).2.2.transaction = some left := by
  induction specs generalizing callouts wfp view with
  | nil => exact ⟨⟨exact, rfl, rfl⟩, view, inside⟩
  | cons spec rest ih =>
      rw [registerCallouts]
      rcases @Callout.registerRuntimeCallout_cases wfp spec.callout
          (answers.registerCallout callouts.length) callouts.length with
        ⟨error, result⟩ | ⟨id, fresh, result⟩
      · rw [result]
        exact ⟨⟨exact.append_new rfl, rfl, rfl⟩, view, inside⟩
      · rw [result]
        have registered := exact.register fresh
        dsimp only
        cases answers.addCallout callouts.length with
        | error error => exact ⟨⟨registered, rfl, rfl⟩, view, inside⟩
        | ok =>
            dsimp only
            rcases @Callout.registerFilter_cases
                { wfp with runtime := wfp.runtime ++
                    [{ box := callouts.length, id := id, key := spec.callout.guid }] } view
                (answers.addFilter callouts.length) callouts.length
                { spec.callout with registered := true, id := id } inside with
              ⟨error, left, added⟩ | ⟨filterId, _, _, _, added⟩
            · rw [added]
              exact ⟨⟨registered, rfl, rfl⟩, left, rfl⟩
            · rw [added]
              dsimp only
              refine ih rfl ?_
              exact registered.setFilterId filterId

theorem commitInner_done (specs : List CalloutSpec) (exact : RuntimeExact wfp.runtime []) :
    RegisterDone (commitInner answers specs wfp) wfp.sessionOpen wfp.calls := by
  unfold commitInner
  rcases @beginTransaction_cases answers wfp with ⟨error, result⟩ | ⟨-, result⟩
  · rw [result]
    exact ⟨exact, rfl, rfl⟩
  · rw [result]
    dsimp only
    unfold commitInTransaction
    cases answers.sublayer with
    | error error => exact ⟨exact, rfl, rfl⟩
    | ok =>
        dsimp only
        obtain ⟨done, left, inside⟩ := @registerCallouts_done answers
          { wfp with transaction := some wfp.filters } wfp.filters [] specs rfl exact
        generalize registerCallouts answers specs [] { wfp with transaction := some wfp.filters } =
          looped at done inside
        obtain ⟨result, callouts, middle⟩ := looped
        cases result with
        | error error => exact ⟨done.exact, done.session, done.calls⟩
        | ok =>
            dsimp only
            rcases @commitTransaction_cases answers middle left inside with ⟨error, last⟩ | last
            · rw [last]
              exact ⟨done.exact, done.session, done.calls⟩
            · rw [last]
              exact ⟨done.exact, done.session, done.calls⟩

end Commit

section Reset

variable {answers : WfpAnswers} {engine : FilterEngine} {wfp : WfpState}

theorem ResetCallout.runtimeView {box : Nat} {callout moved : Callout}
    (reset : ResetCallout answers box callout moved) : moved.runtimeView = callout.runtimeView := by
  unfold ResetCallout at reset
  split at reset
  · rw [reset]
  · obtain ⟨id, _, _, rfl⟩ := reset
    rfl

theorem LoopDone.runtimeView {box : Nat} {view left : Filters} {callouts new : List Callout}
    (done : LoopDone answers box view left callouts new) :
    new.map Callout.runtimeView = callouts.map Callout.runtimeView := by
  apply List.ext_getElem?
  intro index
  rw [List.getElem?_map, List.getElem?_map]
  cases found : callouts[index]? with
  | none =>
      have behind := List.getElem?_eq_none_iff.mp found
      rw [List.getElem?_eq_none (done.length ▸ behind)]
  | some callout =>
      obtain ⟨moved, there, reset⟩ := done.reset index callout found
      rw [there]
      exact congrArg some reset.runtimeView

theorem resetAllFilters_sound (sound : EngineSound engine wfp) :
    EngineSound (engine.resetAllFilters answers wfp).2.1 (engine.resetAllFilters answers wfp).2.2 := by
  rcases @resetAllFilters_cases answers engine wfp with ⟨error, result⟩ | ⟨new, left, done, result⟩
  · rw [result]
    exact sound
  · rw [result]
    refine ⟨sound.handle, ?_, sound.sound.calls.congr rfl rfl sound.sound.calls.removed⟩
    rw [boxes_map done.length]
    exact sound.sound.exact.same done.runtimeView

end Reset

structure SystemSound (system : EngineSystem) : Prop where
  engine : ∀ engine, system.engine = some engine → EngineSound engine system.wfp
  dropped : system.engine = none → system.wfp.runtime = []
  calls : CallsSound system.wfp

section System

variable {system : EngineSystem} {engine : FilterEngine} {wfp : WfpState} {answers : WfpAnswers}

theorem EngineSound.toSystem (sound : EngineSound engine wfp) (rollback : Option Rollback) :
    SystemSound { engine := some engine, wfp := wfp, rollback := rollback } := by
  refine ⟨?_, ?_, sound.sound.calls⟩
  · intro other same
    cases same
    exact sound
  · intro none
    cases none

theorem EngineSound.committed (sound : EngineSound engine wfp) (committed : Bool) :
    EngineSound { engine with committed := committed } wfp :=
  ⟨sound.handle, sound.sound⟩

theorem EngineSound.commit (sound : EngineSound engine wfp) (specs : List CalloutSpec) :
    SystemSound (EngineSystem.commit specs answers engine wfp) := by
  unfold EngineSystem.commit
  by_cases refused : (engine.committed || engine.callouts.isSome || !engine.handleValid) = true
  · rw [if_pos refused]
    exact sound.toSystem none
  · rw [if_neg refused]
    simp only [Bool.or_eq_true, Bool.not_eq_eq_eq_not, Bool.not_true, not_or, Bool.not_eq_true,
      Bool.not_eq_false, Option.isSome_eq_false_iff, Option.isNone_iff_eq_none] at refused
    obtain ⟨⟨_, stored⟩, valid⟩ := refused
    have isOpen : wfp.sessionOpen = true := sound.handle ▸ valid
    have noBoxes : engine.boxes = [] := by
      rw [boxes, stored]
      rfl
    have done := @commitInner_done answers wfp specs (noBoxes ▸ sound.sound.exact)
    generalize commitInner answers specs wfp = inner at done
    obtain ⟨result, callouts, after⟩ := inner
    -- Nothing was removed while the session is open.
    have calls : CallsSound after := by
      refine sound.sound.calls.congr done.calls done.session ?_
      rw [sound.sound.calls.inSession isOpen]
      exact fun _ _ => List.not_mem_nil
    have left : EngineSound { engine with callouts := some callouts } after :=
      ⟨sound.handle.trans done.session.symm, done.exact, calls⟩
    cases result with
    | error error => exact left.toSystem _
    | ok => exact (left.committed true).toSystem _

theorem freeBoxes_calls (calls : CallsSound wfp) (gone : wfp.runtime = []) (count : Nat) :
    CallsSound (wfp.freeBoxes count) := by
  refine calls.append ?_
  intro call member
  obtain ⟨box, _, rfl⟩ := List.mem_map.mp member
  refine ⟨?_, rfl, rfl⟩
  rw [gone]
  rfl

theorem EngineSound.retry (sound : EngineSound engine wfp) (rollback : Rollback) :
    SystemSound (EngineSystem.retry answers rollback engine wfp) := by
  have done := @unregisterAll_done answers engine wfp sound
  unfold EngineSystem.retry
  generalize engine.unregisterAll answers wfp = after at done
  obtain ⟨result, engine, wfp⟩ := after
  by_cases complete : result = .ok .complete
  · obtain ⟨closed, gone⟩ := done.complete complete
    have calls := freeBoxes_calls done.sound.sound.calls gone (engine.callouts.getD []).length
    subst complete
    cases rollback with
    | commit =>
        have left : RuntimeExact wfp.runtime [] := gone ▸ .nil
        refine @EngineSound.toSystem { engine with callouts := none } _ ?_ none
        exact ⟨done.sound.handle, left, calls⟩
    | drop =>
        refine ⟨?_, fun _ => gone, calls⟩
        intro engine same
        cases same
  · cases result with
    | error error => exact done.sound.toSystem _
    | ok result =>
        cases result with
        | complete => exact absurd rfl complete
        | busy => exact done.sound.toSystem _

theorem SystemSound.step (sound : SystemSound system) (step : EngineStep) :
    SystemSound (system.step step) := by
  unfold EngineSystem.step
  split
  · rename_i engine specs answers running _
    exact (sound.engine engine running).commit specs
  · rename_i engine answers running _
    exact (resetAllFilters_sound (sound.engine engine running)).toSystem none
  · rename_i engine answers running _
    exact (unregisterAll_done (sound.engine engine running)).sound.toSystem none
  · rename_i engine running _
    exact (sound.engine engine running).toSystem (some .drop)
  · rename_i engine rollback answers running _
    exact (sound.engine engine running).retry rollback
  · exact sound

theorem SystemSound.new : SystemSound .new := by
  have calls : CallsSound .new := by
    refine ⟨?_, rfl, List.Pairwise.nil, ?_, fun _ => rfl⟩
    · intro call member
      cases member
    · intro registration member
      cases member
  exact EngineSound.toSystem ⟨rfl, .nil, calls⟩ none

theorem SystemSound.run (steps : List EngineStep) : SystemSound (EngineSystem.run steps) := by
  have runs : ∀ system, SystemSound system → SystemSound (steps.foldl EngineSystem.step system) := by
    induction steps with
    | nil => exact fun _ sound => sound
    | cons step rest ih => exact fun system sound => ih _ (sound.step step)
  exact runs _ SystemSound.new

end System

/-- What is true of the callouts, WFP and the calls that ended something so far. -/
structure BoxesOutlive (system : EngineSystem) : Prop where
  flagged : ∀ engine, system.engine = some engine →
    ∀ box callout, engine.boxes[box]? = some callout →
      (callout.registered = true ↔ ∃ registration ∈ system.wfp.runtime, registration.box = box)
  held : ∀ registration ∈ system.wfp.runtime, ∃ engine callout, system.engine = some engine ∧
    engine.boxes[registration.box]? = some callout ∧ callout.registered = true ∧
      callout.id = registration.id ∧ callout.guid = registration.key
  legitimate : ∀ call ∈ system.wfp.calls, call.Legitimate
  removedOnce : (system.wfp.calls.filterMap WfpCall.removedBox).Nodup
  closedOnce : system.wfp.calls.countP WfpCall.closes ≤ 1
  complete : ∀ engine answers, system.engine = some engine →
    (engine.unregisterAll answers system.wfp).1 = .ok .complete →
      (engine.unregisterAll answers system.wfp).2.2.sessionOpen = false ∧
        (engine.unregisterAll answers system.wfp).2.2.runtime = []

/-- For every sequence of calls and every answer of WFP, a Box lives as long as its registration, and
nothing is ended twice. -/
theorem calloutBoxes_outlive_registrations (steps : List EngineStep) :
    BoxesOutlive (EngineSystem.run steps) := by
  have sound := SystemSound.run steps
  generalize EngineSystem.run steps = system at sound
  refine ⟨?_, ?_, sound.calls.legitimate, sound.calls.removedOnce, ?_, ?_⟩
  · intro engine running box callout found
    have exact := (sound.engine engine running).sound.exact
    constructor
    · intro registered
      refine ⟨⟨box, callout.id, callout.guid⟩, (exact.recorded _).mpr ?_, rfl⟩
      rw [List.getElem?_map, found, ← registered]
      rfl
    · rintro ⟨registration, member, rfl⟩
      have view := (exact.recorded registration).mp member
      rw [List.getElem?_map, found] at view
      exact congrArg Prod.fst (Option.some.inj view)
  · intro registration member
    cases running : system.engine with
    | none =>
        rw [sound.dropped running] at member
        cases member
    | some engine =>
        have view := ((sound.engine engine running).sound.exact.recorded registration).mp member
        rw [List.getElem?_map] at view
        obtain ⟨callout, found, same⟩ := Option.map_eq_some_iff.mp view
        simp only [Callout.runtimeView, Prod.mk.injEq] at same
        exact ⟨engine, callout, rfl, found, same⟩
  · rw [sound.calls.closed]
    cases system.wfp.sessionOpen
    · exact Nat.le_refl 1
    · exact Nat.zero_le 1
  · intro engine answers running
    exact (unregisterAll_done (sound.engine engine running)).complete

-- A commit that fails at its second callout. The session closes at the second attempt, and the one
-- registration goes at the third.
example :
    let answers : WfpAnswers :=
      { begin := .ok ()
        commit := .ok ()
        sublayer := .ok ()
        registerCallout := fun box => if box = 0 then .ok 7 else .error "no memory"
        addCallout := fun _ => .ok ()
        addFilter := fun box => .ok (box + 1)
        deleteFilter := fun _ => .ok ()
        close := .ok ()
        unregisterCallout := fun _ => .busy }
    let specs : List CalloutSpec :=
      [{ name := "ale", guid := 1, filterType := .resettable },
        { name := "stream", guid := 2, filterType := .nonResettable }]
    (EngineSystem.run [.commit specs answers, .retry { answers with close := .error "busy" },
      .retry answers, .retry { answers with unregisterCallout := fun _ => .removed }]).wfp.calls =
        [.close true false, .close true true,
          .unregister false (some { box := 0, id := 7, key := 1 }) false,
          .unregister false (some { box := 0, id := 7, key := 1 }) true,
          .free 0 false, .free 1 false] := by
  decide

end WindowsKext
