import ScriptHost.Proofs.Session.Reachability

/-!
Instances in the hands of the host.

A handle that an operation has given to the host finds its instance until the host releases the
handle or tears the session down. Whatever else happens in between, no other handle takes its slot
and nothing that is read through it is refused.
-/

set_option autoImplicit false

namespace ScriptHost

open Script

/-- A handle finds a pinned instance of a type, and it is the only one that finds its slot. -/
structure Heap.Guards (heap : Heap Occupant) (handle : Handle) (typeId : TypeId) : Prop where
  found : ∃ resident, heap.resident? handle = some resident ∧ resident.pinned = true ∧
    resident.content.typeId = typeId
  alone : ∀ other, heap.contains other = true → other.index = handle.index → other = handle

theorem Heap.eq_of_contains {α : Type} {heap : Heap α} {handle other : Handle}
    (first : heap.contains handle = true) (second : heap.contains other = true)
    (same : other.index = handle.index) : other = handle := by
  obtain ⟨resident, found⟩ := contains_iff.mp first
  obtain ⟨otherResident, otherFound⟩ := contains_iff.mp second
  have slot := resident?_eq_some_iff.mp found
  have otherSlot := resident?_eq_some_iff.mp otherFound
  rw [same, slot] at otherSlot
  injection otherSlot with slots
  injection slots with generations
  obtain ⟨index, generation⟩ := handle
  obtain ⟨otherIndex, otherGeneration⟩ := other
  change otherIndex = index at same
  change generation = otherGeneration at generations
  rw [same, generations]

theorem Heap.guards_of_found {heap : Heap Occupant} {handle : Handle} {typeId : TypeId}
    (found : ∃ resident, heap.resident? handle = some resident ∧ resident.pinned = true ∧
      resident.content.typeId = typeId) : heap.Guards handle typeId := by
  refine ⟨found, fun other inside same => ?_⟩
  obtain ⟨resident, isThere, _⟩ := found
  exact eq_of_contains (contains_iff.mpr ⟨resident, isThere⟩) inside same

namespace Call

def fieldValue (types : TypeRegistry) (handle : Handle) (name : String) (heap : Heap Occupant) :
    Except Fault HostValue := do
  let resident ← heap.get handle
  let descriptor ← types.get resident.content.typeId
  let field ← descriptor.field name
  let content ← descriptor.contentOf resident.content.body
  return field.read content

theorem getField_eq (types : TypeRegistry) (handle : Handle) (name : String)
    (state : CallState) :
    getField types handle name state =
      ofResult (fieldValue types handle name state.store.heap) state := by
  unfold getField describe occupant fieldValue
  simp only [bind_assoc, pure_bind]
  change (ofResult (state.store.heap.get handle) >>= _) state = _
  cases state.store.heap.get handle with
  | error fault => rfl
  | ok resident =>
      change (ofResult (types.get resident.content.typeId) >>= _) state =
        ofResult (types.get resident.content.typeId >>= _) state
      cases types.get resident.content.typeId with
      | error fault => rfl
      | ok descriptor =>
          change (ofResult (descriptor.field name) >>= _) state =
            ofResult (descriptor.field name >>= _) state
          cases descriptor.field name with
          | error fault => rfl
          | ok field =>
              change (ofResult (descriptor.contentOf resident.content.body) >>= _) state =
                ofResult (descriptor.contentOf resident.content.body >>= _) state
              cases descriptor.contentOf resident.content.body with
              | error fault => rfl
              | ok content => rfl

theorem fieldValue_not_stale {types : TypeRegistry} {handle : Handle} {name : String}
    {heap : Heap Occupant} (live : heap.contains handle = true) (other : Handle) :
    fieldValue types handle name heap ≠ .error (.staleHandle other) := by
  obtain ⟨resident, found⟩ := Heap.contains_iff.mp live
  unfold fieldValue
  rw [Heap.get_eq_ok_iff.mpr found]
  change (types.get resident.content.typeId >>= _) ≠ _
  unfold TypeRegistry.get
  split
  · rename_i descriptor _
    change (descriptor.field name >>= _) ≠ _
    unfold TypeDescriptor.field
    split
    · change (descriptor.contentOf resident.content.body >>= _) ≠ _
      unfold TypeDescriptor.contentOf
      split
      · exact nofun
      · exact nofun
    · exact nofun
  · exact nofun

/-- Reading a field of a live instance meets a stale handle only as the value of the field. -/
theorem readField_stale {types : TypeRegistry} {handle : Handle} {name : String}
    {state after : CallState} (live : state.store.heap.contains handle = true) {other : Handle}
    (failed : (do pinResult (← getField types handle name)) state =
      .error (.staleHandle other) after) :
    after = state ∧ state.store.heap.contains other = false := by
  rw [bind_apply, getField_eq] at failed
  cases looked : fieldValue types handle name state.store.heap with
  | error fault =>
      rw [looked] at failed
      injection failed with sameFault _
      rw [sameFault] at looked
      exact absurd looked (fieldValue_not_stale live other)
  | ok value =>
      rw [looked] at failed
      cases value with
      | object held =>
          change (pin held >>= _) state = _ at failed
          rw [bind_apply] at failed
          unfold pin withHeap at failed
          dsimp only at failed
          cases found : state.store.heap.resident? held with
          | none =>
              rw [Heap.pin_eq_error found] at failed
              injection failed with sameFault sameState
              injection sameFault with sameHandle
              refine ⟨sameState.symm, ?_⟩
              rw [← sameHandle, Heap.contains, found]
              rfl
          | some resident =>
              rw [Heap.pin_eq_ok found] at failed
              cases failed
      | number _ => cases failed
      | boolean _ => cases failed
      | text _ => cases failed
      | null => cases failed

end Call

theorem Store.contains_conclude {state : CallState} {handle : Handle}
    (gone : state.store.heap.contains handle = false) :
    (conclude state).heap.contains handle = false := by
  unfold Heap.contains at gone ⊢
  rw [conclude_heap, Heap.resident?_collect, Heap.resident?_sweep]
  rw [Option.isSome_eq_false_iff, Option.isNone_iff_eq_none] at gone
  rw [gone]
  simp

namespace Session

variable {session : Session} {handle : Handle} {typeId : TypeId}

theorem native_eq {α : Type} (phase : session.phase = .ready) (call : TypeRegistry → Call α) :
    native call session =
      ofResult (session.machine.store.run (call session.types)).1
        (session.withMachine { session.machine with
          store := (session.machine.store.run (call session.types)).2 }) := by
  unfold native whenReady
  rw [phase]
  rfl

theorem perform_native {α : Type} (ready : session.phase = .ready) {operation : Operation}
    {call : TypeRegistry → Call α} {reply : α → Reply}
    (same : operation.perform session = (native call).map reply session) :
    session.perform operation =
      ((session.machine.store.run (call session.types)).1.map reply,
        session.withMachine { session.machine with
          store := (session.machine.store.run (call session.types)).2 }) := by
  unfold perform
  rw [same]
  unfold EStateM.map
  rw [native_eq ready call]
  cases (session.machine.store.run (call session.types)).1 with
  | ok value => rfl
  | error fault => rfl

theorem getField_stale (guarded : session.machine.store.heap.Guards handle typeId)
    {name : String} {other : Handle} {after : Session}
    (failed : getField handle name session = .error (.staleHandle other) after) :
    other ≠ handle ∧ after.isLive other = false := by
  unfold getField at failed
  cases phase : session.phase with
  | uninitialized =>
      unfold native whenReady at failed
      rw [phase] at failed
      cases failed
  | tornDown =>
      unfold native whenReady at failed
      rw [phase] at failed
      cases failed
  | ready =>
      rw [native_eq phase] at failed
      unfold Store.run at failed
      obtain ⟨resident, found, pinned, _⟩ := guarded.found
      have claimed : session.machine.store.heap.unclaimed handle = false := by
        simp [Heap.unclaimed, found, pinned]
      have kept : session.machine.store.collect.heap.contains handle = true := by
        change (session.machine.store.heap.collect.2.resident? handle).isSome = true
        rw [Heap.resident?_collect, if_neg (by simp [claimed]), found]
        rfl
      split at failed
      · cases failed
      · rename_i fault state called
        injection failed with sameFault sameAfter
        rw [sameFault] at called
        obtain ⟨rfl, gone⟩ := Call.readField_stale kept called
        constructor
        · rintro rfl
          exact Bool.false_ne_true (gone.symm.trans kept)
        · rw [← sameAfter]
          exact Store.contains_conclude gone

/-- Nothing that is read through a handle is refused because the handle is stale. What a field
holds may be a stale handle of its own. -/
structure Readable (session : Session) (handle : Handle) : Prop where
  live : session.isLive handle = true
  typeName : ∀ other after, typeName handle session ≠ .error (.staleHandle other) after
  content : ∀ type other after, readObject handle type session ≠ .error (.staleHandle other) after
  field : ∀ name other after, getField handle name session = .error (.staleHandle other) after →
    other ≠ handle ∧ after.isLive other = false

theorem inspect_not_stale {α : Type} {look : Session → Heap Occupant → Except Fault α}
    {other : Handle}
    (fresh : look session session.machine.store.heap ≠ .error (.staleHandle other))
    (after : Session) : inspect look session ≠ .error (.staleHandle other) after := by
  unfold inspect whenReady
  split
  · change ofResult (look session session.machine.store.heap) session ≠ _
    cases looked : look session session.machine.store.heap with
    | ok value => exact nofun
    | error fault =>
        intro failed
        injection failed with same
        rw [looked, same] at fresh
        exact fresh rfl
  · exact nofun
  · exact nofun

theorem readable_of_guards (guarded : session.machine.store.heap.Guards handle typeId) :
    session.Readable handle := by
  obtain ⟨resident, found, _⟩ := guarded.found
  have get := Heap.get_eq_ok_iff.mpr found
  constructor
  · exact Heap.contains_iff.mpr ⟨resident, found⟩
  · intro other after
    apply inspect_not_stale
    rw [get]
    exact nofun
  · intro type other after
    apply inspect_not_stale
    rw [get]
    intro failed
    dsimp only [Bind.bind, Except.bind] at failed
    cases body : resident.content.body.as? type with
    | none =>
        rw [body] at failed
        cases failed
    | some content =>
        rw [body] at failed
        cases failed
  · intro name other after failed
    exact getField_stale guarded failed

def given? (session : Session) (operation : Operation) : Option Handle :=
  match (session.perform operation).1 with
  | .ok (.handle handle) => some handle
  | .ok (.value (.object handle)) => some handle
  | _ => none

theorem gives_of_given? {operation : Operation} (given : session.given? operation = some handle) :
    ∃ reply, (session.perform operation).1 = .ok reply ∧ reply.Gives handle := by
  unfold given? at given
  split at given
  · rename_i replied
    exact ⟨_, replied, Option.some.inj given⟩
  · rename_i other replied
    injection given with same
    exact ⟨_, replied, congrArg HostValue.object same⟩
  · cases given

def relied (handle : Handle) (typeId : TypeId) : Handle → TypeId → Prop :=
  fun other otherType => other = handle ∧ otherType = typeId

theorem Sound.guards {earlier : Moment → Prop} {spare : Handle → Prop}
    (sound : session.Sound (relied handle typeId) earlier spare) :
    session.machine.store.heap.Guards handle typeId :=
  Heap.guards_of_found (sound.machine.accounts.kept ⟨rfl, rfl⟩)

theorem Reachable.sound_given (reachable : session.Reachable) (alive : session.phase ≠ .tornDown)
    {operation : Operation} (given : session.given? operation = some handle) :
    ∃ typeId, (session.perform operation).2.Sound (relied handle typeId)
      (session.perform operation).2.machine.history fun _ => True := by
  obtain ⟨reply, replied, gives⟩ := gives_of_given? given
  have different : operation ≠ .teardown := by
    rintro rfl
    have leads : Leads (In .tornDown) (Operation.perform .teardown)
        (fun reply _ => ¬ reply.Gives handle) session :=
      (leads_teardown session).bind fun _ _ kept _ => Leads.of_ok kept fun none => none
    exact (perform_of_leads leads).2 reply replied gives
  have before := reachable.sound alive
  have leads := perform_of_leads (leads_perform before operation different
    (fun _ _ _ none => none) fun _ _ => trivial)
  obtain ⟨resident, found, pinned⟩ := leads.2 reply replied handle gives
  refine ⟨resident.content.typeId, leads.1.alive, ?_, leads.1.operands, leads.1.thrown,
    leads.1.tidy⟩
  refine leads.1.machine.renew fun {other typeId} same => ?_
  obtain ⟨rfl, rfl⟩ := same
  exact ⟨resident, found, pinned, rfl⟩

/-- A handle finds its pinned instance, as it has done at every moment since an earlier state. -/
structure Stays (earlier later : Session) (handle : Handle) (typeId : TypeId) : Prop where
  guards : later.machine.store.heap.Guards handle typeId
  readable : later.Readable handle
  throughout : ∀ moment, later.machine.history moment →
    earlier.machine.history moment ∨ moment.heap.Guards handle typeId

/-- An instance that has been given to the host stays as long as the host neither releases it nor
tears the session down, whatever else happens and whether it succeeds or fails. After no operation
at all, the session is as it was when the handle was given. -/
theorem given_handle_stays (reachable : session.Reachable) (ready : session.phase = .ready)
    {operation : Operation} (given : session.given? operation = some handle) :
    ∃ typeId, ∀ operations : List Operation,
      (∀ later ∈ operations, later ≠ .teardown ∧ later ≠ .release handle) →
      Stays (session.perform operation).2 ((session.perform operation).2.after operations) handle
        typeId := by
  have alive : session.phase ≠ .tornDown := by
    rw [ready]
    exact nofun
  obtain ⟨typeId, sound⟩ := reachable.sound_given alive given
  refine ⟨typeId, fun operations kept => ?_⟩
  have later := sound.after fun other member => by
    obtain ⟨notTeardown, notRelease⟩ := kept other member
    refine ⟨notTeardown, fun released typeId same promised => ?_⟩
    obtain ⟨rfl, _⟩ := promised
    exact notRelease same
  refine ⟨later.guards, readable_of_guards later.guards, fun moment inHistory => ?_⟩
  apply (later.machine.remembered moment inHistory).imp_right
  intro faithful
  exact Heap.guards_of_found (faithful.accounts.kept ⟨rfl, rfl⟩)

/-- A token stays while its variable is overwritten and other handles are released. -/
theorem given_token_stays :
    hosting.phase = .ready ∧ hosting.given? (.insertObject ⟨token, ()⟩) = some ⟨0, 0⟩ ∧
      ∃ typeId, Stays (hosting.perform (.insertObject ⟨token, ()⟩)).2
        ((hosting.perform (.insertObject ⟨token, ()⟩)).2.after
          [.setGlobal "a" (.object ⟨0, 0⟩), .setGlobal "a" .null, .release ⟨1, 0⟩, .collect])
        ⟨0, 0⟩ typeId := by
  have ready : hosting.phase = .ready := by decide +kernel
  have given : hosting.given? (.insertObject ⟨token, ()⟩) = some ⟨0, 0⟩ := by decide +kernel
  obtain ⟨typeId, stays⟩ := given_handle_stays hosting_reachable ready given
  refine ⟨ready, given, typeId, stays _ fun later member => ?_⟩
  simp only [List.mem_cons, List.not_mem_nil, or_false] at member
  rcases member with rfl | rfl | rfl | rfl
  · exact ⟨nofun, nofun⟩
  · exact ⟨nofun, nofun⟩
  · exact ⟨nofun, fun same => by cases same⟩
  · exact ⟨nofun, nofun⟩

end Session
end ScriptHost
