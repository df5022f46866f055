import ScriptHost.Proofs.Native.Calls

/-!
Types of instances.

A registry has every host type under one number at most, and an instance is stored under the number
of its own type. So to ask whether an instance is of some type is to ask whether it can be read as
that type, and whoever comes to an instance through the description of its type finds the content
that the description speaks of. A routine keeps all of this from one of its requests to the next.
-/

set_option autoImplicit false

namespace ScriptHost

open Script

namespace TypeRegistry

variable {types types' : TypeRegistry} {type : HostType} {typeId : TypeId}
  {descriptor : TypeDescriptor}

/-- No host type is registered twice. -/
def Distinct (types : TypeRegistry) : Prop :=
  ∀ (first second : TypeId) (left right : TypeDescriptor),
    types.types[first]? = some left → types.types[second]? = some right →
      left.type = right.type → first = second

theorem distinct_empty : TypeRegistry.empty.Distinct :=
  fun _ _ _ _ found => nomatch found

theorem exists_idOf? (known : types.types[typeId]? = some descriptor) :
    ∃ other, types.idOf? descriptor.type = some other := by
  cases found : types.idOf? descriptor.type with
  | some other => exact ⟨other, rfl⟩
  | none =>
      have absent := Array.findIdx?_eq_none_iff.mp found descriptor (Array.mem_of_getElem? known)
      rw [beq_self_eq_true] at absent
      cases absent

theorem Distinct.idOf?_eq (distinct : types.Distinct)
    (known : types.types[typeId]? = some descriptor) :
    types.idOf? descriptor.type = some typeId := by
  obtain ⟨other, found⟩ := exists_idOf? known
  obtain ⟨same, sameKnown, sameType⟩ := type_of_idOf? found
  rw [found, distinct _ _ _ _ sameKnown known sameType]

theorem Distinct.register (distinct : types.Distinct)
    (registered : types.register descriptor = .ok types') : types'.Distinct := by
  unfold TypeRegistry.register at registered
  split at registered
  · cases registered
  · rename_i new
    injection registered with same
    -- The new type is none of those that are there, and it takes the number after them.
    have unknown : ∀ {number : TypeId} {known : TypeDescriptor},
        types.types[number]? = some known → known.type ≠ descriptor.type := by
      intro number known found sameType
      obtain ⟨other, taken⟩ := exists_idOf? found
      rw [sameType] at taken
      rw [taken, Option.isSome_some, Bool.or_true] at new
      exact new rfl
    intro first second left right leftKnown rightKnown sameType
    rw [← same, Array.getElem?_push] at leftKnown rightKnown
    split at leftKnown
    · rename_i firstLast
      split at rightKnown
      · rename_i secondLast
        exact firstLast.trans secondLast.symm
      · injection leftKnown with leftNew
        exact absurd (leftNew ▸ sameType.symm) (unknown rightKnown)
    · split at rightKnown
      · injection rightKnown with rightNew
        exact absurd (rightNew ▸ sameType) (unknown leftKnown)
      · exact distinct _ _ _ _ leftKnown rightKnown sameType

end TypeRegistry

theorem Instance.as?_of_type {body : Instance} {type : HostType} (same : body.type = type) :
    ∃ content, body.as? type = some content := by
  unfold Instance.as?
  rw [dif_pos same]
  exact ⟨_, rfl⟩

theorem Instance.eq_of_as? {body : Instance} {type : HostType} {held : type.Content}
    (found : body.as? type = some held) : body = ⟨type, held⟩ := by
  unfold as? at found
  split at found
  · rename_i same
    subst same
    cases found
    rfl
  · cases found

theorem TypeDescriptor.contentOf_eq {descriptor : TypeDescriptor} {body : Instance}
    {content : descriptor.type.Content} (downcast : body.as? descriptor.type = some content) :
    descriptor.contentOf body = .ok content := by
  unfold contentOf
  rw [downcast]

theorem Call.read_eq {types : TypeRegistry} (distinct : types.Distinct) {heap : Heap Occupant}
    {handle : Handle} {resident : Resident Occupant} {descriptor : TypeDescriptor}
    {content : descriptor.type.Content} (found : heap.resident? handle = some resident)
    (known : types.types[resident.content.typeId]? = some descriptor)
    (downcast : resident.content.body.as? descriptor.type = some content) :
    read types descriptor.type handle heap = .ok content := by
  unfold read
  rw [Heap.get_eq_ok_iff.mpr found]
  change (if types.idOf? descriptor.type = some resident.content.typeId then _ else _) = _
  rw [if_pos (distinct.idOf?_eq known), downcast]

/-- What the description of a type makes of an instance: a getter and a setter, a method and a
display function get the content that they expect. -/
structure Resident.Understood (types : TypeRegistry) (heap : Heap Occupant) (handle : Handle)
    (resident : Resident Occupant) (descriptor : TypeDescriptor) : Prop where
  registered : types.get resident.content.typeId = .ok descriptor
  type : descriptor.type = resident.content.body.type
  content : ∃ content, descriptor.contentOf resident.content.body = .ok content ∧
    Call.read types descriptor.type handle heap = .ok content ∧
    ∀ display, descriptor.display? = some display →
      descriptor.render handle resident.content.body = display content

/-- Every instance is understood through its own type, and it can be read as the types that it is
recognised as, and as no others. -/
structure Heap.WellTyped (types : TypeRegistry) (heap : Heap Occupant) : Prop where
  understood : ∀ handle resident, heap.resident? handle = some resident →
    ∃ descriptor, resident.Understood types heap handle descriptor
  recognised : ∀ type value, Call.recognise types type heap value = true ↔
    ∃ content, (do Call.read types type (← value.asObject) heap) = .ok content

variable {types : TypeRegistry} {heap : Heap Occupant}

theorem Resident.understood_of_fits (distinct : types.Distinct) {handle : Handle}
    {resident : Resident Occupant} (found : heap.resident? handle = some resident)
    (fits : resident.content.Fits types) :
    ∃ descriptor, resident.Understood types heap handle descriptor := by
  obtain ⟨descriptor, known, sameType⟩ := fits
  obtain ⟨content, downcast⟩ := Instance.as?_of_type sameType.symm
  refine ⟨descriptor, ?_, sameType, content, TypeDescriptor.contentOf_eq downcast,
    Call.read_eq distinct found known downcast, fun display declared => ?_⟩
  · unfold TypeRegistry.get
    rw [known]
  · unfold TypeDescriptor.render
    rw [declared, downcast]

theorem Heap.wellTyped_of_fits (distinct : types.Distinct)
    (fits : ∀ {handle resident}, heap.resident? handle = some resident →
      resident.content.Fits types) : heap.WellTyped types := by
  refine ⟨fun handle resident found => Resident.understood_of_fits distinct found (fits found),
    fun type value => ?_⟩
  cases value with
  | object handle =>
      unfold Call.recognise
      change _ ↔ ∃ content, Call.read types type handle heap = .ok content
      dsimp only
      cases found : heap.resident? handle with
      | none =>
          constructor
          · intro recognised
            cases number : types.idOf? type with
            | none =>
                rw [number] at recognised
                cases recognised
            | some expected =>
                rw [number] at recognised
                cases recognised
          · rintro ⟨content, read⟩
            unfold Call.read Heap.get at read
            rw [found] at read
            cases read
      | some resident =>
          constructor
          · intro recognised
            cases number : types.idOf? type with
            | none =>
                rw [number] at recognised
                cases recognised
            | some expected =>
                rw [number] at recognised
                have sameNumber : expected = resident.content.typeId := beq_iff_eq.mp recognised
                obtain ⟨descriptor, known, sameType⟩ := TypeRegistry.type_of_idOf? number
                obtain ⟨own, understood⟩ := Resident.understood_of_fits distinct found (fits found)
                have ownKnown := TypeRegistry.get_eq_ok understood.registered
                rw [← sameNumber, known] at ownKnown
                injection ownKnown with same
                subst same
                subst sameType
                obtain ⟨content, _, read, _⟩ := understood.content
                exact ⟨content, read⟩
          · rintro ⟨content, read⟩
            unfold Call.read at read
            rw [Heap.get_eq_ok_iff.mpr found] at read
            change (if types.idOf? type = some resident.content.typeId then _ else _) = _ at read
            split at read
            · rename_i number
              rw [number]
              exact beq_self_eq_true _
            · cases read
  | _ =>
      constructor
      · intro recognised
        cases recognised
      · rintro ⟨content, refused⟩
        cases refused

theorem Heap.Accounts.wellTyped {covenant : Covenant} {total : Multiset Holding}
    (accounts : heap.Accounts covenant total) (distinct : covenant.types.Distinct) :
    heap.WellTyped covenant.types :=
  Heap.wellTyped_of_fits distinct accounts.typed

namespace Call

variable {α : Type} {routine middle rest : Routine α} {state between after : CallState}

/-- The routine that is left when the first request of a routine has been answered. -/
def next? (types : TypeRegistry) : Routine α → CallState → Option (Routine α × CallState)
  | .done _, _ | .fail _, _ => none
  | .allocate type content next, state =>
      match allocate types type content with
      | .ok occupant =>
          let (handle, heap) := state.store.heap.insert occupant false
          some (next (.ok (.object handle)),
            ⟨⟨heap, state.store.generator⟩, state.fresh.push handle⟩)
      | .error fault => some (next (.error fault), state)
  | .read type value next, state =>
      some (next (do read types type (← value.asObject) state.store.heap), state)
  | .recognise type value next, state =>
      some (next (recognise types type state.store.heap value), state)
  | .nameType value next, state => some (next (nameType types state.store.heap value), state)
  | .countLive next, state => some (next state.store.heap.live, state)
  | .draw sampler next, state =>
      let (answer, state) := draw sampler state
      some (next answer, state)

/-- A routine comes to another one by answers to its requests. -/
inductive Steps (types : TypeRegistry) :
    Routine α → CallState → Routine α → CallState → Prop where
  | here {routine : Routine α} {state : CallState} : Steps types routine state routine state
  | on {routine middle rest : Routine α} {state between after : CallState}
      (answered : next? types routine state = some (middle, between))
      (later : Steps types middle between rest after) : Steps types routine state rest after

theorem perform_next (answered : next? types routine state = some (rest, after)) :
    perform types routine state = perform types rest after := by
  cases routine with
  | done result => cases answered
  | fail fault => cases answered
  | allocate type content next =>
      dsimp only [next?] at answered
      conv =>
        lhs
        unfold perform
      cases allocated : allocate types type content with
      | ok occupant =>
          rw [allocated] at answered
          cases answered
          rfl
      | error fault =>
          rw [allocated] at answered
          cases answered
          rfl
  | _ =>
      cases answered
      rfl

theorem Steps.perform_eq (steps : Steps types routine state rest after) :
    perform types routine state = perform types rest after := by
  induction steps with
  | here => rfl
  | on answered _ ih => exact (perform_next answered).trans ih

theorem sound_next {covenant : Covenant} {total : Multiset Holding}
    (sound : state.Sound covenant total)
    (answered : next? covenant.types routine state = some (rest, after)) :
    after.Sound covenant total := by
  cases routine with
  | done result => cases answered
  | fail fault => cases answered
  | allocate type content next =>
      dsimp only [next?] at answered
      cases allocated : allocate covenant.types type content with
      | ok occupant =>
          rw [allocated] at answered
          cases answered
          exact sound_insert sound (allocate_fits allocated)
      | error fault =>
          rw [allocated] at answered
          cases answered
          exact sound
  | draw sampler next =>
      cases answered
      exact draw_keeps sampler sound
  | _ =>
      cases answered
      exact sound

theorem Steps.sound {covenant : Covenant} {total : Multiset Holding}
    (steps : Steps covenant.types routine state rest after) (sound : state.Sound covenant total) :
    after.Sound covenant total := by
  induction steps with
  | here => exact sound
  | on answered _ ih => exact ih (sound_next sound answered)

end Call
end ScriptHost
