import Mathlib.Data.List.Nodup
import Mathlib.Data.List.Perm.Basic
import ScriptHost.Proofs.Native.Typing

/-!
Registries that number the same types differently, and registries that grow.

Types are numbered in the order of their registration, and an instance is stored under the number of
its type. So where the same types are registered in another order, the heap has other numbers in it.
Nothing else is different: a routine gives the same result, and what it leaves is the same but for
the numbers. Nor does a routine do anything else where there are more types, unless it allocates
instances of these.
-/

set_option autoImplicit false

namespace ScriptHost

variable {α β : Type}

/-- What a type is known by to everybody. -/
def TypeDescriptor.identity (descriptor : TypeDescriptor) : String × HostType :=
  (descriptor.name, descriptor.type)

namespace TypeRegistry

variable {types types' : TypeRegistry} {typeId : TypeId} {descriptor : TypeDescriptor}

def ofList (descriptors : List TypeDescriptor) : Except Fault TypeRegistry :=
  descriptors.foldlM register .empty

theorem register_eq_ok (registered : types.register descriptor = .ok types') :
    types'.types = types.types.push descriptor := by
  unfold register at registered
  split at registered
  · cases registered
  · injection registered with same
    rw [← same]

theorem ofList_spec {descriptors : List TypeDescriptor} (made : ofList descriptors = .ok types) :
    types.types.toList = descriptors ∧ types.Distinct := by
  suffices later : ∀ (earlier : TypeRegistry), earlier.Distinct →
      descriptors.foldlM register earlier = .ok types →
      types.types.toList = earlier.types.toList ++ descriptors ∧ types.Distinct from
    later .empty distinct_empty made
  clear made
  induction descriptors with
  | nil =>
      intro earlier distinct made
      cases made
      exact ⟨(List.append_nil _).symm, distinct⟩
  | cons descriptor rest ih =>
      intro earlier distinct made
      rw [List.foldlM_cons] at made
      cases registered : earlier.register descriptor with
      | error fault =>
          rw [registered] at made
          cases made
      | ok between =>
          rw [registered] at made
          obtain ⟨listed, later⟩ := ih between (distinct.register registered) made
          refine ⟨?_, later⟩
          rw [listed, register_eq_ok registered, Array.toList_push, List.append_assoc]
          rfl

/-- The number of a type in another registry. -/
def renumber (types types' : TypeRegistry) (typeId : TypeId) : TypeId :=
  (types.types[typeId]?.bind fun descriptor => types'.idOf? descriptor.type).getD typeId

/-- A registry whose types, if for their tables, another one has too, under numbers of its own. -/
structure Embeds (types types' : TypeRegistry) (number : TypeId → TypeId) : Prop where
  there : ∀ {typeId : TypeId} {descriptor : TypeDescriptor},
    types.types[typeId]? = some descriptor →
    ∃ other, types'.types[number typeId]? = some other ∧ other.identity = descriptor.identity
  distinct : types.Distinct
  distinct' : types'.Distinct

/-- Registries that have the same types, if for their tables, under numbers of their own. -/
structure Renumbers (types types' : TypeRegistry) (number : TypeId → TypeId) : Prop extends
    Embeds types types' number where
  back : ∀ {typeId : TypeId} {other : TypeDescriptor}, types'.types[typeId]? = some other →
    ∃ (earlier : TypeId) (descriptor : TypeDescriptor),
      types.types[earlier]? = some descriptor ∧ descriptor.identity = other.identity

theorem renumbers_of_perm {first second : List TypeDescriptor}
    (made : ofList first = .ok types) (made' : ofList second = .ok types')
    (same : (first.map TypeDescriptor.identity).Perm (second.map TypeDescriptor.identity)) :
    Renumbers types types' (types.renumber types') := by
  obtain ⟨listed, distinct⟩ := ofList_spec made
  obtain ⟨listed', distinct'⟩ := ofList_spec made'
  have among : ∀ {registry : TypeRegistry} {descriptors : List TypeDescriptor} {identity},
      registry.types.toList = descriptors → identity ∈ descriptors.map TypeDescriptor.identity →
      ∃ (typeId : TypeId) (descriptor : TypeDescriptor),
        registry.types[typeId]? = some descriptor ∧ descriptor.identity = identity := by
    intro registry descriptors identity listed member
    obtain ⟨descriptor, inside, isIt⟩ := List.mem_map.mp member
    rw [← listed, Array.mem_toList_iff] at inside
    obtain ⟨typeId, found⟩ := Array.getElem?_of_mem inside
    exact ⟨typeId, descriptor, found, isIt⟩
  have named : ∀ {registry : TypeRegistry} {descriptors : List TypeDescriptor} {typeId : TypeId}
      {descriptor : TypeDescriptor}, registry.types.toList = descriptors →
      registry.types[typeId]? = some descriptor →
      descriptor.identity ∈ descriptors.map TypeDescriptor.identity := by
    intro registry descriptors typeId descriptor listed found
    rw [← listed]
    exact List.mem_map_of_mem (Array.mem_toList_iff.mpr (Array.mem_of_getElem? found))
  refine ⟨⟨fun {typeId descriptor} found => ?_, distinct, distinct'⟩, fun found => ?_⟩
  · obtain ⟨number, other, known, isIt⟩ := among listed' (same.mem_iff.mp (named listed found))
    have sameType : other.type = descriptor.type := congrArg Prod.snd isIt
    refine ⟨other, ?_, isIt⟩
    unfold renumber
    rw [found, Option.bind_some, ← sameType, distinct'.idOf?_eq known, Option.getD_some]
    exact known
  · exact among listed (same.mem_iff.mpr (named listed' found))

namespace Embeds

variable {number : TypeId → TypeId} (embeds : Embeds types types' number)
include embeds

theorem idOf?_of_some {type : HostType} (found : types.idOf? type = some typeId) :
    types'.idOf? type = some (number typeId) := by
  obtain ⟨descriptor, known, rfl⟩ := type_of_idOf? found
  obtain ⟨other, renumbered, same⟩ := embeds.there known
  have sameType : other.type = descriptor.type := congrArg Prod.snd same
  rw [← sameType]
  exact embeds.distinct'.idOf?_eq renumbered

theorem idOf?_iff (known : types.types[typeId]? = some descriptor) (type : HostType) :
    types'.idOf? type = some (number typeId) ↔ types.idOf? type = some typeId := by
  refine ⟨fun found => ?_, embeds.idOf?_of_some⟩
  obtain ⟨other, renumbered, rfl⟩ := type_of_idOf? found
  obtain ⟨same, there, identity⟩ := embeds.there known
  rw [renumbered] at there
  cases there
  have sameType : other.type = descriptor.type := congrArg Prod.snd identity
  rw [sameType]
  exact embeds.distinct.idOf?_eq known

theorem nameOf_eq (known : types.types[typeId]? = some descriptor) :
    types'.nameOf (number typeId) = types.nameOf typeId := by
  obtain ⟨other, renumbered, same⟩ := embeds.there known
  unfold nameOf
  rw [renumbered, known]
  exact congrArg Prod.fst same

theorem injective {first second : TypeId} {left right : TypeDescriptor}
    (leftKnown : types.types[first]? = some left) (rightKnown : types.types[second]? = some right)
    (same : number first = number second) : first = second := by
  obtain ⟨leftOther, leftThere, leftSame⟩ := embeds.there leftKnown
  obtain ⟨rightOther, rightThere, rightSame⟩ := embeds.there rightKnown
  rw [same, rightThere] at leftThere
  cases leftThere
  have sameType := congrArg Prod.snd (leftSame.symm.trans rightSame)
  exact embeds.distinct _ _ _ _ leftKnown rightKnown sameType

end Embeds

theorem Renumbers.idOf?_eq {number : TypeId → TypeId} (renumbers : Renumbers types types' number)
    (type : HostType) : types'.idOf? type = (types.idOf? type).map number := by
  cases found : types.idOf? type with
  | some typeId => exact renumbers.idOf?_of_some found
  | none =>
      cases missing : types'.idOf? type with
      | none => rfl
      | some typeId =>
          obtain ⟨other, known, rfl⟩ := type_of_idOf? missing
          obtain ⟨earlier, descriptor, there, same⟩ := renumbers.back known
          have sameType : descriptor.type = other.type := congrArg Prod.snd same
          obtain ⟨typeId, taken⟩ := exists_idOf? there
          rw [sameType, found] at taken
          cases taken

end TypeRegistry

def Resident.map (change : α → β) (resident : Resident α) : Resident β :=
  ⟨change resident.content, resident.pinned, resident.anchors⟩

def Slot.map (change : α → β) (slot : Slot α) : Slot β :=
  ⟨slot.generation, slot.resident?.map (Resident.map change)⟩

namespace Heap

def map (change : α → β) (heap : Heap α) : Heap β :=
  ⟨heap.slots.map (Slot.map change), heap.free, heap.live, heap.released⟩

theorem resident?_map (change : α → β) (heap : Heap α) (handle : Handle) :
    (heap.map change).resident? handle = (heap.resident? handle).map (Resident.map change) := by
  unfold resident? map
  rw [Array.getElem?_map]
  cases heap.slots[handle.index]? with
  | none => rfl
  | some slot =>
      dsimp only [Option.map_some, Slot.map]
      split
      · rfl
      · rfl

theorem insert_map (change : α → β) (heap : Heap α) (content : α) (pinned : Bool) :
    (heap.map change).insert (change content) pinned =
      ((heap.insert content pinned).1, (heap.insert content pinned).2.map change) := by
  obtain ⟨slots, free, live, released⟩ := heap
  cases free with
  | nil =>
      unfold insert map
      dsimp only
      rw [Array.size_map, Array.map_push]
      rfl
  | cons index free =>
      have settled : (slots.map (Slot.map change)).modify index
          (fun slot => ⟨slot.generation, some ⟨change content, pinned, 0⟩⟩) =
            (slots.modify index fun slot => ⟨slot.generation, some ⟨content, pinned, 0⟩⟩).map
              (Slot.map change) := by
        apply Array.ext_getElem?
        intro other
        rw [Array.getElem?_modify, Array.getElem?_map, Array.getElem?_map, Array.getElem?_modify]
        split
        · rw [Option.map_map, Option.map_map]
          rfl
        · rfl
      unfold insert map
      dsimp only
      rw [settled, Array.getElem?_map]
      cases slots[index]? with
      | none => rfl
      | some slot => rfl

/-- A heap of instances of registered types. -/
structure Typed (types : TypeRegistry) (heap : Heap Occupant) : Prop where
  regular : heap.Regular
  fits : ∀ {handle resident}, heap.resident? handle = some resident → resident.content.Fits types

theorem Typed.insert {types : TypeRegistry} {heap : Heap Occupant} (typed : heap.Typed types)
    {occupant : Occupant} (fits : occupant.Fits types) (pinned : Bool) :
    (heap.insert occupant pinned).2.Typed types := by
  refine ⟨typed.regular.insert occupant pinned, fun {handle resident} found => ?_⟩
  rw [resident?_insert typed.regular] at found
  split at found
  · cases found
    exact fits
  · exact typed.fits found

end Heap

/-- Whatever a routine may allocate is of types like these. -/
def Routine.AllocatesOnly (allowed : HostType → Prop) : Routine α → Prop
  | .done _ | .fail _ => True
  | .allocate type _ next => allowed type ∧ ∀ answer, (next answer).AllocatesOnly allowed
  | .read _ _ next => ∀ answer, (next answer).AllocatesOnly allowed
  | .recognise _ _ next => ∀ answer, (next answer).AllocatesOnly allowed
  | .nameType _ next => ∀ answer, (next answer).AllocatesOnly allowed
  | .countLive next => ∀ answer, (next answer).AllocatesOnly allowed
  | .draw _ next => ∀ answer, (next answer).AllocatesOnly allowed

theorem Routine.AllocatesOnly.mono {allowed others : HostType → Prop} {routine : Routine α}
    (only : routine.AllocatesOnly allowed) (weaker : ∀ type, allowed type → others type) :
    routine.AllocatesOnly others := by
  induction routine with
  | done _ | fail _ => trivial
  | allocate type content next ih =>
      exact ⟨weaker type only.1, fun answer => ih answer (only.2 answer)⟩
  | read _ _ _ ih | recognise _ _ _ ih | nameType _ _ ih | countLive _ ih | draw _ _ ih =>
      exact fun answer => ih answer (only answer)

theorem Routine.allocatesOnly_of_all {allowed : HostType → Prop} (all : ∀ type, allowed type)
    (routine : Routine α) : routine.AllocatesOnly allowed := by
  induction routine with
  | done _ | fail _ => trivial
  | allocate type content next ih => exact ⟨all type, ih⟩
  | read _ _ _ ih | recognise _ _ _ ih | nameType _ _ ih | countLive _ ih | draw _ _ ih => exact ih

def Occupant.renumbered (number : TypeId → TypeId) (occupant : Occupant) : Occupant :=
  ⟨number occupant.typeId, occupant.body⟩

def CallState.renumbered (number : TypeId → TypeId) (state : CallState) : CallState :=
  ⟨⟨state.store.heap.map (Occupant.renumbered number), state.store.generator⟩, state.fresh⟩

theorem CallState.renumbered_id (state : CallState) : state.renumbered id = state := by
  have occupant : Occupant.renumbered id = id := rfl
  have resident : (Resident.map id : Resident Occupant → Resident Occupant) = id := rfl
  have slot : (Slot.map id : Slot Occupant → Slot Occupant) = id := by
    funext slot
    unfold Slot.map
    rw [resident, Option.map_id]
    rfl
  unfold CallState.renumbered Heap.map
  rw [occupant, slot, Array.map_id]

namespace Call

variable {types types' : TypeRegistry} {number : TypeId → TypeId} {heap : Heap Occupant}
  (embeds : TypeRegistry.Embeds types types' number)

theorem get_renumbered (heap : Heap Occupant) (handle : Handle) :
    (heap.map (Occupant.renumbered number)).get handle =
      (heap.get handle).map (Resident.map (Occupant.renumbered number)) := by
  unfold Heap.get
  rw [Heap.resident?_map]
  cases heap.resident? handle <;> rfl

theorem draw_heap (sampler : Sampler) (state : CallState) :
    (draw sampler state).2.store.heap = state.store.heap := by
  unfold draw
  split
  · rfl
  · rfl

theorem draw_renumbered (sampler : Sampler) (state : CallState) :
    draw sampler (state.renumbered number) =
      ((draw sampler state).1, (draw sampler state).2.renumbered number) := by
  have same : (state.renumbered number).store.generator = state.store.generator := rfl
  unfold draw
  rw [same]
  cases sampler.sample state.store.generator with
  | error fault => rfl
  | ok drawn => rfl

theorem allocate_renumbered {type : HostType}
    (agreed : types'.idOf? type = (types.idOf? type).map number) (content : type.Content) :
    allocate types' type content =
      (allocate types type content).map (Occupant.renumbered number) := by
  unfold allocate
  rw [agreed]
  cases types.idOf? type <;> rfl

include embeds

theorem read_renumbered (typed : heap.Typed types) (type : HostType) (handle : Handle) :
    read types' type handle (heap.map (Occupant.renumbered number)) =
      read types type handle heap := by
  unfold read
  rw [get_renumbered]
  cases got : heap.get handle with
  | error fault => rfl
  | ok resident =>
      obtain ⟨descriptor, known, _⟩ := typed.fits (Heap.get_eq_ok_iff.mp got)
      have asked := embeds.idOf?_iff known type
      change (if types'.idOf? type = some (number resident.content.typeId) then _ else _) =
        if types.idOf? type = some resident.content.typeId then _ else _
      by_cases same : types.idOf? type = some resident.content.typeId
      · rw [if_pos same, if_pos (asked.mpr same)]
        rfl
      · rw [if_neg same, if_neg fun other => same (asked.mp other)]
        exact congrArg (fun name => Except.error (Fault.typeMismatch .object name))
          (embeds.nameOf_eq known)

omit embeds in
theorem recognise_iff {type : HostType} {handle : Handle} {resident : Resident Occupant}
    (found : heap.resident? handle = some resident) :
    recognise types type heap (.object handle) = true ↔
      types.idOf? type = some resident.content.typeId := by
  unfold recognise
  dsimp only
  rw [found]
  cases types.idOf? type with
  | none => simp
  | some expected => simp

theorem recognise_renumbered (typed : heap.Typed types) (type : HostType) (value : HostValue) :
    recognise types' type (heap.map (Occupant.renumbered number)) value =
      recognise types type heap value := by
  cases value with
  | object handle =>
      have moved := Heap.resident?_map (Occupant.renumbered number) heap handle
      cases found : heap.resident? handle with
      | none =>
          rw [found] at moved
          unfold recognise
          dsimp only
          rw [moved, found]
          cases types.idOf? type <;> cases types'.idOf? type <;> rfl
      | some resident =>
          obtain ⟨descriptor, known, _⟩ := typed.fits found
          rw [found] at moved
          apply Bool.eq_iff_iff.mpr
          rw [recognise_iff moved, recognise_iff found]
          exact embeds.idOf?_iff known type
  | _ => rfl

theorem nameType_renumbered (typed : heap.Typed types) (value : HostValue) :
    nameType types' (heap.map (Occupant.renumbered number)) value =
      nameType types heap value := by
  unfold nameType
  cases value.asObject with
  | error fault => rfl
  | ok handle =>
      change ((heap.map (Occupant.renumbered number)).get handle >>= _) = (heap.get handle >>= _)
      rw [get_renumbered]
      cases got : heap.get handle with
      | error fault => rfl
      | ok resident =>
          obtain ⟨descriptor, known, _⟩ := typed.fits (Heap.get_eq_ok_iff.mp got)
          exact congrArg Except.ok (embeds.nameOf_eq known)

/-- A routine does the same with both registries, if they agree on what it allocates. -/
theorem perform_renumbered (routine : Routine α)
    (agreed : routine.AllocatesOnly fun type =>
      types'.idOf? type = (types.idOf? type).map number) {state : CallState}
    (typed : state.store.heap.Typed types) :
    perform types' routine (state.renumbered number) =
      changed (CallState.renumbered number) (perform types routine state) := by
  induction routine generalizing state with
  | done result => rfl
  | fail fault => rfl
  | allocate type content next ih =>
      unfold perform
      rw [allocate_renumbered agreed.1]
      cases allocated : allocate types type content with
      | error fault => exact ih _ (agreed.2 _) typed
      | ok occupant =>
          have inserted := Heap.insert_map (Occupant.renumbered number) state.store.heap occupant
            false
          let insertion := (state.store.heap.map (Occupant.renumbered number)).insert
            (occupant.renumbered number) false
          change perform types' (next (.ok (.object insertion.1)))
            ⟨⟨insertion.2, state.store.generator⟩, state.fresh.push insertion.1⟩ = _
          rw [show insertion = _ from inserted]
          exact @ih _ (agreed.2 _)
            ⟨⟨(state.store.heap.insert occupant false).2, state.store.generator⟩,
              state.fresh.push (state.store.heap.insert occupant false).1⟩
            (typed.insert (allocate_fits allocated) false)
  | read type value next ih =>
      have same : (value.asObject >>= fun handle => read types' type handle
          (state.store.heap.map (Occupant.renumbered number))) =
            value.asObject >>= fun handle => read types type handle state.store.heap := by
        cases value.asObject with
        | error fault => rfl
        | ok handle => exact read_renumbered embeds typed type handle
      unfold perform
      change perform types' (next (value.asObject >>= fun handle => read types' type handle
        (state.store.heap.map (Occupant.renumbered number)))) _ = _
      rw [same]
      exact ih _ (agreed _) typed
  | recognise type value next ih =>
      unfold perform
      change perform types' (next (recognise types' type
        (state.store.heap.map (Occupant.renumbered number)) value)) _ = _
      rw [recognise_renumbered embeds typed]
      exact ih _ (agreed _) typed
  | nameType value next ih =>
      unfold perform
      change perform types' (next (nameType types'
        (state.store.heap.map (Occupant.renumbered number)) value)) _ = _
      rw [nameType_renumbered embeds typed]
      exact ih _ (agreed _) typed
  | countLive next ih => exact ih _ (agreed _) typed
  | draw sampler next ih =>
      unfold perform
      rw [draw_renumbered]
      exact ih _ (agreed _) ((draw_heap sampler state).symm ▸ typed)

end Call

namespace TypeRegistry.ExtendsTo

variable {types later : TypeRegistry} (grows : types.ExtendsTo later)
include grows

theorem get_eq {typeId : TypeId} {descriptor : TypeDescriptor}
    (known : types.get typeId = .ok descriptor) : later.get typeId = .ok descriptor := by
  unfold get
  rw [grows _ _ (get_eq_ok known)]

theorem any {check : TypeDescriptor → Bool} (found : types.types.any check = true) :
    later.types.any check = true := by
  obtain ⟨descriptor, member, checks⟩ := Array.any_eq_true'.mp found
  obtain ⟨typeId, known⟩ := Array.getElem?_of_mem member
  exact Array.any_eq_true'.mpr
    ⟨descriptor, Array.mem_of_getElem? (grows _ _ known), checks⟩

theorem embeds (distinct : types.Distinct) (distinct' : later.Distinct) :
    types.Embeds later id :=
  ⟨fun known => ⟨_, grows _ _ known, rfl⟩, distinct, distinct'⟩

theorem perform_eq (distinct : types.Distinct) (distinct' : later.Distinct) (routine : Routine α)
    (only : routine.AllocatesOnly fun type => (types.idOf? type).isSome = true)
    {state : CallState} (typed : state.store.heap.Typed types) :
    Call.perform later routine state = Call.perform types routine state := by
  have embeds := grows.embeds distinct distinct'
  have agreed : routine.AllocatesOnly fun type =>
      later.idOf? type = (types.idOf? type).map id := by
    refine only.mono fun type known => ?_
    obtain ⟨typeId, found⟩ := Option.isSome_iff_exists.mp known
    rw [found]
    exact embeds.idOf?_of_some found
  have same := Call.perform_renumbered embeds routine agreed typed
  rw [state.renumbered_id] at same
  rw [same]
  cases Call.perform types routine state with
  | ok result after => exact congrArg _ after.renumbered_id
  | error fault after => exact congrArg _ after.renumbered_id

end TypeRegistry.ExtendsTo
end ScriptHost
