import ScriptHost.Proofs.Native.Entries
import ScriptHost.Proofs.Native.Renumbering

/-!
How operators are resolved.

An operator runs the first entry that takes its operands in the table of the left operand's type, or
else in that of the right one's. An entry takes operands of the kinds that it declares, and of the
instances those of its own type only. If there is no such entry nothing is run. What the operator
does depends on no other table, and not on the order in which the types have been registered.
-/

set_option autoImplicit false

namespace ScriptHost

open Script

namespace Heap

variable {heap : Heap Occupant} {owner : TypeId} {declared : Kind} {value : HostValue}

/-- The number of the type of an instance. -/
def typeOf? (heap : Heap Occupant) : HostValue → Option TypeId
  | .object handle => (heap.resident? handle).map fun resident => resident.content.typeId
  | _ => none

/-- A value of the kind that an entry of a type declares. An instance has to be one of that type,
whatever the kind. -/
structure Suits (heap : Heap Occupant) (owner : TypeId) (declared : Kind) (value : HostValue) :
    Prop where
  kind : declared.accepts value.kind = true
  owned : ∀ handle, value = .object handle → heap.typeOf? value = some owner

/-- What the resolution of an operator looks at in a value. -/
def face (heap : Heap Occupant) (value : HostValue) : Operand :=
  ⟨value.kind, heap.typeOf? value⟩

theorem fits_face : (heap.face value).fits declared owner = true ↔
    heap.Suits owner declared value := by
  unfold Operand.fits face
  rw [Bool.and_eq_true, Bool.or_eq_true, bne_iff_ne, beq_iff_eq]
  constructor
  · rintro ⟨kind, owned⟩
    refine ⟨kind, fun handle same => owned.resolve_left fun other => other ?_⟩
    rw [same]
    rfl
  · rintro ⟨kind, owned⟩
    refine ⟨kind, ?_⟩
    cases value with
    | object handle => exact .inr (owned handle rfl)
    | _ => exact .inl nofun

theorem operand_eq_face (live : ∀ handle, value = .object handle → heap.contains handle = true) :
    Call.operand heap value = .ok (heap.face value) := by
  cases value with
  | object handle =>
      obtain ⟨resident, found⟩ := contains_iff.mp (live handle rfl)
      unfold Call.operand face typeOf?
      dsimp only
      rw [get_eq_ok_iff.mpr found, found]
      rfl
  | _ => rfl

end Heap

/-- The entry of a type takes the operands of an operator. -/
@[mk_iff]
structure OperatorEntry.Takes (entry : OperatorEntry) (heap : Heap Occupant) (owner : TypeId)
    (operator : Operator) (left : HostValue) (right? : Option HostValue) : Prop where
  operator : entry.operator = operator
  left : heap.Suits owner entry.left left
  right : match entry.right?, right? with
    | some declared, some right => heap.Suits owner declared right
    | none, none => True
    | _, _ => False

/-- The first entry of the table, as it has been declared, that takes the operands. -/
def TypeDescriptor.Chooses (descriptor : TypeDescriptor) (heap : Heap Occupant) (owner : TypeId)
    (operator : Operator) (left : HostValue) (right? : Option HostValue) (entry : OperatorEntry) :
    Prop :=
  ∃ before after, descriptor.operators = before ++ entry :: after ∧
    entry.Takes heap owner operator left right? ∧
    ∀ other ∈ before, ¬ other.Takes heap owner operator left right?

section Resolution

variable {types : TypeRegistry} {heap : Heap Occupant} {owner : TypeId} {operator : Operator}
  {left : HostValue} {right? : Option HostValue} {descriptor : TypeDescriptor}
  {entry : OperatorEntry}

theorem covers_face :
    entry.covers operator owner (heap.face left) (right?.map heap.face) = true ↔
      entry.Takes heap owner operator left right? := by
  unfold OperatorEntry.covers
  rw [Bool.and_eq_true, Bool.and_eq_true, beq_iff_eq, Heap.fits_face]
  rw [OperatorEntry.takes_iff, ← and_assoc]
  apply and_congr_right'
  cases entry.right? with
  | none => cases right? <;> simp
  | some declared =>
      cases right? with
      | none => simp
      | some right => exact Heap.fits_face

theorem operator?_eq_some_iff :
    descriptor.operator? operator owner (heap.face left) (right?.map heap.face) = some entry ↔
      descriptor.Chooses heap owner operator left right? entry := by
  unfold TypeDescriptor.operator?
  rw [List.find?_eq_some_iff_append, covers_face]
  have passed : ∀ other : OperatorEntry,
      (!other.covers operator owner (heap.face left) (right?.map heap.face)) = true ↔
        ¬ other.Takes heap owner operator left right? := by
    intro other
    rw [Bool.not_eq_true', ← Bool.not_eq_true, covers_face]
  simp only [passed]
  constructor
  · rintro ⟨takes, before, after, listed, skipped⟩
    exact ⟨before, after, listed, takes, skipped⟩
  · rintro ⟨before, after, listed, takes, skipped⟩
    exact ⟨takes, before, after, listed, skipped⟩

theorem operator?_eq_none_iff :
    descriptor.operator? operator owner (heap.face left) (right?.map heap.face) = none ↔
      ∀ entry ∈ descriptor.operators, ¬ entry.Takes heap owner operator left right? := by
  unfold TypeDescriptor.operator?
  rw [List.find?_eq_none]
  simp only [covers_face]

/-! ### Resolution -/

/-- The types whose tables are asked, the left operand's first. -/
def Heap.owners (heap : Heap Occupant) (left : HostValue) (right? : Option HostValue) :
    List TypeId :=
  (heap.typeOf? left).toList ++ (right?.bind heap.typeOf?).toList

theorem Heap.owners_face : (heap.face left).typeId?.toList ++
    ((right?.map heap.face).bind Operand.typeId?).toList = heap.owners left right? := by
  unfold owners
  rw [Option.bind_map]
  rfl

/-- The entry that an operator runs. -/
def Call.resolved? (types : TypeRegistry) (heap : Heap Occupant) (operator : Operator)
    (left : HostValue) (right? : Option HostValue) : Option OperatorEntry :=
  (heap.owners left right?).findSome? fun owner =>
    types.types[owner]?.bind fun descriptor =>
      descriptor.operator? operator owner (heap.face left) (right?.map heap.face)

/-- The type that a fault names, the left operand's if it is an instance. -/
def Call.blamed (types : TypeRegistry) (heap : Heap Occupant) (left : HostValue)
    (right? : Option HostValue) : String :=
  match heap.typeOf? left, right?.bind heap.typeOf? with
  | some owner, _ => types.nameOf owner
  | none, some owner => types.nameOf owner
  | none, none => Value.objectTypeName

theorem Call.blamed_eq : blamed types heap left right? =
    (heap.owners left right?).head?.elim Value.objectTypeName types.nameOf := by
  unfold blamed Heap.owners
  cases heap.typeOf? left with
  | some owner => rfl
  | none => cases right?.bind heap.typeOf? <;> rfl

theorem Call.findOperator_eq {leftOperand : Operand} {rightOperand? : Option Operand}
    {owners : List TypeId}
    (known : ∀ owner ∈ owners, ∃ descriptor, types.types[owner]? = some descriptor) :
    findOperator types operator leftOperand rightOperand? owners =
      .ok (owners.head?.bind fun owner => types.types[owner]?,
        owners.findSome? fun owner => types.types[owner]?.bind fun descriptor =>
          descriptor.operator? operator owner leftOperand rightOperand?) := by
  induction owners with
  | nil => rfl
  | cons owner rest ih =>
      obtain ⟨descriptor, found⟩ := known owner List.mem_cons_self
      have got : types.get owner = .ok descriptor := by
        unfold TypeRegistry.get
        rw [found]
      unfold findOperator
      rw [got, List.findSome?_cons, List.head?_cons, Option.bind_some, found, Option.bind_some]
      dsimp only [bind, Except.bind]
      cases descriptor.operator? operator owner leftOperand rightOperand? with
      | some entry => rfl
      | none =>
          dsimp only
          rw [ih fun owner member => known owner (List.mem_cons_of_mem _ member)]
          rfl

/-- Every instance is of a registered type. -/
def Heap.Known (types : TypeRegistry) (heap : Heap Occupant) : Prop :=
  ∀ {value owner}, heap.typeOf? value = some owner →
    ∃ descriptor, types.types[owner]? = some descriptor

theorem Heap.Typed.known (typed : heap.Typed types) : heap.Known types := by
  intro value owner isOf
  cases value with
  | object handle =>
      obtain ⟨resident, found, rfl⟩ := Option.map_eq_some_iff.mp isOf
      obtain ⟨descriptor, known, _⟩ := typed.fits found
      exact ⟨descriptor, known⟩
  | _ => cases isOf

theorem Heap.mem_owners : owner ∈ heap.owners left right? ↔
    ∃ value ∈ left :: right?.toList, heap.typeOf? value = some owner := by
  unfold owners
  rw [List.mem_append, Option.mem_toList, Option.mem_toList, Option.bind_eq_some_iff]
  simp only [List.mem_cons, Option.mem_toList, exists_eq_or_imp]

def Heap.Holds (heap : Heap Occupant) (left : HostValue) (right? : Option HostValue) : Prop :=
  ∀ handle, .object handle ∈ left :: right?.toList → heap.contains handle = true

theorem Heap.Holds.leftFace (holds : heap.Holds left right?) :
    Call.operand heap left = .ok (heap.face left) :=
  operand_eq_face fun handle same => holds handle (same ▸ List.mem_cons_self)

theorem Heap.Holds.rightFace (holds : heap.Holds left right?) :
    right?.mapM (Call.operand heap) = .ok (right?.map heap.face) := by
  cases right? with
  | none => rfl
  | some right =>
      have face : Call.operand heap right = .ok (heap.face right) := by
        apply operand_eq_face
        intro handle same
        exact holds handle (same ▸ List.mem_cons_of_mem _ (List.mem_singleton.mpr rfl))
      change (Call.operand heap right >>= fun face => pure (some face)) = _
      rw [face]
      rfl

/-- An operator runs the entry that is resolved, or is refused with a fault that tells the names of
the operands. -/
theorem Call.checkOperator_eq (known : heap.Known types) (holds : heap.Holds left right?) :
    checkOperator types heap operator left right? =
      match resolved? types heap operator left right? with
      | some entry => .ok (.operator entry left right?)
      | none => .error (.unsupportedOperator (blamed types heap left right?) operator.symbol
          (", ".intercalate ((left :: right?.toList).map (operandName types heap)))) := by
  have listed : ∀ owner ∈ heap.owners left right?, ∃ descriptor,
      types.types[owner]? = some descriptor := by
    intro owner member
    obtain ⟨value, _, isOf⟩ := Heap.mem_owners.mp member
    exact known isOf
  unfold checkOperator
  rw [holds.leftFace, holds.rightFace]
  change (findOperator types operator (heap.face left) (right?.map heap.face)
    ((heap.face left).typeId?.toList ++ ((right?.map heap.face).bind Operand.typeId?).toList) >>=
      _) = _
  rw [Heap.owners_face, findOperator_eq listed]
  unfold resolved?
  generalize (heap.owners left right?).findSome? (fun owner => types.types[owner]?.bind
    fun descriptor => descriptor.operator? operator owner (heap.face left)
      (right?.map heap.face)) = entry?
  cases entry? with
  | some entry => rfl
  | none =>
      rw [blamed_eq]
      cases asked : (heap.owners left right?).head? with
      | none => rfl
      | some owner =>
          obtain ⟨descriptor, found⟩ := listed owner (List.mem_of_head? asked)
          have named : types.nameOf owner = descriptor.name := by
            unfold TypeRegistry.nameOf
            rw [found]
          rw [Option.bind_some, found, Option.elim_some, named]
          rfl

/-- No entry of the type of a value takes the operands. -/
def Call.Passes (types : TypeRegistry) (heap : Heap Occupant) (operator : Operator)
    (left : HostValue) (right? : Option HostValue) (value : HostValue) : Prop :=
  ∀ owner descriptor, heap.typeOf? value = some owner → types.types[owner]? = some descriptor →
    ∀ entry ∈ descriptor.operators, ¬ entry.Takes heap owner operator left right?

/-- An entry is the first one of the type of a value that takes the operands. -/
def Call.Picks (types : TypeRegistry) (heap : Heap Occupant) (operator : Operator)
    (left : HostValue) (right? : Option HostValue) (value : HostValue) (entry : OperatorEntry) :
    Prop :=
  ∃ owner descriptor, heap.typeOf? value = some owner ∧ types.types[owner]? = some descriptor ∧
    descriptor.Chooses heap owner operator left right? entry

namespace Call

def picked? (types : TypeRegistry) (heap : Heap Occupant) (operator : Operator)
    (left : HostValue) (right? : Option HostValue) (value : HostValue) : Option OperatorEntry :=
  (heap.typeOf? value).bind fun owner => types.types[owner]?.bind fun descriptor =>
    descriptor.operator? operator owner (heap.face left) (right?.map heap.face)

theorem picked?_eq_some_iff {value : HostValue} :
    picked? types heap operator left right? value = some entry ↔
      Picks types heap operator left right? value entry := by
  unfold picked? Picks
  simp only [Option.bind_eq_some_iff, operator?_eq_some_iff]
  constructor
  · rintro ⟨owner, isOf, descriptor, known, chosen⟩
    exact ⟨owner, descriptor, isOf, known, chosen⟩
  · rintro ⟨owner, descriptor, isOf, known, chosen⟩
    exact ⟨owner, isOf, descriptor, known, chosen⟩

theorem picked?_eq_none_iff {value : HostValue} :
    picked? types heap operator left right? value = none ↔
      Passes types heap operator left right? value := by
  unfold picked? Passes
  simp only [Option.bind_eq_none_iff, operator?_eq_none_iff]
  constructor
  · intro none owner descriptor isOf known
    exact none owner isOf descriptor known
  · intro none owner isOf descriptor known
    exact none owner descriptor isOf known

theorem resolved?_eq : resolved? types heap operator left right? =
    (picked? types heap operator left right? left).or
      (right?.bind (picked? types heap operator left right?)) := by
  have single : ∀ (owner? : Option TypeId) (ask : TypeId → Option OperatorEntry),
      owner?.toList.findSome? ask = owner?.bind ask := by
    intro owner? ask
    cases owner? with
    | none => rfl
    | some owner => exact (List.findSome?_singleton ..)
  unfold resolved? Heap.owners picked?
  rw [List.findSome?_append, single, single, Option.bind_assoc]

/-- What an operator does. It runs the first entry of the left operand's type that takes the
operands, if there is none the first one of the right operand's type, and if there is none either it
runs nothing. Whatever is run takes the operands. -/
structure Resolves (types : TypeRegistry) (operator : Operator) (left : HostValue)
    (right? : Option HostValue) (state : CallState) : Prop where
  byLeft : ∀ entry, Picks types state.store.heap operator left right? left entry →
    applyOperator types operator left right? state =
      perform types (entry.apply left (right?.getD .null)) state
  byRight : Passes types state.store.heap operator left right? left →
    ∀ right entry, right? = some right →
      Picks types state.store.heap operator left right? right entry →
      applyOperator types operator left right? state =
        perform types (entry.apply left (right?.getD .null)) state
  byNone : Passes types state.store.heap operator left right? left →
    (∀ right, right? = some right →
      Passes types state.store.heap operator left right? right) →
    applyOperator types operator left right? state =
      .error (.unsupportedOperator (blamed types state.store.heap left right?) operator.symbol
        (", ".intercalate
          ((left :: right?.toList).map (operandName types state.store.heap)))) state
  decided : ∀ value, Passes types state.store.heap operator left right? value ∨
    ∃ entry, Picks types state.store.heap operator left right? value entry
  entered : ∀ entered, checkOperator types state.store.heap operator left right? = .ok entered →
    ∃ entry, entered = .operator entry left right? ∧
      ∃ value ∈ left :: right?.toList, Picks types state.store.heap operator left right? value entry

theorem applyOperator_eq {state : CallState} (known : state.store.heap.Known types)
    (holds : state.store.heap.Holds left right?) :
    applyOperator types operator left right? state =
      match (picked? types state.store.heap operator left right? left).or
        (right?.bind (picked? types state.store.heap operator left right?)) with
      | some entry => perform types (entry.apply left (right?.getD .null)) state
      | none => .error (.unsupportedOperator (blamed types state.store.heap left right?)
          operator.symbol (", ".intercalate
            ((left :: right?.toList).map (operandName types state.store.heap)))) state := by
  rw [applyOperator_admitted, checkOperator_eq known holds, resolved?_eq]
  cases (picked? types state.store.heap operator left right? left).or
    (right?.bind (picked? types state.store.heap operator left right?)) with
  | some entry => rfl
  | none => rfl

theorem resolves {state : CallState} (known : state.store.heap.Known types)
    (holds : state.store.heap.Holds left right?) :
    Resolves types operator left right? state := by
  have applied := @applyOperator_eq types operator left right? state known holds
  refine ⟨fun entry picks => ?_, fun passes right entry same picks => ?_,
    fun passes others => ?_, fun value => ?_, fun entered checked => ?_⟩
  · rw [applied, picked?_eq_some_iff.mpr picks]
    rfl
  · rw [applied, picked?_eq_none_iff.mpr passes, Option.none_or]
    subst same
    rw [Option.bind_some, picked?_eq_some_iff.mpr picks]
  · have none : right?.bind (picked? types state.store.heap operator left right?) = none :=
      Option.bind_eq_none_iff.mpr fun right same => picked?_eq_none_iff.mpr (others right same)
    rw [applied, picked?_eq_none_iff.mpr passes, none]
    rfl
  · cases picked : picked? types state.store.heap operator left right? value with
    | none => exact .inl (picked?_eq_none_iff.mp picked)
    | some entry => exact .inr ⟨entry, picked?_eq_some_iff.mp picked⟩
  · rw [checkOperator_eq known holds, resolved?_eq] at checked
    cases first : picked? types state.store.heap operator left right? left with
    | some entry =>
        rw [first] at checked
        cases checked
        exact ⟨entry, rfl, left, List.mem_cons_self, picked?_eq_some_iff.mp first⟩
    | none =>
        rw [first, Option.none_or] at checked
        cases second : right?.bind (picked? types state.store.heap operator left right?) with
        | none =>
            rw [second] at checked
            cases checked
        | some entry =>
            rw [second] at checked
            cases checked
            obtain ⟨right, same, picked⟩ := Option.bind_eq_some_iff.mp second
            refine ⟨entry, rfl, right, ?_, picked?_eq_some_iff.mp picked⟩
            rw [same]
            exact List.mem_cons_of_mem _ (List.mem_singleton.mpr rfl)

/-! ### Other orders of registration -/

end Call

variable {types' : TypeRegistry} {number : TypeId → TypeId}

theorem Heap.typeOf?_renumbered (heap : Heap Occupant) (value : HostValue) :
    (heap.map (Occupant.renumbered number)).typeOf? value = (heap.typeOf? value).map number := by
  cases value with
  | object handle =>
      unfold typeOf?
      dsimp only
      rw [resident?_map]
      cases heap.resident? handle <;> rfl
  | _ => rfl

theorem Heap.holds_renumbered (holds : heap.Holds left right?) :
    (heap.map (Occupant.renumbered number)).Holds left right? := by
  intro handle member
  have live := holds handle member
  unfold contains at live ⊢
  rw [resident?_map, Option.isSome_map]
  exact live

section Renumbered

variable (renumbers : TypeRegistry.Renumbers types types' number) (known : heap.Known types)
include renumbers known

theorem Heap.known_renumbered : (heap.map (Occupant.renumbered number)).Known types' := by
  intro value owner isOf
  rw [typeOf?_renumbered] at isOf
  obtain ⟨earlier, was, rfl⟩ := Option.map_eq_some_iff.mp isOf
  obtain ⟨descriptor, found⟩ := known was
  obtain ⟨other, there, _⟩ := renumbers.there found
  exact ⟨other, there⟩

theorem Heap.suits_renumbered (registered : types.types[owner]? = some descriptor)
    {declared : Kind} {value : HostValue} :
    (heap.map (Occupant.renumbered number)).Suits (number owner) declared value ↔
      heap.Suits owner declared value := by
  have owned : (heap.map (Occupant.renumbered number)).typeOf? value = some (number owner) ↔
      heap.typeOf? value = some owner := by
    rw [typeOf?_renumbered, Option.map_eq_some_iff]
    constructor
    · rintro ⟨typeId, isOf, same⟩
      obtain ⟨other, there⟩ := known isOf
      rw [isOf, renumbers.injective there registered same]
    · intro isOf
      exact ⟨owner, isOf, rfl⟩
  constructor
  · rintro ⟨kind, instances⟩
    exact ⟨kind, fun handle same => owned.mp (instances handle same)⟩
  · rintro ⟨kind, instances⟩
    exact ⟨kind, fun handle same => owned.mpr (instances handle same)⟩

theorem OperatorEntry.takes_renumbered (registered : types.types[owner]? = some descriptor)
    (entry : OperatorEntry) :
    entry.Takes (heap.map (Occupant.renumbered number)) (number owner) operator left right? ↔
      entry.Takes heap owner operator left right? := by
  have suits := fun declared value =>
    @Heap.suits_renumbered types heap owner descriptor types' number renumbers known registered
      declared value
  constructor
  · rintro ⟨same, takesLeft, takesRight⟩
    refine ⟨same, (suits _ _).mp takesLeft, ?_⟩
    split at takesRight
    · exact (suits _ _).mp takesRight
    · trivial
    · exact takesRight
  · rintro ⟨same, takesLeft, takesRight⟩
    refine ⟨same, (suits _ _).mpr takesLeft, ?_⟩
    split at takesRight
    · exact (suits _ _).mpr takesRight
    · trivial
    · exact takesRight

/-- The types of the operands have the operators that they have in the other registry. -/
def TypeRegistry.Agree (types types' : TypeRegistry) (number : TypeId → TypeId)
    (heap : Heap Occupant) (left : HostValue) (right? : Option HostValue) : Prop :=
  ∀ value ∈ left :: right?.toList, ∀ owner descriptor other,
    heap.typeOf? value = some owner → types.types[owner]? = some descriptor →
    types'.types[number owner]? = some other → other.operators = descriptor.operators

omit renumbers known in
theorem TypeRegistry.Agree.tables (agree : types.Agree types' number heap left right?)
    {value : HostValue} (member : value ∈ left :: right?.toList)
    {other : TypeDescriptor} (isOf : heap.typeOf? value = some owner)
    (registered : types.types[owner]? = some descriptor)
    (there : types'.types[number owner]? = some other) :
    other.operators = descriptor.operators :=
  agree value member owner descriptor other isOf registered there

namespace Call

theorem picked?_renumbered (agree : types.Agree types' number heap left right?)
    {value : HostValue} (member : value ∈ left :: right?.toList) :
    picked? types' (heap.map (Occupant.renumbered number)) operator left right? value =
      picked? types heap operator left right? value := by
  unfold picked?
  rw [Heap.typeOf?_renumbered]
  cases isOf : heap.typeOf? value with
  | none => rfl
  | some owner =>
      obtain ⟨descriptor, registered⟩ := known isOf
      obtain ⟨other, there, _⟩ := renumbers.there registered
      rw [Option.map_some, Option.bind_some, Option.bind_some, there, registered,
        Option.bind_some, Option.bind_some]
      unfold TypeDescriptor.operator?
      rw [agree.tables member isOf registered there]
      congr 1
      funext entry
      apply Bool.eq_iff_iff.mpr
      rw [covers_face, covers_face]
      exact OperatorEntry.takes_renumbered renumbers known registered entry

theorem blamed_renumbered (left : HostValue) (right? : Option HostValue) :
    blamed types' (heap.map (Occupant.renumbered number)) left right? =
      blamed types heap left right? := by
  have named : ∀ {value owner}, heap.typeOf? value = some owner →
      types'.nameOf (number owner) = types.nameOf owner := by
    intro value owner isOf
    obtain ⟨descriptor, registered⟩ := known isOf
    exact renumbers.nameOf_eq registered
  unfold blamed
  rw [Heap.typeOf?_renumbered]
  cases leftOf : heap.typeOf? left with
  | some owner => exact named leftOf
  | none =>
      cases right? with
      | none => rfl
      | some right =>
          rw [Option.bind_some, Option.bind_some, Heap.typeOf?_renumbered]
          cases rightOf : heap.typeOf? right with
          | some owner => exact named rightOf
          | none => rfl

omit known in
theorem operandName_renumbered (typed : heap.Typed types) (value : HostValue) :
    operandName types' (heap.map (Occupant.renumbered number)) value =
      operandName types heap value := by
  unfold operandName
  rw [nameType_renumbered renumbers.toEmbeds typed]

omit known in
theorem applyOperator_renumbered {state : CallState} (typed : state.store.heap.Typed types)
    (holds : state.store.heap.Holds left right?)
    (agree : types.Agree types' number state.store.heap left right?) :
    applyOperator types' operator left right? (state.renumbered number) =
      changed (CallState.renumbered number) (applyOperator types operator left right? state) := by
  have known : state.store.heap.Known types := typed.known
  have picked := fun value =>
    @picked?_renumbered types state.store.heap operator left right? types' number renumbers known
      agree value
  have rights : right?.bind (picked? types'
      (state.store.heap.map (Occupant.renumbered number)) operator left right?) =
        right?.bind (picked? types state.store.heap operator left right?) := by
    cases right? with
    | none => rfl
    | some right => exact picked right (List.mem_cons_of_mem _ (List.mem_singleton.mpr rfl))
  have names : (left :: right?.toList).map (operandName types'
      (state.store.heap.map (Occupant.renumbered number))) =
        (left :: right?.toList).map (operandName types state.store.heap) :=
    List.map_congr_left fun value _ => operandName_renumbered renumbers typed value
  have there := @applyOperator_eq types' operator left right? (state.renumbered number)
    (Heap.known_renumbered renumbers known) (Heap.holds_renumbered holds)
  have moved : (state.renumbered number).store.heap =
      state.store.heap.map (Occupant.renumbered number) := rfl
  rw [moved, picked left List.mem_cons_self, rights, names,
    blamed_renumbered renumbers known] at there
  rw [there, applyOperator_eq known holds]
  cases (picked? types state.store.heap operator left right? left).or
    (right?.bind (picked? types state.store.heap operator left right?)) with
  | some entry =>
      exact perform_renumbered renumbers.toEmbeds _
        (Routine.allocatesOnly_of_all renumbers.idOf?_eq _) typed
  | none => rfl

end Call

end Renumbered

/-- With any types registered, an operator is resolved through the tables of its operands' types,
and what it runs takes the operands. If the same types are registered in another order, and with
other tables for types that are not those of the operands, it gives the same result, and the
instances that it leaves are the same but for the numbers of their types. -/
theorem Call.operators_resolve {descriptors : List TypeDescriptor}
    (made : TypeRegistry.ofList descriptors = .ok types) {state : CallState}
    (typed : state.store.heap.Typed types) (holds : state.store.heap.Holds left right?)
    (operator : Operator) :
    Resolves types operator left right? state ∧
      ∀ (others : List TypeDescriptor) (types' : TypeRegistry),
        TypeRegistry.ofList others = .ok types' →
        (descriptors.map TypeDescriptor.identity).Perm (others.map TypeDescriptor.identity) →
        types.Agree types' (types.renumber types') state.store.heap left right? →
        applyOperator types' operator left right? (state.renumbered (types.renumber types')) =
          changed (CallState.renumbered (types.renumber types'))
            (applyOperator types operator left right? state) := by
  refine ⟨resolves typed.known holds, fun others types' made' same agree => ?_⟩
  have renumbers := TypeRegistry.renumbers_of_perm made made' same
  exact applyOperator_renumbered renumbers typed holds agree

theorem TypeRegistry.agree_of_perm {descriptors others : List TypeDescriptor}
    (made : ofList descriptors = .ok types) (made' : ofList others = .ok types')
    (same : descriptors.Perm others) :
    types.Agree types' (types.renumber types') heap left right? := by
  have renumbers := renumbers_of_perm made made' (same.map _)
  obtain ⟨listed, distinct⟩ := ofList_spec made
  obtain ⟨listed', _⟩ := ofList_spec made'
  intro value _ owner descriptor other _ registered there
  obtain ⟨known, knownThere, identity⟩ := renumbers.there registered
  rw [there] at knownThere
  cases knownThere
  have member : other ∈ types.types := by
    rw [← Array.mem_toList_iff, listed]
    apply same.mem_iff.mpr
    rw [← listed', Array.mem_toList_iff]
    exact Array.mem_of_getElem? there
  obtain ⟨typeId, found⟩ := Array.getElem?_of_mem member
  have sameId := distinct _ _ _ _ found registered (congrArg Prod.snd identity)
  rw [sameId, registered] at found
  cases found
  rfl

/-- Whatever is on the left, the sum is what is on the right. -/
def outweighing : OperatorEntry := ⟨.add, .any, some .any, fun _ right => .done right⟩

def weighing : List TypeDescriptor :=
  [.named "Scale" ⟨"Scale", .empty⟩,
    ⟨"Weight", ⟨"Weight", .empty⟩, [], [], [], [outweighing], none⟩]

def weighed : CallState :=
  ⟨⟨(Heap.empty.insert ⟨1, ⟨⟨"Weight", .empty⟩, ()⟩⟩ true).2, .ofSeed 0⟩, #[]⟩

theorem weighing_made : TypeRegistry.ofList weighing = .ok ⟨weighing.toArray⟩ := by
  cbv

theorem weighed_typed : weighed.store.heap.Typed ⟨weighing.toArray⟩ := by
  have empty : Heap.empty.Typed ⟨weighing.toArray⟩ :=
    ⟨Heap.regular_empty, fun {handle resident} found => by
      simp [Heap.resident?, Heap.empty] at found⟩
  exact empty.insert ⟨_, rfl, rfl⟩ true

/-- What is added to a weight gives the weight, in whatever order the two types are registered. -/
theorem weight_outweighs :
    Call.applyOperator ⟨weighing.toArray⟩ .add (.boolean true) (some (.object ⟨0, 0⟩)) weighed =
        .ok (.object ⟨0, 0⟩) weighed ∧
      ∃ number, number 1 = 0 ∧
        Call.applyOperator ⟨weighing.reverse.toArray⟩ .add (.boolean true)
            (some (.object ⟨0, 0⟩)) (weighed.renumbered number) =
          .ok (.object ⟨0, 0⟩) (weighed.renumbered number) := by
  have holds : weighed.store.heap.Holds (.boolean true) (some (.object ⟨0, 0⟩)) := by
    intro handle member
    rcases List.mem_pair.mp member with other | same
    · cases other
    · cases same
      rfl
  obtain ⟨resolves, orders⟩ := Call.operators_resolve weighing_made weighed_typed holds .add
  have first : Call.applyOperator ⟨weighing.toArray⟩ .add (.boolean true)
      (some (.object ⟨0, 0⟩)) weighed = .ok (.object ⟨0, 0⟩) weighed := by
    refine resolves.byRight (fun _ _ isOf => nomatch isOf) (.object ⟨0, 0⟩) outweighing rfl ?_
    exact ⟨1, _, rfl, rfl, [], [], rfl, ⟨rfl, ⟨rfl, nofun⟩, ⟨rfl, fun _ _ => rfl⟩⟩, nofun⟩
  have made : TypeRegistry.ofList weighing.reverse = .ok ⟨weighing.reverse.toArray⟩ := by cbv
  have reversed : weighing.Perm weighing.reverse := (List.reverse_perm _).symm
  have other := orders _ _ made (reversed.map _)
    (TypeRegistry.agree_of_perm weighing_made made reversed)
  rw [first] at other
  exact ⟨first, _, by cbv, other⟩

end Resolution
end ScriptHost
