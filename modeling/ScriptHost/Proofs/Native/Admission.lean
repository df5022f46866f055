import ScriptHost.Proofs.Native.Entries

/-!
Which calls of native callables are admitted.

Arguments that can be handed over are admitted by what a callable declares. The number of arguments
comes first. It is wrong if no declaration has as many parameters, and the fault names the number
that there is. After that come the kinds, one argument after the other.
-/

set_option autoImplicit false

namespace ScriptHost

open Script

/-- Whether a function takes arguments of the host. -/
def FunctionDescriptor.check (function : FunctionDescriptor) (arguments : List HostValue) :
    Except Fault Unit :=
  match function.parameters with
  | .fixed kinds => checkArguments function.name kinds arguments
  | .variadic => .ok ()

/-- The numbers of arguments that a function declares. -/
def Parameters.Declares : Parameters → Nat → Prop
  | .fixed kinds, count => count = kinds.length
  | .variadic, _ => True

def Parameters.kinds : Parameters → List Kind
  | .fixed kinds => kinds
  | .variadic => []

theorem checkKinds_nil (arguments : List HostValue) : checkKinds [] arguments = .ok () := by
  unfold checkKinds
  rfl

theorem FunctionDescriptor.check_declared {function : FunctionDescriptor}
    {arguments : List HostValue} (declared : function.parameters.Declares arguments.length) :
    function.check arguments = checkKinds function.parameters.kinds arguments := by
  unfold check
  cases parameters : function.parameters with
  | fixed kinds =>
      rw [parameters] at declared
      exact if_pos declared.symm
  | variadic => exact (checkKinds_nil arguments).symm

theorem FunctionDescriptor.check_undeclared {function : FunctionDescriptor}
    {arguments : List HostValue} (undeclared : ¬ function.parameters.Declares arguments.length) :
    function.check arguments =
      .error (.arityMismatch function.name function.parameters.text arguments.length) := by
  unfold check
  cases parameters : function.parameters with
  | fixed kinds =>
      rw [parameters] at undeclared
      exact if_neg fun same => undeclared same.symm
  | variadic =>
      rw [parameters] at undeclared
      exact absurd trivial undeclared

namespace TypeDescriptor

variable {descriptor : TypeDescriptor} {arguments : List HostValue}

def DeclaresConstructor (descriptor : TypeDescriptor) (count : Nat) : Prop :=
  ∃ constructor ∈ descriptor.constructors, constructor.parameters.length = count

theorem selectConstructor_undeclared
    (undeclared : ¬ descriptor.DeclaresConstructor arguments.length) :
    descriptor.selectConstructor arguments = .error (.arityMismatch descriptor.name
      (choiceText (descriptor.constructors.map fun constructor => constructor.parameters.length))
      arguments.length) := by
  have none : (descriptor.constructors.filter fun constructor =>
      constructor.parameters.length == arguments.length) = [] := by
    rw [List.filter_eq_nil_iff]
    intro constructor member same
    exact undeclared ⟨constructor, member, beq_iff_eq.mp same⟩
  unfold selectConstructor
  rw [none]

theorem count_of_accepting {constructor : Constructor descriptor.type}
    (accepts : descriptor.accepting arguments constructor = true) :
    constructor.parameters.length = arguments.length := by
  unfold accepting checkArguments at accepts
  split at accepts
  · rename_i passed
    by_contra different
    rw [if_neg different] at passed
    cases passed
  · cases accepts

/-- A constructor that accepts the arguments has as many parameters. -/
theorem find?_candidates :
    (descriptor.constructors.filter fun constructor =>
        constructor.parameters.length == arguments.length).find?
      (descriptor.accepting arguments) =
        descriptor.constructors.find? (descriptor.accepting arguments) := by
  rw [List.find?_filter]
  congr 1
  funext constructor
  cases accepts : descriptor.accepting arguments constructor with
  | false => simp
  | true => simp [count_of_accepting accepts]

theorem declares_of_accepting {constructor : Constructor descriptor.type}
    (found : descriptor.constructors.find? (descriptor.accepting arguments) = some constructor) :
    descriptor.DeclaresConstructor arguments.length :=
  ⟨constructor, List.mem_of_find?_eq_some found, count_of_accepting (List.find?_some found)⟩

theorem selectConstructor_accepted {constructor : Constructor descriptor.type}
    (found : descriptor.constructors.find? (descriptor.accepting arguments) = some constructor) :
    descriptor.selectConstructor arguments = .ok constructor := by
  obtain ⟨other, member, count⟩ := declares_of_accepting found
  unfold selectConstructor
  dsimp only
  rw [find?_candidates, found]
  split
  · rename_i none
    have absent := List.filter_eq_nil_iff.mp none other member
    simp [count] at absent
  · rfl

/-- If no constructor accepts them, the fault is what one with as many parameters says of the
kinds. -/
theorem selectConstructor_refused (declared : descriptor.DeclaresConstructor arguments.length)
    (refused : descriptor.constructors.find? (descriptor.accepting arguments) = none) :
    ∃ constructor ∈ descriptor.constructors,
      constructor.parameters.length = arguments.length ∧
      ∃ fault, checkKinds constructor.parameters arguments = .error fault ∧
        descriptor.selectConstructor arguments = .error fault := by
  obtain ⟨other, member, count⟩ := declared
  unfold selectConstructor
  dsimp only
  rw [find?_candidates, refused]
  split
  · rename_i none
    have absent := List.filter_eq_nil_iff.mp none other member
    simp [count] at absent
  · rename_i first rest candidates
    have among : first ∈ descriptor.constructors.filter fun constructor =>
        constructor.parameters.length == arguments.length := by
      rw [candidates]
      exact List.mem_cons_self
    obtain ⟨inside, same⟩ := List.mem_filter.mp among
    have counted := beq_iff_eq.mp same
    have checked : checkArguments descriptor.name first.parameters arguments =
        checkKinds first.parameters arguments := if_pos counted
    have refuses := List.find?_eq_none.mp refused first inside
    refine ⟨first, inside, counted, ?_⟩
    unfold accepting at refuses
    rw [checked] at refuses ⊢
    cases outcome : checkKinds first.parameters arguments with
    | ok _ =>
        rw [outcome] at refuses
        exact absurd rfl refuses
    | error fault => exact ⟨fault, rfl, rfl⟩

variable {name : String}

theorem method_undeclared (undeclared : descriptor.declaresMethod name = false) :
    descriptor.method name = .error (.unknownMethod descriptor.name name) := by
  have absent := (isSome_lastNamed name descriptor.methods).trans undeclared
  unfold method
  rw [Option.isNone_iff_eq_none.mp (Option.isSome_eq_false_iff.mp absent)]

theorem field_undeclared (undeclared : descriptor.declaresField name = false) :
    descriptor.field name = .error (.unknownField descriptor.name name) := by
  have absent := (isSome_lastNamed name descriptor.fields).trans undeclared
  unfold field
  rw [Option.isNone_iff_eq_none.mp (Option.isSome_eq_false_iff.mp absent)]

theorem method_declared (declared : descriptor.declaresMethod name = true) :
    ∃ method, descriptor.method name = .ok method := by
  have present := (isSome_lastNamed name descriptor.methods).trans declared
  obtain ⟨found, last⟩ := Option.isSome_iff_exists.mp present
  refine ⟨found, ?_⟩
  unfold method
  rw [last]

theorem field_declared (declared : descriptor.declaresField name = true) :
    ∃ field, descriptor.field name = .ok field := by
  have present := (isSome_lastNamed name descriptor.fields).trans declared
  obtain ⟨found, last⟩ := Option.isSome_iff_exists.mp present
  refine ⟨found, ?_⟩
  unfold field
  rw [last]

end TypeDescriptor

namespace Call

variable {types : TypeRegistry} {heap : Heap Occupant} {values : List Value}
  {arguments : List HostValue}

theorem check_function (passes : heap.Passes values arguments) (function : FunctionDescriptor) :
    (Request.function function values).check types heap =
      (function.check arguments).map fun _ => .function function arguments := by
  change checkScriptFunction heap function values = _
  unfold checkScriptFunction FunctionDescriptor.check checkArguments Parameters.text
  rw [passes.length_eq]
  cases function.parameters with
  | fixed kinds =>
      dsimp only
      by_cases count : arguments.length = kinds.length
      · rw [if_pos count, if_pos count.symm, marshal_eq passes]
        cases checkKinds kinds arguments <;> rfl
      · rw [if_neg count, if_neg fun same => count same.symm]
        rfl
  | variadic =>
      dsimp only
      rw [marshal_eq passes, checkKinds_nil]
      rfl

theorem check_construct (passes : heap.Passes values arguments) (typeId : TypeId) :
    (Request.construct typeId values).check types heap = checkConstruct types typeId arguments := by
  change marshal heap [] values >>= _ = _
  rw [marshal_eq passes, checkKinds_nil]
  rfl

/-- The type of the receiver has the last word on its methods. -/
theorem check_method_undeclared {reference : Reference} {resident : Resident Occupant}
    {descriptor : TypeDescriptor} {name : String}
    (found : heap.resident? reference.handle = some resident)
    (known : types.get resident.content.typeId = .ok descriptor)
    (undeclared : descriptor.declaresMethod name = false) (values : List Value) :
    (Request.method reference name values).check types heap =
      .error (.unknownMethod descriptor.name name) := by
  have described : described types heap reference.handle = .ok (descriptor, resident.content) := by
    unfold Call.described
    rw [Heap.get_eq_ok_iff.mpr found]
    change types.get resident.content.typeId >>= _ = _
    rw [known]
    rfl
  change checkScriptMethod types heap reference.handle name values = _
  unfold checkScriptMethod
  rw [described]
  change descriptor.method name >>= _ = _
  rw [TypeDescriptor.method_undeclared undeclared]
  rfl

end Call
end ScriptHost
