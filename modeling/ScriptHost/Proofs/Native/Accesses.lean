import ScriptHost.Proofs.Native.Admission
import ScriptHost.Proofs.Native.Renumbering
import ScriptHost.Proofs.Native.Writes

/-!
Accesses to the members of an instance.

Many types may have members of one name, and a request for a member does not say which type it is
for. The table of the instance's own type answers it: if the type declares the member, the answer is
this member's, and if not, it is that this type has none. What other types are registered, and in
which order, makes no difference, nor do types that come later.
-/

set_option autoImplicit false

namespace ScriptHost

open Script

/-- Whether a fault is that a type has no member of a name. -/
def Fault.isMissing : Fault → Bool
  | .unknownMethod _ _ | .unknownField _ _ => true
  | _ => false

theorem Script.Value.toHost_present {value : Value} {heap : Heap Occupant} {kind : Kind}
    {fault : Fault} (refused : value.toHost heap kind = .error fault) :
    fault.isMissing = false := by
  unfold toHost at refused
  split at refused
  · cases refused
    rfl
  · split at refused
    · split at refused
      · split at refused
        · cases refused
        · cases refused
          rfl
      · cases refused
    · cases refused
      rfl

theorem HostValue.expectKind_present {value : HostValue} {kind : Kind} {fault : Fault}
    (refused : value.expectKind kind = .error fault) : fault.isMissing = false := by
  unfold expectKind at refused
  split at refused
  · cases refused
  · cases refused
    rfl

theorem checkKinds_present {kinds : List Kind} {arguments : List HostValue} {fault : Fault}
    (refused : checkKinds kinds arguments = .error fault) : fault.isMissing = false := by
  induction kinds generalizing arguments with
  | nil =>
      rw [checkKinds_nil] at refused
      cases refused
  | cons kind kinds ih =>
      cases arguments with
      | nil => cases refused
      | cons argument arguments =>
          rcases Call.of_bind_error refused with first | ⟨_, _, rest⟩
          · exact HostValue.expectKind_present first
          · exact ih rest

theorem checkArguments_present {callable : String} {kinds : List Kind}
    {arguments : List HostValue} {fault : Fault}
    (refused : checkArguments callable kinds arguments = .error fault) :
    fault.isMissing = false := by
  unfold checkArguments at refused
  split at refused
  · exact checkKinds_present refused
  · cases refused
    rfl

namespace Call

theorem marshal_present {heap : Heap Occupant} {kinds : List Kind} {values : List Value}
    {fault : Fault} (refused : marshal heap kinds values = .error fault) :
    fault.isMissing = false := by
  induction values generalizing kinds with
  | nil => cases kinds <;> cases refused
  | cons value values ih =>
      have parts : ∃ kind rest, value.toHost heap kind = .error fault ∨
          marshal heap rest values = .error fault := by
        cases kinds with
        | nil =>
            refine ⟨.any, [], (of_bind_error refused).imp_right ?_⟩
            rintro ⟨_, _, later⟩
            exact of_map_error later
        | cons kind kinds =>
            refine ⟨kind, kinds, (of_bind_error refused).imp_right ?_⟩
            rintro ⟨_, _, later⟩
            exact of_map_error later
      obtain ⟨kind, rest, first | later⟩ := parts
      · exact Value.toHost_present first
      · exact ih later

/-- What a script does with a member of an instance. -/
inductive Access where
  | method (arguments : List Value)
  | read
  | write (value : Value)

/-- A body that the table of a type has under a name. -/
inductive Entry.OwnedBy (descriptor : TypeDescriptor) (name : String) : Entry → Prop
  | method {method : Method descriptor.type} (found : descriptor.method name = .ok method)
      (receiver : Handle) (content : descriptor.type.Content) (arguments : List HostValue) :
      OwnedBy descriptor name (.method receiver descriptor method content arguments)
  | read {field : Field descriptor.type} (found : descriptor.field name = .ok field)
      (owner : Handle) (content : descriptor.type.Content) :
      OwnedBy descriptor name (.read owner descriptor field content)
  | write {field : Field descriptor.type}
      {change : descriptor.type.Content → HostValue → descriptor.type.Content × Except Fault Unit}
      (found : descriptor.field name = .ok field) (writes : field.write? = some change)
      (owner : Handle) (typeId : TypeId) (content : descriptor.type.Content) (value : HostValue) :
      OwnedBy descriptor name (.write owner typeId descriptor change content value)

/-- Whatever the body may allocate is of types like these. -/
def Entry.AllocatesOnly (allowed : HostType → Prop) : Entry → Prop
  | construct _ _ constructor arguments => (constructor.build arguments).AllocatesOnly allowed
  | method _ _ called content arguments => (called.call content arguments).AllocatesOnly allowed
  | read _ _ _ _ | write _ _ _ _ _ _ => True
  | operator entry left right? => (entry.apply left (right?.getD .null)).AllocatesOnly allowed
  | function called arguments => (called.body arguments).AllocatesOnly allowed

namespace Access

variable {types : TypeRegistry} {heap : Heap Occupant} {owner : Reference} {name : String}
  {descriptor : TypeDescriptor} {content : descriptor.type.Content} {occupant : Occupant}
  {access : Access}

def request (owner : Reference) (name : String) : Access → Request
  | method arguments => .method owner name arguments
  | read => .read owner name
  | write value => .write owner name value

def isDeclared (descriptor : TypeDescriptor) (name : String) : Access → Bool
  | method _ => descriptor.declaresMethod name
  | read | write _ => descriptor.declaresField name

/-- The fault of a type that has no member of the name. -/
def missing (typeName name : String) : Access → Fault
  | method _ => .unknownMethod typeName name
  | read | write _ => .unknownField typeName name

/-- What the table of a type says of an access to an instance of it. Nothing else is asked but for
whether the instances that are handed over are live. -/
def answer (heap : Heap Occupant) (owner : Reference) (descriptor : TypeDescriptor)
    (content : descriptor.type.Content) (name : String) : Access → Except Fault Entry
  | method arguments => do
      let method ← descriptor.method name
      let given ← marshal heap method.parameters arguments
      checkArguments (descriptor.name ++ "." ++ name) method.parameters given
      return .method owner.handle descriptor method content given
  | read => do
      let field ← descriptor.field name
      return .read owner.handle descriptor field content
  | write value => do
      let field ← descriptor.field name
      let given ← value.toHost heap field.kind
      match field.write? with
      | none => .error (.unknownField descriptor.name (name ++ " (read-only)"))
      | some change => do
          given.expectKind field.kind
          return .write owner.handle owner.typeId descriptor change content given

theorem answer_undeclared (undeclared : access.isDeclared descriptor name = false) :
    access.answer heap owner descriptor content name =
      .error (access.missing descriptor.name name) := by
  cases access with
  | method arguments =>
      unfold answer
      rw [TypeDescriptor.method_undeclared undeclared]
      rfl
  | read =>
      unfold answer
      rw [TypeDescriptor.field_undeclared undeclared]
      rfl
  | write value =>
      unfold answer
      rw [TypeDescriptor.field_undeclared undeclared]
      rfl

/-- Of a member that it has, a type never says that it is missing. -/
theorem answer_declared {fault : Fault} (declared : access.isDeclared descriptor name = true)
    (refused : access.answer heap owner descriptor content name = .error fault) :
    fault ≠ access.missing descriptor.name name := by
  cases access with
  | method arguments =>
      obtain ⟨called, found⟩ := TypeDescriptor.method_declared declared
      have present : fault.isMissing = false := by
        unfold answer at refused
        rw [found] at refused
        change marshal heap called.parameters arguments >>= _ = _ at refused
        rcases of_bind_error refused with marshalled | ⟨given, _, checked⟩
        · exact marshal_present marshalled
        · exact checkArguments_present (of_map_error checked)
      rintro rfl
      cases present
  | read =>
      obtain ⟨field, found⟩ := TypeDescriptor.field_declared declared
      unfold answer at refused
      rw [found] at refused
      cases refused
  | write value =>
      obtain ⟨field, found⟩ := TypeDescriptor.field_declared declared
      unfold answer at refused
      rw [found] at refused
      change value.toHost heap field.kind >>= _ = _ at refused
      rintro rfl
      rcases of_bind_error refused with crossed | ⟨given, _, checked⟩
      · exact nomatch Value.toHost_present crossed
      · cases writes : field.write? with
        | none =>
            -- The fault of a read-only field has a longer name in it.
            rw [writes] at checked
            injection checked with same
            injection same with _ longer
            have lengths := congrArg String.length longer
            rw [String.length_append] at lengths
            have some : " (read-only)".length = 12 := rfl
            omega
        | some change =>
            rw [writes] at checked
            exact nomatch HostValue.expectKind_present (of_map_error checked)

theorem answer_missing_iff :
    access.answer heap owner descriptor content name =
        .error (access.missing descriptor.name name) ↔
      access.isDeclared descriptor name = false := by
  refine ⟨fun missing => ?_, answer_undeclared⟩
  by_contra declared
  exact answer_declared (Bool.eq_true_of_not_eq_false declared) missing rfl

theorem owned_of_answer {entry : Entry}
    (answered : access.answer heap owner descriptor content name = .ok entry) :
    entry.OwnedBy descriptor name := by
  cases access with
  | method arguments =>
      obtain ⟨method, found, answered⟩ := of_bind_ok answered
      obtain ⟨given, _, answered⟩ := of_bind_ok answered
      obtain ⟨_, _, answered⟩ := of_bind_ok answered
      cases answered
      exact .method found _ _ _
  | read =>
      obtain ⟨field, found, answered⟩ := of_bind_ok answered
      cases answered
      exact .read found _ _
  | write value =>
      obtain ⟨field, found, answered⟩ := of_bind_ok answered
      obtain ⟨given, _, answered⟩ := of_bind_ok answered
      cases writes : field.write? with
      | none =>
          rw [writes] at answered
          cases answered
      | some write =>
          rw [writes] at answered
          obtain ⟨_, _, answered⟩ := of_bind_ok answered
          cases answered
          exact .write found writes _ _ _ _

theorem checkScriptMethod_eq {arguments : List Value}
    (found : described types heap owner.handle = .ok (descriptor, occupant))
    (read : Call.read types descriptor.type owner.handle heap = .ok content) :
    checkScriptMethod types heap owner.handle name arguments =
      (method arguments).answer heap owner descriptor content name := by
  unfold checkScriptMethod checkMethod answer
  rw [found]
  change (descriptor.method name >>= _) = (descriptor.method name >>= _)
  cases declared : descriptor.method name with
  | error fault => rfl
  | ok called =>
      -- The method is found once for the kinds of its parameters and once more to be called.
      change (marshal heap called.parameters arguments >>= fun given =>
        descriptor.method name >>= _) = (marshal heap called.parameters arguments >>= _)
      rw [declared]
      congr 1
      funext given
      change (checkArguments _ called.parameters given >>= fun _ => Call.read _ _ _ _ >>= _) =
        (checkArguments _ called.parameters given >>= _)
      rw [read]
      rfl

theorem checkRead_eq (found : described types heap owner.handle = .ok (descriptor, occupant))
    (opened : descriptor.contentOf occupant.body = .ok content) :
    checkRead types heap owner.handle name =
      Access.read.answer heap owner descriptor content name := by
  unfold checkRead answer
  rw [found]
  change (descriptor.field name >>= fun _ => descriptor.contentOf _ >>= _) = _
  rw [opened]
  rfl

theorem checkScriptWrite_eq {value : Value}
    (found : described types heap owner.handle = .ok (descriptor, occupant))
    (opened : descriptor.contentOf occupant.body = .ok content)
    (same : occupant.typeId = owner.typeId) :
    checkScriptWrite types heap owner.handle name value =
      (write value).answer heap owner descriptor content name := by
  unfold checkScriptWrite checkWrite answer
  rw [found]
  change (descriptor.field name >>= _) = (descriptor.field name >>= _)
  cases declared : descriptor.field name with
  | error fault => rfl
  | ok field =>
      change (value.toHost heap field.kind >>= fun given => descriptor.field name >>= _) =
        (value.toHost heap field.kind >>= _)
      rw [declared]
      congr 1
      funext given
      rw [opened, same]
      rfl

theorem check_eq (distinct : types.Distinct) (known : types.get owner.typeId = .ok descriptor)
    (found : heap.content? owner.handle = some ⟨owner.typeId, ⟨descriptor.type, content⟩⟩) :
    (access.request owner name).check types heap =
      access.answer heap owner descriptor content name := by
  have described := described_eq found known
  have downcast : (⟨descriptor.type, content⟩ : Instance).as? descriptor.type = some content :=
    dif_pos rfl
  cases access with
  | method arguments =>
      obtain ⟨resident, resides, same⟩ := Heap.content?_eq_some_iff.mp found
      apply checkScriptMethod_eq described
      apply Call.read_eq distinct resides
      · rw [same]
        exact TypeRegistry.get_eq_ok known
      · rw [same]
        exact downcast
  | read => exact checkRead_eq described (TypeDescriptor.contentOf_eq downcast)
  | write value => exact checkScriptWrite_eq described (TypeDescriptor.contentOf_eq downcast) rfl

end Access

/-- A body does the same with more types, unless it allocates instances of new ones. -/
theorem Entry.run_grown {types later : TypeRegistry} (grows : types.ExtendsTo later)
    (distinct : types.Distinct) (distinct' : later.Distinct) {entry : Entry}
    (only : entry.AllocatesOnly fun type => (types.idOf? type).isSome = true)
    {state : CallState} (typed : state.store.heap.Typed types) :
    entry.run later state = entry.run types state := by
  cases entry with
  | construct typeId descriptor constructor arguments =>
      change (perform later (constructor.build arguments) >>= _) state =
        (perform types (constructor.build arguments) >>= _) state
      rw [bind_apply, bind_apply, grows.perform_eq distinct distinct' _ only typed]
  | method receiver descriptor called content arguments =>
      exact grows.perform_eq distinct distinct' _ only typed
  | read owner descriptor field content => rfl
  | write owner typeId descriptor change content value => rfl
  | operator entry left right? => exact grows.perform_eq distinct distinct' _ only typed
  | function called arguments => exact grows.perform_eq distinct distinct' _ only typed

end Call
end ScriptHost
