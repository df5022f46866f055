import ScriptHost.Proofs.Native.Sides

/-!
The two sides of a write to a field.

A script and the host write a field in the same way, which asks first whether the field can be
written at all and then whether the value is of its kind. A script's value has to be of the kind
already when it is handed over. So the two sides say different things of a value of a wrong kind
for a field that is read-only, and the same of everything else.
-/

set_option autoImplicit false

namespace ScriptHost

open Script

namespace Call

variable {types : TypeRegistry} {heap : Heap Occupant} {owner : Handle} {name : String}
  {descriptor : TypeDescriptor} {field : Field descriptor.type} {state : CallState}
  {given : HostValue} {fault : Fault}

structure HasField (types : TypeRegistry) (heap : Heap Occupant) (owner : Handle) (name : String)
    (descriptor : TypeDescriptor) (field : Field descriptor.type) : Prop where
  resides : ∃ resident, heap.resident? owner = some resident ∧
    types.get resident.content.typeId = .ok descriptor
  declared : descriptor.field name = .ok field

theorem HasField.declaresField (has : HasField types heap owner name descriptor field) :
    types.declaresField name = true := by
  obtain ⟨resident, _, known⟩ := has.resides
  have declared := has.declared
  unfold TypeDescriptor.field at declared
  split at declared
  · rename_i last
    exact Array.any_eq_true'.mpr ⟨descriptor,
      Array.mem_of_getElem? (TypeRegistry.get_eq_ok known), any_of_lastNamed last⟩
  · cases declared

theorem setField_readOnly (has : HasField types state.store.heap owner name descriptor field)
    (readOnly : field.write? = none) (given : HostValue) :
    setField types owner name given state =
      .error (.unknownField descriptor.name (name ++ " (read-only)")) state := by
  obtain ⟨resident, found, known⟩ := has.resides
  unfold setField
  rw [bind_apply, describe_eq found known]
  change (ofResult (descriptor.field name) >>= _) state = _
  rw [has.declared, bind_apply]
  dsimp only [ofResult, pure, EStateM.pure]
  rw [readOnly]
  rfl

theorem setField_refused (has : HasField types state.store.heap owner name descriptor field)
    (writable : field.write? ≠ none) (refused : given.expectKind field.kind = .error fault) :
    setField types owner name given state = .error fault state := by
  obtain ⟨resident, found, known⟩ := has.resides
  unfold setField
  rw [bind_apply, describe_eq found known]
  change (ofResult (descriptor.field name) >>= _) state = _
  rw [has.declared, bind_apply]
  dsimp only [ofResult, pure, EStateM.pure]
  cases writes : field.write? with
  | none => exact absurd writes writable
  | some write =>
      dsimp only
      rw [refused]
      rfl

/-- From a script, the kind of the value is checked before anything else. -/
theorem scriptSetField_eq (has : HasField types state.store.heap owner name descriptor field)
    {value : Value} (passes : state.store.heap.Passes [value] [given]) :
    scriptSetField types owner name value state =
      match given.expectKind field.kind with
      | .ok _ => (setField types owner name given >>= fun _ => pure .null) state
      | .error fault => .error fault state := by
  obtain ⟨resident, found, known⟩ := has.resides
  unfold scriptSetField
  rw [bind_apply, describe_eq found known]
  change (ofResult (descriptor.field name) >>= _) state = _
  rw [has.declared]
  change (ofResult (value.toHost state.store.heap field.kind) >>= _) state = _
  rw [passes.toHost_head]
  cases given.expectKind field.kind with
  | ok _ => rfl
  | error fault => rfl

end Call

namespace Store

variable {types : TypeRegistry} {owner : Handle} {name : String} {descriptor : TypeDescriptor}
  {field : Field descriptor.type} {store : Store} {value : Value} {given : HostValue}
  {fault : Fault}

theorem run_setField_error
    (failed : Call.setField types owner name given ⟨store.collect, #[]⟩ =
      .error fault ⟨store.collect, #[]⟩) :
    run (Call.setField types owner name given) store =
      (.error fault, conclude ⟨store.collect, #[]⟩) := by
  unfold run
  rw [failed]

/-- A write has the same outcome on both sides, and both leave the same, if the value is of the
field's kind or the field can be written. -/
theorem run_scriptSetField
    (has : Call.HasField types store.collect.heap owner name descriptor field)
    (passes : store.collect.heap.Passes [value] [given])
    (fits : given.expectKind field.kind = .ok () ∨ field.write? ≠ none) :
    run (Call.scriptSetField types owner name value >>= Call.toScript) store =
      ((run (Call.setField types owner name given) store).1.map fun _ => .datum .unit,
        (run (Call.setField types owner name given) store).2) := by
  have script := @Call.scriptSetField_eq types owner name descriptor field
    ⟨store.collect, #[]⟩ given has value passes
  cases checked : given.expectKind field.kind with
  | ok _ =>
      rw [checked] at script
      unfold run
      rw [bind_apply, script, bind_apply]
      cases Call.setField types owner name given ⟨store.collect, #[]⟩ with
      | ok _ state => rfl
      | error fault state => rfl
  | error fault =>
      rw [checked] at script fits
      have host := @Call.setField_refused types owner name descriptor field
        ⟨store.collect, #[]⟩ given fault has (fits.resolve_left nofun) checked
      rw [run_error _ script, run_setField_error host]
      rfl

theorem refused_write
    (has : Call.HasField types store.collect.heap owner name descriptor field)
    (passes : store.collect.heap.Passes [value] [given]) (readOnly : field.write? = none)
    (refused : given.expectKind field.kind = .error fault) :
    run (Call.scriptSetField types owner name value >>= Call.toScript) store =
        (.error fault, store.collect) ∧
      run (Call.setField types owner name given) store =
        (.error (.unknownField descriptor.name (name ++ " (read-only)")), store.collect) := by
  have script := @Call.scriptSetField_eq types owner name descriptor field
    ⟨store.collect, #[]⟩ given has value passes
  rw [refused] at script
  have host := @Call.setField_readOnly types owner name descriptor field
    ⟨store.collect, #[]⟩ has readOnly given
  rw [run_error _ script, run_setField_error host, conclude_collect]
  exact ⟨rfl, rfl⟩

end Store
end ScriptHost
