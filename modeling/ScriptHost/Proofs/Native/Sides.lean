import ScriptHost.Proofs.Native.Calls

/-!
The two sides of a native call.

A script and the host reach the same callables. What differs is how the arguments get there and who
claims the result: a script counts a reference to it, and the host pins it. Everything else is as
it would be on the other side. A method is the exception where the arguments of a script are wrong
in number and in kind, since their kinds are looked at first.
-/

set_option autoImplicit false

namespace ScriptHost

open Script

/-- Script values that have a host form, each of which can be handed over. -/
structure Heap.Passes (heap : Heap Occupant) (values : List Value) (arguments : List HostValue) :
    Prop where
  formed : values.map Value.toHost? = arguments.map some
  live : ∀ handle, .object handle ∈ arguments → heap.contains handle = true

theorem Heap.Passes.tail {heap : Heap Occupant} {value : Value} {values : List Value}
    {argument : HostValue} {arguments : List HostValue}
    (passes : heap.Passes (value :: values) (argument :: arguments)) :
    heap.Passes values arguments :=
  ⟨(List.cons.inj passes.formed).2, fun handle member =>
    passes.live handle (List.mem_cons_of_mem _ member)⟩

theorem Heap.Passes.length_eq {heap : Heap Occupant} {values : List Value}
    {arguments : List HostValue} (passes : heap.Passes values arguments) :
    values.length = arguments.length := by
  have same := congrArg List.length passes.formed
  rwa [List.length_map, List.length_map] at same

theorem Heap.Passes.toHost_head {heap : Heap Occupant} {value : Value} {values : List Value}
    {argument : HostValue} {arguments : List HostValue}
    (passes : heap.Passes (value :: values) (argument :: arguments)) (kind : Kind) :
    value.toHost heap kind = (argument.expectKind kind).map fun _ => argument := by
  have formed : value.toHost? = some argument := (List.cons.inj passes.formed).1
  unfold Value.toHost HostValue.expectKind
  rw [formed]
  dsimp only
  split
  · cases argument with
    | object handle =>
        have live := passes.live handle List.mem_cons_self
        dsimp only
        rw [if_pos live]
        rfl
    | _ => rfl
  · rfl

theorem isSome_lastNamed {α : Type} (name : String) (entries : List (String × α)) :
    (lastNamed name entries).isSome = entries.any fun entry => entry.1 == name := by
  apply Bool.eq_iff_iff.mpr
  unfold lastNamed
  rw [List.lookup_isSome_iff, List.any_eq_true]
  constructor
  · rintro ⟨named, member, same⟩
    exact ⟨named, List.mem_reverse.mp member, beq_iff_eq.mpr (beq_iff_eq.mp same).symm⟩
  · rintro ⟨named, member, same⟩
    exact ⟨named, List.mem_reverse.mpr member, beq_iff_eq.mpr (beq_iff_eq.mp same).symm⟩

theorem any_of_lastNamed {α : Type} {name : String} {entries : List (String × α)} {entry : α}
    (last : lastNamed name entries = some entry) :
    (entries.any fun entry => entry.1 == name) = true := by
  rw [← isSome_lastNamed, last]
  rfl

theorem expectKind_any (value : HostValue) : value.expectKind .any = .ok () := by
  cases value <;> rfl

namespace Call

theorem marshal_eq {heap : Heap Occupant} {values : List Value} {arguments : List HostValue}
    (passes : heap.Passes values arguments) (kinds : List Kind) :
    marshal heap kinds values = (checkKinds kinds arguments).map fun _ => arguments := by
  induction values generalizing arguments kinds with
  | nil =>
      cases arguments with
      | nil => cases kinds <;> rfl
      | cons argument rest => cases passes.length_eq
  | cons value values ih =>
      cases arguments with
      | nil => cases passes.length_eq
      | cons argument arguments =>
          cases kinds with
          | nil =>
              unfold marshal
              rw [passes.toHost_head, expectKind_any, ih passes.tail]
              rfl
          | cons kind kinds =>
              unfold marshal checkKinds
              rw [passes.toHost_head, ih passes.tail]
              cases argument.expectKind kind with
              | error fault => rfl
              | ok _ =>
                  change (checkKinds kinds arguments).map _ >>= _ =
                    (checkKinds kinds arguments).map _
                  cases checkKinds kinds arguments with
                  | error fault => rfl
                  | ok _ => rfl

variable {types : TypeRegistry} {receiver : Handle} {name : String} {resident : Resident Occupant}
  {descriptor : TypeDescriptor} {method : Method descriptor.type} {state : CallState}

structure Declares (types : TypeRegistry) (heap : Heap Occupant) (receiver : Handle)
    (name : String) (descriptor : TypeDescriptor) (method : Method descriptor.type) : Prop where
  resides : ∃ resident, heap.resident? receiver = some resident ∧
    types.get resident.content.typeId = .ok descriptor
  declared : descriptor.method name = .ok method

theorem describe_eq (found : state.store.heap.resident? receiver = some resident)
    (known : types.get resident.content.typeId = .ok descriptor) :
    describe types receiver state = .ok (descriptor, resident.content) state := by
  unfold describe occupant
  simp only [bind_assoc, pure_bind]
  change (ofResult (state.store.heap.get receiver) >>= _) state = _
  rw [Heap.get_eq_ok_iff.mpr found]
  change (ofResult (types.get resident.content.typeId) >>= _) state = _
  rw [known]
  rfl

/-- From a script, the kinds of the arguments are checked before anything else. -/
theorem scriptMethod_eq (declares : Declares types state.store.heap receiver name descriptor method)
    {values : List Value} {arguments : List HostValue}
    (passes : state.store.heap.Passes values arguments) :
    scriptMethod types receiver name values state =
      match checkKinds method.parameters arguments with
      | .ok _ => callMethod types receiver name arguments state
      | .error fault => .error fault state := by
  obtain ⟨resident, found, known⟩ := declares.resides
  unfold scriptMethod
  rw [bind_apply, describe_eq found known]
  change (ofResult (descriptor.method name) >>= _) state = _
  rw [declares.declared]
  change (ofResult (marshal state.store.heap method.parameters values) >>= _) state = _
  rw [marshal_eq passes]
  cases checkKinds method.parameters arguments with
  | ok _ => rfl
  | error fault => rfl

theorem callMethod_refused
    (declares : Declares types state.store.heap receiver name descriptor method)
    {arguments : List HostValue} {fault : Fault}
    (refused : checkArguments (descriptor.name ++ "." ++ name) method.parameters arguments =
      .error fault) :
    callMethod types receiver name arguments state = .error fault state := by
  obtain ⟨resident, found, known⟩ := declares.resides
  unfold callMethod
  rw [bind_apply, describe_eq found known]
  change (ofResult (descriptor.method name) >>= _) state = _
  rw [declares.declared]
  change (ofResult (checkArguments _ method.parameters arguments) >>= _) state = _
  rw [refused]
  rfl

end Call

namespace Store

variable {store : Store}

theorem collect_collect (store : Store) : store.collect.collect = store.collect := by
  obtain ⟨heap, generator⟩ := store
  exact congrArg (fun heap => (⟨heap, generator⟩ : Store)) heap.collect_collect

theorem conclude_collect (store : Store) : conclude ⟨store.collect, #[]⟩ = store.collect :=
  collect_collect store

theorem resident?_conclude (state : CallState) (handle : Handle) :
    (conclude state).heap.resident? handle =
      if state.store.heap.unclaimed handle = true ∧
          (handle ∈ state.fresh ∨ handle ∈ state.store.heap.released) then none
      else state.store.heap.resident? handle := by
  have swept := Heap.resident?_sweep state.fresh.toList 0 state.store.heap handle
  simp only [Array.mem_toList_iff] at swept
  rw [conclude_heap, Heap.resident?_collect, Heap.released_sweep]
  by_cases gone : handle ∈ state.fresh ∧ state.store.heap.unclaimed handle = true
  · rw [if_pos gone] at swept
    have both : state.store.heap.unclaimed handle = true ∧
        (handle ∈ state.fresh ∨ handle ∈ state.store.heap.released) := ⟨gone.2, .inl gone.1⟩
    rw [swept, if_pos both, ite_self]
  · rw [if_neg gone] at swept
    rw [Heap.unclaimed_congr swept, swept]
    by_cases unclaimed : state.store.heap.unclaimed handle = true
    · have old : handle ∉ state.fresh := fun fresh => gone ⟨fresh, unclaimed⟩
      simp [unclaimed, old]
    · simp [unclaimed]

/-- What a script and the host get from the same call, and what they leave. Only the claims on the
instance that they get differ. -/
structure Alike (script : Except Fault Value × Store) (host : Except Fault HostValue × Store) :
    Prop where
  result : match script.1, host.1 with
    | .ok value, .ok given => value.toHost? = some given
    | .error fault, .error other => fault = other
    | _, _ => False
  generator : script.2.generator = host.2.generator
  others : ∀ handle, host.1 ≠ .ok (.object handle) →
    script.2.heap.resident? handle = host.2.heap.resident? handle
  given : ∀ handle, host.1 = .ok (.object handle) → ∃ resident : Resident Occupant,
    script.1 = .ok (.object ⟨handle, resident.content.typeId⟩) ∧
    script.2.heap.resident? handle = some resident.anchored ∧
    host.2.heap.resident? handle = some resident.held

theorem alike_error (fault : Fault) (store : Store) :
    Alike (.error fault, store) (.error fault, store) :=
  ⟨rfl, rfl, fun _ _ => rfl, fun _ other => nomatch other⟩

theorem resident?_conclude_alter {heap : Heap Occupant} {generator : Random.Generator}
    {fresh : Array Handle} {handle other : Handle}
    (change : Resident Occupant → Resident Occupant) (different : other ≠ handle) :
    (conclude ⟨⟨heap.alter handle change, generator⟩, fresh⟩).heap.resident? other =
      (conclude ⟨⟨heap, generator⟩, fresh⟩).heap.resident? other := by
  have same := Heap.resident?_alter heap handle change other
  rw [if_neg different] at same
  rw [resident?_conclude, resident?_conclude]
  simp only [Heap.unclaimed_congr same, Heap.alter_released, same]

theorem resident?_conclude_claimed {heap : Heap Occupant} {generator : Random.Generator}
    {fresh : Array Handle} {handle : Handle} {resident : Resident Occupant}
    (found : heap.resident? handle = some resident)
    {change : Resident Occupant → Resident Occupant}
    (claimed : (change resident).pinned = true ∨ (change resident).anchors ≠ 0) :
    (conclude ⟨⟨heap.alter handle change, generator⟩, fresh⟩).heap.resident? handle =
      some (change resident) := by
  have altered := Heap.resident?_alter heap handle change handle
  rw [if_pos rfl, found] at altered
  have kept : (heap.alter handle change).unclaimed handle ≠ true := by
    intro unclaimed
    obtain ⟨other, same, unpinned, unreferenced⟩ := Heap.unclaimed_iff.mp unclaimed
    rw [altered] at same
    cases same
    rcases claimed with pinned | referenced
    · rw [unpinned] at pinned
      cases pinned
    · exact referenced unreferenced
  rw [resident?_conclude, if_neg fun gone => kept gone.1]
  exact altered

theorem alike_run (call : Call HostValue) (store : Store) :
    Alike (run (call >>= Call.toScript) store) (run (call >>= Call.pinResult) store) := by
  unfold run
  rw [bind_apply, bind_apply]
  -- Up to its result the call is one and the same. Only an instance is claimed on either side.
  cases call ⟨store.collect, #[]⟩ with
  | error fault state => exact alike_error fault _
  | ok value state =>
      obtain ⟨⟨heap, generator⟩, fresh⟩ := state
      cases value with
      | object handle =>
          cases found : heap.resident? handle with
          | none =>
              dsimp only [Call.toScript, HostValue.toScript, Call.pinResult]
              rw [bind_apply]
              dsimp only [Call.pin, Call.withHeap]
              rw [found, Heap.pin_eq_error found]
              exact alike_error _ _
          | some resident =>
              dsimp only [Call.toScript, HostValue.toScript, Call.pinResult]
              rw [bind_apply]
              dsimp only [Call.pin, Call.withHeap]
              rw [found, Heap.pin_eq_ok found]
              dsimp only
              rw [Heap.anchor_eq_ok found]
              refine ⟨rfl, rfl, fun other different => ?_, fun other same => ?_⟩
              · have apart : other ≠ handle := by
                  rintro rfl
                  exact different rfl
                exact (resident?_conclude_alter _ apart).trans
                  (resident?_conclude_alter _ apart).symm
              · cases same
                refine ⟨resident, rfl, resident?_conclude_claimed found ?_,
                  resident?_conclude_claimed found (.inl rfl)⟩
                exact .inr (Nat.succ_ne_zero _)
      | _ => exact ⟨rfl, rfl, fun _ _ => rfl, fun _ other => nomatch other⟩

theorem run_congr {α β : Type} {first second : Call α} (rest : α → Call β)
    (same : first ⟨store.collect, #[]⟩ = second ⟨store.collect, #[]⟩) :
    run (first >>= rest) store = run (second >>= rest) store := by
  unfold run
  rw [bind_apply, bind_apply, same]

theorem run_error {α β : Type} {call : Call α} (rest : α → Call β) {fault : Fault}
    (failed : call ⟨store.collect, #[]⟩ = .error fault ⟨store.collect, #[]⟩) :
    run (call >>= rest) store = (.error fault, conclude ⟨store.collect, #[]⟩) := by
  unfold run
  rw [bind_apply, failed]

theorem run_map {α β : Type} (result : α → β) (call : Call α) :
    run (call >>= fun value => pure (result value)) store =
      ((run call store).1.map result, (run call store).2) := by
  unfold run
  rw [bind_apply]
  cases call ⟨store.collect, #[]⟩ with
  | ok value state => rfl
  | error fault state => rfl

variable {types : TypeRegistry} {receiver : Handle} {name : String} {descriptor : TypeDescriptor}
  {method : Method descriptor.type} {values : List Value} {arguments : List HostValue}

theorem checkArguments_error {callable : String} {kinds : List Kind} {fault : Fault}
    (refused : checkKinds kinds arguments = .error fault) :
    checkArguments callable kinds arguments = .error
      (if kinds.length = arguments.length then fault
        else .arityMismatch callable kinds.length.repr arguments.length) := by
  unfold checkArguments
  split
  · exact refused
  · rfl

/-- A method call is the same on both sides where the arguments are of the declared kinds, as far
as these go, or of the right number. -/
theorem alike_method
    (declares : Call.Declares types store.collect.heap receiver name descriptor method)
    (passes : store.collect.heap.Passes values arguments)
    (fits : checkKinds method.parameters arguments = .ok () ∨
      method.parameters.length = arguments.length) :
    Alike (run (Call.scriptMethod types receiver name values >>= Call.toScript) store)
      (run (Call.callMethod types receiver name arguments >>= Call.pinResult) store) := by
  have script := @Call.scriptMethod_eq types receiver name descriptor method
    ⟨store.collect, #[]⟩ declares values arguments passes
  cases kinds : checkKinds method.parameters arguments with
  | ok _ =>
      rw [kinds] at script
      have same : _ = Call.callMethod types receiver name arguments ⟨store.collect, #[]⟩ := script
      rw [run_congr Call.toScript same]
      exact alike_run _ store
  | error fault =>
      rw [kinds] at script fits
      have refused := @checkArguments_error arguments (descriptor.name ++ "." ++ name) _ _ kinds
      rw [if_pos (fits.resolve_left nofun)] at refused
      rw [run_error _ script, run_error _ (Call.callMethod_refused declares refused)]
      exact alike_error fault _

/-- Otherwise a script is told of a wrong kind and the host of the wrong number. -/
theorem refused_method
    (declares : Call.Declares types store.collect.heap receiver name descriptor method)
    (passes : store.collect.heap.Passes values arguments) {fault : Fault}
    (refused : checkKinds method.parameters arguments = .error fault)
    (miscounted : method.parameters.length ≠ arguments.length) :
    run (Call.scriptMethod types receiver name values >>= Call.toScript) store =
        (.error fault, conclude ⟨store.collect, #[]⟩) ∧
      run (Call.callMethod types receiver name arguments >>= Call.pinResult) store =
        (.error (.arityMismatch (descriptor.name ++ "." ++ name) method.parameters.length.repr
          arguments.length), conclude ⟨store.collect, #[]⟩) := by
  have script := @Call.scriptMethod_eq types receiver name descriptor method
    ⟨store.collect, #[]⟩ declares values arguments passes
  rw [refused] at script
  have counted := @checkArguments_error arguments (descriptor.name ++ "." ++ name) _ _ refused
  rw [if_neg miscounted] at counted
  exact ⟨run_error _ script, run_error _ (Call.callMethod_refused declares counted)⟩

end Store
end ScriptHost
