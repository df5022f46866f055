import ScriptHost.Proofs.Native.Fields
import ScriptHost.Proofs.Script.Members
import ScriptHost.Proofs.Session.Lifecycle
import ScriptHost.Proofs.Session.Methods
import ScriptHost.Proofs.Session.References

/-!
Fields written by scripts and by the host.

A script and the host that write the same value to a field of an instance from the same state get
the same outcome and leave the same instances. This fails in one case: a value of a wrong kind for a
read-only field is refused for its kind if a script writes it, and for the field if the host does. A
constant is no place to write a member of, which only a script can be told.
-/

set_option autoImplicit false

namespace ScriptHost

open Script

section Found

variable {covenant : Covenant} {machine : Machine} {reference : Reference} {name : String}
  {descriptor : TypeDescriptor} {field : Field descriptor.type}

theorem Script.Machine.Sound.contains_collect (sound : machine.Sound covenant 0) {place : Place}
    (held : machine.valueAt place = .object reference) :
    machine.store.collect.heap.contains reference.handle = true := by
  have owned := Machine.owned_valueAt_le machine place
  rw [held] at owned
  have member : Holding.object reference ∈ 0 + machine.owned := by
    rw [zero_add]
    exact Multiset.mem_of_le owned (Multiset.mem_coe.mpr List.mem_cons_self)
  obtain ⟨resident, found, _⟩ := sound.accounts.collect.resolved member
  exact Heap.contains_iff.mpr ⟨resident, found⟩

theorem Heap.resident?_of_collect {heap : Heap Occupant} {handle : Handle}
    (live : heap.collect.2.contains handle = true) :
    heap.collect.2.resident? handle = heap.resident? handle := by
  obtain ⟨resident, found⟩ := Heap.contains_iff.mp live
  rw [Heap.resident?_collect] at found ⊢
  split at found
  · cases found
  · rename_i kept
    rw [if_neg kept]

theorem Call.HasField.collect {types : TypeRegistry} {store : Store} {owner : Handle}
    (has : HasField types store.heap owner name descriptor field)
    (live : store.collect.heap.contains owner = true) :
    HasField types store.collect.heap owner name descriptor field := by
  refine ⟨?_, has.declared⟩
  have same : store.collect.heap.resident? owner = store.heap.resident? owner :=
    Heap.resident?_of_collect live
  rw [same]
  exact has.resides

theorem Script.Machine.Sound.passes_collect (sound : machine.Sound covenant 0) {position : Nat}
    {given : HostValue} (formed : (machine.operand position).toHost? = some given) :
    machine.store.collect.heap.Passes [machine.operand position] [given] := by
  refine ⟨congrArg (fun host => [host]) formed, fun handle member => ?_⟩
  rw [← List.mem_singleton.mp member] at formed
  obtain ⟨target, held, rfl⟩ := Value.of_toHost?_object formed
  exact sound.contains_collect held

end Found

namespace Session

variable {session : Session} {reference : Reference} {name : String} {given : HostValue}
  {descriptor : TypeDescriptor} {field : Field descriptor.type}

/-- A write of a script and one of the host with the same outcome, after which all instances hold
the same. -/
structure SameWrite (script : Except Fault Unit × Machine) (host : Except Fault Reply × Session) :
    Prop where
  result : script.1 = host.1.map fun _ => ()
  still : script.2.store.still = host.2.machine.store.still

theorem perform_setField (ready : session.phase = .ready) (owner : Handle) (name : String)
    (given : HostValue) :
    session.perform (.setField owner name given) =
      ((session.machine.store.run (Call.setField session.types owner name given)).1.map
          fun _ => .done,
        session.withMachine { session.machine with
          store := (session.machine.store.run
            (Call.setField session.types owner name given)).2 }) :=
  @perform_native session _ ready (.setField owner name given)
    (fun types => Call.setField types owner name given) (fun _ => .done) rfl

/-- A script is about to assign the value of an operand to a field of an instance. -/
structure Assigning (session : Session) (env : Environment) (assignment : Run.Assignment)
    (place : Place) (reference : Reference) (name : String) (given : HostValue)
    (descriptor : TypeDescriptor) (field : Field descriptor.type) : Prop where
  types : env.types = session.types
  plain : assignment.operation? = none
  apart : place.root ≠ .operand assignment.value
  target : session.machine.valueAt place = .object reference
  formed : (session.machine.operand assignment.value).toHost? = some given
  has : Call.HasField session.types session.machine.store.heap reference.handle name descriptor
    field

def assigned (session : Session) (env : Environment) (assignment : Run.Assignment) (place : Place)
    (name : String) (position : Position) : Except Fault Unit × Machine :=
  told (Run.assignProperty env assignment place name position session.machine)

variable {env : Environment} {assignment : Run.Assignment} {place : Place}

/-- What a script is told where its assignment makes a request that ends in this way. -/
theorem Assigning.assigned
    (assigning : session.Assigning env assignment place reference name given descriptor field)
    (free : session.machine.isConstant place = false) (position : Position)
    {answer : Except Fault Unit} {store : Store}
    (ran : session.machine.store.run
      (Call.scriptSetField session.types reference.handle name
        (session.machine.operand assignment.value) >>= Call.toScript) =
          (answer.map fun _ => .datum .unit, store)) :
    (session.assigned env assignment place name position).1 = answer ∧
      (session.assigned env assignment place name position).2.store.still = store.still := by
  obtain ⟨types, plain, apart, target, _, has⟩ := assigning
  have declared := has.declaresField
  have raised := session.machine.store_raise assignment.value
  have asked := callNative_answered env.types
    (.write reference name (session.machine.operand assignment.value))
    (session.machine.raise assignment.value)
  rw [← types] at ran declared
  rw [raised] at asked
  change _ = answered _ (Store.run (Call.scriptSetField env.types reference.handle name
    (session.machine.operand assignment.value) >>= Call.toScript) session.machine.store) at asked
  rw [ran] at asked
  unfold Session.assigned
  cases answer with
  | ok _ =>
      obtain ⟨later, ended, still⟩ := Run.assignProperty_answered plain apart target declared free
        asked Array.back?_push
      rw [ended]
      exact ⟨rfl, congrArg Prod.snd still⟩
  | error fault =>
      obtain ⟨later, ended, still⟩ := Run.assignProperty_refused plain apart target declared free
        asked
      rw [ended]
      have pushed := Machine.thrown_of_still still
      have thrown : later.thrown.back? = some (.datum (.fault fault)) := by
        rw [pushed]
        exact Array.back?_push
      refine ⟨?_, congrArg Prod.snd still⟩
      change Except.error (Failure.toFault _ later.thrown.back?) = _
      rw [thrown]
      rfl

theorem told_constant {failure : Failure} {machine : Machine} {name : String}
    (constant : failure.problem = .constantProperty name) :
    (told (.error (.raised failure) machine : EStateM.Result Halt Machine Unit)).1 =
      .error (failure.runtimeFault "") := by
  obtain ⟨problem, position?, calls⟩ := failure
  dsimp only at constant
  subst constant
  change Except.error (Failure.toFault _ machine.thrown.back?) = _
  unfold Failure.toFault Failure.memberFault?
  dsimp only
  split <;> rfl

theorem told_follows {first second : EStateM.Result Halt Machine Unit}
    (follows : Run.Follows first second) :
    (told second).1 = (told first).1 ∧
      (told second).2.store.still = (told first).2.store.still := by
  cases first with
  | ok _ later =>
      cases second with
      | ok _ last => exact ⟨rfl, congrArg Prod.snd follows⟩
      | error other last => exact follows.elim
  | error halt later =>
      cases second with
      | ok _ last => exact follows.elim
      | error other last =>
          obtain ⟨rfl, still⟩ := follows
          exact told_error still

variable {promised : Handle → TypeId → Prop} {earlier : Moment → Prop}

/-- From the same state, a script that assigns a value to a field of an instance and the host that
sets the field to it get the same outcome and leave the same, unless the field is read-only and the
value of a wrong kind: then a script is told of the kind and the host of the field, and neither
changes anything. A member of a constant cannot be assigned to. An assignment to a member of a
variable comes to just this. -/
theorem field_writes_agree (ready : session.phase = .ready)
    (sound : session.machine.Sound ⟨session.types, promised, earlier⟩ 0)
    (assigning : session.Assigning env assignment place reference name given descriptor field)
    (position : Position) :
    (session.machine.isConstant place = false →
      given.expectKind field.kind = .ok () ∨ field.write? ≠ none →
        SameWrite (session.assigned env assignment place name position)
          (session.perform (.setField reference.handle name given))) ∧
    (field.write? = none →
      (session.perform (.setField reference.handle name given)).1 =
        .error (.unknownField descriptor.name (name ++ " (read-only)"))) ∧
    (session.machine.isConstant place = false → field.write? = none →
      ∀ fault, given.expectKind field.kind = .error fault →
        (session.assigned env assignment place name position).1 = .error fault ∧
          (session.assigned env assignment place name position).2.store.still =
            session.machine.store.collect.still ∧
          (session.perform (.setField reference.handle name given)).2.machine.store.still =
            session.machine.store.collect.still) ∧
    (session.machine.isConstant place = true →
      (session.assigned env assignment place name position).1 =
          .error ((Failure.located (.constantProperty name) position).runtimeFault "") ∧
        (session.assigned env assignment place name position).2.store.still =
          session.machine.store.still) ∧
    ∀ (self : Run.Evaluator) (frame : Frame) (root value : Term) (start : Machine)
      (chainPosition operatorPosition : Position),
      self frame value { start with operations := 0 } = .ok () session.machine →
      Run.rootPlace env self frame root session.machine = .ok place session.machine →
      assignment.value = start.operands.size →
      let whole := outcome (Run.assignment env self frame none
        (.chain root [.property name position] chainPosition) value operatorPosition) start
      whole.1 = (session.assigned env assignment place name position).1 ∧
        whole.2.store.still =
          (session.assigned env assignment place name position).2.store.still := by
  have hasNow := assigning.has.collect (sound.contains_collect assigning.target)
  have passes := sound.passes_collect assigning.formed
  have performed := perform_setField ready reference.handle name given
  refine ⟨fun free fits => ?_, fun readOnly => ?_, fun free readOnly fault refused => ?_,
    fun constant => ?_, ?_⟩
  · have ran := Store.run_scriptSetField hasNow passes fits
    obtain ⟨result, still⟩ := assigning.assigned free position ran
    rw [performed]
    refine ⟨result.trans ?_, still⟩
    cases (session.machine.store.run
      (Call.setField session.types reference.handle name given)).1 with
    | ok _ => rfl
    | error fault => rfl
  · have refused := @Call.setField_readOnly session.types reference.handle name descriptor field
      ⟨session.machine.store.collect, #[]⟩ hasNow readOnly given
    rw [performed, Store.run_setField_error refused]
    rfl
  · obtain ⟨script, host⟩ := Store.refused_write hasNow passes readOnly refused
    have ran : session.machine.store.run (Call.scriptSetField session.types reference.handle name
        (session.machine.operand assignment.value) >>= Call.toScript) =
          ((Except.error fault : Except Fault Unit).map fun _ => .datum .unit,
            session.machine.store.collect) := script
    obtain ⟨result, still⟩ := assigning.assigned free position ran
    rw [performed, host]
    exact ⟨result, still, rfl⟩
  · have declared := assigning.has.declaresField
    rw [← assigning.types] at declared
    obtain ⟨later, ended, still⟩ := Run.assignProperty_constant assigning.plain assigning.apart
      assigning.target declared constant
    unfold assigned
    rw [ended]
    exact ⟨told_constant rfl, congrArg Prod.snd still⟩
  · intro self frame root value start chainPosition operatorPosition evaluated found operand
    obtain ⟨made, madePlain, madeOperand, follows⟩ := Run.follows_assignment evaluated found
      chainPosition operatorPosition
    rw [Run.assignProperty_congr assigning.plain madePlain (madeOperand.trans operand.symm)
      assigning.target] at follows
    dsimp only
    rw [outcome_told]
    exact told_follows follows

/-- A session with a lamp that the variable `lamp` refers to. It can be lit; whether it is broken
can only be read. -/
def lighting : Session :=
  let lamp : HostType := ⟨"Lamp", .values⟩
  let lit : Field lamp := ⟨.boolean, fun content => content.headD .null,
    some fun _ value => ([value], .ok ())⟩
  let broken : Field lamp := ⟨.boolean, fun _ => .boolean false, none⟩
  (create .standard).after [.start,
    .register (.type ⟨"Lamp", lamp, [], [("lit", lit), ("broken", broken)], [], [], none⟩),
    .insertObject ⟨lamp, []⟩, .setGlobal "lamp" (.object ⟨0, 0⟩)]

/-- The session while a script is about to assign a value. -/
def lightingWith (value : Datum) : Session :=
  lighting.withMachine (lighting.machine.push value)

def toTheLamp : Run.Assignment := ⟨none, 0, default, "lamp", default⟩

def field? (session : Session) (owner : Handle) (name : String) : Option (Kind × Bool) := do
  let resident ← session.machine.store.heap.resident? owner
  let descriptor ← (session.types.get resident.content.typeId).toOption
  let field ← (descriptor.field name).toOption
  return (field.kind, field.write?.isSome)

theorem hasField_of_field? {owner : Handle} {kind : Kind} {writable : Bool}
    (found : session.field? owner name = some (kind, writable)) :
    ∃ (descriptor : TypeDescriptor) (field : Field descriptor.type),
      Call.HasField session.types session.machine.store.heap owner name descriptor field ∧
      field.kind = kind ∧ field.write?.isSome = writable := by
  obtain ⟨resident, resides, found⟩ := Option.bind_eq_some_iff.mp found
  obtain ⟨descriptor, known, found⟩ := Option.bind_eq_some_iff.mp found
  obtain ⟨field, declared, same⟩ := Option.bind_eq_some_iff.mp found
  injection same with same
  injection same with sameKind sameWritable
  exact ⟨descriptor, field, ⟨⟨resident, resides, eq_ok_of_toOption known⟩,
    eq_ok_of_toOption declared⟩, sameKind, sameWritable⟩

theorem lighting_reachable : lighting.Reachable :=
  (Reachable.created .standard).after _

theorem lighting_alive : lighting.phase ≠ .tornDown := by decide +kernel

theorem lighting_assigning {given : HostValue} {kind : Kind} {writable : Bool} (value : Datum)
    (formed : (Value.datum value).toHost? = some given)
    (found : lighting.field? ⟨0, 0⟩ name = some (kind, writable)) :
    ∃ (descriptor : TypeDescriptor) (field : Field descriptor.type),
      (lightingWith value).Assigning ((lightingWith value).environment []) toTheLamp
        (.ofVariable 0) ⟨⟨0, 0⟩, 0⟩ name given descriptor field ∧
      field.kind = kind ∧ field.write?.isSome = writable := by
  obtain ⟨descriptor, field, has, sameKind, sameWritable⟩ := hasField_of_field? found
  have operands := (lighting_reachable.sound lighting_alive).operands
  have lamp : (lighting.machine.valueAt? (.ofVariable 0)).bind reference? =
      some ⟨⟨0, 0⟩, 0⟩ := by decide +kernel
  have target : (lightingWith value).machine.valueAt (.ofVariable 0) =
      .object ⟨⟨0, 0⟩, 0⟩ := by
    obtain ⟨held, looked, refers⟩ := Option.bind_eq_some_iff.mp lamp
    have kept := Machine.valueAt?_pushRaw looked (.datum value)
    rw [eq_object_of_reference? refers] at kept
    exact congrArg (fun held => held.getD .unit) kept
  have operand : (lightingWith value).machine.operand 0 = .datum value := by
    have pushed : (lightingWith value).machine.operands = #[.datum value] := by
      change lighting.machine.operands.push (.datum value) = _
      rw [operands]
      rfl
    rw [Machine.operand_eq, pushed]
    rfl
  refine ⟨descriptor, field, ⟨rfl, rfl, nofun, target, ?_, has⟩, sameKind, sameWritable⟩
  exact (congrArg Value.toHost? operand).trans formed

/-- A script and the host light the lamp with the same outcome. -/
theorem lamp_is_lit :
    (lightingWith (.boolean true)).phase = .ready ∧
      SameWrite
        ((lightingWith (.boolean true)).assigned ((lightingWith (.boolean true)).environment [])
          toTheLamp (.ofVariable 0) "lit" default)
        ((lightingWith (.boolean true)).perform (.setField ⟨0, 0⟩ "lit" (.boolean true))) := by
  have ready : (lightingWith (.boolean true)).phase = .ready := by decide +kernel
  have sound := (lighting_reachable.sound lighting_alive).machine.push (.boolean true)
  have found : lighting.field? ⟨0, 0⟩ "lit" = some (.boolean, true) := by decide +kernel
  obtain ⟨descriptor, field, assigning, kind, _⟩ :=
    @lighting_assigning "lit" (.boolean true) .boolean true (.boolean true) rfl found
  have free : (lightingWith (.boolean true)).machine.isConstant (.ofVariable 0) = false := by
    decide +kernel
  have fits : HostValue.expectKind (.boolean true) field.kind = .ok () := by
    rw [kind]
    rfl
  exact ⟨ready, (field_writes_agree ready sound assigning default).1 free (.inl fits)⟩

/-- Told that the lamp is broken by a text, a script hears that a text is no truth value, and the
host that nobody can tell. -/
theorem lamp_is_not_broken :
    ¬ ∀ (session : Session) (env : Environment) (assignment : Run.Assignment) (place : Place)
      (reference : Reference) (name : String) (given : HostValue) (descriptor : TypeDescriptor)
      (field : Field descriptor.type) (position : Position),
      session.phase = .ready →
      session.machine.Sound ⟨session.types, fun _ _ => False, fun _ => False⟩ 0 →
      session.Assigning env assignment place reference name given descriptor field →
      session.machine.isConstant place = false →
      SameWrite (session.assigned env assignment place name position)
        (session.perform (.setField reference.handle name given)) := by
  intro agree
  have ready : (lightingWith (.text "yes")).phase = .ready := by decide +kernel
  have sound := (lighting_reachable.sound lighting_alive).machine.push (.text "yes")
  have found : lighting.field? ⟨0, 0⟩ "broken" = some (.boolean, false) := by decide +kernel
  obtain ⟨descriptor, field, assigning, kind, _⟩ :=
    @lighting_assigning "broken" (.text "yes") .boolean false (.text "yes") rfl found
  have free : (lightingWith (.text "yes")).machine.isConstant (.ofVariable 0) = false := by
    decide +kernel
  have result := (agree _ _ _ _ _ _ _ _ _ default ready sound assigning free).result
  have script : ((lightingWith (.text "yes")).assigned ((lightingWith (.text "yes")).environment [])
      toTheLamp (.ofVariable 0) "broken" default).1 =
        .error (.typeMismatch .boolean "string") := by decide +kernel
  have host : (lightingWith (.text "yes")).fault? (.setField ⟨0, 0⟩ "broken" (.text "yes")) =
      some (.unknownField "Lamp" "broken (read-only)") := by decide +kernel
  rw [script, error_of_fault? host] at result
  cases result

end Session
end ScriptHost
