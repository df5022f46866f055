import ScriptHost.Proofs.Session.Calls

/-!
Calls with the right and with the wrong number of arguments.

A call of a function of the host or of a type by its name, from a script, can have up to a limit of
arguments. Within the limit the call gets to what it names, which checks the number of arguments,
then their kinds, and then starts its body. For more arguments nothing is found, also where so many
are declared. An instance is constructed just as it is for the host.
-/

set_option autoImplicit false

namespace ScriptHost

open Script

theorem TypeRegistry.get_of_idOfName? {registry : TypeRegistry} {name : String} {typeId : TypeId}
    (known : registry.idOfName? name = some typeId) :
    ∃ descriptor, registry.get typeId = .ok descriptor ∧ descriptor.name = name := by
  obtain ⟨bound, named, _⟩ := Array.findIdx?_eq_some_iff_getElem.mp known
  refine ⟨registry.types[typeId], ?_, beq_iff_eq.mp named⟩
  unfold get
  rw [Array.getElem?_eq_getElem bound]

namespace Script.Run

variable {α : Type} {env : Environment} {self : Evaluator} {frame : Frame} {machine : Machine}
  {positions : List Nat} {name space : String} {function : FunctionDescriptor}

/-- Within the limit for arguments a call is some work, and for more of them it finds nothing under
a name. -/
structure Reaches (call work : Run α) (name : String) (values : List Value) (position : Position)
    (machine : Machine) : Prop where
  within : values.length ≤ argumentLimit → call machine = work machine
  beyond : argumentLimit < values.length → call machine =
    .error (.raised (.located (.functionNotFound (signature name values)) position))
      (machine.record .failure)

theorem reaches_offered {request : List Value → Call.Request} (named : Name.ForHosts name)
    (own : env.library.find? name positions.length = none)
    (undeclared : env.types.declaresMethod name = false)
    (offered : ∀ values : List Value, values.length ≤ argumentLimit →
      Native.offered? env.types env.functions name values = some (request values))
    (place? : Option Place) (position : Position) :
    let values := positions.map machine.operand
    Reaches (callNamed env self frame name ⟨none, positions⟩ place? position)
      (requesting env (request values) positions position) name values position machine := by
  intro values
  have called := @callNamed_host env self frame name named ⟨none, positions⟩ own place? position
    machine
  have asked : Native.asked? env.types env.functions name values =
      Native.offered? env.types env.functions name values :=
    Native.asked?_apart (Native.not_callsMethod undeclared)
  constructor
  · intro few
    have found := asked.trans (offered values few)
    have plain := Native.isMethod_of_offered? (offered values few)
    exact called.trans (callHost_plain found plain place? position)
  · intro many
    have nothing := asked.trans (Native.offered?_excess many)
    exact called.trans (callHost_nothing nothing place? position)

theorem reaches_inModule (found : env.functions.find? space name = some function)
    (start position : Position) :
    let values := positions.map machine.operand
    Reaches (callInModule env space name positions start position)
      (native env (.function function values) positions position) (space ++ "::" ++ name) values
      position machine := by
  intro values
  have known := FunctionRegistry.hasSpace_of_find? found
  have called : callInModule env space name positions start position machine =
      (if values.length ≤ argumentLimit then
        native env (.function function values) positions position
      else
        noFunction (space ++ "::" ++ name) values position) machine := by
    unfold callInModule
    rw [known, FunctionRegistry.find?_modules, found]
    rfl
  constructor
  · intro few
    rw [called, if_pos few]
  · intro many
    rw [called, if_neg (Nat.not_le_of_gt many)]
    rfl

end Script.Run

namespace Session

variable {session : Session} {machine : Machine}
  {descriptor : TypeDescriptor} {typeId : TypeId} {name : String} {values : List Value}
  {arguments : List HostValue}

def Reply.asValue : Reply → Reply
  | .handle created => .value (.object created)
  | reply => reply

def asValue (outcome : Except Fault Reply × Session) : Except Fault Reply × Session :=
  (outcome.1.map Reply.asValue, outcome.2)

theorem asValue_created (typeName : String) (passed : List HostValue) (value : HostValue) :
    Reply.asValue ((HostCall.create typeName passed).reply value) = .value value := by
  cases value with
  | object handle => rfl
  | _ => rfl

theorem constructions_agree (ready : session.phase = .ready)
    (known : session.types.idOfName? name = some typeId)
    (passes : machine.store.collect.heap.Passes values arguments) :
    SameOutcome (machine.callNative session.types (.construct typeId values))
      (asValue ((session.withMachine machine).perform (.createObject name arguments))) := by
  have host := @perform_create (session.withMachine machine) ready name typeId known arguments
  have script : machine.store.run (Call.scriptConstruct session.types typeId values >>=
      Call.toScript) = machine.store.run ((Call.ofResult
        (Call.checkConstruct session.types typeId arguments) >>=
          Call.Entry.run session.types) >>= Call.toScript) := by
    rw [← Call.check_construct passes]
    exact Store.run_congr Call.toScript (Call.Request.call_admitted (.construct typeId values))
  have alike := Store.alike_run (Call.ofResult
    (Call.checkConstruct session.types typeId arguments) >>= Call.Entry.run session.types)
    machine.store
  have replied : ∀ result : Except Fault HostValue,
      (result.map (HostCall.create name arguments).reply).map Reply.asValue =
        result.map .value := by
    intro result
    cases result with
    | error fault => rfl
    | ok value => exact congrArg Except.ok (asValue_created name arguments value)
  rw [callNative_answered, host]
  unfold asValue ran
  dsimp only
  rw [Call.Request.call, script, replied]
  exact sameOutcome_of_alike alike _

/-- A type checks the number of the arguments for a new instance and then their kinds before the
body of a constructor starts, and the host gets the same from it. -/
structure ConstructorAnswers (session : Session) (machine : Machine) (name : String)
    (typeId : TypeId) (descriptor : TypeDescriptor) (values : List Value)
    (arguments : List HostValue) : Prop where
  undeclared : ¬ descriptor.DeclaresConstructor arguments.length →
    machine.callNative session.types (.construct typeId values) =
      (.error (.arityMismatch name
          (choiceText (descriptor.constructors.map fun constructor =>
            constructor.parameters.length)) arguments.length),
        machine.requested (.construct typeId values))
  otherKind : descriptor.DeclaresConstructor arguments.length →
    descriptor.constructors.find? (descriptor.accepting arguments) = none →
      ∃ constructor ∈ descriptor.constructors,
        constructor.parameters.length = arguments.length ∧
        ∃ fault, checkKinds constructor.parameters arguments = .error fault ∧
          machine.callNative session.types (.construct typeId values) =
            (.error fault, machine.requested (.construct typeId values))
  entered : ∀ constructor,
    descriptor.constructors.find? (descriptor.accepting arguments) = some constructor →
      machine.callNative session.types (.construct typeId values) =
        answered (machine.requested (.construct typeId values))
          (machine.store.run ((Call.Entry.construct typeId descriptor constructor arguments).run
            session.types >>= Call.toScript))
  forHost : SameOutcome (machine.callNative session.types (.construct typeId values))
    (asValue ((session.withMachine machine).perform (.createObject name arguments)))

theorem constructorAnswers (ready : session.phase = .ready)
    (known : session.types.idOfName? name = some typeId)
    (described : session.types.get typeId = .ok descriptor) (named : descriptor.name = name)
    (passes : machine.store.collect.heap.Passes values arguments) :
    ConstructorAnswers session machine name typeId descriptor values arguments := by
  have guarded := guardedRequest session.types machine (.construct typeId values)
  have checked : (Call.Request.construct typeId values).check session.types
        machine.store.collect.heap =
      (descriptor.selectConstructor arguments).map fun constructor =>
        .construct typeId descriptor constructor arguments := by
    rw [Call.check_construct passes]
    unfold Call.checkConstruct
    rw [described]
    change (descriptor.selectConstructor arguments >>= fun constructor => _) = _
    cases descriptor.selectConstructor arguments with
    | error fault => rfl
    | ok constructor => rfl
  refine ⟨fun undeclared => ?_, fun declared refused => ?_, fun constructor accepted => ?_,
    constructions_agree ready known passes⟩
  · rw [TypeDescriptor.selectConstructor_undeclared undeclared, named] at checked
    exact guarded.refused _ checked
  · obtain ⟨constructor, member, count, fault, kinds, selected⟩ :=
      TypeDescriptor.selectConstructor_refused declared refused
    rw [selected] at checked
    exact ⟨constructor, member, count, fault, kinds, guarded.refused fault checked⟩
  · rw [TypeDescriptor.selectConstructor_accepted accepted] at checked
    exact (guarded.entered _ checked).1

variable {env : Environment} {self : Run.Evaluator} {frame : Frame} {positions : List Nat}
  {promised : Handle → TypeId → Prop} {earlier : Moment → Prop}

/-- A call of a global function, of a function of a module or of a type gets to what it names if it
has no more arguments than the limit, and then the declared number of arguments is what counts. With
more arguments it finds nothing. -/
theorem accepted_arities_are_called (reachable : session.Reachable) (ready : session.phase = .ready)
    (types : env.types = session.types) (functions : env.functions = session.functions)
    (sound : machine.Sound ⟨session.types, promised, earlier⟩ 0)
    (formed : (positions.map machine.operand).map Value.toHost? = arguments.map some) :
    let values := positions.map machine.operand
    let foreign := fun name => Name.ForHosts name ∧
      env.library.find? name positions.length = none ∧ session.types.declaresMethod name = false
    (∀ function, session.functions.find? FunctionRegistry.globalSpace function.name =
        some function → foreign function.name → ∀ place? position,
      Run.Reaches (Run.callNamed env self frame function.name ⟨none, positions⟩ place? position)
        (Run.requesting env (.function function values) positions position) function.name values
        position machine) ∧
    (∀ space function, session.functions.find? space function.name = some function →
      ∀ start position,
      Run.Reaches (Run.callInModule env space function.name positions start position)
        (Run.native env (.function function values) positions position)
        (space ++ "::" ++ function.name) values position machine) ∧
    (∀ function, FunctionAnswers session.types machine function values arguments) ∧
    ∀ name typeId, session.types.idOfName? name = some typeId →
      (foreign name → ∀ place? position,
        Run.Reaches (Run.callNamed env self frame name ⟨none, positions⟩ place? position)
          (Run.requesting env (.construct typeId values) positions position) name values position
          machine) ∧
      ∃ descriptor, session.types.get typeId = .ok descriptor ∧ descriptor.name = name ∧
        ConstructorAnswers session machine name typeId descriptor values arguments := by
  intro values foreign
  have passes := sound.passes_operands formed
  refine ⟨fun function found ⟨named, own, undeclared⟩ => ?_, fun space function found => ?_,
    functionAnswers passes, fun name typeId known => ⟨fun ⟨named, own, undeclared⟩ => ?_, ?_⟩⟩
  · rw [← types] at undeclared
    rw [← functions] at found
    exact Run.reaches_offered named own undeclared fun values few =>
      Native.offered?_function few found
  · rw [← functions] at found
    exact Run.reaches_inModule found
  · have missing := reachable.find?_of_type known
    rw [← types] at undeclared known
    rw [← functions] at missing
    exact Run.reaches_offered named own undeclared fun values few =>
      Native.offered?_construct few missing known
  · obtain ⟨descriptor, described, named⟩ := TypeRegistry.get_of_idOfName? known
    exact ⟨descriptor, described, named, constructorAnswers ready known described named passes⟩

def weighing : FunctionDescriptor :=
  ⟨"weigh", .fixed (List.replicate 7 .any), fun _ => .done (.text "even")⟩

def scales : Session :=
  holding.after [.register (.function weighing)]

theorem scales_reachable : scales.Reachable :=
  holding_reachable.after _

theorem scales_ready : scales.phase = .ready := by decide +kernel

theorem scales_sound :
    scales.Sound (fun _ _ => False) (fun _ => False) fun _ => True :=
  scales_reachable.sound (by rw [scales_ready]; nofun)

theorem weighing_found : scales.functions.find? FunctionRegistry.globalSpace weighing.name =
    some weighing := by
  have accepted : holding.fault? (.register (.function weighing)) = none := by decide +kernel
  obtain ⟨reply, registered⟩ := ok_of_fault? accepted
  exact found_after registered []

/-- A call without arguments is told that the function takes seven. -/
theorem scales_want_seven :
    scales.phase = .ready ∧
      scales.machine.callNative scales.types (.function weighing []) =
        (.error (.arityMismatch "weigh" "7" 0),
          scales.machine.requested (.function weighing [])) := by
  have called := @accepted_arities_are_called scales scales.machine [] 
    (scales.environment scales.library) (Run.evaluate (scales.environment scales.library) 0)
    .outermost [] _ _ scales_reachable scales_ready rfl rfl scales_sound.machine rfl
  obtain ⟨_, _, answers, _⟩ := called
  exact ⟨scales_ready, (answers weighing).undeclared nofun⟩

/-- The machine with seven values on it. -/
def laden : Machine :=
  Nat.repeat (Machine.push .unit) 7 scales.machine

theorem laden_sound : laden.Sound ⟨scales.types, fun _ _ => False, fun _ => False⟩ 0 := by
  have sound := scales_sound.machine
  exact ((((((sound.push .unit).push .unit).push .unit).push .unit).push .unit).push .unit).push
    .unit

theorem laden_operands :
    (List.range 7).map laden.operand = List.replicate 7 (.datum .unit) := by
  have operands : laden.operands = Array.replicate 7 (.datum .unit) := by
    change ((((((scales.machine.operands.push _).push _).push _).push _).push _).push _).push _ = _
    rw [scales_sound.operands]
    rfl
  apply List.eq_replicate_of_mem
  intro value member
  obtain ⟨position, below, rfl⟩ := List.mem_map.mp member
  rw [Machine.operand_eq, operands, Array.getElem?_replicate, if_pos (List.mem_range.mp below)]

/-- Whether a part of a run comes to its end. -/
def completes {α : Type} : EStateM.Result Halt Machine α → Bool
  | .ok _ _ => true
  | .error _ _ => false

/-- Seven values are what the function wants, but no call gets them to it. -/
theorem seven_are_too_many :
    ¬ ∀ (session : Session) (env : Environment) (self : Run.Evaluator) (frame : Frame)
      (machine : Machine) (function : FunctionDescriptor) (positions : List Nat)
      (arguments : List HostValue) (place? : Option Place) (position : Position),
      session.Reachable → session.phase = .ready →
      env = session.environment session.library →
      machine.Sound ⟨session.types, fun _ _ => False, fun _ => False⟩ 0 →
      (positions.map machine.operand).map Value.toHost? = arguments.map some →
      session.functions.find? FunctionRegistry.globalSpace function.name = some function →
      Name.ForHosts function.name → env.library.find? function.name positions.length = none →
      session.types.declaresMethod function.name = false →
      function.parameters.Declares arguments.length →
      checkKinds function.parameters.kinds arguments = .ok () →
      Run.callNamed env self frame function.name ⟨none, positions⟩ place? position machine =
        Run.requesting env (.function function (positions.map machine.operand)) positions position
          machine := by
  intro reached
  let env := scales.environment scales.library
  have formed : ((List.range 7).map laden.operand).map Value.toHost? =
      (List.replicate 7 .null).map some := by
    rw [laden_operands]
    rfl
  have own : env.library.find? weighing.name 7 = none := by decide +kernel
  have undeclared : scales.types.declaresMethod weighing.name = false := by decide +kernel
  have same := reached scales env (Run.evaluate env 0) .outermost laden weighing (List.range 7)
    (List.replicate 7 .null) none default scales_reachable scales_ready rfl laden_sound formed
    weighing_found ⟨by decide, by decide, by decide⟩ own undeclared rfl rfl
  have missed := (@Run.reaches_offered env (Run.evaluate env 0) .outermost laden (List.range 7)
    weighing.name (.function weighing) ⟨by decide, by decide, by decide⟩ own undeclared
    (fun values few => Native.offered?_function few weighing_found) none default).beyond (by decide)
  have answers : completes (Run.requesting env (.function weighing
      ((List.range 7).map laden.operand)) (List.range 7) default laden) = true := by decide +kernel
  rw [← same, missed] at answers
  cases answers

end Session
end ScriptHost
