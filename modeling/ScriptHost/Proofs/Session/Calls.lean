import ScriptHost.Proofs.Native.Admission
import ScriptHost.Proofs.Script.Resolution
import ScriptHost.Proofs.Session.Entries
import ScriptHost.Proofs.Session.Faults
import ScriptHost.Proofs.Session.Fields
import ScriptHost.Proofs.Session.Registration

/-!
Calls of methods and functions by their names.

The methods of all types and the functions of the host share their names, and what a call means
does not depend on the type of its first argument. So a method that the type of an instance lacks
is unknown only if nothing else has its name: a function of the host or a type takes the call, with
the instance as its first argument. In turn a method of any type takes the calls of a function of
the same name whose first argument is an instance.
-/

set_option autoImplicit false

namespace ScriptHost

open Script

section Arguments

variable {covenant : Covenant} {machine : Machine} {positions : List Nat}
  {arguments : List HostValue}

theorem Script.Machine.Sound.passes_operands (sound : machine.Sound covenant 0)
    (formed : (positions.map machine.operand).map Value.toHost? = arguments.map some) :
    machine.store.collect.heap.Passes (positions.map machine.operand) arguments := by
  refine ⟨formed, fun handle member => ?_⟩
  have crossed : some (HostValue.object handle) ∈
      (positions.map machine.operand).map Value.toHost? := by
    rw [formed]
    exact List.mem_map_of_mem member
  obtain ⟨value, among, same⟩ := List.mem_map.mp crossed
  obtain ⟨position, _, rfl⟩ := List.mem_map.mp among
  obtain ⟨target, held, rfl⟩ := Value.of_toHost?_object same
  exact sound.contains_collect held

theorem Script.Machine.Sound.resident_collect (sound : machine.Sound covenant 0) {place : Place}
    {reference : Reference} (held : machine.valueAt place = .object reference) :
    ∃ resident, machine.store.collect.heap.resident? reference.handle = some resident ∧
      resident.content.typeId = reference.typeId := by
  have owned := Machine.owned_valueAt_le machine place
  rw [held] at owned
  have member : Holding.object reference ∈ 0 + machine.owned := by
    rw [zero_add]
    exact Multiset.mem_of_le owned (Multiset.mem_coe.mpr List.mem_cons_self)
  exact sound.accounts.collect.resolved member

theorem not_function_of_formed
    (formed : (positions.map machine.operand).map Value.toHost? = arguments.map some) :
    ∀ position ∈ positions, ∀ function bound,
      machine.operand position ≠ .function function bound := by
  intro position member function bound same
  have crossed : Value.toHost? (machine.operand position) ∈ arguments.map some := by
    rw [← formed]
    exact List.mem_map_of_mem (List.mem_map_of_mem member)
  rw [same] at crossed
  obtain ⟨argument, _, other⟩ := List.mem_map.mp crossed
  cases other

end Arguments

namespace Session

variable {session : Session} {env : Environment} {self : Run.Evaluator} {frame : Frame}
  {machine : Machine} {place : Place} {positions : List Nat} {name : String}
  {reference : Reference} {descriptor : TypeDescriptor} {arguments : List HostValue}
  {promised : Handle → TypeId → Prop} {earlier : Moment → Prop}

/-- A call of a method that the type of an instance does not have. If another type has the method,
it is refused and nothing is done. If a function or a type of the host has the name, it is a call of
that with the instance as its first argument. Otherwise it is told as a missing member, as far as
missing members are told. -/
theorem missing_methods_are_answered
    (sound : machine.Sound ⟨env.types, promised, earlier⟩ 0)
    (target : machine.valueAt place = .object reference)
    (known : env.types.get reference.typeId = .ok descriptor)
    (undeclared : descriptor.declaresMethod name = false) (named : Name.ForHosts name)
    (own : env.library.find? name positions.length = none)
    (formed : (positions.map machine.operand).map Value.toHost? = arguments.map some)
    (few : arguments.length ≤ argumentLimit) (start position : Position) :
    let call := Run.callMethod env self frame name place positions start position
    let values := .object reference :: positions.map machine.operand
    let request := Call.Request.method reference name (positions.map machine.operand)
    let fault := Fault.unknownMethod descriptor.name name
    let failure := Failure.located (.functionNotFound (signature name values)) position
    (env.types.declaresMethod name = true →
      machine.callNative env.types request = (.error fault, machine.requested request) ∧
        Run.ComesTo env (.refused request fault position) [] call machine) ∧
    (env.types.declaresMethod name = false →
      (Native.offered? env.types env.functions name values = none →
        call machine = .error (.raised failure) (machine.record .failure) ∧
          Run.ComesTo env (.unable failure) [] call machine ∧
          failure.memberFault? = some (.unknownMethod Value.objectTypeName name)) ∧
      ∀ offered, Native.offered? env.types env.functions name values = some offered →
        call machine = Run.requesting env offered positions position machine) ∧
    ∀ (session : Session) (operation : Operation) (work : Run Unit) (begun : Machine)
      (crossings : List Run.Crossing), session.phase = .ready →
      session.Starts operation env work begun →
      (Run.ComesTo env (.refused request fault position) crossings work begun →
        (session.perform operation).1 = .error fault) ∧
      (Run.ComesTo env (.unable failure) crossings work begun →
        (session.perform operation).1 =
          .error (if Run.leavesCall crossings then (Run.marked failure crossings).runtimeFault ""
            else .unknownMethod Value.objectTypeName name)) := by
  intro call values request fault failure
  have plain := not_function_of_formed formed
  have counted : positions.length = arguments.length := by
    have same := congrArg List.length formed
    simpa using same
  have given : Run.Arguments.values ⟨some place, positions⟩ machine = values := by
    simp [Run.Arguments.values, target, values]
  have called : call machine =
      Run.callHost env name ⟨some place, positions⟩ (some place) position machine :=
    Run.callMethod_host named own target plain start position
  have member : failure.memberFault? = some (.unknownMethod Value.objectTypeName name) :=
    memberFault?_signature named.identifier reference _ position
  have asked : ∀ request?, Native.asked? env.types env.functions name values = request? →
      Native.asked? env.types env.functions name
        (Run.Arguments.values ⟨some place, positions⟩ machine) = request? := by
    intro request? same
    rw [given, same]
  refine ⟨?declared, fun absent => ⟨?nothing, ?offered⟩, ?told⟩
  case declared =>
    intro declared
    obtain ⟨resident, found, same⟩ := sound.resident_collect target
    rw [← same] at known
    have refused := Call.check_method_undeclared found known undeclared
      (positions.map machine.operand)
    have answer := (guardedRequest env.types machine request).refused fault refused
    have method := asked _ (Native.asked?_method declared (by simpa [counted] using few))
    refine ⟨answer, .calledAsMethod (named.forMethods.unanswered _) own target plain ?_⟩
    exact .refusedByName named method (congrArg Prod.fst answer)
  case nothing =>
    intro nothing
    have none := asked _ ((Native.asked?_apart (Native.not_callsMethod absent)).trans nothing)
    refine ⟨?_, .calledAsMethod (named.forMethods.unanswered _) own target plain ?_, member⟩
    · have ended := Run.callHost_nothing none (some place) position
      rw [called, ended, given]
    · have inside := @Run.ComesTo.foundNothing env machine name ⟨some place, positions⟩ (some place)
        position named none
      rwa [given] at inside
  case offered =>
    intro offered found
    have request := asked _ ((Native.asked?_apart (Native.not_callsMethod absent)).trans found)
    rw [called]
    exact Run.callHost_plain request (Native.isMethod_of_offered? found) (some place) position
  case told =>
    intro session operation work begun crossings ready starts
    constructor
    · exact fun comes => starts.told ready comes
    · intro comes
      rw [starts.told ready comes, Run.told_member member]

/-- A function checks the number of its arguments and then their kinds before its body starts. -/
structure FunctionAnswers (types : TypeRegistry) (machine : Machine)
    (function : FunctionDescriptor) (values : List Value) (arguments : List HostValue) : Prop where
  undeclared : ¬ function.parameters.Declares arguments.length →
    machine.callNative types (.function function values) =
      (.error (.arityMismatch function.name function.parameters.text arguments.length),
        machine.requested (.function function values))
  otherKind : function.parameters.Declares arguments.length →
    ∀ fault, checkKinds function.parameters.kinds arguments = .error fault →
      machine.callNative types (.function function values) =
        (.error fault, machine.requested (.function function values))
  entered : function.parameters.Declares arguments.length →
    checkKinds function.parameters.kinds arguments = .ok () →
      machine.callNative types (.function function values) =
        answered (machine.requested (.function function values))
          (machine.store.run (Call.perform types (function.body arguments) >>= Call.toScript))

theorem functionAnswers {types : TypeRegistry} {values : List Value}
    (passes : machine.store.collect.heap.Passes values arguments)
    (function : FunctionDescriptor) :
    FunctionAnswers types machine function values arguments := by
  have guarded := guardedRequest types machine (.function function values)
  have checked := @Call.check_function types _ _ _ passes function
  constructor
  · intro undeclared
    rw [FunctionDescriptor.check_undeclared undeclared] at checked
    exact guarded.refused _ checked
  · intro declared fault refused
    rw [FunctionDescriptor.check_declared declared, refused] at checked
    exact guarded.refused fault checked
  · intro declared admitted
    rw [FunctionDescriptor.check_declared declared, admitted] at checked
    exact (guarded.entered _ checked).1

/-- A function that has been registered is what calls by its name get, whatever has been done since.
The one exception are calls with an instance first, if any type has a method of that name: they are
for the method. -/
theorem registered_functions_are_called {function : FunctionDescriptor} {reply : Reply}
    (registered : (session.perform (.register (.function function))).1 = .ok reply)
    (operations : List Operation) {later : Session}
    (since : later = (session.perform (.register (.function function))).2.after operations)
    (types : env.types = later.types) (functions : env.functions = later.functions)
    (named : Name.ForHosts function.name)
    (own : env.library.find? function.name positions.length = none)
    (sound : machine.Sound ⟨env.types, promised, earlier⟩ 0)
    (formed : (positions.map machine.operand).map Value.toHost? = arguments.map some)
    (few : arguments.length ≤ argumentLimit) (place? : Option Place) (position : Position) :
    let call := Run.callNamed env self frame function.name ⟨none, positions⟩ place? position machine
    let values := positions.map machine.operand
    (¬ Native.CallsMethod later.types function.name values →
      call = Run.requesting env (.function function values) positions position machine) ∧
    (later.types.declaresMethod function.name = true →
      ∀ reference rest, values = .object reference :: rest →
        call = Run.requestingMethod env (.method reference function.name rest) place?
          (positions.drop 1 ++ positions.take 1) position machine) ∧
    FunctionAnswers env.types machine function values arguments ∧
    ∀ terms, Run.call env self frame function.name terms position = (do
      let before ← Run.mark
      Run.gathering Run.inOrder do
        let (positions, place?) ← Run.evaluateArguments self frame terms
        let _ ← Run.callNamed env self frame function.name ⟨none, positions⟩ place? position
      Run.keepTop before) := by
  intro call values
  have found : env.functions.find? FunctionRegistry.globalSpace function.name = some function := by
    rw [functions, since]
    exact found_after registered operations
  have counted : values.length = arguments.length := by
    have same := congrArg List.length formed
    simpa [values] using same
  have given : Run.Arguments.values ⟨none, positions⟩ machine = values := rfl
  have called : call =
      Run.callHost env function.name ⟨none, positions⟩ place? position machine :=
    Run.callNamed_host named ⟨none, positions⟩ own place? position machine
  refine ⟨?function, ?method, functionAnswers (sound.passes_operands formed) function, ?terms⟩
  case function =>
    intro apart
    rw [← types] at apart
    have asked : Native.asked? env.types env.functions function.name values =
        some (.function function values) := by
      rw [Native.asked?_apart apart]
      exact Native.offered?_function (counted.trans_le few) found
    rw [called]
    exact Run.callHost_plain asked rfl place? position
  case method =>
    intro declared reference rest first
    rw [← types] at declared
    have asked : Native.asked? env.types env.functions function.name values =
        some (.method reference function.name rest) := by
      rw [first] at counted ⊢
      exact Native.asked?_method declared (Nat.le_of_succ_le (counted.trans_le few))
    rw [called]
    exact Run.callHost_method asked rfl place? position
  case terms =>
    intro terms
    exact Run.call_named named terms position

def lamps : Registration :=
  let lamp : HostType := ⟨"Lamp", .empty⟩
  let shine : Method lamp := ⟨[], fun _ _ => .done (.text "bright")⟩
  .type ⟨"Lamp", lamp, [], [], [("shine", shine)], [], none⟩

def shining : FunctionDescriptor :=
  ⟨"shine", .variadic, fun _ => .done (.text "dark")⟩

def counting : FunctionDescriptor :=
  ⟨"count", .variadic, fun _ => .done (.text "one")⟩

/-- A session in which tokens have no methods but lamps have one, and a function of the host has its
name. -/
def naming : Session :=
  (holding.perform (.register (.function shining))).2.after
    [.register lamps, .register (.function counting)]

theorem naming_reachable : naming.Reachable :=
  (Reachable.performed _ holding_reachable).after _

theorem naming_ready : naming.phase = .ready := by decide +kernel

theorem naming_sound : naming.machine.Sound ⟨naming.types, fun _ _ => False, fun _ => False⟩ 0 :=
  (naming_reachable.sound (by rw [naming_ready]; nofun)).machine

theorem naming_target : naming.machine.valueAt (.ofVariable 0) = .object ⟨⟨0, 0⟩, 0⟩ := by
  apply eq_object_of_reference?
  decide +kernel

theorem naming_known : ∃ descriptor, naming.types.get 0 = .ok descriptor ∧
    descriptor.name = "Token" ∧ ∀ name, descriptor.declaresMethod name = false := by
  have shape : (naming.types.get 0).toOption.map
      (fun descriptor => (descriptor.name, descriptor.methods.isEmpty)) =
        some ("Token", true) := by
    decide +kernel
  obtain ⟨descriptor, known, same⟩ := Option.map_eq_some_iff.mp shape
  injection same with named empty
  refine ⟨descriptor, eq_ok_of_toOption known, named, fun name => ?_⟩
  unfold TypeDescriptor.declaresMethod
  rw [List.isEmpty_iff.mp empty]
  rfl

/-- A token does not shine, as a lamp does. -/
theorem token_does_not_shine :
    naming.phase = .ready ∧
      (naming.machine.callNative naming.types (.method ⟨⟨0, 0⟩, 0⟩ "shine" [])).1 =
        .error (.unknownMethod "Token" "shine") := by
  obtain ⟨descriptor, known, named, undeclared⟩ := naming_known
  let env := naming.environment naming.library
  have own : env.library.find? "shine" 0 = none := by decide +kernel
  have elsewhere : env.types.declaresMethod "shine" = true := by decide +kernel
  have answered := @missing_methods_are_answered env (Run.evaluate env 0) .outermost
    naming.machine (.ofVariable 0) [] "shine" _ descriptor [] _ _ naming_sound naming_target known
    (undeclared "shine") ⟨by decide, by decide, by decide⟩ own rfl (by decide) default default
  rw [← named]
  exact ⟨naming_ready, congrArg Prod.fst (answered.1 elsewhere).1⟩

/-- Tokens have no method `count`, but the function takes the call. -/
theorem count_takes_a_token :
    ¬ ∀ (session : Session) (env : Environment) (self : Run.Evaluator) (frame : Frame)
      (place : Place) (reference : Reference) (descriptor : TypeDescriptor) (name : String)
      (start position : Position),
      session.Reachable → session.phase = .ready → env = session.environment session.library →
      session.machine.valueAt place = .object reference →
      session.types.get reference.typeId = .ok descriptor →
      descriptor.declaresMethod name = false → Name.ForHosts name →
      env.library.find? name 0 = none →
      ∃ failure after, Run.callMethod env self frame name place [] start position session.machine =
        .error (.raised failure) after := by
  intro unknown
  obtain ⟨descriptor, known, _, undeclared⟩ := naming_known
  let env := naming.environment naming.library
  obtain ⟨failure, after, failed⟩ := unknown naming env (Run.evaluate env 0) .outermost
    (.ofVariable 0) _ descriptor "count" default default naming_reachable naming_ready rfl
    naming_target known (undeclared "count") ⟨by decide, by decide, by decide⟩
    (by decide +kernel)
  have ended : (match Run.callMethod env (Run.evaluate env 0) .outermost "count" (.ofVariable 0) []
      default default naming.machine with
    | .ok _ _ => true
    | .error _ _ => false) = true := by decide +kernel
  rw [failed] at ended
  cases ended

theorem shining_registered :
    ∃ reply, (holding.perform (.register (.function shining))).1 = .ok reply := by
  apply ok_of_fault?
  decide +kernel

theorem shining_own (count : Nat) : naming.library.find? shining.name count = none := by
  have none : naming.library = [] := by decide +kernel
  rw [none]
  rfl

/-- Without an instance, the function answers also after lamps have been registered. -/
theorem nothing_is_dark :
    naming.phase = .ready ∧
      naming.machine.callNative naming.types (.function shining []) =
        answered (naming.machine.requested (.function shining []))
          (naming.machine.store.run
            (Call.perform naming.types (shining.body []) >>= Call.toScript)) := by
  obtain ⟨reply, registered⟩ := shining_registered
  let env := naming.environment naming.library
  have called := @registered_functions_are_called holding env (Run.evaluate env 0) .outermost
    naming.machine [] [] _ _ shining reply registered _ naming rfl rfl rfl
    ⟨by decide, by decide, by decide⟩ (shining_own 0) naming_sound rfl (by decide) none default
  obtain ⟨_, _, answers, _⟩ := called
  exact ⟨naming_ready, answers.entered trivial (checkKinds_nil [])⟩

/-- A token is dark until lamps are registered. After that the call is for a method, which a token
does not have. -/
theorem lamps_take_the_token :
    ¬ ∀ (session : Session) (function : FunctionDescriptor) (reply : Reply)
      (registrations : List Registration) (argument : String),
      session.Reachable → Name.ForHosts function.name → Name.isIdentifier argument = true →
      (session.perform (.register (.function function))).1 = .ok reply →
      (∀ count, session.library.find? function.name count = none) →
      let before := (session.perform (.register (.function function))).2
      let later := before.after (registrations.map .register)
      let call := Operation.eval (function.name ++ "(" ++ argument ++ ")")
      later.fault? call = before.fault? call := by
  intro unchanged
  obtain ⟨reply, registered⟩ := shining_registered
  have none : holding.library = [] := by decide +kernel
  have same := unchanged holding shining reply [lamps] "a" holding_reachable
    ⟨by decide, by decide, by decide⟩ (by decide) registered
    (fun count => by rw [none]; rfl)
  revert same
  decide +kernel

end Session
end ScriptHost
