import ScriptHost.Proofs.Native.Accesses
import ScriptHost.Proofs.Script.Dispatch
import ScriptHost.Proofs.Session.Calls

/-!
Whose member it is that a script gets.

All instances are of one type to the language, and the members of all types share their names. Still
an access to a member of an instance is answered by the table of the instance's own type, or fails
for want of a member of this type. It is so whatever else is registered, before or afterwards.
-/

set_option autoImplicit false

namespace ScriptHost

open Script

/-- What comes of a request once it is known which body it is for, if it is for any. -/
def Script.Machine.settled (types : TypeRegistry) (machine : Machine) (request : Call.Request) :
    Except Fault Call.Entry → Except Fault Unit × Machine
  | .error fault => (.error fault, machine.requested request)
  | .ok entry => Session.answered (machine.requested request)
      (machine.store.run (entry.run types >>= Call.toScript))

theorem Script.Machine.callNative_settled (types : TypeRegistry) (machine : Machine)
    (request : Call.Request) :
    machine.callNative types request =
      machine.settled types request (request.check types machine.store.collect.heap) := by
  have guarded := Session.guardedRequest types machine request
  cases checked : request.check types machine.store.collect.heap with
  | error fault => exact guarded.refused fault checked
  | ok entry => exact (guarded.entered entry checked).1

/-- A reference leads to an instance of a registered type. -/
theorem Script.Machine.Sound.instance_collect {covenant : Covenant} {machine : Machine}
    (sound : machine.Sound covenant 0) {place : Place} {reference : Reference}
    (target : machine.valueAt place = .object reference) :
    ∃ (descriptor : TypeDescriptor) (content : descriptor.type.Content),
      covenant.types.get reference.typeId = .ok descriptor ∧
      machine.store.collect.heap.content? reference.handle =
        some ⟨reference.typeId, ⟨descriptor.type, content⟩⟩ := by
  obtain ⟨⟨⟨typeId, body⟩, pinned, anchors⟩, resides, same⟩ := sound.resident_collect target
  obtain ⟨descriptor, known, sameType⟩ := sound.accounts.collect.typed resides
  obtain ⟨content, downcast⟩ := Instance.as?_of_type sameType.symm
  dsimp only at same known downcast
  obtain rfl := Instance.eq_of_as? downcast
  obtain rfl := same
  refine ⟨descriptor, content, ?_, Heap.content?_eq_some_iff.mpr ⟨_, resides, rfl⟩⟩
  unfold TypeRegistry.get
  rw [known]

namespace Session

variable {session : Session} {env : Environment} {self : Run.Evaluator} {frame : Frame}
  {machine : Machine} {place : Place} {reference : Reference} {descriptor : TypeDescriptor}
  {content : descriptor.type.Content} {promised : Handle → TypeId → Prop} {earlier : Moment → Prop}

/-- Requests for the members of an instance are settled by the table of one type. Where this has a
member of the name, only this member's body can answer. Where it has none, and only there, the fault
says so. -/
structure Settles (types : TypeRegistry) (machine : Machine) (owner : Reference)
    (descriptor : TypeDescriptor) (content : descriptor.type.Content) : Prop where
  settled : ∀ (later : Machine) (access : Call.Access) (name : String),
    later.store = machine.store →
    later.callNative types (access.request owner name) =
      later.settled types (access.request owner name)
        (access.answer machine.store.collect.heap owner descriptor content name)
  owned : ∀ (access : Call.Access) (name : String) (entry : Call.Entry),
    access.answer machine.store.collect.heap owner descriptor content name = .ok entry →
    entry.OwnedBy descriptor name
  missing : ∀ (access : Call.Access) (name : String),
    access.answer machine.store.collect.heap owner descriptor content name =
        .error (access.missing descriptor.name name) ↔
      access.isDeclared descriptor name = false

theorem settles {types : TypeRegistry} (distinct : types.Distinct)
    (known : types.get reference.typeId = .ok descriptor)
    (found : machine.store.collect.heap.content? reference.handle =
      some ⟨reference.typeId, ⟨descriptor.type, content⟩⟩) :
    Settles types machine reference descriptor content where
  settled later access name same := by
    rw [later.callNative_settled, same, Call.Access.check_eq distinct known found]
  owned _ _ _ answered := Call.Access.owned_of_answer answered
  missing _ _ := Call.Access.answer_missing_iff

/-- What a script does with a member of an instance is a request for it, if any type declares a
member of the name. If the request is refused, the script has come to the refusal. A member of a
constant cannot be assigned to. -/
structure Requests (env : Environment) (self : Run.Evaluator) (frame : Frame) (machine : Machine)
    (place : Place) (owner : Reference) : Prop where
  method : ∀ (name : String) (positions : List Nat) (arguments : List HostValue)
    (start position : Position), env.types.declaresMethod name = true →
    Name.Reaches name positions.length → env.library.find? name positions.length = none →
    (positions.map machine.operand).map Value.toHost? = arguments.map some →
    arguments.length ≤ argumentLimit →
    let request := Call.Request.method owner name (positions.map machine.operand)
    let call := Run.callMethod env self frame name place positions start position
    call machine = Run.requestingMethod env request (some place) positions position machine ∧
      ∀ fault, (machine.callNative env.types request).1 = .error fault →
        Run.ComesTo env (.refused request fault position) [] call machine
  read : ∀ (name : String) (position : Position), env.types.declaresField name = true →
    let request := Call.Request.read owner name
    let read := Run.toProperty env place name position
    read machine = (Run.native env request [] position >>= fun _ => Run.newOperand) machine ∧
      ∀ fault, (machine.callNative env.types request).1 = .error fault →
        Run.ComesTo env (.refused request fault position) [] read machine
  write : ∀ (assignment : Run.Assignment) (name : String) (position : Position),
    env.types.declaresField name = true → assignment.operation? = none →
    place.root ≠ .operand assignment.value → machine.isConstant place = false →
    let raised := machine.raise assignment.value
    let request := Call.Request.write owner name (machine.operand assignment.value)
    let write := Run.assignProperty env assignment place name position
    write machine = (Run.native env request [raised.operands.size - 1] position >>=
        fun _ => modify fun machine => machine.drop.drop) raised ∧
      ∀ fault, (raised.callNative env.types request).1 = .error fault →
        Run.ComesTo env (.refused request fault position) [] write machine
  constant : ∀ (assignment : Run.Assignment) (name : String) (position : Position),
    env.types.declaresField name = true → assignment.operation? = none →
    place.root ≠ .operand assignment.value → machine.isConstant place = true →
    ∃ later, Run.assignProperty env assignment place name position machine =
        .error (.raised (.located (.constantProperty name) position)) later ∧
      later.still = machine.still

theorem requests (target : machine.valueAt place = .object reference) :
    Requests env self frame machine place reference where
  method name positions arguments start position declared reaches own formed few := by
    have plain := not_function_of_formed formed
    have counted : positions.length ≤ argumentLimit := by
      have same := congrArg List.length formed
      rw [List.length_map, List.length_map, List.length_map] at same
      omega
    exact ⟨Run.callMethod_reaches declared reaches counted own target plain start position,
      fun fault => .refusedMethod declared reaches counted own target plain start position⟩
  read name position declared :=
    ⟨Run.toProperty_reads target declared position, fun fault => .refusedRead target declared⟩
  write assignment name position declared plain apart free :=
    ⟨Run.assignProperty_requests plain apart target declared free,
      fun fault => .refusedWrite plain apart target declared free⟩
  constant assignment name position declared plain apart :=
    Run.assignProperty_constant plain apart target declared

theorem steady_extends (types : TypeRegistry) :
    Steady fun session => types.ExtendsTo session.types :=
  ⟨⟨⟨fun kept => kept, fun kept => kept⟩, fun kept => kept⟩,
    ⟨fun kept _ _ => kept, fun kept _ registered typeId descriptor known =>
      extends_register registered _ _ (kept typeId descriptor known)⟩⟩

theorem extends_after (session : Session) (operations : List Operation) :
    session.types.ExtendsTo (session.after operations).types :=
  @Steady.kept_after (fun types _ => session.types.ExtendsTo types) (steady_extends session.types)
    operations session fun _ _ known => known

/-- With more types, the type of an instance is still the same, names are still declared, and the
answer to an access is still the same body or the same refusal. The outcome is the same as well,
unless the body allocates instances of types that have come later. -/
structure Lasts (types later : TypeRegistry) (machine : Machine) (owner : Reference)
    (descriptor : TypeDescriptor) (content : descriptor.type.Content) : Prop where
  known : later.get owner.typeId = .ok descriptor
  methods : ∀ name, types.declaresMethod name = true → later.declaresMethod name = true
  fields : ∀ name, types.declaresField name = true → later.declaresField name = true
  answer : ∀ (access : Call.Access) (name : String),
    (access.request owner name).check later machine.store.collect.heap =
      access.answer machine.store.collect.heap owner descriptor content name
  outcome : ∀ (access : Call.Access) (name : String),
    (∀ entry, access.answer machine.store.collect.heap owner descriptor content name = .ok entry →
      entry.AllocatesOnly fun type => (types.idOf? type).isSome = true) →
    machine.callNative later (access.request owner name) =
      machine.callNative types (access.request owner name)

theorem lasts {types later : TypeRegistry} (grows : types.ExtendsTo later)
    (distinct : types.Distinct) (distinct' : later.Distinct)
    (sound : machine.Sound ⟨types, promised, earlier⟩ 0)
    (known : types.get reference.typeId = .ok descriptor)
    (found : machine.store.collect.heap.content? reference.handle =
      some ⟨reference.typeId, ⟨descriptor.type, content⟩⟩) :
    Lasts types later machine reference descriptor content where
  known := grows.get_eq known
  methods _ := grows.any
  fields _ := grows.any
  answer _ _ := Call.Access.check_eq distinct' (grows.get_eq known) found
  outcome access name only := by
    have typed : machine.store.collect.heap.Typed types :=
      ⟨sound.accounts.collect.regular, sound.accounts.collect.typed⟩
    rw [machine.callNative_settled, machine.callNative_settled,
      Call.Access.check_eq distinct known found,
      Call.Access.check_eq distinct' (grows.get_eq known) found]
    cases answer : access.answer machine.store.collect.heap reference descriptor content name with
    | error fault => rfl
    | ok entry =>
        have same := @Call.Entry.run_grown types later grows distinct distinct' entry
          (only entry answer) ⟨machine.store.collect, #[]⟩ typed
        exact congrArg (answered _) (Store.run_congr Call.toScript same)

/-- Every instance that a script can get at is of a registered type. Whatever types are registered,
and in whatever order, the access of a script to a member of the instance is a request, if any type
declares a member of the name. The request is settled by the table of the instance's own type, which
types that come later do not change. Where this type does not have the member, the host is told so,
in whatever operation the script comes to the refusal. -/
theorem members_are_their_types_own (reachable : session.Reachable)
    (types : env.types = session.types)
    (sound : machine.Sound ⟨session.types, promised, earlier⟩ 0)
    (target : machine.valueAt place = .object reference) :
    ∃ (descriptor : TypeDescriptor) (content : descriptor.type.Content),
      session.types.get reference.typeId = .ok descriptor ∧
      machine.store.collect.heap.content? reference.handle =
        some ⟨reference.typeId, ⟨descriptor.type, content⟩⟩ ∧
      Settles session.types machine reference descriptor content ∧
      (∀ self frame, Requests env self frame machine place reference) ∧
      (∀ operations : List Operation, Lasts session.types (session.after operations).types machine
        reference descriptor content) ∧
      ∀ (access : Call.Access) (name : String), access.isDeclared descriptor name = false →
        (machine.callNative env.types (access.request reference name)).1 =
            .error (access.missing descriptor.name name) ∧
          ∀ (other : Session) (operation : Operation) (work : Run Unit) (begun : Machine)
            (position : Position) (crossings : List Run.Crossing), other.phase = .ready →
            other.Starts operation env work begun →
            Run.ComesTo env (.refused (access.request reference name)
              (access.missing descriptor.name name) position) crossings work begun →
            (other.perform operation).1 = .error (access.missing descriptor.name name) := by
  obtain ⟨descriptor, content, known, found⟩ := sound.instance_collect target
  have settles := settles reachable.distinct known found
  refine ⟨descriptor, content, known, found, settles, fun self frame => requests target,
    fun operations => ?lasts, fun access name undeclared => ⟨?refused, ?told⟩⟩
  case lasts =>
    exact lasts (session.extends_after operations) reachable.distinct
      (reachable.after operations).distinct sound known found
  case refused =>
    rw [types, settles.settled machine access name rfl,
      (settles.missing access name).mpr undeclared]
    rfl
  case told =>
    intro other operation work begun position crossings ready starts comes
    exact starts.told ready comes

/-- A bench makes lamps, can be called, and is at some level. A lamp shines and can be called too,
and is lit or not. -/
def bench : HostType := ⟨"Bench", .empty⟩

def lampType : HostType := ⟨"Lamp", .empty⟩

def benches : Registration :=
  let call : Method bench := ⟨[], fun _ _ => .done (.text "bench")⟩
  let make : Method bench := ⟨[], fun _ _ => .new lampType ()⟩
  let level : Field bench := ⟨.boolean, fun _ => .boolean true, some fun _ _ => ((), .ok ())⟩
  .type ⟨"Bench", bench, [], [("level", level)], [("call", call), ("make", make)], [], none⟩

def callableLamps : Registration :=
  let call : Method lampType := ⟨[], fun _ _ => .done (.text "lamp")⟩
  let shine : Method lampType := ⟨[], fun _ _ => .done (.text "bright")⟩
  let lit : Field lampType := ⟨.boolean, fun _ => .boolean false, none⟩
  .type ⟨"Lamp", lampType, [], [("lit", lit)], [("call", call), ("shine", shine)], [], none⟩

def workshop : Session :=
  (create .standard).after [.start, .register benches, .insertObject ⟨bench, ()⟩,
    .setGlobal "bench" (.object ⟨0, 0⟩), .run "const BENCH = bench;"]

def furnished : Session := workshop.after [.register callableLamps]

theorem workshop_reachable : workshop.Reachable :=
  (Reachable.created .standard).after _

theorem furnished_reachable : furnished.Reachable :=
  workshop_reachable.after _

theorem furnished_sound :
    furnished.machine.Sound ⟨furnished.types, fun _ _ => False, fun _ => False⟩ 0 :=
  (furnished_reachable.sound (by decide +kernel)).machine

theorem furnished_target : furnished.machine.valueAt (.ofVariable 0) = .object ⟨⟨0, 0⟩, 0⟩ :=
  eq_object_of_reference? (by decide +kernel)

/-- A bench does not shine as a lamp does, whatever is done afterwards. -/
theorem bench_never_shines :
    furnished.phase = .ready ∧ furnished.types.declaresMethod "shine" = true ∧
      ∀ operations : List Operation,
        (furnished.machine.callNative (furnished.after operations).types
          (.method ⟨⟨0, 0⟩, 0⟩ "shine" [])).1 = .error (.unknownMethod "Bench" "shine") := by
  let env := furnished.environment furnished.library
  obtain ⟨descriptor, content, known, _, settles, _, lasts, _⟩ :=
    @members_are_their_types_own furnished env furnished.machine (.ofVariable 0) _ _ _
      furnished_reachable rfl furnished_sound furnished_target
  have shape : (furnished.types.get 0).toOption.map
      (fun descriptor => (descriptor.name, descriptor.declaresMethod "shine")) =
        some ("Bench", false) := by decide +kernel
  rw [known] at shape
  injection shape with shape
  injection shape with named undeclared
  refine ⟨by decide +kernel, by decide +kernel, fun operations => ?_⟩
  have missing := (settles.missing (.method []) "shine").mpr undeclared
  have answer := (lasts operations).answer (.method []) "shine"
  rw [missing] at answer
  have refused := (guardedRequest _ furnished.machine _).refused _ answer
  rw [← named]
  exact congrArg Prod.fst refused

/-- The instance that a global variable refers to. -/
def instance? (session : Session) (global : String) : Option Reference := do
  let index ← session.machine.findVariable? Frame.outermost.base global
  reference? (session.machine.valueAt (.ofVariable index))

/-- A global variable of a ready session refers to an instance, and no function of a script is in
the way. -/
structure Refers (session : Session) (global : String) (reference : Reference) : Prop where
  reachable : session.Reachable
  ready : session.phase = .ready
  scriptless : session.library = []
  refers : session.instance? global = some reference

theorem workshop_refers {global : String} (refers : workshop.instance? global = some reference) :
    workshop.Refers global reference :=
  ⟨workshop_reachable, by decide +kernel, by decide +kernel, refers⟩

/-- The bench cannot be called by a script, though its type has a method for that. A constant cannot
be assigned a level, though the field can be written. And the bench makes lamps only once there is
a type of lamps. -/
theorem bench_is_not_called :
    (¬ ∀ (session : Session) (global name : String) (reference : Reference),
      session.Refers global reference → session.types.declaresMethod name = true →
      (session.machine.callNative session.types (.method reference name [])).1 = .ok () →
      session.fault? (.eval (global ++ "." ++ name ++ "()")) = none) ∧
    (¬ ∀ (session : Session) (global name : String) (reference : Reference),
      session.Refers global reference → session.types.declaresField name = true →
      (session.machine.callNative session.types
        (.write reference name (.datum (.boolean true)))).1 = .ok () →
      session.fault? (.run (global ++ "." ++ name ++ " = true;")) = none) ∧
    ¬ ∀ (session : Session) (global name : String) (reference : Reference)
      (registrations : List Registration), session.Refers global reference →
      session.types.declaresMethod name = true →
      (session.after (registrations.map .register)).fault?
          (.eval (global ++ "." ++ name ++ "()")) =
        session.fault? (.eval (global ++ "." ++ name ++ "()")) := by
  have free : workshop.Refers "bench" ⟨⟨0, 0⟩, 0⟩ := workshop_refers (by decide +kernel)
  have constant : workshop.Refers "BENCH" ⟨⟨0, 0⟩, 0⟩ := workshop_refers (by decide +kernel)
  refine ⟨fun calls => ?_, fun writes => ?_, fun lasts => ?_⟩
  · have called := calls workshop "bench" "call" _ free (by decide +kernel)
      (by decide +kernel)
    revert called
    decide +kernel
  · have written := writes workshop "BENCH" "level" _ constant (by decide +kernel)
      (by decide +kernel)
    revert written
    decide +kernel
  · have made := lasts workshop "bench" "make" _ [callableLamps] free (by decide +kernel)
    revert made
    decide +kernel

end Session
end ScriptHost
