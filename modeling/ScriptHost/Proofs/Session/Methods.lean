import ScriptHost.Proofs.Native.Sides
import ScriptHost.Proofs.Script.Dispatch
import ScriptHost.Proofs.Script.Exchange
import ScriptHost.Proofs.Session.Collection
import ScriptHost.Proofs.Session.Handles

/-!
Methods called by scripts and by the host.

A script and the host that call the same method of an instance from the same state get the same
outcome and leave the same instances. Where the arguments are wrong in number and also in kind, a
script is told of the kind and the host of the number. And a text may be too long for a script,
which then fails with it after the method has done its work.
-/

set_option autoImplicit false

namespace ScriptHost

open Script

theorem Heap.Settled.resident?_collect {heap : Heap Occupant} (settled : heap.Settled)
    (handle : Handle) : heap.collect.2.resident? handle = heap.resident? handle := by
  rw [Heap.resident?_collect, if_neg fun gone => settled.claimed gone.2]

theorem Heap.Settled.declares_collect {heap : Heap Occupant} (settled : heap.Settled)
    {types : TypeRegistry} {receiver : Handle} {name : String} {descriptor : TypeDescriptor}
    {method : Method descriptor.type}
    (declares : Call.Declares types heap receiver name descriptor method) :
    Call.Declares types heap.collect.2 receiver name descriptor method := by
  refine ⟨?_, declares.declared⟩
  rw [settled.resident?_collect]
  exact declares.resides

theorem Heap.Settled.passes_collect {heap : Heap Occupant} (settled : heap.Settled)
    {values : List Value} {arguments : List HostValue} (passes : heap.Passes values arguments) :
    heap.collect.2.Passes values arguments := by
  refine ⟨passes.formed, fun handle member => ?_⟩
  unfold Heap.contains
  rw [settled.resident?_collect]
  exact passes.live handle member

theorem Heap.Settled.resident?_untouched {store : Store} (settled : store.heap.Settled)
    (handle : Handle) :
    (Store.conclude ⟨store.collect, #[]⟩).heap.resident? handle =
      store.heap.resident? handle := by
  rw [Store.conclude_collect]
  exact settled.resident?_collect handle

theorem Call.Declares.declaresMethod {types : TypeRegistry} {heap : Heap Occupant}
    {receiver : Handle} {name : String} {descriptor : TypeDescriptor}
    {method : Method descriptor.type}
    (declares : Declares types heap receiver name descriptor method) :
    types.declaresMethod name = true := by
  obtain ⟨resident, _, known⟩ := declares.resides
  have declared := declares.declared
  unfold TypeDescriptor.method at declared
  split at declared
  · rename_i last
    exact Array.any_eq_true'.mpr ⟨descriptor,
      Array.mem_of_getElem? (TypeRegistry.get_eq_ok known), any_of_lastNamed last⟩
  · cases declared

theorem Heap.Passes.not_function {heap : Heap Occupant} {values : List Value}
    {arguments : List HostValue} (passes : heap.Passes values arguments) (name : String)
    (bound : List Value) : .function name bound ∉ values := by
  intro member
  have formed : Value.toHost? (.function name bound) ∈ arguments.map some := by
    rw [← passes.formed]
    exact List.mem_map_of_mem member
  obtain ⟨argument, _, same⟩ := List.mem_map.mp formed
  cases same

/-- The random numbers to come and what the instances hold, whoever has a claim on them. -/
def Store.still (store : Store) : Random.Generator × (Handle → Option Occupant) :=
  (store.generator, store.heap.content?)

theorem Heap.Settled.still_untouched {store : Store} (settled : store.heap.Settled) :
    (Store.conclude ⟨store.collect, #[]⟩).still = store.still := by
  have contents : (Store.conclude ⟨store.collect, #[]⟩).heap.content? = store.heap.content? := by
    funext handle
    unfold Heap.content?
    rw [settled.resident?_untouched]
  exact Prod.ext rfl contents

theorem Store.Alike.still {script : Except Fault Value × Store}
    {host : Except Fault HostValue × Store} (alike : Alike script host) :
    script.2.still = host.2.still := by
  have contents : script.2.heap.content? = host.2.heap.content? := by
    funext handle
    unfold Heap.content?
    by_cases given : host.1 = .ok (.object handle)
    · obtain ⟨resident, _, anchored, held⟩ := alike.given handle given
      rw [anchored, held]
      rfl
    · rw [alike.others handle given]
  unfold Store.still
  rw [alike.generator, contents]

theorem Store.Alike.refers {script : Except Fault Value × Store}
    {host : Except Fault HostValue × Store} (alike : Alike script host) {handle : Handle}
    (same : host.1 = .ok (.object handle)) :
    ∃ occupant : Occupant, script.1 = .ok (.object ⟨handle, occupant.typeId⟩) ∧
      script.2.heap.content? handle = some occupant := by
  obtain ⟨resident, reference, anchored, _⟩ := alike.given handle same
  refine ⟨resident.content, reference, ?_⟩
  unfold Heap.content?
  rw [anchored]
  rfl

namespace Session

variable {session : Session}

def reference? : Value → Option Reference
  | .object reference => some reference
  | _ => none

theorem eq_object_of_reference? {value : Value} {reference : Reference}
    (found : reference? value = some reference) : value = .object reference := by
  cases value with
  | object other => exact congrArg Value.object (Option.some.inj found)
  | _ => cases found

/-! ### Both sides -/

/-- A request of a script and an operation of the host with the same outcome. What they leave is the
same but for the claim on the instance that they get, if they get one. -/
structure SameOutcome (script : Except Fault Unit × Machine) (host : Except Fault Reply × Session) :
    Prop where
  result : match script.1, host.1 with
    | .ok _, .ok (.value given) => script.2.operands.back?.bind Value.toHost? = some given
    | .error fault, .error other => fault = other
    | _, _ => False
  generator : script.2.store.generator = host.2.machine.store.generator
  others : ∀ handle, host.1 ≠ .ok (.value (.object handle)) →
    script.2.store.heap.resident? handle = host.2.machine.store.heap.resident? handle
  given : ∀ handle, host.1 = .ok (.value (.object handle)) → ∃ resident : Resident Occupant,
    script.2.operands.back? = some (.object ⟨handle, resident.content.typeId⟩) ∧
    script.2.store.heap.resident? handle = some resident.anchored ∧
    host.2.machine.store.heap.resident? handle = some resident.held

theorem perform_callMethod (ready : session.phase = .ready) (receiver : Handle) (name : String)
    (arguments : List HostValue) :
    session.perform (.callMethod receiver name arguments) =
      ((session.machine.store.run
          (Call.callMethod session.types receiver name arguments >>= Call.pinResult)).1.map .value,
        session.withMachine { session.machine with
          store := (session.machine.store.run
            (Call.callMethod session.types receiver name arguments >>= Call.pinResult)).2 }) :=
  @perform_native session _ ready (.callMethod receiver name arguments)
    (fun types => Call.callMethod types receiver name arguments >>= Call.pinResult) .value rfl

/-- The machine with the answer to a request of a script. -/
def answered (machine : Machine) : Except Fault Value × Store → Except Fault Unit × Machine
  | (.ok value, store) =>
      (.ok (), { machine with store := store, operands := machine.operands.push value })
  | (.error fault, store) => (.error fault, { machine with store := store })

/-- A request of a script finds the store collected, and collecting it again changes nothing. -/
theorem callNative_answered (types : TypeRegistry) (request : Call.Request) (machine : Machine) :
    machine.callNative types request =
      answered (machine.requested request)
        (machine.store.run (request.call types >>= Call.toScript)) := by
  have collected : (machine.requested request).store.collect = machine.store.collect :=
    Store.collect_collect machine.store
  have same : (machine.requested request).store.run (request.call types >>= Call.toScript) =
      machine.store.run (request.call types >>= Call.toScript) := by
    unfold Store.run
    rw [collected]
  rw [← same, Machine.callNative_eq]
  cases (machine.requested request).store.run (request.call types >>= Call.toScript) with
  | mk outcome store => cases outcome <;> rfl

theorem sameOutcome_of_alike {script : Except Fault Value × Store}
    {host : Except Fault HostValue × Store} (alike : Store.Alike script host) (machine : Machine) :
    SameOutcome (answered machine script)
      (host.1.map .value, session.withMachine { session.machine with store := host.2 }) := by
  obtain ⟨result, generator, others, given⟩ := alike
  obtain ⟨fault | value, left⟩ := script
  · obtain ⟨other | reply, right⟩ := host
    · exact ⟨result, generator, fun handle _ => others handle nofun, fun _ same => nomatch same⟩
    · exact result.elim
  · obtain ⟨other | reply, right⟩ := host
    · exact result.elim
    · refine ⟨?_, generator, fun handle different => others handle fun same => ?_,
        fun handle same => ?_⟩
      · change (machine.operands.push value).back?.bind Value.toHost? = some reply
        rw [Array.back?_push]
        exact result
      · cases same
        exact different rfl
      · cases same
        obtain ⟨resident, reference, scriptSide, hostSide⟩ := given handle rfl
        cases reference
        exact ⟨resident, Array.back?_push, scriptSide, hostSide⟩

/-! ### Method calls -/

/-- What the host is told of a run, and the machine that the run leaves. -/
def told {α : Type} (result : EStateM.Result Halt Machine α) : Except Fault Unit × Machine :=
  match result with
  | .error (.raised failure) machine => (.error (failure.toFault machine.thrown.back?), machine)
  | .error _ machine => (.ok (), machine)
  | .ok _ machine => (.ok (), machine)

theorem outcome_told (work : Run Unit) (machine : Machine) :
    outcome work machine = told (work { machine with operations := 0 }) := by
  unfold outcome told
  cases work { machine with operations := 0 } with
  | ok _ after => rfl
  | error halt after => cases halt <;> rfl

theorem told_error {α β : Type} {halt : Halt} {later last : Machine}
    (still : last.still = later.still) :
    let script := told (.error halt last : EStateM.Result Halt Machine α)
    let other := told (.error halt later : EStateM.Result Halt Machine β)
    script.1 = other.1 ∧ script.2.store.still = other.2.store.still := by
  cases halt with
  | raised failure =>
      refine ⟨?_, congrArg Prod.snd still⟩
      change Except.error (failure.toFault last.thrown.back?) =
        Except.error (failure.toFault later.thrown.back?)
      rw [Machine.thrown_of_still still]
  | _ => exact ⟨rfl, congrArg Prod.snd still⟩

/-- Where a script calls a method: what it runs in, the place of the instance, and the operands that
are the arguments. `start` is where the arguments begin in the text, and `position` where the name
stands. -/
structure CallSite where
  env : Environment
  self : Run.Evaluator
  frame : Frame
  place : Place
  positions : List Nat
  start : Position
  position : Position

def CallSite.call (site : CallSite) (name : String) : Run Bool :=
  Run.callMethod site.env site.self site.frame name site.place site.positions site.start
    site.position

/-- A script is about to call a method of an instance, under a name that the language does not
answer itself and that no function of a script bears. -/
structure Calling (session : Session) (site : CallSite) (reference : Reference) (name : String)
    (values : List Value) : Prop where
  types : site.env.types = session.types
  reaches : Name.Reaches name site.positions.length
  few : site.positions.length ≤ argumentLimit
  own : site.env.library.find? name site.positions.length = none
  target : session.machine.valueAt site.place = .object reference
  inside : ∀ position ∈ site.positions, position < session.machine.operands.size
  operands : site.positions.map session.machine.operand = values

/-- What the call comes to. -/
def called (session : Session) (site : CallSite) (name : String) : Except Fault Unit × Machine :=
  told (site.call name session.machine)

/-- What comes of the call, made by itself or by a chain that finds its arguments and the instance
and is nothing but the call. -/
inductive Makes (session : Session) (site : CallSite) (name : String) :
    Except Fault Unit × Machine → Prop where
  | call : Makes session site name (session.called site name)
  | chain {root : Term} {terms : List Term} {before middle : Machine}
      (prepared : Run.prepare site.self site.frame [.method name terms site.position] before =
        .ok [(.method name terms site.position, site.positions)] middle)
      (found : Run.rootPlace site.env site.self site.frame root middle =
        .ok site.place session.machine) :
      Makes session site name (told
        (Run.chain site.env site.self site.frame none root [.method name terms site.position]
          before))

/-- A method call of a script and one of the host with the same outcome, after which all instances
hold the same. -/
structure SameCall (script : Except Fault Unit × Machine) (host : Except Fault Reply × Session) :
    Prop where
  result : match script.1, host.1 with
    | .ok _, .ok (.value given) => script.2.operands.back?.bind Value.toHost? = some given
    | .error fault, .error other => fault = other
    | _, _ => False
  given : ∀ handle, host.1 = .ok (.value (.object handle)) → ∃ occupant : Occupant,
    script.2.operands.back? = some (.object ⟨handle, occupant.typeId⟩) ∧
    script.2.store.heap.content? handle = some occupant
  still : script.2.store.still = host.2.machine.store.still

/-- How a method call of a script compares with one of the host. A text that the host gets may be too
long for the script, which then fails once the method has done its work. -/
structure Compares (site : CallSite) (script : Except Fault Unit × Machine)
    (host : Except Fault Reply × Session) : Prop where
  agrees : (∀ given, host.1 = .ok (.value given) → site.env.limits.admits given = true) →
    SameCall script host
  excessive : ∀ given, host.1 = .ok (.value given) → site.env.limits.admits given = false →
    script.1 = .error ((Failure.located .textTooLong site.position).runtimeFault "") ∧
      script.2.store.still = host.2.machine.store.still

variable {reference : Reference} {name : String} {descriptor : TypeDescriptor}
  {method : Method descriptor.type} {values : List Value} {arguments : List HostValue}
  {site : CallSite} {store : Store}

theorem Calling.requests (calling : session.Calling site reference name values)
    (declared : session.types.declaresMethod name = true)
    (plain : ∀ name bound, Value.function name bound ∉ values) :
    site.call name session.machine =
      Run.requestingMethod site.env (.method reference name values) (some site.place)
        site.positions site.position session.machine := by
  obtain ⟨types, reaches, few, own, target, _, operands⟩ := calling
  have noFunction : ∀ position ∈ site.positions, ∀ function bound,
      session.machine.operand position ≠ .function function bound := by
    intro position member function bound same
    apply plain function bound
    rw [← operands, ← same]
    exact List.mem_map_of_mem member
  rw [← types] at declared
  rw [← operands]
  exact Run.callMethod_reaches declared reaches few own target noFunction site.start site.position

theorem Calling.asked (calling : session.Calling site reference name values)
    {answer : Except Fault Value}
    (ran : session.machine.store.run
      (Call.scriptMethod session.types reference.handle name values >>= Call.toScript) =
        (answer, store)) :
    session.machine.callNative site.env.types (.method reference name values) =
      answered (session.machine.requested (.method reference name values)) (answer, store) := by
  rw [callNative_answered, calling.types, ← ran]
  rfl

/-- A call that is answered has the answer as its value, unless it is too long for a script. -/
theorem Calling.called_answered (calling : session.Calling site reference name values)
    (requests : site.call name session.machine =
      Run.requestingMethod site.env (.method reference name values) (some site.place)
        site.positions site.position session.machine)
    {value : Value} {given : HostValue} (formed : value.toHost? = some given)
    (ran : session.machine.store.run
      (Call.scriptMethod session.types reference.handle name values >>= Call.toScript) =
        (.ok value, store)) :
    (session.called site name).2.store.still = store.still ∧
      if site.env.limits.admits given then
        ∃ last, site.call name session.machine = .ok true last ∧ last.operands.back? = some value
      else
        (session.called site name).1 =
          .error ((Failure.located .textTooLong site.position).runtimeFault "") := by
  let after : Machine := { session.machine.requested (.method reference name values) with
    store := store
    operands := session.machine.operands.push value }
  have asked : session.machine.callNative site.env.types (.method reference name values) =
      (.ok (), after) := calling.asked ran
  have target : after.valueAt site.place = .object reference :=
    Machine.valueAt_pushRaw calling.target value
  have ended := @Run.requestingMethod_answered site.env session.machine site.place site.positions
    reference site.position after _ value given asked rfl formed target calling.inside
  have spent : (after.spendAll site.positions).store.still = store.still :=
    congrArg Prod.snd (Machine.still_of_inert (after.inert_spendAll site.positions))
  have kept := Machine.back?_spendAll (rfl : after.operands = _) calling.inside
  have unthrown : Problem.textTooLong ≠ .thrown := nofun
  unfold called
  rw [requests, ended]
  cases site.env.limits.admits given with
  | true => exact ⟨spent, _, rfl, kept⟩
  | false => exact ⟨spent, congrArg Except.error (Run.toFault_unthrown unthrown _)⟩

theorem Calling.called_refused (calling : session.Calling site reference name values)
    (requests : site.call name session.machine =
      Run.requestingMethod site.env (.method reference name values) (some site.place)
        site.positions site.position session.machine) {fault : Fault}
    (ran : session.machine.store.run
      (Call.scriptMethod session.types reference.handle name values >>= Call.toScript) =
        (.error fault, store)) :
    (session.called site name).1 = .error fault ∧
      (session.called site name).2.store.still = store.still := by
  let after : Machine := { session.machine.requested (.method reference name values) with
    store := store }
  have asked : session.machine.callNative site.env.types (.method reference name values) =
      (.error fault, after) := calling.asked ran
  have ended := @Run.requestingMethod_refused site.env session.machine site.place site.positions
    fault site.position after _ asked
  have spent : (after.spendAll site.positions).store.still = store.still :=
    congrArg Prod.snd (Machine.still_of_inert (after.inert_spendAll site.positions))
  have thrown : (((after.spendAll site.positions).throwDatum (.fault fault)).record
      .failure).thrown.back? = some (.datum (.fault fault)) := Array.back?_push
  unfold called
  rw [requests, ended]
  refine ⟨?_, spent⟩
  change Except.error (Failure.toFault _ (Machine.thrown _).back?) = _
  rw [thrown]
  rfl

theorem told_keepsTop {size : Nat} {first : EStateM.Result Halt Machine Bool}
    {second : EStateM.Result Halt Machine Unit} (keeps : Run.KeepsTop size first second) :
    (told second).1 = (told first).1 ∧
      (told second).2.store.still = (told first).2.store.still ∧
      ∀ changed last value, first = .ok changed last → last.operands.back? = some value →
        (told second).2.operands.back? = some value := by
  cases first with
  | ok changed later =>
      cases second with
      | error other last => exact keeps.elim
      | ok _ last =>
          cases keeps
          have still := Machine.still_of_inert (later.inert_keepTop size)
          refine ⟨rfl, congrArg Prod.snd still, fun _ _ value ended top => ?_⟩
          cases ended
          exact Machine.back?_keepTop top size
  | error halt later =>
      cases second with
      | ok _ last => exact keeps.elim
      | error other last =>
          obtain ⟨rfl, still⟩ := keeps
          obtain ⟨same, kept⟩ := told_error still
          exact ⟨same, kept, nofun⟩

/-- A chain that is the call has the outcome of the call. -/
theorem Calling.made (calling : session.Calling site reference name values)
    (declared : session.types.declaresMethod name = true)
    (plain : ∀ name bound, Value.function name bound ∉ values)
    {script : Except Fault Unit × Machine} (makes : session.Makes site name script) :
    script.1 = (session.called site name).1 ∧
      script.2.store.still = (session.called site name).2.store.still ∧
      ∀ changed last value, site.call name session.machine = .ok changed last →
        last.operands.back? = some value → script.2.operands.back? = some value := by
  cases makes with
  | call =>
      refine ⟨rfl, rfl, fun changed last value ended top => ?_⟩
      unfold called
      rw [ended]
      exact top
  | @chain root terms before middle prepared found =>
      obtain ⟨start, keeps⟩ := Run.chain_method prepared found
      have elsewhere : session.Calling { site with start := start } reference name values :=
        ⟨calling.types, calling.reaches, calling.few, calling.own, calling.target, calling.inside,
          calling.operands⟩
      have same : Run.callMethod site.env site.self site.frame name site.place site.positions start
          site.position session.machine = site.call name session.machine :=
        (elsewhere.requests declared plain).trans (calling.requests declared plain).symm
      rw [same] at keeps
      exact told_keepsTop keeps

section Sides

variable {script : Except Fault Unit × Machine} {host : Except Fault HostValue × Store}

theorem Calling.compares_refused (calling : session.Calling site reference name values)
    (declared : session.types.declaresMethod name = true)
    (plain : ∀ name bound, Value.function name bound ∉ values)
    (makes : session.Makes site name script) {fault : Fault}
    (ran : session.machine.store.run
      (Call.scriptMethod session.types reference.handle name values >>= Call.toScript) =
        (.error fault, store))
    (alike : Store.Alike (.error fault, store) host) :
    Compares site script
      (host.1.map .value, session.withMachine { session.machine with store := host.2 }) := by
  obtain ⟨sameEnd, sameStill, _⟩ := calling.made declared plain makes
  obtain ⟨refused, left⟩ := calling.called_refused (calling.requests declared plain) ran
  have still := sameStill.trans (left.trans alike.still)
  have result := alike.result
  obtain ⟨reply, right⟩ := host
  cases reply with
  | ok given => exact result.elim
  | error other =>
      cases result
      refine ⟨fun _ => ⟨?_, nofun, still⟩, nofun⟩
      rw [sameEnd, refused]
      rfl

theorem Calling.compares_answered (calling : session.Calling site reference name values)
    (declared : session.types.declaresMethod name = true)
    (plain : ∀ name bound, Value.function name bound ∉ values)
    (makes : session.Makes site name script) {value : Value}
    (ran : session.machine.store.run
      (Call.scriptMethod session.types reference.handle name values >>= Call.toScript) =
        (.ok value, store))
    (alike : Store.Alike (.ok value, store) host) :
    Compares site script
      (host.1.map .value, session.withMachine { session.machine with store := host.2 }) := by
  obtain ⟨sameEnd, sameStill, sameLast⟩ := calling.made declared plain makes
  have result := alike.result
  obtain ⟨reply, right⟩ := host
  cases reply with
  | error other => exact result.elim
  | ok given =>
      obtain ⟨left, ended⟩ := calling.called_answered (calling.requests declared plain) result ran
      have still := sameStill.trans (left.trans alike.still)
      refine ⟨fun admits => ?_, fun other same excessive => ?_⟩
      · rw [if_pos (admits given rfl)] at ended
        obtain ⟨last, ended, top⟩ := ended
        have answer := sameLast true last value ended top
        have finished : script.1 = .ok () := by
          rw [sameEnd]
          unfold called
          rw [ended]
          rfl
        refine ⟨?_, fun handle same => ?_, still⟩
        · rw [finished, answer]
          exact result
        · cases same
          obtain ⟨occupant, refers, holds⟩ := alike.refers rfl
          cases refers
          have contents := congrArg Prod.snd (sameStill.trans left)
          exact ⟨occupant, answer, (congrFun contents handle).trans holds⟩
      · cases same
        rw [excessive] at ended
        exact ⟨sameEnd.trans ended, still⟩

theorem Calling.compares (calling : session.Calling site reference name values)
    (declared : session.types.declaresMethod name = true)
    (plain : ∀ name bound, Value.function name bound ∉ values)
    (makes : session.Makes site name script) (ready : session.phase = .ready)
    (alike : Store.Alike
      (session.machine.store.run
        (Call.scriptMethod session.types reference.handle name values >>= Call.toScript))
      (session.machine.store.run
        (Call.callMethod session.types reference.handle name arguments >>= Call.pinResult))) :
    Compares site script (session.perform (.callMethod reference.handle name arguments)) := by
  rw [perform_callMethod ready]
  cases ran : session.machine.store.run
      (Call.scriptMethod session.types reference.handle name values >>= Call.toScript) with
  | mk answer store =>
      rw [ran] at alike
      cases answer with
      | error fault => exact calling.compares_refused declared plain makes ran alike
      | ok value => exact calling.compares_answered declared plain makes ran alike

end Sides

/-- From the same state, a script and the host that call a method of an instance get the same
outcome and leave the same, unless the arguments are wrong both in number and in kind: then a script
is told of the first wrong kind and the host of the wrong number, and neither changes anything. An
answer may be too long for a script, which fails with it once the method is done. The call of a
script comes to one request, to which all this goes back. -/
theorem method_calls_agree (ready : session.phase = .ready)
    (settled : session.machine.store.heap.Settled)
    (declares : Call.Declares session.types session.machine.store.heap reference.handle name
      descriptor method)
    (passes : session.machine.store.heap.Passes values arguments) :
    (checkKinds method.parameters arguments = .ok () ∨
        method.parameters.length = arguments.length →
      SameOutcome
        (session.machine.callNative session.types (.method reference name values))
        (session.perform (.callMethod reference.handle name arguments)) ∧
      ∀ site script, session.Calling site reference name values → session.Makes site name script →
        Compares site script (session.perform (.callMethod reference.handle name arguments))) ∧
    (∀ fault, checkKinds method.parameters arguments = .error fault →
      method.parameters.length ≠ arguments.length →
        (session.machine.callNative session.types (.method reference name values)).1 =
            .error fault ∧
          (session.perform (.callMethod reference.handle name arguments)).1 =
            .error (.arityMismatch (descriptor.name ++ "." ++ name)
              method.parameters.length.repr arguments.length) ∧
          (∀ handle,
            (session.machine.callNative session.types
                (.method reference name values)).2.store.heap.resident? handle =
              session.machine.store.heap.resident? handle ∧
            (session.perform (.callMethod reference.handle name
                arguments)).2.machine.store.heap.resident? handle =
              session.machine.store.heap.resident? handle) ∧
          ∀ site script, session.Calling site reference name values →
            session.Makes site name script →
            script.1 = .error fault ∧ script.2.store.still = session.machine.store.still) ∧
    ∀ site, session.Calling site reference name values →
      site.call name session.machine =
        Run.requestingMethod site.env (.method reference name values) (some site.place)
          site.positions site.position session.machine := by
  have declaresNow := settled.declares_collect declares
  have passesNow := settled.passes_collect passes
  have declared := declares.declaresMethod
  have plain := passes.not_function
  refine ⟨fun fits => ?_, fun fault refused miscounted => ?_,
    fun site calling => calling.requests declared plain⟩
  · have alike := Store.alike_method declaresNow passesNow fits
    refine ⟨?_, fun site script calling makes =>
      calling.compares declared plain makes ready alike⟩
    rw [callNative_answered, perform_callMethod ready]
    exact sameOutcome_of_alike alike _
  · obtain ⟨script, host⟩ := Store.refused_method declaresNow passesNow refused miscounted
    have unchanged := settled.resident?_untouched
    refine ⟨?_, ?_, fun handle => ⟨?_, ?_⟩, fun site ended calling makes => ?_⟩
    · rw [callNative_answered]
      exact congrArg (fun ran => (answered _ ran).1) script
    · rw [perform_callMethod ready, host]
      rfl
    · rw [callNative_answered]
      exact (congrArg (fun ran => (answered _ ran).2.store.heap.resident? handle) script).trans
        (unchanged handle)
    · rw [perform_callMethod ready, host]
      exact unchanged handle
    · obtain ⟨sameEnd, sameStill, _⟩ := calling.made declared plain makes
      obtain ⟨told, left⟩ := calling.called_refused (calling.requests declared plain) script
      exact ⟨sameEnd.trans told, (sameStill.trans left).trans settled.still_untouched⟩

/-- A session with a token that repeats what it is told. The variable `token` refers to it. -/
def answering : Session :=
  (create .standard).after [.start,
    .register (.type ⟨"Token", token, [], [],
      [("answer", ⟨[.text], fun _ arguments => .done (arguments.headD .null)⟩)], [], none⟩),
    .insertObject ⟨token, ()⟩, .setGlobal "token" (.object ⟨0, 0⟩)]

def answeringTo (data : List Datum) : Session :=
  answering.withMachine { answering.machine with operands := (data.map .datum).toArray }

def atTheToken (session : Session) (positions : List Nat) : CallSite :=
  let env := session.environment []
  ⟨env, Run.evaluate env (Run.stepBound env.limits), .outermost, .ofVariable 0, positions, default,
    default⟩

def parameters? (session : Session) (receiver : Handle) (name : String) : Option (List Kind) := do
  let resident ← session.machine.store.heap.resident? receiver
  let descriptor ← (session.types.get resident.content.typeId).toOption
  let method ← (descriptor.method name).toOption
  return method.parameters

theorem declares_of_parameters? {receiver : Handle} {name : String} {kinds : List Kind}
    (found : session.parameters? receiver name = some kinds) :
    ∃ (descriptor : TypeDescriptor) (method : Method descriptor.type),
      Call.Declares session.types session.machine.store.heap receiver name descriptor method ∧
      method.parameters = kinds := by
  obtain ⟨resident, resides, found⟩ := Option.bind_eq_some_iff.mp found
  obtain ⟨descriptor, known, found⟩ := Option.bind_eq_some_iff.mp found
  obtain ⟨method, declared, same⟩ := Option.bind_eq_some_iff.mp found
  exact ⟨descriptor, method, ⟨⟨resident, resides, eq_ok_of_toOption known⟩,
    eq_ok_of_toOption declared⟩, Option.some.inj same⟩

def valueGiven? (session : Session) (operation : Operation) : Option HostValue :=
  match (session.perform operation).1 with
  | .ok (.value given) => some given
  | _ => none

theorem valueGiven?_eq_some {operation : Operation} {given : HostValue}
    (same : (session.perform operation).1 = .ok (.value given)) :
    session.valueGiven? operation = some given := by
  unfold valueGiven?
  rw [same]

theorem answering_declares (data : List Datum) :
    (answeringTo data).phase = .ready ∧ (answeringTo data).machine.store.heap.Settled ∧
      ∃ (descriptor : TypeDescriptor) (method : Method descriptor.type),
        Call.Declares (answeringTo data).types (answeringTo data).machine.store.heap ⟨0, 0⟩
          "answer" descriptor method ∧
        method.parameters = [.text] := by
  have ready : answering.phase = .ready := by decide +kernel
  have claimed : ∀ handle ∈ answering.machine.store.heap.handles,
      answering.machine.store.heap.unclaimed handle = false := by decide +kernel
  have found : answering.parameters? ⟨0, 0⟩ "answer" = some [.text] := by decide +kernel
  exact ⟨ready, Heap.settled_of_handles claimed, declares_of_parameters? found⟩

/-- A script and the host that tell the token a text are told it by the token. -/
theorem token_answers :
    (answeringTo [.text "yes"]).phase = .ready ∧
      (answeringTo [.text "yes"]).machine.store.heap.Settled ∧
      SameOutcome
        ((answeringTo [.text "yes"]).machine.callNative (answeringTo [.text "yes"]).types
          (.method ⟨⟨0, 0⟩, 0⟩ "answer" [.datum (.text "yes")]))
        ((answeringTo [.text "yes"]).perform (.callMethod ⟨0, 0⟩ "answer" [.text "yes"])) ∧
      SameCall
        ((answeringTo [.text "yes"]).called ((answeringTo [.text "yes"]).atTheToken [0]) "answer")
        ((answeringTo [.text "yes"]).perform (.callMethod ⟨0, 0⟩ "answer" [.text "yes"])) := by
  obtain ⟨ready, settled, descriptor, method, declares, kinds⟩ := answering_declares [.text "yes"]
  have passes : (answeringTo [.text "yes"]).machine.store.heap.Passes [.datum (.text "yes")]
      [.text "yes"] := by
    refine ⟨rfl, fun handle member => ?_⟩
    cases List.mem_singleton.mp member
  have fits : checkKinds method.parameters [.text "yes"] = .ok () := by
    rw [kinds]
    rfl
  have calling : (answeringTo [.text "yes"]).Calling ((answeringTo [.text "yes"]).atTheToken [0])
      ⟨⟨0, 0⟩, 0⟩ "answer" [.datum (.text "yes")] :=
    ⟨rfl, ⟨by decide, .inl (by decide)⟩, by decide, rfl,
      eq_object_of_reference? (by decide +kernel), by decide +kernel, rfl⟩
  have short : ((answeringTo [.text "yes"]).valueGiven?
      (.callMethod ⟨0, 0⟩ "answer" [.text "yes"])).all
        ((answeringTo [.text "yes"]).atTheToken [0]).env.limits.admits = true := by decide +kernel
  obtain ⟨request, calls⟩ := (@method_calls_agree (answeringTo [.text "yes"]) ⟨⟨0, 0⟩, 0⟩ _ _ _ _ _
    ready settled declares passes).1 (.inl fits)
  refine ⟨ready, settled, request, (calls _ _ calling .call).agrees fun given same => ?_⟩
  rw [valueGiven?_eq_some same] at short
  exact short

/-- Told two things of which the first is no text, the token complains of it to a script and of
the number to the host. -/
theorem token_complains :
    ¬ ∀ (session : Session) (site : CallSite) (reference : Reference) (name : String)
      (descriptor : TypeDescriptor) (method : Method descriptor.type) (values : List Value)
      (arguments : List HostValue),
      session.phase = .ready → session.machine.store.heap.Settled →
      Call.Declares session.types session.machine.store.heap reference.handle name descriptor
        method →
      session.machine.store.heap.Passes values arguments →
      session.Calling site reference name values →
      SameCall (session.called site name)
        (session.perform (.callMethod reference.handle name arguments)) := by
  intro agree
  obtain ⟨ready, settled, descriptor, method, declares, _⟩ :=
    answering_declares [.boolean true, .text "yes"]
  let session := answeringTo [.boolean true, .text "yes"]
  have passes : session.machine.store.heap.Passes [.datum (.boolean true), .datum (.text "yes")]
      [.boolean true, .text "yes"] := by
    refine ⟨rfl, fun handle member => ?_⟩
    simp at member
  have calling : session.Calling (session.atTheToken [0, 1]) ⟨⟨0, 0⟩, 0⟩ "answer"
      [.datum (.boolean true), .datum (.text "yes")] :=
    ⟨rfl, ⟨by decide, .inl (by decide)⟩, by decide, rfl,
      eq_object_of_reference? (by decide +kernel), by decide +kernel, rfl⟩
  have outcome := (agree session _ ⟨⟨0, 0⟩, 0⟩ "answer" descriptor method _ _ ready settled
    declares passes calling).result
  have script : (session.called (session.atTheToken [0, 1]) "answer").1 =
      .error (.typeMismatch .text "boolean") := by decide +kernel
  have host : session.fault? (.callMethod ⟨0, 0⟩ "answer" [.boolean true, .text "yes"]) =
      some (.arityMismatch "Token.answer" "1" 2) := by decide +kernel
  rw [script, error_of_fault? host] at outcome
  cases outcome

end Session
end ScriptHost
