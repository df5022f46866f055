import ScriptHost.Proofs.Script.Writes
import ScriptHost.Proofs.Session.Entries

/-!
The anatomy of operations.

Some operations are composed of handlings of the machine and of runs, in between of which they only
look something up. Such an operation keeps every invariant of the machine that requests and removals
of instances keep, and the notes of earlier ones make no difference to it. Other operations have
nothing to do with the machine at all. What remains are the native calls of the host, the instances
that it inserts, and the end of a session.
-/

set_option autoImplicit false

namespace ScriptHost

open Script

namespace Session

/-- A session with something else for its machine. -/
def altering (alter : Machine → Machine) (session : Session) : Session :=
  session.withMachine (alter session.machine)

def noting (earlier : Past) (session : Session) : Session :=
  session.altering (Machine.noting earlier)

/-- The types and functions are these, and the machine is in order. -/
structure Standing (types : TypeRegistry) (functions : FunctionRegistry) (inv : Machine → Prop)
    (session : Session) : Prop where
  types : session.types = types
  functions : session.functions = functions
  machine : inv session.machine

variable {α β : Type} {earlier : Past} {types : TypeRegistry} {functions : FunctionRegistry}
  {inv : Machine → Prop}

/-- A handling of the machine that keeps invariants of runs, and for which notes make no
difference. -/
structure Handling (work : Machine → α × Machine) : Prop where
  keeps : ∀ {types functions inv machine}, Run.Steadfast types functions inv → inv machine →
    inv (work machine).2
  noting : ∀ earlier machine, work (machine.noting earlier) =
    ((work machine).1, (work machine).2.noting earlier)

structure Changing (change : Machine → Machine) : Prop where
  keeps : ∀ {types functions inv machine}, Run.Steadfast types functions inv → inv machine →
    inv (change machine)
  noting : ∀ earlier machine, change (machine.noting earlier) = (change machine).noting earlier

namespace Changing

theorem handling {change : Machine → Machine} (changing : Changing change) :
    Handling fun machine => ((), change machine) :=
  ⟨changing.keeps, fun earlier machine =>
    congrArg (fun machine => ((), machine)) (changing.noting earlier machine)⟩

theorem comp {change later : Machine → Machine} (first : Changing change)
    (second : Changing later) : Changing fun machine => later (change machine) :=
  ⟨fun steadfast kept => second.keeps steadfast (first.keeps steadfast kept),
    fun earlier machine => (congrArg later (first.noting earlier machine)).trans (second.noting earlier _)⟩

theorem of_inert {change : Machine → Machine}
    (inert : ∀ machine, (change machine).inert = machine.inert)
    (noting : ∀ earlier machine,
      change (machine.noting earlier) = (change machine).noting earlier) : Changing change :=
  ⟨fun {_ _ _ machine} steadfast kept => steadfast.moves (inert machine) kept, noting⟩

theorem dropTo (size : Nat) : Changing fun machine => machine.dropTo size :=
  .of_inert (fun machine => machine.inert_dropTo size) fun earlier machine =>
    machine.noting_dropTo earlier size

theorem dropAllThrown : Changing Machine.dropAllThrown :=
  ⟨fun {_ _ _ machine} steadfast kept => steadfast.rests machine.estate_dropAllThrown
    (.of_eq machine.output_dropAllThrown) kept,
    fun earlier machine => machine.noting_dropAllThrown earlier⟩

theorem collect : Changing Machine.collect :=
  ⟨fun steadfast kept => steadfast.collects kept, fun _ _ => rfl⟩

theorem discardArguments : Changing receiveAll.discardArguments := by
  constructor
  · intro types functions inv machine steadfast kept
    apply steadfast.moves (Machine.inert_dropTo _ 0)
    exact steadfast.moves (machine.inert_spendAll _) kept
  · intro earlier machine
    unfold receiveAll.discardArguments
    rw [Machine.noting_operands, Machine.noting_spendAll, Machine.noting_dropTo]

end Changing

namespace Handling

theorem receive (value : HostValue) : Handling (Machine.receive value) :=
  ⟨fun {_ _ _ machine} steadfast kept => steadfast.moves (machine.inert_receive value) kept,
    fun earlier machine => machine.noting_receive earlier value⟩

theorem handOver : Handling Machine.handOver :=
  ⟨fun {_ _ _ machine} steadfast kept => steadfast.moves machine.inert_handOver kept,
    fun earlier machine => machine.noting_handOver earlier⟩

theorem receiveAll (values : List HostValue) : Handling (receiveAll values) := by
  induction values with
  | nil => exact ⟨fun _ kept => kept, fun _ _ => rfl⟩
  | cons value rest ih =>
      constructor
      · intro types functions inv machine steadfast kept
        have received := (receive value).keeps steadfast kept
        unfold Session.receiveAll
        revert received
        generalize machine.receive value = outcome
        intro received
        obtain ⟨_ | _, after⟩ := outcome
        · exact Changing.discardArguments.keeps steadfast received
        · exact ih.keeps steadfast received
      · intro earlier machine
        unfold Session.receiveAll
        rw [Machine.noting_receive]
        obtain ⟨_ | _, after⟩ := machine.receive value
        · exact congrArg (fun last => (Except.error _, last))
            (Changing.discardArguments.noting earlier after)
        · exact ih.noting earlier after

end Handling

/-- A composed action. It keeps invariants of runs, and notes make no difference to it. -/
structure Made (action : Action α) : Prop where
  keeps : ∀ {types functions inv}, Run.Steadfast types functions inv →
    Keeps (Standing types functions inv) action
  oblivious : ∀ {earlier}, Commutes (noting earlier) action

namespace Made

variable {action : Action α}

theorem of_ok (result : α) : Made (pure result) := ⟨fun _ => .of_ok result, .of_ok result⟩

theorem of_error (fault : Fault) : Made (throw fault : Action α) :=
  ⟨fun _ => .of_error fault, .of_error fault⟩

theorem bind {rest : α → Action β} (first : Made action) (later : ∀ result, Made (rest result)) :
    Made (action >>= rest) :=
  ⟨fun steadfast => (first.keeps steadfast).bind fun result => (later result).keeps steadfast,
    first.oblivious.bind fun result => (later result).oblivious⟩

theorem get_bind {rest : Session → Action β}
    (same : ∀ earlier session, rest (noting earlier session) = rest session)
    (later : ∀ session, Made (rest session)) : Made (get >>= rest) :=
  ⟨fun steadfast => get_keeps.bind fun session => (later session).keeps steadfast,
    .get_bind (same _) fun session => (later session).oblivious⟩

theorem modify_bind {change : Session → Session} {rest : PUnit → Action β}
    (types : ∀ session, (change session).types = session.types)
    (functions : ∀ session, (change session).functions = session.functions)
    (machine : ∀ session, (change session).machine = session.machine)
    (same : ∀ earlier session, change (noting earlier session) = noting earlier (change session))
    (later : Made (rest ⟨⟩)) : Made (modify change >>= rest) := by
  constructor
  · intro registered offered inv steadfast
    apply Keeps.bind
    · refine .of_modify fun session standing => ⟨(types session).trans standing.types,
        (functions session).trans standing.functions, ?_⟩
      rw [machine]
      exact standing.machine
    · exact fun _ => later.keeps steadfast
  · intro earlier
    apply Commutes.bind
    · exact .of_modify (same earlier)
    · exact fun _ => later.oblivious

end Made

theorem made_ofResult (result : Except Fault α) : Made (ofResult result) := by
  cases result with
  | ok value => exact .of_ok value
  | error fault => exact .of_error fault

theorem altering_whenReady {alter : Machine → Machine} {action : Action α}
    (commutes : Commutes (altering alter) action) :
    Commutes (altering alter) (whenReady action) := by
  intro session
  unfold whenReady
  have phase : (session.altering alter).phase = session.phase := rfl
  rw [phase]
  cases session.phase with
  | ready => exact commutes session
  | uninitialized => rfl
  | tornDown => rfl

theorem made_whenReady {action : Action α} (made : Made action) : Made (whenReady action) :=
  ⟨fun steadfast => whenReady_keeps (made.keeps steadfast), altering_whenReady made.oblivious⟩

theorem made_onMachine {work : Machine → α × Machine} (handling : Handling work) :
    Made (onMachine work) := by
  constructor
  · intro types functions inv steadfast session standing
    have kept := handling.keeps steadfast standing.machine
    exact ⟨⟨standing.types, standing.functions, kept⟩, trivial⟩
  · intro earlier session
    exact congrArg (fun worked : α × Machine =>
      EStateM.Result.ok worked.1 (session.withMachine worked.2))
        (handling.noting earlier session.machine)

theorem made_changeMachine {change : Machine → Machine} (changing : Changing change) :
    Made (changeMachine change) :=
  made_onMachine changing.handling

theorem surroundings_noting (session : Session) :
    (session.noting earlier).surroundings = session.surroundings := by
  have constants : constant? (session.machine.noting earlier) = constant? session.machine := by
    funext name
    unfold constant? Machine.findConstant?
    simp only [Machine.noting_findVariable?, Machine.noting_isConstant, Machine.noting_valueAt]
  exact congrArg (fun constants => (⟨session.configuration.limits, session.configuration.strict,
    (session.machine.scope.map Variable.name).toList, constants, session.functions.spaces⟩ :
      Surroundings)) constants

theorem made_readWith (read : Surroundings → String → Except SyntaxFault Program)
    (text : String) : Made (readWith read text) := by
  apply Made.get_bind
  · intro earlier session
    rw [surroundings_noting]
  · intro session
    split
    · apply Made.modify_bind
      · exact fun _ => rfl
      · exact fun _ => rfl
      · exact fun _ => rfl
      · exact fun _ _ => rfl
      · exact .of_ok _
    · exact .of_error _

theorem outcome_keeps (steadfast : Run.Steadfast types functions inv) {work : Run Unit}
    (keeps : Keeps inv work) {machine : Machine} (kept : inv machine) :
    inv (outcome work machine).2 := by
  have counted : inv { machine with operations := 0 } :=
    @Run.Steadfast.moves _ _ _ steadfast machine { machine with operations := 0 } rfl kept
  have ran := keeps _ counted
  unfold Leads at ran
  unfold outcome
  cases ended : work { machine with operations := 0 } with
  | ok result after =>
      rw [ended] at ran
      exact ran.1
  | error halt after =>
      rw [ended] at ran
      cases halt <;> exact ran

theorem noting_outcome {work : Run Unit} (oblivious : Run.Oblivious work)
    (earlier : Past) (machine : Machine) :
    outcome work (machine.noting earlier) =
      ((outcome work machine).1, (outcome work machine).2.noting earlier) := by
  have same := oblivious earlier { machine with operations := 0 }
  change work { machine.noting earlier with operations := 0 } = _ at same
  unfold outcome
  rw [same]
  cases work { machine with operations := 0 } with
  | ok _ after => rfl
  | error halt after => cases halt <;> rfl

theorem made_execute (library : Library) {work : Run.Evaluator → Run Unit}
    (made : ∀ {env : Environment} {self : Run.Evaluator},
      (∀ frame term, Run.Made env (self frame term)) → Run.Made env (work self)) :
    Made (execute library work) := by
  -- The environment is that of the session: requests are for its types and functions.
  have ran := fun session : Session => made (@Run.made_evaluate (session.environment library)
    (Run.stepBound (session.environment library).limits))
  constructor
  · intro types functions inv steadfast session standing
    apply Leads.get_bind
    obtain ⟨rfl, rfl, kept⟩ := standing
    have keeps := (ran session).keeps steadfast
    exact ⟨⟨rfl, rfl, outcome_keeps steadfast keeps kept⟩, trivial⟩
  · intro earlier
    apply Commutes.get_bind
    · exact fun _ => rfl
    · intro session machine
      exact congrArg (fun ended : Except Fault Unit × Machine =>
        EStateM.Result.ok ended.1 (machine.withMachine ended.2))
          (noting_outcome (ran session).oblivious earlier machine.machine)

theorem made_deliver (outcome : Except Fault Unit) : Made (deliver outcome) := by
  have cleared : ∀ result : Except Fault HostValue, Made (do
      changeMachine fun machine => ((machine.dropTo 0).dropAllThrown).collect
      ofResult result) := fun result =>
    (made_changeMachine (((Changing.dropTo 0).comp .dropAllThrown).comp .collect)).bind fun _ =>
      made_ofResult result
  cases outcome with
  | ok _ => exact (made_onMachine .handOver).bind cleared
  | error fault => exact cleared (.error fault)

theorem made_run (text : String) : Made (run text) := by
  have ended : Made (runToEnd text) := by
    apply (made_readWith _ text).bind
    intro script
    apply Made.modify_bind
    · exact fun _ => rfl
    · exact fun _ => rfl
    · exact fun _ => rfl
    · exact fun _ _ => rfl
    apply Made.get_bind fun _ _ => rfl
    intro session
    apply (made_execute _ fun parts => Run.made_block parts .outermost script.body).bind
    intro outcome
    exact (made_changeMachine ((Changing.dropTo 0).comp .collect)).bind fun _ => .of_ok _
  apply made_whenReady
  apply ended.bind
  intro outcome
  exact (made_changeMachine .dropAllThrown).bind fun _ => made_ofResult outcome

theorem made_eval (text : String) : Made (eval text) := by
  apply made_whenReady
  apply (made_readWith _ text).bind
  intro script
  apply Made.get_bind fun _ _ => rfl
  intro session
  apply (made_execute _ fun parts => Run.made_block parts .outermost script.body).bind
  exact made_deliver

theorem findVariable?_noting (session : Session) (name : String) :
    (session.noting earlier).machine.findVariable? 0 name =
      session.machine.findVariable? 0 name :=
  session.machine.noting_findVariable? earlier 0 name

theorem made_global (name : String) : Made (global name) := by
  apply made_whenReady
  apply Made.get_bind
  · intro earlier session
    rw [findVariable?_noting]
  · intro session
    split
    · rename_i index _
      have copied : Changing fun machine => machine.copy (.ofVariable index) :=
        .of_inert (fun machine => machine.inert_copy _) fun earlier machine =>
          machine.noting_copy earlier _
      exact (made_changeMachine copied).bind fun _ => made_deliver _
    · exact made_deliver _

theorem made_bind (name : String) : Made (bind name) := by
  apply Made.get_bind
  · intro earlier session
    dsimp only
    rw [findVariable?_noting]
    rfl
  · intro session
    dsimp only
    split
    · exact made_changeMachine (.of_inert (fun machine => machine.inert_declare _ _) fun _ _ => rfl)
    · rename_i index _
      have renewed : Made (changeMachine fun machine => machine.redeclare index false) :=
        made_changeMachine (.of_inert (fun machine => machine.inert_redeclare index false)
          fun earlier machine => machine.noting_redeclare earlier index false)
      split
      · exact (made_changeMachine (.dropTo 0)).bind fun _ => (Made.of_error _).bind fun _ => renewed
      · exact renewed

theorem made_setGlobal (name : String) (value : HostValue) : Made (setGlobal name value) := by
  have received : Made (do
      ofResult (← onMachine (Machine.receive value))
      bind name) :=
    (made_onMachine (.receive value)).bind fun _ => (made_ofResult _).bind fun _ => made_bind name
  apply made_whenReady
  split
  · exact (Made.of_error _).bind fun _ => received
  · exact received

theorem made_call (name : String) (arguments : List HostValue) : Made (call name arguments) := by
  apply made_whenReady
  apply (made_onMachine (.receiveAll arguments)).bind
  intro received
  apply (made_ofResult received).bind
  intro _
  apply Made.get_bind fun _ _ => rfl
  intro session
  dsimp only
  split
  · rename_i function _
    apply (made_execute _ fun parts => Run.made_callFromHost parts function _).bind
    exact made_deliver
  · exact (made_changeMachine .discardArguments).bind fun _ => .of_error _

theorem made_inspect {look : Session → Heap Occupant → Except Fault α}
    (same : ∀ earlier session heap, look (noting earlier session) heap = look session heap) :
    Made (inspect look) := by
  apply made_whenReady
  apply Made.get_bind
  · intro earlier session
    exact congrArg ofResult (same earlier session session.machine.store.heap)
  · exact fun _ => made_ofResult _

theorem noting_native (call : TypeRegistry → Call α) :
    Commutes (noting earlier) (native call) := by
  apply altering_whenReady
  apply Commutes.get_bind
  · exact fun _ => rfl
  · intro session
    apply Commutes.bind
    · exact fun _ => rfl
    · exact fun result => (made_ofResult result).oblivious

theorem made_release (handle : Handle) : Made (release handle) := by
  apply made_whenReady
  refine (made_onMachine ⟨?_, ?_⟩).bind fun _ => made_ofResult _
  · intro types functions inv machine steadfast kept
    cases found : machine.store.heap.resident? handle with
    | none =>
        rw [Heap.unpin_eq_error found]
        exact kept
    | some resident =>
        rw [Heap.unpin_eq_ok found]
        exact steadfast.reclaims handle
          (steadfast.alters handle Resident.unheld (fun _ => rfl) kept)
  · intro earlier machine
    have heap : (machine.noting earlier).store.heap = machine.store.heap := rfl
    rw [heap]
    cases machine.store.heap.unpin handle <;> rfl

/-- An action to which the machine makes no difference, and that makes none to the machine. -/
def Detached (action : Action α) : Prop :=
  ∀ alter : Machine → Machine, Commutes (altering alter) action

/-- With its own machine put in, a session is the same: so a detached action leaves it in there. -/
theorem Detached.keeps {action : Action α} (detached : Detached action) {inv : Machine → Prop} :
    Keeps (fun session => inv session.machine) action := by
  intro session kept
  have same : action session = changed (altering fun _ => session.machine) (action session) :=
    detached (fun _ => session.machine) session
  unfold Leads
  rw [same]
  cases action session with
  | ok result after => exact ⟨kept, trivial⟩
  | error fault after => exact kept

theorem detached_whenReady {action : Action α} (detached : Detached action) :
    Detached (whenReady action) :=
  fun alter => altering_whenReady (detached alter)

theorem detached_done {action : Action Unit} (detached : Detached action) :
    Detached (done action) :=
  fun alter => (detached alter).bind fun _ => .of_ok _

theorem detached_start : Detached start := by
  intro alter session
  unfold start
  have phase : (session.altering alter).phase = session.phase := rfl
  rw [phase]
  cases session.phase <;> rfl

theorem detached_addFunction (space : String) (descriptor : FunctionDescriptor) :
    Detached (addFunction space descriptor) := by
  intro alter session
  change (ofResult (session.functions.register space descriptor) >>= _) _ =
    changed _ ((ofResult (session.functions.register space descriptor) >>= _) session)
  cases session.functions.register space descriptor with
  | ok functions => rfl
  | error fault => rfl

theorem detached_registerFunction (descriptor : FunctionDescriptor) :
    Detached (registerFunction descriptor) := by
  apply detached_whenReady
  intro alter
  apply Commutes.get_bind
  · exact fun _ => rfl
  · intro session
    dsimp only
    split
    · exact (Commutes.of_error _).bind fun _ => detached_addFunction _ descriptor alter
    · exact detached_addFunction _ descriptor alter

theorem detached_registerType (descriptor : TypeDescriptor) :
    Detached (registerType descriptor) := by
  apply detached_whenReady
  intro alter session
  change (if session.functions.contains FunctionRegistry.globalSpace descriptor.name then _
    else _ : Action TypeId) _ = changed _ ((if session.functions.contains
      FunctionRegistry.globalSpace descriptor.name then _ else _ : Action TypeId) session)
  by_cases taken : session.functions.contains FunctionRegistry.globalSpace descriptor.name = true
  · rw [if_pos taken, if_pos taken]
    rfl
  · rw [if_neg taken, if_neg taken]
    change (ofResult (session.types.register descriptor) >>= _) _ =
      changed _ ((ofResult (session.types.register descriptor) >>= _) session)
    cases session.types.register descriptor with
    | ok types => rfl
    | error fault => rfl

theorem detached_register (registration : Registration) : Detached (register registration) := by
  cases registration with
  | type descriptor =>
      exact fun alter => (detached_registerType descriptor alter).bind fun _ => .of_ok _
  | function descriptor => exact detached_registerFunction descriptor
  | moduleFunction space descriptor =>
      unfold register registerModuleFunction
      dsimp only
      split
      · exact detached_registerFunction descriptor
      · apply detached_whenReady
        intro alter
        split
        · exact (Commutes.of_error _).bind fun _ => detached_addFunction space descriptor alter
        · exact detached_addFunction space descriptor alter

theorem detached_install (extension : Extension) : Detached (install extension) := by
  apply detached_whenReady
  exact fun alter => Commutes.forM fun registration => detached_register registration alter

theorem made_done {action : Action Unit} (made : Made action) : Made (done action) :=
  made.bind fun _ => .of_ok _

theorem made_map {action : Action α} (made : Made action) (reply : α → Reply) :
    Made (reply <$> action) :=
  made.bind fun _ => .of_ok _

theorem made_look {reply : Session → Reply}
    (same : ∀ earlier session, reply (noting earlier session) = reply session) :
    Made (get >>= fun session => pure (reply session)) := by
  apply Made.get_bind
  · exact fun earlier session => congrArg pure (same earlier session)
  · exact fun _ => .of_ok _

/-- What an operation is composed of, where it is not something of its own. -/
inductive Composed : Operation → Prop where
  | made {operation : Operation} (made : Made operation.perform) : Composed operation
  | detached {operation : Operation} (detached : Detached operation.perform) : Composed operation
  | teardown : Composed .teardown
  | takeOutput : Composed .takeOutput
  | insert (body : Instance) : Composed (.insertObject body)
  | call (call : HostCall) : Composed call.operation

theorem composed (operation : Operation) : Composed operation := by
  cases operation with
  | start => exact .detached (detached_done detached_start)
  | teardown => exact .teardown
  | register registration => exact .detached (detached_done (detached_register registration))
  | install extension => exact .detached (detached_done (detached_install extension))
  | run text => exact .made (made_done (made_run text))
  | runFile file =>
      apply Composed.made
      apply made_done
      apply made_whenReady
      exact (made_ofResult file.text).bind made_run
  | eval text => exact .made (made_map (made_eval text) _)
  | global name => exact .made (made_map (made_global name) _)
  | setGlobal name value => exact .made (made_done (made_setGlobal name value))
  | call name arguments => exact .made (made_map (made_call name arguments) _)
  | hasFunction name => exact .made (made_look fun _ _ => rfl)
  | createObject name arguments => exact .call (.create name arguments)
  | insertObject body => exact .insert body
  | readObject handle type =>
      exact .made ((made_inspect fun _ _ _ => rfl).bind fun _ => .of_ok _)
  | callMethod receiver name arguments => exact .call (.method receiver name arguments)
  | getField receiver name => exact .call (.read receiver name)
  | setField receiver name value => exact .call (.write receiver name value)
  | typeName handle => exact .made (made_map (made_inspect fun _ _ _ => rfl) _)
  | isLive handle => exact .made (made_look fun _ _ => rfl)
  | release handle => exact .made (made_done (made_release handle))
  | collect =>
      have collecting : Made collect := made_whenReady (made_onMachine
        ⟨fun steadfast kept => steadfast.collects kept, fun _ _ => rfl⟩)
      exact .made (made_map collecting _)
  | takeOutput => exact .takeOutput
  | statistics => exact .made (made_look fun _ _ => rfl)
  | phase => exact .made (made_look fun _ _ => rfl)

end Session
end ScriptHost
