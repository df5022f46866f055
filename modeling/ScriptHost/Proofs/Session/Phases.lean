import ScriptHost.Proofs.Effects
import ScriptHost.Session.Operation

/-!
What operations keep while a session is neither started nor torn down.

Apart from starting and tearing down, an operation changes a session in five places at most: its
machine, its closures, its library, its functions and its types, where a registration adds one under
a name that is free. An invariant that none of these changes breaks is kept by every such operation,
whether it succeeds or fails. The phase of a session is such an invariant. Only registrations change
the functions and the types, and only running a script changes the library.
-/

set_option autoImplicit false

namespace ScriptHost

open Script

namespace Session

variable {α : Type} {phase : Phase} {session : Session}

/-- An invariant that no change of the machine and the closures breaks. -/
structure Calm (inv : Session → Prop) : Prop where
  machine : ∀ {session machine}, inv session → inv { session with machine := machine }
  closures : ∀ {session closures}, inv session → inv { session with closures := closures }

/-- An invariant that no change of the library breaks either. -/
structure Stable (inv : Session → Prop) : Prop extends Calm inv where
  library : ∀ {session library}, inv session → inv { session with library := library }

/-- An invariant that no registration breaks. -/
structure Extensible (inv : Session → Prop) : Prop where
  functions : ∀ {session space descriptor functions}, inv session →
    (space = FunctionRegistry.globalSpace → session.types.containsName descriptor.name = false) →
    session.functions.register space descriptor = .ok functions →
      inv { session with functions := functions }
  types : ∀ {session descriptor types}, inv session →
    session.functions.contains FunctionRegistry.globalSpace descriptor.name = false →
    session.types.register descriptor = .ok types → inv { session with types := types }

/-- An invariant that no change in one of the five places breaks. -/
structure Steady (inv : Session → Prop) : Prop extends Stable inv, Extensible inv

def In (phase : Phase) (session : Session) : Prop := session.phase = phase

theorem steady_in : Steady (In phase) :=
  ⟨⟨⟨fun kept => kept, fun kept => kept⟩, fun kept => kept⟩,
    ⟨fun kept _ _ => kept, fun kept _ _ => kept⟩⟩

variable {inv : Session → Prop}

theorem get_keeps : Keeps inv (get : Action Session) :=
  fun _ kept => ⟨kept, trivial⟩

theorem ofResult_keeps (result : Except Fault α) : Keeps inv (ofResult result) := by
  intro session kept
  cases result with
  | ok value => exact ⟨kept, trivial⟩
  | error fault => exact kept

theorem whenReady_eq (ready : session.phase = .ready) (action : Action α) :
    whenReady action session = action session := by
  rw [whenReady, ready]

theorem whenReady_keeps {action : Action α} (keeps : Keeps inv action) :
    Keeps inv (whenReady action) := by
  intro session kept
  unfold Leads whenReady
  cases session.phase with
  | ready => exact keeps session kept
  | uninitialized => exact kept
  | tornDown => exact kept

theorem done_keeps {action : Action Unit} (keeps : Keeps inv action) : Keeps inv (done action) :=
  keeps.bind fun _ => Keeps.of_ok _

theorem map_keeps {action : Action α} (keeps : Keeps inv action) (reply : α → Reply) :
    Keeps inv (reply <$> action) :=
  keeps.bind fun _ => Keeps.of_ok _

theorem inspect_keeps (look : Session → Heap Occupant → Except Fault α) :
    Keeps inv (inspect look) := by
  apply whenReady_keeps
  exact get_keeps.bind fun _ => ofResult_keeps _

namespace Calm

theorem onMachine_keeps (calm : Calm inv) (work : Machine → α × Machine) :
    Keeps inv (onMachine work) :=
  fun _ kept => ⟨calm.machine kept, trivial⟩

theorem native_keeps (calm : Calm inv) (call : TypeRegistry → Call α) :
    Keeps inv (native call) := by
  apply whenReady_keeps
  apply get_keeps.bind
  intro current
  exact (calm.onMachine_keeps _).bind fun _ => ofResult_keeps _

theorem readWith_keeps (calm : Calm inv)
    (read : Surroundings → String → Except SyntaxFault Program) (text : String) :
    Keeps inv (readWith read text) := by
  apply get_keeps.bind
  intro current
  split
  · exact (Keeps.of_modify fun _ kept => calm.closures kept).bind fun _ => Keeps.of_ok _
  · exact Keeps.of_error _

theorem execute_keeps (calm : Calm inv) (library : Library)
    (work : Run.Evaluator → Run Unit) : Keeps inv (execute library work) :=
  get_keeps.bind fun _ => calm.onMachine_keeps _

theorem deliver_keeps (calm : Calm inv) (outcome : Except Fault Unit) :
    Keeps inv (deliver outcome) := by
  have cleared : ∀ result : Except Fault HostValue, Keeps inv (do
      changeMachine fun machine => ((machine.dropTo 0).dropAllThrown).collect
      ofResult result) :=
    fun _ => (calm.onMachine_keeps _).bind fun _ => ofResult_keeps _
  cases outcome with
  | ok _ => exact (calm.onMachine_keeps _).bind cleared
  | error fault => exact cleared (.error fault)

theorem eval_keeps (calm : Calm inv) (text : String) : Keeps inv (eval text) := by
  apply whenReady_keeps
  refine (calm.readWith_keeps _ text).bind fun script => get_keeps.bind fun current => ?_
  exact (calm.execute_keeps _ _).bind fun outcome => calm.deliver_keeps outcome

theorem global_keeps (calm : Calm inv) (name : String) : Keeps inv (global name) := by
  apply whenReady_keeps
  apply get_keeps.bind
  intro current
  split
  · exact (calm.onMachine_keeps _).bind fun _ => calm.deliver_keeps _
  · exact calm.deliver_keeps _

theorem setGlobal_keeps (calm : Calm inv) (name : String) (value : HostValue) :
    Keeps inv (setGlobal name value) := by
  have bound : Keeps inv (bind name) := by
    apply get_keeps.bind
    intro current
    dsimp only
    split
    · exact calm.onMachine_keeps _
    · split
      · apply (calm.onMachine_keeps _).bind
        intro _
        exact (Keeps.of_error _).bind fun _ => calm.onMachine_keeps _
      · exact calm.onMachine_keeps _
  apply whenReady_keeps
  split
  · apply (Keeps.of_error _).bind
    intro _
    exact (calm.onMachine_keeps _).bind fun _ => (ofResult_keeps _).bind fun _ => bound
  · exact (calm.onMachine_keeps _).bind fun _ => (ofResult_keeps _).bind fun _ => bound

theorem call_keeps (calm : Calm inv) (name : String) (arguments : List HostValue) :
    Keeps inv (call name arguments) := by
  apply whenReady_keeps
  apply (calm.onMachine_keeps _).bind
  intro received
  refine (ofResult_keeps received).bind fun _ => get_keeps.bind fun current => ?_
  dsimp only
  split
  · exact (calm.execute_keeps _ _).bind fun outcome => calm.deliver_keeps outcome
  · exact (calm.onMachine_keeps _).bind fun _ => Keeps.of_error _

end Calm

theorem Stable.run_keeps (stable : Stable inv) (text : String) : Keeps inv (run text) := by
  apply whenReady_keeps
  have ended : Keeps inv (runToEnd text) := by
    apply (stable.readWith_keeps _ text).bind
    intro script
    refine (Keeps.of_modify fun _ kept => stable.library kept).bind fun _ => ?_
    refine get_keeps.bind fun current => (stable.execute_keeps _ _).bind fun outcome => ?_
    exact (stable.onMachine_keeps _).bind fun _ => Keeps.of_ok _
  apply ended.bind
  intro outcome
  exact (stable.onMachine_keeps _).bind fun _ => ofResult_keeps _

namespace Extensible

theorem registerType_keeps (extensible : Extensible inv) (descriptor : TypeDescriptor) :
    Keeps inv (registerType descriptor) := by
  apply whenReady_keeps
  intro session kept
  apply Leads.get_bind
  dsimp only
  split
  · exact kept
  · rename_i free
    cases registered : session.types.register descriptor with
    | error fault => exact kept
    | ok types => exact ⟨extensible.types kept (eq_false_of_ne_true free) registered, trivial⟩

theorem addFunction_leads (extensible : Extensible inv) {space : String} {descriptor : FunctionDescriptor}
    (kept : inv session)
    (free : space = FunctionRegistry.globalSpace →
      session.types.containsName descriptor.name = false) :
    Leads inv (addFunction space descriptor) (fun _ _ => True) session := by
  apply Leads.get_bind
  cases registered : session.functions.register space descriptor with
  | error fault => exact kept
  | ok functions => exact ⟨extensible.functions kept free registered, trivial⟩

theorem registerFunction_keeps (extensible : Extensible inv) (descriptor : FunctionDescriptor) :
    Keeps inv (registerFunction descriptor) := by
  apply whenReady_keeps
  intro session kept
  apply Leads.get_bind
  dsimp only
  split
  · exact kept
  · rename_i free
    exact extensible.addFunction_leads kept fun _ => eq_false_of_ne_true free

theorem register_keeps (extensible : Extensible inv) (registration : Registration) :
    Keeps inv (register registration) := by
  cases registration with
  | type descriptor => exact (extensible.registerType_keeps descriptor).bind fun _ => Keeps.of_ok _
  | function descriptor => exact extensible.registerFunction_keeps descriptor
  | moduleFunction space descriptor =>
      unfold register registerModuleFunction
      dsimp only
      split
      · exact extensible.registerFunction_keeps descriptor
      · rename_i elsewhere
        apply whenReady_keeps
        intro session kept
        split
        · exact kept
        · exact extensible.addFunction_leads kept fun same => absurd same elsewhere

theorem install_keeps (extensible : Extensible inv) (extension : Extension) :
    Keeps inv (install extension) := by
  apply whenReady_keeps
  exact fun session kept => Leads.forM (fun item _ => extensible.register_keeps item) kept

end Extensible

/-- The operations that change no more than the machine and the closures. -/
def Operation.IsCalm : Operation → Prop
  | start | teardown | register _ | install _ | run _ | runFile _ => False
  | _ => True

/-- Those, and the ones that run scripts with their functions. -/
def Operation.IsStable : Operation → Prop
  | start | teardown | register _ | install _ => False
  | _ => True

theorem Calm.perform_keeps (calm : Calm inv) {operation : Operation} (isCalm : operation.IsCalm) :
    Keeps inv operation.perform := by
  cases operation with
  | start => exact isCalm.elim
  | teardown => exact isCalm.elim
  | register registration => exact isCalm.elim
  | install extension => exact isCalm.elim
  | run text => exact isCalm.elim
  | runFile file => exact isCalm.elim
  | eval text => exact map_keeps (calm.eval_keeps text) _
  | global name => exact map_keeps (calm.global_keeps name) _
  | setGlobal name value => exact done_keeps (calm.setGlobal_keeps name value)
  | call name arguments => exact map_keeps (calm.call_keeps name arguments) _
  | hasFunction name => exact get_keeps.bind fun _ => Keeps.of_ok _
  | createObject name arguments =>
      refine map_keeps (whenReady_keeps (get_keeps.bind fun current => ?_)) _
      split
      · exact Keeps.of_error _
      · exact calm.native_keeps _
  | insertObject body => exact map_keeps (calm.native_keeps _) _
  | readObject handle type => exact (inspect_keeps _).bind fun _ => Keeps.of_ok _
  | callMethod receiver name arguments => exact map_keeps (calm.native_keeps _) _
  | getField receiver name => exact map_keeps (calm.native_keeps _) _
  | setField receiver name value => exact done_keeps (calm.native_keeps _)
  | typeName handle => exact map_keeps (inspect_keeps _) _
  | isLive handle => exact get_keeps.bind fun _ => Keeps.of_ok _
  | release handle =>
      apply done_keeps
      apply whenReady_keeps
      exact (calm.onMachine_keeps _).bind fun _ => ofResult_keeps _
  | collect => exact map_keeps (whenReady_keeps (calm.onMachine_keeps _)) _
  | takeOutput => exact map_keeps (calm.onMachine_keeps _) _
  | statistics => exact get_keeps.bind fun _ => Keeps.of_ok _
  | phase => exact get_keeps.bind fun _ => Keeps.of_ok _

theorem Stable.perform_keeps (stable : Stable inv) {operation : Operation}
    (isStable : operation.IsStable) : Keeps inv operation.perform := by
  cases operation with
  | run text => exact done_keeps (stable.run_keeps text)
  | runFile file =>
      apply done_keeps
      apply whenReady_keeps
      exact (ofResult_keeps file.text).bind fun text => stable.run_keeps text
  | _ => exact stable.toCalm.perform_keeps isStable

theorem Steady.perform_keeps (steady : Steady inv) {operation : Operation}
    (starts : operation ≠ .start) (ends : operation ≠ .teardown) :
    Keeps inv operation.perform := by
  cases operation with
  | start => exact absurd rfl starts
  | teardown => exact absurd rfl ends
  | register registration => exact done_keeps (steady.register_keeps registration)
  | install extension => exact done_keeps (steady.install_keeps extension)
  | _ => exact steady.toStable.perform_keeps trivial

end Session
end ScriptHost
