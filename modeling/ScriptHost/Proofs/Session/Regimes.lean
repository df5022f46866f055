import ScriptHost.Proofs.Native.Conduct
import ScriptHost.Proofs.Session.Registries
import ScriptHost.Proofs.Session.Writes

/-!
Regimes: laws that hold in a session whatever is done with it.

A regime is a law about the store of a session and the requests that scripts have made, with what is
asked of the native callables for it. If the law lasts through every request that a script can make
of these, it lasts through all operations: everything else in a session only lets go of instances,
inserts what the host hands over, or lets the host enter a body itself.
-/

set_option autoImplicit false

namespace ScriptHost

open Script

namespace Script.Machine

variable {types : TypeRegistry} {request : Call.Request} {machine : Machine}

theorem asked_callNative : (machine.callNative types request).2.asked.value =
    ⟨request, machine.store.collect⟩ :: machine.asked.value := by
  have noted : (machine.requested request).asked.value =
      ⟨request, machine.store.collect⟩ :: machine.asked.value := Ghost.value_map _ _
  rw [← noted, callNative_eq]
  cases Store.run (request.call types >>= Call.toScript) (machine.requested request).store with
  | mk outcome store => cases outcome <;> rfl

end Script.Machine

namespace Session

variable {session : Session} {types : TypeRegistry} {functions : FunctionRegistry}
  {log : List Registration}

theorem HostCall.obeys_of_check {conduct : Conduct} {heap : Heap Occupant} {call : HostCall}
    {entry : Call.Entry} (obeys : types.Obeys conduct)
    (sound : ∀ {handle occupant}, heap.content? handle = some occupant →
      conduct.sound occupant.body) (admitted : call.check types heap = .ok entry) :
    entry.Obeys conduct := by
  cases call with
  | create typeName arguments =>
      rw [HostCall.check_create] at admitted
      split at admitted
      · exact Call.obeys_construct obeys admitted
      · cases admitted
  | method receiver name arguments => exact Call.obeys_method obeys sound admitted
  | read owner name => exact Call.obeys_read admitted
  | write owner name value => exact Call.obeys_write obeys sound admitted

/-- `apt` is asked of functions, and `conduct` of everything else. The requests of scripts are given
to the law with the one made last first. -/
structure Regime where
  conduct : Conduct
  apt : FunctionDescriptor → Prop
  law : List Asked → Store → Prop

namespace Regime

def Approves (regime : Regime) : Registration → Prop
  | .type descriptor => descriptor.Obeys regime.conduct
  | .function descriptor | .moduleFunction _ descriptor => regime.apt descriptor

def Admits (regime : Regime) : Operation → Prop
  | .insertObject body => regime.conduct.sound body
  | _ => True

/-- A law that lasts. -/
structure Lasts (regime : Regime) : Prop where
  upholds : ∀ asked, regime.conduct.Upholds (regime.law asked)
  requests : ∀ {types : TypeRegistry} {request : Call.Request} {asked : List Asked} {store : Store},
    types.Obeys regime.conduct →
    (∀ descriptor arguments, request = .function descriptor arguments → regime.apt descriptor) →
    regime.law asked store →
      regime.law (⟨request, store.collect⟩ :: asked)
        (store.collect.run (request.call types >>= Call.toScript)).2
  clears : ∀ {asked : List Asked} {store : Store}, regime.law asked store →
    regime.law asked ⟨store.heap.clear, store.generator⟩

/-- The law as one about the machine of a session. -/
def Governs (regime : Regime) (machine : Machine) : Prop :=
  regime.law machine.asked.value machine.store

variable {regime : Regime}

theorem Lasts.steadfast (lasts : regime.Lasts) (obeys : types.Obeys regime.conduct)
    (apt : ∀ descriptor, functions.Has descriptor → regime.apt descriptor) :
    Run.Steadfast types functions regime.Governs where
  rests {before after} same _ law := by
    have asked : after.asked = before.asked := congrArg Machine.Estate.asked same
    have generator : after.store.generator = before.store.generator :=
      congrArg Machine.Estate.generator same
    have rested := (lasts.upholds _).rests (congrArg Machine.Estate.bare same) law
    rw [← generator, ← asked] at rested
    exact rested
  removes handle law := (lasts.upholds _).removes handle law
  requests {machine request} offered law := by
    unfold Governs
    rw [Machine.asked_callNative, Machine.ran_callNative]
    apply lasts.requests obeys _ law
    rintro descriptor arguments rfl
    exact apt descriptor offered

end Regime

/-- A session under a regime, with all registrations that have succeeded. -/
structure Under (regime : Regime) (log : List Registration) (session : Session) : Prop where
  recorded : Recorded log session
  approved : ∀ registration ∈ log, regime.Approves registration
  governed : regime.Governs session.machine

namespace Under

variable {regime : Regime}

theorem obeys (under : Under regime log session) : session.types.Obeys regime.conduct := by
  intro descriptor member
  rw [← Array.mem_toList_iff, under.recorded.types] at member
  obtain ⟨registration, known, isType⟩ := List.mem_filterMap.mp member
  have approved := under.approved registration known
  cases registration with
  | type other =>
      cases isType
      exact approved
  | function _ | moduleFunction _ _ => cases isType

theorem apt (under : Under regime log session) {descriptor : FunctionDescriptor}
    (has : session.functions.Has descriptor) : regime.apt descriptor := by
  obtain ⟨space, member⟩ := has
  rw [← Array.mem_toList_iff, under.recorded.functions] at member
  obtain ⟨registration, known, isFunction⟩ := List.mem_filterMap.mp member
  have approved := under.approved registration known
  cases registration with
  | type _ => cases isFunction
  | function _ | moduleFunction _ _ =>
      cases isFunction
      exact approved

section Operations

variable (lasts : regime.Lasts) (under : Under regime log session)

include lasts under

theorem governs_insert (ready : session.phase = .ready) {body : Instance}
    (sound : regime.conduct.sound body) :
    regime.Governs (session.perform (.insertObject body)).2.machine := by
  have upholds := lasts.upholds session.machine.asked.value
  rw [perform_insert ready]
  apply Store.run_upholds upholds _ under.governed
  intro state before
  apply Call.leads_ofResult before
  intro occupant allocated
  have inserted : regime.conduct.sound occupant.body := Call.body_of_allocate allocated ▸ sound
  have stored : Leads (Call.Keeping _) (Call.insert occupant) (fun _ _ => True) state :=
    ⟨upholds.inserts inserted before, trivial⟩
  exact stored.bind fun handle after kept _ =>
    ((Call.pin_obeys upholds handle).bind fun _ => Keeps.of_ok _) after kept

theorem governs_call (ready : session.phase = .ready) (call : HostCall) :
    regime.Governs (session.perform call.operation).2.machine := by
  have upholds := lasts.upholds session.machine.asked.value
  rcases call.perform_checked ready with same | ⟨fault, refused, same⟩
  · rw [same]
    exact Store.run_entry upholds (Call.pinResult_obeys upholds)
      (fun entry admitted => HostCall.obeys_of_check under.obeys
        (upholds.sound (upholds.collects under.governed)) admitted) under.governed
  · rw [same]
    exact under.governed

theorem governs_perform {operation : Operation} (admits : regime.Admits operation) :
    regime.Governs (session.perform operation).2.machine := by
  have steadfast := lasts.steadfast under.obeys fun _ has => under.apt has
  have refused (fallible : operation.MayFail) (starts : operation ≠ .start)
      (ends : operation ≠ .teardown) (unready : session.phase ≠ .ready) :
      regime.Governs (session.perform operation).2.machine := by
    rw [perform_refused fallible starts ends unready]
    exact under.governed
  cases composed operation with
  | made made =>
      have kept := made.keeps steadfast session ⟨rfl, rfl, under.governed⟩
      exact (perform_of_leads kept).1.machine
  | detached detached => exact (perform_of_leads (detached.keeps _ under.governed)).1
  | teardown =>
      by_cases closed : session.phase = .tornDown
      · have fallible : Operation.MayFail .teardown := trivial
        rw [perform_closed closed fallible]
        exact under.governed
      · rw [perform_done_ok rfl (teardown_eq closed)]
        exact lasts.clears under.governed
  | takeOutput => exact under.governed
  | insert body =>
      by_cases ready : session.phase = .ready
      · exact under.governs_insert lasts ready admits
      · exact refused trivial nofun nofun ready
  | call call =>
      by_cases ready : session.phase = .ready
      · exact under.governs_call lasts ready call
      · exact refused (by cases call <;> trivial) (by cases call <;> exact nofun)
          (by cases call <;> exact nofun) ready

end Operations

theorem perform (lasts : regime.Lasts) (under : Under regime log session) {operation : Operation}
    (admits : regime.Admits operation)
    (approved : ∀ registration ∈ session.accepted operation.registrations,
      regime.Approves registration) :
    Under regime (log ++ session.accepted operation.registrations)
      (session.perform operation).2 := by
  refine ⟨under.recorded.perform operation, fun registration member => ?_,
    under.governs_perform lasts admits⟩
  rcases List.mem_append.mp member with earlier | new
  · exact under.approved registration earlier
  · exact approved registration new

theorem after (lasts : regime.Lasts) (under : Under regime log session)
    {operations : List Operation} (admits : ∀ operation ∈ operations, regime.Admits operation)
    (approved : ∀ registration ∈ session.registered operations, regime.Approves registration) :
    Under regime (log ++ session.registered operations) (session.after operations) := by
  induction operations generalizing session log with
  | nil =>
      rw [registered, List.append_nil]
      exact under
  | cons operation rest ih =>
      rw [registered] at approved ⊢
      rw [← List.append_assoc]
      exact ih (under.perform lasts (admits operation List.mem_cons_self)
        fun registration member => approved registration (List.mem_append_left _ member))
        (fun other member => admits other (List.mem_cons_of_mem _ member))
        fun registration member => approved registration (List.mem_append_right _ member)

end Under

/-- What the host brings into a session: instances that it inserts, and registrations that have
succeeded. -/
structure Regime.Abides (regime : Regime) (configuration : Configuration)
    (operations : List Operation) : Prop where
  admits : ∀ operation ∈ operations, regime.Admits operation
  approves : ∀ registration ∈ (create configuration).registered operations,
    regime.Approves registration

/-- A law that lasts and that holds at the beginning holds in every session with nothing in it that
the regime does not approve of. -/
theorem Regime.governs_after {regime : Regime} (lasts : regime.Lasts) {configuration : Configuration}
    {operations : List Operation} (abides : regime.Abides configuration operations)
    (began : regime.law [] (create configuration).machine.store) :
    regime.Governs ((create configuration).after operations).machine := by
  have none : (create configuration).machine.asked.value = [] := Ghost.value_of _
  have under : Under regime [] (create configuration) :=
    ⟨recorded_create configuration, nofun, by rw [Governs, none]; exact began⟩
  exact (under.after lasts abides.admits abides.approves).governed

end Session
end ScriptHost
