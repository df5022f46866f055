import ScriptHost.Proofs.Session.Arities
import ScriptHost.Proofs.Session.Faults
import ScriptHost.Proofs.Session.Registries

/-!
Calls of functions in modules.

A module is put together anew whenever it gets another function, and still it has just the functions
that have been registered for it: a call finds its own function, whatever has been registered since,
and finds nothing that is registered elsewhere only.
-/

set_option autoImplicit false

namespace ScriptHost

open Script

theorem FunctionRegistry.hasSpace_iff {registry : FunctionRegistry} {space : String} :
    registry.hasSpace space = true ↔
      ∃ function, (space, function) ∈ registry.functions.toList := by
  unfold hasSpace
  rw [registry.bound]
  have member : ∀ function, function ∈ registry.functions.inSpace space ↔
      (space, function) ∈ registry.functions.toList := by
    intro function
    simp [PlacedFunctions.inSpace]
  simp only [← member, PlacedFunctions.module?]
  cases registry.functions.inSpace space with
  | nil => simp
  | cons function rest => exact iff_of_true rfl ⟨function, List.mem_cons_self⟩

namespace Script.Run

variable {env : Environment} {self : Evaluator} {frame : Frame} {arguments : List Term}
  {machine : Machine} {positions : List Nat} {space name : String} {start position : Position}

/-- A call that evaluates its arguments and then does something with them. -/
def evaluated (self : Evaluator) (frame : Frame) (arguments : List Term)
    (answer : List Nat → Run Unit) : Run Unit := do
  let before ← mark
  gathering inOrder do
    let (positions, _) ← evaluateArguments self frame arguments
    answer positions
  keepTop before

def handing (env : Environment) (function : FunctionDescriptor) (position : Position)
    (positions : List Nat) : Run Unit := do
  native env (.function function (positions.map (← get).operand)) positions position

def lacking (name : String) (position : Position) (positions : List Nat) : Run Unit := do
  noFunction name (positions.map (← get).operand) position

theorem leads_anywhere {α : Type} (work : Run α) (machine : Machine) :
    Leads (fun _ => True) work (fun _ _ => True) machine := by
  unfold Leads
  cases work machine with
  | ok result after => exact ⟨trivial, trivial⟩
  | error halt after => trivial

theorem leads_evaluateArguments (self : Evaluator) (frame : Frame) (arguments : List Term)
    (machine : Machine) :
    Leads (fun _ => True) (evaluateArguments self frame arguments)
      (fun found _ => found.1.length = arguments.length) machine := by
  apply (leads_anywhere mark machine).bind
  intro before after _ _
  apply (leads_anywhere _ after).bind
  intro _ later _ _
  apply Leads.get_bind
  refine Leads.of_ok trivial ?_
  have rotated (offsets : List Nat) (named : Bool) :
      (if named then offsets.drop offsets.length.pred ++ offsets.take offsets.length.pred
        else offsets).length = offsets.length := by
    cases named with
    | true => simp
    | false => rfl
  rw [List.length_map]
  exact (rotated _ _).trans List.length_range

theorem evaluated_congr {first second : List Nat → Run Unit}
    (same : ∀ positions, positions.length = arguments.length → first positions = second positions) :
    evaluated self frame arguments first = evaluated self frame arguments second := by
  have inner : (do
        let (positions, _) ← evaluateArguments self frame arguments
        first positions) = (do
        let (positions, _) ← evaluateArguments self frame arguments
        second positions) := by
    funext machine
    rw [bind_apply, bind_apply]
    have leads := leads_evaluateArguments self frame arguments machine
    unfold Leads at leads
    cases ended : evaluateArguments self frame arguments machine with
    | ok found after =>
        rw [ended] at leads
        dsimp only
        rw [same found.1 leads.2]
    | error halt after => rfl
  unfold evaluated
  rw [inner]

theorem callInModule_found {function : FunctionDescriptor}
    (found : env.functions.find? space function.name = some function)
    (few : positions.length ≤ argumentLimit) :
    callInModule env space function.name positions start position =
      handing env function position positions := by
  funext machine
  have reaches := @reaches_inModule env machine positions _ space function found start position
  exact reaches.within (by rwa [List.length_map])

theorem callInModule_lacking (known : env.functions.hasSpace space = true)
    (absent : env.functions.find? space name = none) :
    callInModule env space name positions start position =
      lacking (space ++ "::" ++ name) position positions := by
  unfold callInModule
  rw [known, FunctionRegistry.find?_modules, absent]
  rfl

theorem callInModule_unknown (unknown : env.functions.hasSpace space = false) :
    callInModule env space name positions start position =
      fail (.moduleNotFound space) start := by
  unfold callInModule
  rw [unknown]
  rfl

end Script.Run

namespace Session

variable {session : Session} {log : List Registration} {env : Environment}

theorem Starts.functions {operation : Operation} {work : Run Unit} {machine : Machine}
    (starts : session.Starts operation env work machine) :
    env.functions = session.functions := by
  induction starts with
  | run read => rfl
  | runFile read _ ih => exact ih
  | eval read => rfl
  | call received resolved => rfl

/-- What calls of functions in a module come to, by what is registered and where. -/
structure ModuleAnswers (known : List (String × FunctionDescriptor)) (env : Environment)
    (space : String) : Prop where
  own : ∀ function, (space, function) ∈ known →
    ∀ self frame arguments start position, arguments.length ≤ argumentLimit →
      Run.moduleCall env self frame space function.name arguments start position =
        Run.evaluated self frame arguments (Run.handing env function position)
  foreign : ∀ name, (∃ function, (space, function) ∈ known) →
    (∀ function, (space, function) ∈ known → function.name ≠ name) →
      ∀ self frame arguments start position,
        Run.moduleCall env self frame space name arguments start position =
          Run.evaluated self frame arguments (Run.lacking (space ++ "::" ++ name) position)
  unknown : (∀ function, (space, function) ∉ known) →
    ∀ name self frame arguments start position,
      Run.moduleCall env self frame space name arguments start position =
        Run.evaluated self frame arguments fun _ => Run.fail (.moduleNotFound space) start

theorem Recorded.moduleAnswers (recorded : Recorded log session)
    (functions : env.functions = session.functions) (space : String) :
    ModuleAnswers (log.filterMap Registration.function?) env space := by
  have called : ∀ {name self frame arguments start position},
      Run.moduleCall env self frame space name arguments start position =
        Run.evaluated self frame arguments fun positions =>
          Run.callInModule env space name positions start position := rfl
  have spaceKnown : env.functions.hasSpace space = true ↔
      ∃ function, (space, function) ∈ log.filterMap Registration.function? := by
    rw [functions, FunctionRegistry.hasSpace_iff, recorded.functions]
  refine ⟨?own, ?foreign, ?unknown⟩
  case own =>
    intro function member self frame arguments start position few
    have found : env.functions.find? space function.name = some function := by
      rw [functions]
      exact recorded.find?_iff.mpr ⟨member, rfl⟩
    refine called.trans (Run.evaluated_congr fun positions counted => ?_)
    exact Run.callInModule_found found (counted.trans_le few)
  case foreign =>
    intro name inhabited others self frame arguments start position
    have absent : env.functions.find? space name = none := by
      rw [functions, Option.eq_none_iff_forall_ne_some]
      intro function found
      obtain ⟨member, named⟩ := recorded.find?_iff.mp found
      exact others function member named
    refine called.trans (Run.evaluated_congr fun positions _ => ?_)
    exact Run.callInModule_lacking (spaceKnown.mpr inhabited) absent
  case unknown =>
    intro vacant name self frame arguments start position
    have unknown : env.functions.hasSpace space = false := by
      rw [Bool.eq_false_iff]
      intro known
      obtain ⟨function, member⟩ := spaceKnown.mp known
      exact vacant function member
    exact called.trans (Run.evaluated_congr fun _ _ => Run.callInModule_unknown unknown)

/-- Whatever is done with a session, a function that has been registered in a module is what calls
of it get from then on; and nothing else is found in a module than what is registered there. -/
theorem module_functions_are_never_lost (configuration : Configuration)
    (operations : List Operation) :
    let session := (create configuration).after operations
    let known := ((create configuration).registered operations).filterMap Registration.function?
    (∀ earlier space function reply later,
      operations = earlier ++ .register (.moduleFunction space function) :: later →
      (((create configuration).after earlier).perform
        (.register (.moduleFunction space function))).1 = .ok reply →
          (space, function) ∈ known) ∧
    (∀ operation env work machine, session.Starts operation env work machine →
      env.functions = session.functions) ∧
    ∀ env, env.functions = session.functions → ∀ space, ModuleAnswers known env space := by
  intro session known
  have recorded : Recorded ((create configuration).registered operations) session :=
    (recorded_create configuration).after operations
  refine ⟨?_, fun _ _ _ _ starts => starts.functions, fun env => recorded.moduleAnswers⟩
  rintro earlier space function reply later rfl succeeded
  exact List.mem_filterMap.mpr ⟨_, mem_registered succeeded later, rfl⟩

def saying (name text : String) : FunctionDescriptor :=
  ⟨name, .fixed [], fun _ => .done (.text text)⟩

/-- Two functions have the same name in different places. The third one is refused. -/
def pickings : List Operation :=
  [.start, .register (.moduleFunction "left" (saying "pick" "left")),
    .register (.function (saying "pick" "global")),
    .register (.moduleFunction "right" (saying "choose" "right")),
    .register (.moduleFunction "left" (saying "pick" "other"))]

/-- In the one module the first function is picked, and in the other there is nothing to pick. -/
theorem left_is_picked :
    let session := (create .standard).after pickings
    let env := session.environment session.library
    session.phase = .ready ∧ session.functions.size = 3 ∧
      ∀ self frame start position,
        Run.moduleCall env self frame "left" "pick" [] start position =
            Run.evaluated self frame [] (Run.handing env (saying "pick" "left") position) ∧
          Run.moduleCall env self frame "right" "pick" [] start position =
            Run.evaluated self frame [] (Run.lacking "right::pick" position) := by
  intro session env
  have ready : session.phase = .ready := by decide +kernel
  have three : session.functions.size = 3 := by decide +kernel
  obtain ⟨stays, _, answers⟩ := module_functions_are_never_lost .standard pickings
  have recorded : Recorded ((create .standard).registered pickings) session :=
    (recorded_create .standard).after pickings
  have leftAccepted : ((create .standard).after [.start]).fault?
      (.register (.moduleFunction "left" (saying "pick" "left"))) = none := by decide +kernel
  have rightAccepted : ((create .standard).after (pickings.take 3)).fault?
      (.register (.moduleFunction "right" (saying "choose" "right"))) = none := by decide +kernel
  obtain ⟨_, left⟩ := ok_of_fault? leftAccepted
  obtain ⟨_, right⟩ := ok_of_fault? rightAccepted
  have picked := stays _ _ _ _ _ rfl left
  have chosen := stays _ _ _ _ _ rfl right
  have nothing : session.functions.find? "right" "pick" = none := by
    rw [← Option.isNone_iff_eq_none]
    decide +kernel
  refine ⟨ready, three, fun self frame start position => ⟨?_, ?_⟩⟩
  · exact (answers env rfl "left").own _ picked self frame [] start position (by decide)
  · refine (answers env rfl "right").foreign "pick" ⟨_, chosen⟩ ?_ self frame [] start position
    intro function member named
    rw [recorded.find?_iff.mpr ⟨member, named⟩] at nothing
    cases nothing

end Session
end ScriptHost
