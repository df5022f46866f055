import ScriptHost.Proofs.Script.Naming
import ScriptHost.Proofs.Script.Origins
import ScriptHost.Proofs.Script.Signatures

/-!
What calls by name ask of the host.

Methods, functions and types of the host are called by their names in one and the same way, so one
name may mean several of them. Where the first argument is an instance, a method comes first, if
any type declares one of the name; the type of the instance need not. After that comes a function
of the host, and then a type, which is constructed. None of them takes more arguments than the
limit. A call by a name that no function of the interpreter bears is a request for what the name
means, or fails because it means nothing.
-/

set_option autoImplicit false

namespace ScriptHost

namespace Script

namespace Name

/-- Functions of the interpreter whose names are not kept for it. -/
def commonNames : List String := ["to_string", "to_debug", "len", "clear", "push"]

/-- A name under which scripts can call something of the host and nothing of the interpreter, as far
as `Native.builtins` goes: names of functions that come in packages of the language, which are left
out there, are not excluded. -/
structure ForHosts (name : String) : Prop where
  identifier : isIdentifier name = true
  free : name ∉ builtinNames
  uncommon : name ∉ commonNames

theorem ForHosts.forMethods {name : String} (named : ForHosts name) : ForMethods name := by
  refine ⟨named.identifier, fun member => named.free ?_⟩
  revert member
  simp only [builtinMethods, builtinNames, List.mem_cons, List.not_mem_nil, or_false]
  rintro (rfl | rfl | rfl | rfl) <;> simp

end Name

end Script

def Call.Request.isMethod : Call.Request → Bool
  | .method .. => true
  | _ => false

namespace Script.Native

variable {env : Environment} {types : TypeRegistry} {functions : FunctionRegistry}
  {name : String} {reference : Reference} {values : List Value} {function : FunctionDescriptor}

/-- What a name means apart from methods. -/
def offered? (types : TypeRegistry) (functions : FunctionRegistry) (name : String)
    (values : List Value) : Option Call.Request :=
  if values.length ≤ argumentLimit then
    match functions.find? FunctionRegistry.globalSpace name with
    | some function => some (.function function values)
    | none => (types.idOfName? name).map fun typeId => .construct typeId values
  else
    none

/-- What a call by name asks of the host. -/
def asked? (types : TypeRegistry) (functions : FunctionRegistry) (name : String) :
    List Value → Option Call.Request
  | .object reference :: rest =>
      if types.declaresMethod name then
        if rest.length ≤ argumentLimit then some (.method reference name rest) else none
      else
        offered? types functions name (.object reference :: rest)
  | values => offered? types functions name values

/-- A call is for a method if its first argument is an instance and some type declares the
method. -/
def CallsMethod (types : TypeRegistry) (name : String) (values : List Value) : Prop :=
  types.declaresMethod name = true ∧ ∃ reference rest, values = .object reference :: rest

theorem asked?_method (declared : types.declaresMethod name = true)
    (few : values.length ≤ argumentLimit) :
    asked? types functions name (.object reference :: values) =
      some (.method reference name values) := by
  unfold asked?
  dsimp only
  rw [if_pos declared, if_pos few]

theorem asked?_excess (declared : types.declaresMethod name = true)
    (many : argumentLimit < values.length) :
    asked? types functions name (.object reference :: values) = none := by
  unfold asked?
  dsimp only
  rw [if_pos declared, if_neg (Nat.not_le_of_gt many)]

theorem asked?_apart (apart : ¬ CallsMethod types name values) :
    asked? types functions name values = offered? types functions name values := by
  unfold asked?
  split
  · rename_i reference rest
    rw [if_neg fun declared => apart ⟨declared, reference, rest, rfl⟩]
  · rfl

theorem CallsMethod.declared (calls : CallsMethod types name values) :
    types.declaresMethod name = true :=
  calls.1

theorem not_callsMethod (undeclared : types.declaresMethod name = false) :
    ¬ CallsMethod types name values := by
  intro calls
  rw [calls.declared] at undeclared
  cases undeclared

theorem offered?_function (few : values.length ≤ argumentLimit)
    (found : functions.find? FunctionRegistry.globalSpace name = some function) :
    offered? types functions name values = some (.function function values) := by
  unfold offered?
  rw [if_pos few, found]

theorem offered?_construct {typeId : TypeId} (few : values.length ≤ argumentLimit)
    (missing : functions.find? FunctionRegistry.globalSpace name = none)
    (known : types.idOfName? name = some typeId) :
    offered? types functions name values = some (.construct typeId values) := by
  unfold offered?
  rw [if_pos few, missing, known]
  rfl

theorem offered?_excess (many : argumentLimit < values.length) :
    offered? types functions name values = none :=
  if_neg (Nat.not_le_of_gt many)

theorem isMethod_of_offered? {request : Call.Request}
    (offered : offered? types functions name values = some request) :
    request.isMethod = false := by
  unfold offered? at offered
  split at offered
  · split at offered
    · cases offered
      rfl
    · obtain ⟨typeId, _, rfl⟩ := Option.map_eq_some_iff.mp offered
      rfl
  · cases offered

/-- A native function that, for these values, is a request to the host and nothing else. Only a
method may change its first argument. -/
structure Asks (native : Native) (values : List Value) (request : Call.Request) : Prop where
  requests : native.request? values = some request
  foreign : ∀ builtin, native.implementation ≠ .builtin builtin
  silent : native.implementation ≠ .description
  byReference : native.byReference = request.isMethod

theorem builtins_eq_nil (named : Name.ForHosts name) (count : Nat) : builtins name count = [] := by
  have identifier := named.identifier
  have free := named.free
  have uncommon := named.uncommon
  -- Every other case names a function of the interpreter or an operator.
  unfold builtins
  split <;> first
    | rfl
    | exact absurd (by decide) free
    | exact absurd (by decide) uncommon
    | exact absurd identifier (by decide)

theorem commonOf_eq_nil (named : Name.ForHosts name) (count : Nat) : commonOf name count = [] := by
  match count with
  | 0 => rfl
  | 1 =>
      have uncommon := named.uncommon
      simp only [Name.commonNames, List.mem_cons, not_or] at uncommon
      have notMinus : name ≠ Operator.negate.symbol := by
        rintro rfl
        exact absurd named.identifier (by decide)
      unfold commonOf
      simp [uncommon.1, uncommon.2.1, notMinus]
  | count + 2 => exact commonOf_more named.identifier count

theorem candidates_eq (named : Name.ForHosts name) (count : Nat) :
    candidates env name count =
      methodsOf env.types name count ++ functionsOf env.types env.functions name count := by
  unfold candidates
  rw [commonOf_eq_nil named, builtins_eq_nil named, List.append_nil, List.append_nil]

theorem takes_any (values : List Value) (byReference : Bool) (implementation : Implementation) :
    takes ⟨anyArguments values.length, byReference, implementation⟩ values = true := by
  have all : ((anyArguments values.length).zip values).all
      (fun pair => pair.1.accepts pair.2) = true := by
    rw [List.all_eq_true]
    rintro ⟨shape, value⟩ member
    have any : shape = .any := List.eq_of_mem_replicate (List.of_mem_zip member).1
    rw [any]
    rfl
  unfold takes
  rw [all]
  simp [anyArguments]

theorem functionsOf_rel (types : TypeRegistry) (functions : FunctionRegistry) (name : String)
    (values : List Value) :
    Option.Rel (fun native request => native.Asks values request)
      (best? (functionsOf types functions name values.length))
      (offered? types functions name values) := by
  by_cases few : values.length ≤ argumentLimit
  · unfold functionsOf offered?
    rw [if_pos few, if_pos few]
    cases functions.find? FunctionRegistry.globalSpace name with
    | some function => exact .some ⟨rfl, nofun, nofun, rfl⟩
    | none =>
        cases types.idOfName? name with
        | some typeId => exact .some ⟨rfl, nofun, nofun, rfl⟩
        | none => exact .none
  · unfold functionsOf offered?
    rw [if_neg few, if_neg few]
    exact .none

theorem resolve?_apart (named : Name.ForHosts name) (apart : ¬ CallsMethod env.types name values) :
    resolve? env name values =
      best? (functionsOf env.types env.functions name values.length) := by
  have none : (methodsOf env.types name values.length).filter
      (fun native => native.takes values) = [] := by
    rw [List.filter_eq_nil_iff]
    intro native member taken
    unfold methodsOf at member
    split at member
    · rename_i offers
      rw [List.mem_singleton.mp member] at taken
      have declared := (Bool.and_eq_true_iff.mp offers).2
      -- A method takes an instance first, so the call would be for it.
      cases values with
      | nil => cases taken
      | cons first rest =>
          cases first with
          | object reference => exact apart ⟨declared, reference, rest, rfl⟩
          | _ => simp [takes, Shape.accepts] at taken
    · cases member
  have all : (functionsOf env.types env.functions name values.length).filter
      (fun native => native.takes values) =
        functionsOf env.types env.functions name values.length := by
    rw [List.filter_eq_self]
    intro native member
    unfold functionsOf at member
    split at member
    · split at member
      · rw [List.mem_singleton.mp member]
        exact takes_any values _ _
      · split at member
        · rw [List.mem_singleton.mp member]
          exact takes_any values _ _
        · cases member
    · cases member
  unfold resolve?
  rw [candidates_eq named, List.filter_append, none, List.nil_append, all]

theorem resolve?_excess (named : Name.ForHosts name) (many : argumentLimit < values.length) :
    resolve? env name (.object reference :: values) = none := by
  have methods : methodsOf env.types name (values.length + 1) = [] := by
    unfold methodsOf
    rw [if_neg]
    simp
    omega
  have functions : functionsOf env.types env.functions name (values.length + 1) = [] := by
    unfold functionsOf
    rw [if_neg (by omega)]
  unfold resolve?
  rw [List.length_cons, candidates_eq named, methods, functions]
  rfl

theorem resolve?_rel (env : Environment) (named : Name.ForHosts name) (values : List Value) :
    Option.Rel (fun native request => native.Asks values request) (resolve? env name values)
      (asked? env.types env.functions name values) := by
  by_cases method : CallsMethod env.types name values
  · obtain ⟨declared, reference, rest, rfl⟩ := method
    by_cases few : rest.length ≤ argumentLimit
    · rw [asked?_method declared few, resolve?_method declared named.identifier few]
      exact .some ⟨rfl, nofun, nofun, rfl⟩
    · rw [asked?_excess declared (Nat.lt_of_not_le few),
        resolve?_excess named (Nat.lt_of_not_le few)]
      exact .none
  · rw [asked?_apart method, resolve?_apart named method]
    exact functionsOf_rel env.types env.functions name values

end Script.Native

namespace Script.Run

variable {env : Environment} {self : Evaluator} {frame : Frame} {machine : Machine}
  {place : Place} {positions : List Nat} {name : String} {reference : Reference}

/-- A call of what the host offers under a name. -/
def callHost (env : Environment) (name : String) (arguments : Arguments) (place? : Option Place)
    (position : Position) : Run Bool := do
  let values := arguments.values (← get)
  match Native.asked? env.types env.functions name values with
  | none => noFunction name values position
  | some request =>
      let used := if request.isMethod then arguments.rest ++ arguments.first
        else arguments.positions
      native env request used position
      if request.isMethod then
        place?.forM fun place => checkPlace env place position
      checkTop env position
      return request.isMethod

/-- A request that changes none of its arguments. -/
def requesting (env : Environment) (request : Call.Request) (used : List Nat)
    (position : Position) : Run Bool := do
  native env request used position
  checkTop env position
  return false

/-- A call of a method, which may change its receiver. -/
def requestingMethod (env : Environment) (request : Call.Request) (place? : Option Place)
    (used : List Nat) (position : Position) : Run Bool := do
  native env request used position
  place?.forM fun place => checkPlace env place position
  checkTop env position
  return true

section

variable {arguments : Arguments} {request : Call.Request}

theorem callHost_nothing
    (asked : Native.asked? env.types env.functions name (arguments.values machine) = none)
    (place? : Option Place) (position : Position) :
    callHost env name arguments place? position machine =
      .error (.raised (.located
        (.functionNotFound (signature name (arguments.values machine))) position))
        (machine.record .failure) := by
  refine (get_bind_of rfl).trans ?_
  rw [asked]
  rfl

theorem callHost_plain
    (asked : Native.asked? env.types env.functions name (arguments.values machine) = some request)
    (plain : request.isMethod = false) (place? : Option Place) (position : Position) :
    callHost env name arguments place? position machine =
      requesting env request arguments.positions position machine := by
  refine (get_bind_of rfl).trans ?_
  rw [asked]
  dsimp only
  rw [plain]
  rfl

theorem callHost_method
    (asked : Native.asked? env.types env.functions name (arguments.values machine) = some request)
    (method : request.isMethod = true) (place? : Option Place) (position : Position) :
    callHost env name arguments place? position machine =
      requestingMethod env request place? (arguments.rest ++ arguments.first) position
        machine := by
  refine (get_bind_of rfl).trans ?_
  rw [asked]
  dsimp only
  rw [method]
  rfl

end

theorem output_other (notPrint : name ≠ "print") (notDebug : name ≠ "debug")
    (position : Position) : output name position = pure () := by
  unfold output
  simp [notPrint, notDebug]

theorem perform_asks {found : Native} {values : List Value} {request : Call.Request}
    (asks : found.Asks values request) (arguments : Arguments) (place? : Option Place)
    (used : List Nat) (position : Position) :
    perform env found name arguments values place? used position = (do
      native env request used position
      if request.isMethod then
        place?.forM fun place => checkPlace env place position
      checkTop env position) := by
  obtain ⟨shapes, byReference, implementation⟩ := found
  obtain ⟨requests, foreign, silent, rfl⟩ := asks
  cases implementation with
  | builtin builtin => exact absurd rfl (foreign builtin)
  | description => exact absurd rfl silent
  | _ =>
      unfold perform
      dsimp only
      rw [requests]

theorem callNative_host (named : Name.ForHosts name) (arguments : Arguments)
    (place? : Option Place) (position : Position) (machine : Machine) :
    callNative env name arguments place? position machine =
      callHost env name arguments place? position machine := by
  have found := Native.resolve?_rel env named (arguments.values machine)
  have free := named.free
  simp only [Name.builtinNames, List.mem_cons, not_or] at free
  obtain ⟨notPrint, notDebug, _⟩ := free
  rw [callNative_eq]
  refine Eq.trans ?_ (get_bind_of rfl).symm
  revert found
  generalize Native.resolve? env name (arguments.values machine) = found?,
    Native.asked? env.types env.functions name (arguments.values machine) = request?
  intro found
  cases found with
  | none => rfl
  | @some found request asks =>
      dsimp only
      rw [perform_asks asks, output_other notPrint notDebug]
      unfold Arguments.used
      rw [asks.byReference]
      simp only [bind_assoc, pure_bind]
      cases request.isMethod with
      | true => simp only [if_true, bind_assoc]
      | false => rfl

theorem callNamed_host (named : Name.ForHosts name) (arguments : Arguments)
    (own : env.library.find? name arguments.positions.length = none) (place? : Option Place)
    (position : Position) (machine : Machine) :
    callNamed env self frame name arguments place? position machine =
      callHost env name arguments place? position machine := by
  refine (get_bind_of ?_).trans (callNative_host named arguments place? position machine)
  split
  · exact absurd rfl ((named.forMethods.unanswered 0).bare rfl).1
  · rw [own]

/-- A method call on an instance is one with the instance as the first argument. -/
theorem callMethod_host (named : Name.ForHosts name)
    (own : env.library.find? name positions.length = none)
    (target : machine.valueAt place = .object reference)
    (plain : ∀ position ∈ positions, ∀ function bound,
      machine.operand position ≠ .function function bound) (start position : Position) :
    callMethod env self frame name place positions start position machine =
      callHost env name ⟨some place, positions⟩ (some place) position machine := by
  rw [callMethod_native (named.forMethods.unanswered _) target, bind_apply,
    checkRaces_plain plain]
  exact callNamed_host named ⟨some place, positions⟩ own (some place) position machine

theorem call_named (named : Name.ForHosts name) (arguments : List Term) (position : Position) :
    call env self frame name arguments position = (do
      let before ← mark
      gathering inOrder do
        let (positions, place?) ← evaluateArguments self frame arguments
        let _ ← callNamed env self frame name ⟨none, positions⟩ place? position
      keepTop before) := by
  have free := named.free
  simp only [Name.builtinNames, List.mem_cons, not_or] at free
  obtain ⟨_, _, _, _, notFn, notCall, notCurry, _, _, notShared, _⟩ := free
  unfold call
  congr 1
  funext before
  congr 2
  split
  · exact absurd rfl notCall
  · exact absurd rfl notCurry
  · exact absurd rfl notFn
  · exact absurd rfl notShared
  · exact absurd rfl notShared
  · rfl

variable {arguments : Arguments} {place? : Option Place} {position : Position} {origin : Origin}
  {crossings : List Crossing}

theorem ComesTo.got {α : Type} {body : Machine → Run α}
    (inside : ComesTo env origin crossings (body machine) machine) :
    ComesTo env origin crossings (get >>= body) machine :=
  .later Composed.looks rfl inside

theorem ComesTo.refusedByName (named : Name.ForHosts name) {request : Call.Request} {fault : Fault}
    (asked : Native.asked? env.types env.functions name (arguments.values machine) = some request)
    (refusal : (machine.callNative env.types request).1 = .error fault) :
    ComesTo env (.refused request fault position) []
      (callNative env name arguments place? position) machine := by
  have found := Native.resolve?_rel env named (arguments.values machine)
  rw [asked] at found
  apply ComesTo.got
  dsimp only
  cases resolved : Native.resolve? env name (arguments.values machine) with
  | none =>
      rw [resolved] at found
      cases found
  | some native =>
      rw [resolved] at found
      cases found with
      | some asks =>
          dsimp only
          rw [perform_asks asks]
          exact .first (.first (.refused refusal))

/-- A call that asks for nothing fails for want of a function. -/
theorem ComesTo.foundNothing (named : Name.ForHosts name)
    (asked : Native.asked? env.types env.functions name (arguments.values machine) = none) :
    ComesTo env
      (.unable (.located (.functionNotFound (signature name (arguments.values machine))) position))
      [] (callNative env name arguments place? position) machine := by
  have found := Native.resolve?_rel env named (arguments.values machine)
  rw [asked] at found
  apply ComesTo.got
  dsimp only
  cases resolved : Native.resolve? env name (arguments.values machine) with
  | none =>
      refine .later (Composed.moves Machine.inert_recordFailure) rfl ?_
      exact .unable _ (by simp [Failure.located]) rfl _
  | some native =>
      rw [resolved] at found
      cases found

/-- What a native call comes to, a method call comes to as well that no function of a script and not
the language takes over. -/
theorem ComesTo.calledAsMethod {start : Position}
    (unanswered : Name.Unanswered name positions.length)
    (own : env.library.find? name positions.length = none)
    (target : machine.valueAt place = .object reference)
    (plain : ∀ position ∈ positions, ∀ function bound,
      machine.operand position ≠ .function function bound)
    (inside : ComesTo env origin crossings
      (callNative env name ⟨some place, positions⟩ (some place) position) machine) :
    ComesTo env origin crossings
      (callMethod env self frame name place positions start position) machine := by
  have named : ComesTo env origin crossings
      (callNamed env self frame name ⟨some place, positions⟩ (some place) position) machine := by
    apply ComesTo.got
    split
    · rename_i single
      have none : positions.length = 0 := by
        simpa [Arguments.values] using congrArg List.length single
      exact absurd rfl (unanswered.bare none).1
    · rw [own]
      exact inside
  apply ComesTo.got
  dsimp only
  rw [target]
  split
  · exact absurd rfl unanswered.notCall
  · exact absurd rfl unanswered.notCall
  · exact absurd rfl unanswered.notCall
  · exact absurd rfl unanswered.notCurry
  · exact absurd rfl (unanswered.bare rfl).2
  · exact .later (made_checkRaces _ _ _).composed (checkRaces_plain plain) named

end Script.Run
end ScriptHost
