import ScriptHost.Proofs.Script.Origins
import ScriptHost.Proofs.Session.Settling

/-!
Faults that reach the host.

A fault that a native callable raises in a script goes to the host as it is, from whatever depth it
comes, unless the script handles it. What has no fault of the host's becomes one of the few faults
that scripts have of their own. A missing member of an instance is among them only where no script
function has been left on the way.
-/

set_option autoImplicit false

namespace ScriptHost.Session

open Script Run

variable {α β : Type} {session : Session}

/-- What a script finds that has just been read. Its own closures are kept already. -/
def scriptEnvironment (session : Session) (script : Program) : Environment :=
  ⟨session.types, session.functions, session.library.merge script.functions,
    session.closures.merge (script.functions.filter Function.isClosure),
    session.configuration.limits⟩

def scriptWork (env : Environment) (script : Program) : Run Unit :=
  block (evaluate env (stepBound env.limits)) .outermost script.body

/-- The operations that run scripts, each with what it runs and the machine it begins with. -/
inductive Starts (session : Session) : Operation → Environment → Run Unit → Machine → Prop where
  | run {text : String} {script : Program}
      (read : Program.read session.surroundings text = .ok script) :
      Starts session (.run text) (session.scriptEnvironment script)
        (scriptWork (session.scriptEnvironment script) script)
        { session.machine with operations := 0 }
  | runFile {file : SourceFile} {text : String} {env : Environment} {work : Run Unit}
      {machine : Machine} (read : file.text = .ok text)
      (starts : Starts session (.run text) env work machine) :
      Starts session (.runFile file) env work machine
  | eval {text : String} {script : Program}
      (read : Program.readExpression session.surroundings text = .ok script) :
      Starts session (.eval text) (session.scriptEnvironment script)
        (scriptWork (session.scriptEnvironment script) script)
        { session.machine with operations := 0 }
  | call {name : String} {arguments : List HostValue} {machine : Machine} {function : Function}
      (received : receiveAll arguments session.machine = (.ok (), machine))
      (resolved : resolve session.library name arguments.length = .ok function) :
      Starts session (.call name arguments) (session.environment session.library)
        (callFromHost (evaluate (session.environment session.library)
          (stepBound session.configuration.limits)) function (List.range arguments.length))
        { machine with operations := 0 }

theorem Starts.composed {operation : Operation} {env : Environment} {work : Run Unit}
    {machine : Machine} (starts : session.Starts operation env work machine) :
    Composed env work := by
  induction starts with
  | run read => exact (made_block (made_evaluate _) _ _).composed
  | runFile read _ ih => exact ih
  | eval read => exact (made_block (made_evaluate _) _ _).composed
  | call received resolved => exact (made_callFromHost (made_evaluate _) _ _).composed

theorem outcome_raised {work : Run Unit} {machine after : Machine} {failure : Failure}
    (raised : work { machine with operations := 0 } = .error (.raised failure) after) :
    outcome work machine = (.error (failure.toFault after.thrown.back?), after) := by
  unfold outcome
  rw [raised]

theorem runToEnd_read {text : String} {script : Program}
    (read : Program.read session.surroundings text = .ok script) :
    ∃ machine, runToEnd text session =
      .ok (outcome (scriptWork (session.scriptEnvironment script) script) session.machine).1
        { session with
          closures := session.closures.merge (script.functions.filter Function.isClosure)
          library := session.library.merge script.functions
          machine := machine } := by
  unfold runToEnd
  rw [bind_apply, readWith_eq, read]
  exact ⟨_, rfl⟩

theorem deliver_error (fault : Fault) (session : Session) :
    ∃ later, deliver (.error fault) session = .error fault later :=
  ⟨_, rfl⟩

theorem eval_eq {text : String} {script : Program} (ready : session.phase = .ready)
    (read : Program.readExpression session.surroundings text = .ok script) :
    ∃ later, eval text session =
      deliver (outcome (scriptWork (session.scriptEnvironment script) script) session.machine).1
        later := by
  unfold eval whenReady
  rw [ready]
  change ∃ later, (readWith Program.readExpression text >>= _) session = _
  rw [bind_apply, readWith_eq, read]
  exact ⟨_, rfl⟩

theorem onMachine_bind (work : Machine → α × Machine) (rest : α → Action β) (session : Session) :
    (onMachine work >>= rest) session =
      rest (work session.machine).1 (session.withMachine (work session.machine).2) :=
  rfl

theorem call_received {name : String} {arguments : List HostValue} {machine : Machine}
    (ready : session.phase = .ready)
    (received : receiveAll arguments session.machine = (.ok (), machine)) :
    call name arguments session =
      (match resolve session.library name arguments.length with
        | .ok function => do
            deliver (← execute session.library fun self =>
              callFromHost self function (List.range arguments.length))
        | .error fault => do
            changeMachine receiveAll.discardArguments
            throw fault : Action HostValue) (session.withMachine machine) := by
  unfold call whenReady
  rw [ready]
  change (onMachine (receiveAll arguments) >>= _) session = _
  rw [onMachine_bind, received]
  rfl

theorem call_eq {name : String} {arguments : List HostValue} {machine : Machine}
    {function : Function} (ready : session.phase = .ready)
    (received : receiveAll arguments session.machine = (.ok (), machine))
    (resolved : resolve session.library name arguments.length = .ok function) :
    ∃ later, call name arguments session =
      deliver (outcome (callFromHost (evaluate (session.environment session.library)
        (stepBound session.configuration.limits)) function (List.range arguments.length))
        machine).1 later := by
  rw [call_received ready received, resolved]
  exact ⟨_, rfl⟩

theorem done_error {action : Action Unit} {fault : Fault} {later : Session}
    (failed : action session = .error fault later) :
    done action session = .error fault later := by
  unfold done
  rw [bind_apply, failed]

theorem map_error {action : Action α} {reply : α → Reply} {fault : Fault} {later : Session}
    (failed : action session = .error fault later) :
    (reply <$> action) session = .error fault later := by
  change (action.map reply) session = _
  unfold EStateM.map
  rw [failed]

/-- A failure that gets out of what an operation runs is the fault of the operation. -/
theorem Starts.raised {operation : Operation} {env : Environment} {work : Run Unit}
    {machine after : Machine} {failure : Failure} (ready : session.phase = .ready)
    (starts : session.Starts operation env work machine)
    (raised : work machine = .error (.raised failure) after) :
    ∃ later, operation.perform session =
      .error (failure.toFault after.thrown.back?) later := by
  induction starts with
  | run read =>
      obtain ⟨machine, ended⟩ := runToEnd_read read
      rw [outcome_raised raised] at ended
      exact ⟨_, done_error (run_ended ready ended)⟩
  | @runFile file text env work machine found starts ih =>
      obtain ⟨later, failed⟩ := ih raised
      refine ⟨later, ?_⟩
      change done (Session.runFile file) session = _
      unfold done
      rw [bind_apply, runFile_eq ready, found]
      exact failed
  | eval read =>
      obtain ⟨middle, same⟩ := eval_eq ready read
      rw [outcome_raised raised] at same
      obtain ⟨later, failed⟩ := deliver_error (failure.toFault after.thrown.back?) middle
      exact ⟨later, map_error (same.trans failed)⟩
  | call received resolved =>
      obtain ⟨middle, same⟩ := call_eq ready received resolved
      rw [outcome_raised raised] at same
      obtain ⟨later, failed⟩ := deliver_error (failure.toFault after.thrown.back?) middle
      exact ⟨later, map_error (same.trans failed)⟩

/-- What a script comes to is what the host is told. -/
theorem Starts.told {operation : Operation} {env : Environment} {work : Run Unit}
    {machine : Machine} {origin : Origin} {crossings : List Crossing}
    (ready : session.phase = .ready) (starts : session.Starts operation env work machine)
    (comes : ComesTo env origin crossings work machine) :
    (session.perform operation).1 = .error (origin.told crossings) := by
  obtain ⟨after, raised, kept⟩ := comes.raises
  obtain ⟨later, failed⟩ := starts.raised ready raised
  rw [kept, comes.toFault] at failed
  unfold perform
  rw [failed]

/-- The fault of a request that a script comes to, and does not handle, is the fault of the whole
operation. Here a request covers the arguments and the result of a native callable as well as its
body. A script that fails has come to a step that fails: if this has no fault of the host's, the
operation has one of those that scripts have of their own. Functions that are only asked for the
text of a value are no such steps, since a script takes another text where they fail. -/
theorem native_faults_reach_host {operation : Operation} {env : Environment} {work : Run Unit}
    {machine : Machine} (ready : session.phase = .ready)
    (starts : session.Starts operation env work machine) :
    (∀ request fault position crossings,
      ComesTo env (.refused request fault position) crossings work machine →
        (session.perform operation).1 = .error fault) ∧
    (∀ origin crossings, ComesTo env origin crossings work machine →
      match origin.fault? with
      | some fault => (session.perform operation).1 = .error fault
      | none => ∃ fault, (session.perform operation).1 = .error fault ∧ ofScripts fault) ∧
    ∀ failure after, work machine = .error (.raised failure) after →
      ∃ origin crossings, ComesTo env origin crossings work machine := by
  refine ⟨fun request fault position crossings comes => ?_, fun origin crossings comes => ?_,
    fun failure after raised => starts.composed.comes raised⟩
  · exact starts.told ready comes
  · have told := starts.told ready comes
    cases carried : origin.fault? with
    | some fault =>
        rw [Origin.told_of_fault? carried] at told
        exact told
    | none => exact ⟨_, told, Origin.ofScripts_told carried crossings⟩

/-- A session with a native function that refuses all calls, and a script function that calls
it. -/
def refusing : Session :=
  (create .standard).after [.start,
    .register (.moduleFunction "host" (.fixed "refuse" [] fun _ => .fail (.io "closed"))),
    .run "fn ask() { host::refuse() }"]

def forwards (library : Library) (name space target : String) : Bool :=
  match library with
  | [⟨own, [], .block [.moduleCall module_ function [] _ _] _, false⟩] =>
      own == name && module_ == space && function == target
  | _ => false

theorem eq_of_forwards {library : Library} {name space target : String}
    (found : forwards library name space target = true) :
    ∃ start position place,
      library = [⟨name, [], .block [.moduleCall space target [] start position] place, false⟩] := by
  unfold forwards at found
  split at found
  · obtain ⟨names, same⟩ := Bool.and_eq_true_iff.mp found
    obtain ⟨first, second⟩ := Bool.and_eq_true_iff.mp names
    rw [beq_iff_eq.mp first, beq_iff_eq.mp second, beq_iff_eq.mp same]
    exact ⟨_, _, _, rfl⟩
  · cases found

theorem refusal_reaches_host :
    refusing.phase = .ready ∧
      (refusing.perform (.call "ask" [])).1 = .error (.io "closed") := by
  have ready : refusing.phase = .ready := by decide +kernel
  have limits : refusing.configuration.limits = .standard := by decide +kernel
  have known : refusing.functions.hasSpace "host" = true := by decide +kernel
  have defined : forwards refusing.library "ask" "host" "refuse" = true := by decide +kernel
  let begun : Machine := { refusing.machine with operations := 0 }
  have refused : (refusing.functions.find? "host" "refuse").map (fun function =>
      ((ticked ((ticked begun).push .unit)).callNative refusing.types
        (.function function [])).1) = some (.error (.io "closed")) := by decide +kernel
  obtain ⟨function, found, refusal⟩ := Option.map_eq_some_iff.mp refused
  obtain ⟨start, position, place, same⟩ := eq_of_forwards defined
  have resolved : resolve refusing.library "ask" 0 = .ok ⟨"ask", [],
      .block [.moduleCall "host" "refuse" [] start position] place, false⟩ := by
    rw [same]
    rfl
  have starts : refusing.Starts (.call "ask" []) _ _ _ := .call rfl resolved
  let env := refusing.environment refusing.library
  have counts : ∀ amount ≤ 2, Limits.allows env.limits.operations amount = true := by
    have standard : env.limits = refusing.configuration.limits := rfl
    rw [standard, limits]
    decide
  have inside : ComesTo env (.refused (.function function []) (.io "closed") position) []
      (evaluate env (stepBound refusing.configuration.limits) .outermost
        (.block [.moduleCall "host" "refuse" [] start position] place)) begun := by
    rw [limits]
    refine .term rfl (counts 1 (by decide)) (.enclosed (.firstStatement ?_))
    refine .term rfl (counts 2 (by decide)) ?_
    exact .refusedInModule (made_evaluate _) known found refusal
  exact ⟨ready, (native_faults_reach_host ready starts).1 _ _ _ _ (.calledFromHost inside)⟩

/-- A failed run without a value thrown has come to something that a script cannot do. -/
theorem comes_unable {work : Run α} {env : Environment} {machine after : Machine}
    {failure : Failure} (composed : Composed env work)
    (raised : work machine = .error (.raised failure) after) (empty : after.thrown = #[]) :
    ∃ cause crossings, ComesTo env (.unable cause) crossings work machine ∧
      failure = marked cause crossings ∧ cause.calls = [] := by
  obtain ⟨origin, crossings, comes⟩ := composed.comes raised
  obtain ⟨_, same, kept⟩ := comes.raises
  rw [raised] at same
  injection same with sameHalt sameAfter
  injection sameHalt with sameFailure
  rw [← sameAfter, empty] at kept
  have valueless : origin.value?.toArray = #[] := (Array.append_eq_empty_iff.mp kept.symm).2
  cases origin with
  | refused request fault position => cases valueless
  | thrown value position => cases valueless
  | unable cause => exact ⟨cause, crossings, comes, sameFailure, comes.fresh⟩

/-- A missing member of an instance has a fault of its own wherever it is missed, except that
behind a call of a script function by a script it is like any other failure of a script. -/
theorem missing_members_are_told {failure : Failure} {fault : Fault}
    (member : failure.memberFault? = some fault) :
    (∀ crossings thrown?, (marked failure crossings).toFault thrown? =
      if leavesCall crossings then (marked failure crossings).runtimeFault "" else fault) ∧
    ∀ (session : Session) (operation : Operation) (env : Environment) (work : Run Unit)
      (machine : Machine) (crossings : List Crossing), session.phase = .ready →
      session.Starts operation env work machine →
      ComesTo env (.unable failure) crossings work machine →
      (session.perform operation).1 =
        .error (if leavesCall crossings then (marked failure crossings).runtimeFault ""
          else fault) := by
  refine ⟨toFault_marked member, ?_⟩
  intro session operation env work machine crossings ready starts comes
  rw [starts.told ready comes, told_member member]

/-- Whether a script fails in one of its functions, for want of a member and without a value
thrown. -/
def missesInCall (session : Session) (text : String) (fault : Fault) : Bool :=
  match Program.read session.surroundings text with
  | .error _ => false
  | .ok script =>
      match scriptWork (session.scriptEnvironment script) script
          { session.machine with operations := 0 } with
      | .error (.raised failure) after =>
          (Failure.memberFault? ⟨failure.problem, none, []⟩ == some fault) &&
            !failure.calls.isEmpty && after.thrown.isEmpty
      | _ => false

theorem comes_of_missesInCall {text : String} {fault : Fault}
    (missed : session.missesInCall text fault = true) :
    ∃ env work machine failure crossings,
      session.Starts (.run text) env work machine ∧
      ComesTo env (.unable failure) crossings work machine ∧ leavesCall crossings = true ∧
      failure.memberFault? = some fault := by
  unfold missesInCall at missed
  split at missed
  · cases missed
  · rename_i script read
    split at missed
    · rename_i failure after raised
      obtain ⟨missed, empty⟩ := Bool.and_eq_true_iff.mp missed
      obtain ⟨member, called⟩ := Bool.and_eq_true_iff.mp missed
      have starts := Starts.run read
      obtain ⟨cause, crossings, comes, rfl, fresh⟩ :=
        comes_unable starts.composed raised (Array.isEmpty_iff.mp empty)
      rw [marked_problem] at member
      have same : cause.memberFault? = some fault := by
        rw [← beq_iff_eq.mp member]
        unfold Failure.memberFault?
        rw [fresh]
      refine ⟨_, _, _, cause, crossings, starts, comes, ?_, same⟩
      rw [calls_marked (unlimited_of_memberFault? same).1, fresh] at called
      simpa using called
    · cases missed

/-- A token has no size, which a function finds out. -/
theorem size_is_missed : hosting.phase = .ready ∧
    hosting.missesInCall "fn f(token) { token.size } f(Token());"
      (.unknownField "NativeObject" "size") = true := by
  decide +kernel

theorem missing_size_is_told :
    hosting.phase = .ready ∧
      ∃ failure : Failure, failure.memberFault? = some (.unknownField "NativeObject" "size") ∧
        ∃ crossings, (hosting.perform (.run "fn f(token) { token.size } f(Token());")).1 =
          .error ((marked failure crossings).runtimeFault "") := by
  obtain ⟨ready, missed⟩ := size_is_missed
  obtain ⟨env, work, machine, failure, crossings, starts, comes, leaves, member⟩ :=
    comes_of_missesInCall missed
  have told := (missing_members_are_told member).2 _ _ _ _ _ crossings ready starts comes
  rw [leaves] at told
  exact ⟨ready, failure, member, crossings, told⟩

/-- The size of a token is missed in a function, and the host is told something else. -/
theorem missing_size_is_untold :
    ¬ ∀ (session : Session) (operation : Operation) (env : Environment) (work : Run Unit)
      (machine : Machine) (failure : Failure) (fault : Fault) (crossings : List Crossing),
      session.phase = .ready → session.Starts operation env work machine →
      failure.memberFault? = some fault → ComesTo env (.unable failure) crossings work machine →
      (session.perform operation).1 = .error fault := by
  intro told
  obtain ⟨ready, missed⟩ := size_is_missed
  obtain ⟨env, work, machine, failure, crossings, starts, comes, leaves, member⟩ :=
    comes_of_missesInCall missed
  have same := told _ _ env work machine failure _ crossings ready starts member comes
  have actual := starts.told ready comes
  rw [told_member member, leaves, same] at actual
  cases actual

end ScriptHost.Session
