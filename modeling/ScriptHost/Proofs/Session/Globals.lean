import ScriptHost.Proofs.Script.Bindings
import ScriptHost.Proofs.Script.Words
import ScriptHost.Proofs.Session.Faults
import ScriptHost.Proofs.Session.Lifecycle

/-!
Variables that the host sets.

A host that sets a variable finds its value again when it evaluates the name, if a script can say
the name. The host may also use names that no script can say; evaluating one of them is a mistake
at its beginning.
-/

set_option autoImplicit false

namespace ScriptHost.Session

open Script Run

variable {session later : Session} {name : String} {value : HostValue}

/-- A name of the session stands for a value of the host. -/
def Stands (session : Session) (name : String) (value : HostValue) : Prop :=
  ∃ held : Value, session.machine.Binds name false held ∧
    held.Carries session.machine.store.heap value

theorem bind_changeable {machine : Machine}
    (changeable : ∀ entry, machine.binding? name = some entry → entry.constant = false) :
    Session.bind name (session.withMachine machine) =
      .ok () (session.withMachine (machine.put name)) := by
  unfold Session.bind Machine.put
  rw [get_bind_apply, show (session.withMachine machine).machine = machine from rfl]
  cases found : machine.findVariable? 0 name with
  | none => rfl
  | some index =>
      obtain ⟨entry, here, _⟩ := Machine.name_of_findVariable? found
      have free : machine.isConstant (.ofVariable index) = false := by
        unfold Machine.isConstant Place.ofVariable
        dsimp only
        rw [here]
        exact changeable entry (Machine.binding?_of_found found here)
      dsimp only
      rw [free]
      rfl

theorem bind_constant {machine : Machine} {entry : Variable}
    (bound : machine.binding? name = some entry) (constant : entry.constant = true) :
    Session.bind name (session.withMachine machine) =
      .error (.invalidState ("'" ++ name ++ "' is a constant"))
        (session.withMachine (machine.dropTo 0)) := by
  rw [Machine.binding?_eq] at bound
  obtain ⟨index, found, here⟩ := Option.bind_eq_some_iff.mp bound
  have fixed : machine.isConstant (.ofVariable index) = true := by
    unfold Machine.isConstant Place.ofVariable
    dsimp only
    rw [here]
    exact constant
  unfold Session.bind
  rw [get_bind_apply, show (session.withMachine machine).machine = machine from rfl, found]
  dsimp only
  rw [fixed]
  rfl

theorem setGlobal_misnamed (ready : session.phase = .ready)
    (misnamed : ¬ (Name.isIdentifier name = true ∧ Name.isFreeForHost name = true))
    (value : HostValue) :
    setGlobal name value session =
      .error (.invalidState ("'" ++ name ++ "' is not a valid variable name")) session := by
  have refused : (!Name.isIdentifier name || !Name.isFreeForHost name) = true := by
    rw [Bool.or_eq_true_iff, Bool.not_eq_true', Bool.not_eq_true', ← Bool.and_eq_false_iff,
      ← Bool.not_eq_true, Bool.and_eq_true]
    exact misnamed
  unfold setGlobal whenReady
  rw [ready]
  dsimp only
  rw [if_pos refused]
  rfl

theorem setGlobal_named (ready : session.phase = .ready)
    (identifier : Name.isIdentifier name = true) (accepted : Name.isFreeForHost name = true)
    (value : HostValue) :
    setGlobal name value session =
      match session.machine.receive value with
      | (.ok _, machine) => Session.bind name (session.withMachine machine)
      | (.error fault, machine) => .error fault (session.withMachine machine) := by
  unfold setGlobal whenReady
  rw [ready]
  dsimp only
  rw [identifier, accepted]
  change (onMachine (Machine.receive value) >>= _) session = _
  rw [onMachine_bind]
  cases session.machine.receive value with
  | mk result machine => cases result <;> rfl

theorem stands_of_bind {machine : Machine} {held : Value}
    (last : machine.operands.back? = some held) (carries : held.Carries machine.store.heap value)
    (ended : Session.bind name (session.withMachine machine) = .ok () later) :
    ∃ after : Machine, later = session.withMachine after ∧
      (session.withMachine after).Stands name value := by
  by_cases changeable : ∀ entry, machine.binding? name = some entry → entry.constant = false
  · rw [bind_changeable changeable] at ended
    injection ended with _ same
    exact ⟨machine.put name, same.symm, held, Machine.binds_put last name,
      Machine.carries_put carries name⟩
  · obtain ⟨entry, fixed⟩ := not_forall.mp changeable
    obtain ⟨bound, constant⟩ := Classical.not_imp.mp fixed
    rw [bind_constant bound (Bool.of_not_eq_false constant)] at ended
    cases ended

theorem stands_of_setGlobal (ready : session.phase = .ready)
    (ended : setGlobal name value session = .ok () later) :
    (Name.isIdentifier name = true ∧ Name.isFreeForHost name = true) ∧
      ∃ after : Machine, later = session.withMachine after ∧
        (session.withMachine after).Stands name value := by
  by_cases named : Name.isIdentifier name = true ∧ Name.isFreeForHost name = true
  · refine ⟨named, ?_⟩
    rw [setGlobal_named ready named.1 named.2] at ended
    cases received : session.machine.receive value with
    | mk result machine =>
        rw [received] at ended
        cases result with
        | error fault => cases ended
        | ok _ =>
            obtain ⟨held, receives⟩ := Machine.receives_of_ok received
            exact stands_of_bind receives.last receives.carries ended
  · rw [setGlobal_misnamed ready named] at ended
    cases ended

theorem stands_of_perform {reply : Reply} (ready : session.phase = .ready)
    (set : (session.perform (.setGlobal name value)).1 = .ok reply) :
    (Name.isIdentifier name = true ∧ Name.isFreeForHost name = true) ∧
      ∃ after : Machine, (session.perform (.setGlobal name value)).2 = session.withMachine after ∧
        (session.withMachine after).Stands name value := by
  cases ended : setGlobal name value session with
  | ok _ later =>
      rw [perform_done_ok rfl ended]
      exact stands_of_setGlobal ready ended
  | error fault later =>
      rw [perform_done_error rfl ended] at set
      cases set

theorem globals_contains_of_binds {held : Value} (bound : session.machine.Binds name false held) :
    session.surroundings.globals.contains name = true := by
  obtain ⟨index, _, entry⟩ := bound
  have member : (⟨name, false, held⟩ : Variable) ∈ session.machine.scope :=
    Array.mem_of_getElem? entry
  refine List.contains_iff_mem.mpr ?_
  exact Array.mem_toList_iff.mpr (Array.mem_map_of_mem member)

theorem constant?_of_binds {held : Value} (bound : session.machine.Binds name false held) :
    session.surroundings.constant? name = none := by
  obtain ⟨index, found, entry⟩ := bound
  change (session.machine.findConstant? name).map _ = none
  have changeable : session.machine.isConstant (.ofVariable index) = false := by
    unfold Machine.isConstant Place.ofVariable
    dsimp only
    rw [entry]
  unfold Machine.findConstant?
  rw [found, Option.filter_some, changeable]
  rfl

theorem eval_done {text : String} {script : Program} {machine : Machine} {held : Value}
    (ready : session.phase = .ready)
    (read : Program.readExpression session.surroundings text = .ok script)
    (worked : scriptWork (session.scriptEnvironment script) script
      { session.machine with operations := 0 } = .ok () (machine.pushRaw held))
    (carries : held.Carries machine.store.heap value) :
    ∃ later, eval text session = .ok value later := by
  have ran : outcome (scriptWork (session.scriptEnvironment script) script) session.machine =
      (.ok (), machine.pushRaw held) := by
    unfold outcome
    rw [worked]
  unfold eval whenReady
  rw [ready]
  change ∃ later, (readWith Program.readExpression text >>= _) session = _
  rw [bind_apply, readWith_eq, read]
  change ∃ later, deliver
    (outcome (scriptWork (session.scriptEnvironment script) script) session.machine).1
    (withMachine { session with
      closures := session.closures.merge (script.functions.filter Function.isClosure) }
      (outcome (scriptWork (session.scriptEnvironment script) script) session.machine).2) = _
  rw [ran]
  change ∃ later, ofResult (machine.pushRaw held).handOver.1 _ = _
  rw [Machine.handOver_of_carries carries]
  exact ⟨_, rfl⟩

theorem perform_value {operation : Operation} {action : Action HostValue}
    {result : Except Fault HostValue} {later : Session}
    (same : operation.perform = Reply.value <$> action)
    (ended : action session = ofResult result later) :
    session.perform operation = (result.map .value, later) := by
  have mapped : operation.perform session = (action.map Reply.value) session := by
    rw [same]
    rfl
  unfold perform
  rw [mapped]
  unfold EStateM.map
  rw [ended]
  cases result <;> rfl

/-- A script finds what the host has put under a name. -/
theorem eval_of_stands (ready : session.phase = .ready) (stands : session.Stands name value)
    (identifier : Name.isIdentifier name = true)
    (readable : Program.Readable session.surroundings name) :
    (session.perform (.eval name)).1 = .ok (.value value) := by
  obtain ⟨held, bound, carries⟩ := stands
  have read := Program.readExpression_readable identifier readable
    (globals_contains_of_binds bound) (constant?_of_binds bound)
  obtain ⟨machine, worked, kept⟩ := block_lookup
    (session.scriptEnvironment ⟨[], [.lookup name ⟨1, 1⟩], List.nodup_nil⟩) bound carries ⟨1, 1⟩
  obtain ⟨later, ended⟩ := eval_done ready read worked kept
  rw [@perform_value _ _ _ (.ok value) later rfl ended]
  rfl

theorem eval_unreadable (ready : session.phase = .ready)
    (identifier : Name.isIdentifier name = true) (accepted : Name.isFreeForHost name = true)
    (unreadable : ¬ Program.Readable session.surroundings name) :
    ∃ reason, session.perform (.eval name) = (.error (.parse reason (some "line 1")), session) := by
  obtain ⟨reason, failed⟩ := Program.readExpression_unreadable identifier accepted unreadable
  have place : lineText ⟨1, 1⟩ = "line 1" := by decide +kernel
  have ended : eval name session =
      .error (.parse (SyntaxFault.message ⟨reason, ⟨1, 1⟩⟩) (some "line 1")) session := by
    unfold eval whenReady
    rw [ready, ← place]
    change (readWith Program.readExpression name >>= _) session = _
    rw [bind_apply, readWith_eq, failed]
  refine ⟨SyntaxFault.message ⟨reason, ⟨1, 1⟩⟩, ?_⟩
  unfold perform
  rw [show (Operation.eval name).perform = Reply.value <$> eval name from rfl, map_error ended]

/-- Of the names that a host may use, scripts cannot say `is` and those without a letter before the
first digit. A script finds under every other name what the host has put there, provided that
expressions may be two levels deep. Where it does not, evaluating the name is a mistake at its
beginning, which changes nothing. -/
theorem sayable_globals_are_read_back (ready : session.phase = .ready) {reply : Reply}
    (set : (session.perform (.setGlobal name value)).1 = .ok reply) :
    (Name.isSayable name = false ↔ name = "is" ∨ isName name.toList = false) ∧
      (Name.isSayable name = true ∧
          Limits.allows session.configuration.limits.expressionDepth 2 = true →
        ((session.perform (.setGlobal name value)).2.perform (.eval name)).1 =
          .ok (.value value)) ∧
      (¬ (Name.isSayable name = true ∧
          Limits.allows session.configuration.limits.expressionDepth 2 = true) →
        ∃ reason, (session.perform (.setGlobal name value)).2.perform (.eval name) =
          (.error (.parse reason (some "line 1")),
            (session.perform (.setGlobal name value)).2)) := by
  obtain ⟨⟨identifier, accepted⟩, after, same, stands⟩ := stands_of_perform ready set
  rw [same]
  refine ⟨?_, ?_, ?_⟩
  · rw [Name.isSayable, Bool.and_eq_false_iff, or_comm]
    refine or_congr_left ⟨fun reserved => ?_, ?_⟩
    · rcases Bool.or_eq_true_iff.mp accepted with free | is
      · rw [reserved] at free
        cases free
      · exact eq_of_beq is
    · rintro rfl
      rfl
  · intro readable
    exact eval_of_stands ready stands identifier readable
  · intro unreadable
    exact eval_unreadable ready identifier accepted unreadable

theorem exists_of_isOk {ε α : Type} {result : Except ε α} (succeeded : result.isOk = true) :
    ∃ value, result = .ok value := by
  cases result with
  | ok value => exact ⟨value, rfl⟩
  | error fault => cases succeeded

/-- What the host puts under `a_1` is what a script finds there. -/
theorem sayable_global_is_read_back :
    hosting.phase = .ready ∧
      (∃ reply, (hosting.perform (.setGlobal "a_1" (.boolean true))).1 = .ok reply) ∧
      ((hosting.perform (.setGlobal "a_1" (.boolean true))).2.perform (.eval "a_1")).1 =
        .ok (.value (.boolean true)) := by
  have ready : hosting.phase = .ready := by decide +kernel
  obtain ⟨reply, set⟩ := exists_of_isOk (show
    (hosting.perform (.setGlobal "a_1" (.boolean true))).1.isOk = true by decide +kernel)
  obtain ⟨_, found, _⟩ := sayable_globals_are_read_back ready set
  exact ⟨ready, ⟨reply, set⟩, found (by decide +kernel)⟩

/-- The host may set `_1`, but no script can say it. -/
theorem unsayable_global_is_accepted :
    ¬ ∀ (session : Session) (name : String) (value : HostValue) (reply : Reply),
      session.Reachable → session.phase = .ready →
      (session.perform (.setGlobal name value)).1 = .ok reply →
      ((session.perform (.setGlobal name value)).2.perform (.eval name)).1 =
        .ok (.value value) := by
  intro finds
  have ready : hosting.phase = .ready := by decide +kernel
  obtain ⟨reply, set⟩ := exists_of_isOk (show
    (hosting.perform (.setGlobal "_1" (.boolean true))).1.isOk = true by decide +kernel)
  have found := finds hosting "_1" (.boolean true) reply hosting_reachable ready set
  have failed : ((hosting.perform (.setGlobal "_1" (.boolean true))).2.perform (.eval "_1")).1.isOk =
      false := by decide +kernel
  rw [found] at failed
  cases failed

end ScriptHost.Session
