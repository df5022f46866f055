import ScriptHost.Proofs.Script.Anatomy

/-!
Where failures come from.

A run that fails has come to a step that fails, through calls, handlers and whatever else was under
way. The way back out marks the failure with what it crosses and leaves the rest of it alone, and
the value that was thrown, if there is one, is the last value thrown in the end.
-/

set_option autoImplicit false

namespace ScriptHost.Script.Run

variable {α β : Type} {env : Environment}

/-- The fault of the host that a script may hold like any other value. -/
def carried? : Value → Option Fault
  | .datum (.fault fault) => some fault
  | _ => none

/-- The steps that fail: a request of the host that is refused, a script that throws, and whatever
else a script cannot do. -/
inductive Origin where
  | refused (request : Call.Request) (fault : Fault) (position : Position)
  | thrown (value : Value) (position : Position)
  | unable (failure : Failure)

namespace Origin

def failure : Origin → Failure
  | refused _ _ position | thrown _ position => .located .thrown position
  | unable failure => failure

def value? : Origin → Option Value
  | refused _ fault _ => some (.datum (.fault fault))
  | thrown value _ => some value
  | unable _ => none

/-- The fault of the host that a failure carries from the beginning. -/
def fault? (origin : Origin) : Option Fault :=
  origin.value?.bind carried?

end Origin

/-- Whether a handler that ends like this passes on the failure that it handles. -/
def passesOn (origin : Origin) (crossings : List Crossing) : Bool :=
  (marked origin.failure crossings).calls.isEmpty &&
    match origin.value? with
    | some (.datum .unit) => true
    | _ => false

/-- From a machine, a run comes to a step that fails, and the failure gets out through these
crossings. A failure in a body that is tried gets out if it is a limit, or if the handler throws it
once more. -/
inductive ComesTo (env : Environment) :
    {α : Type} → Origin → List Crossing → Run α → Machine → Prop where
  | refused {request : Call.Request} {fault : Fault} {used : List Nat} {position : Position}
      {machine : Machine} (refusal : (machine.callNative env.types request).1 = .error fault) :
      ComesTo env (.refused request fault position) [] (native env request used position) machine
  | excess {request : Call.Request} {used : List Nat} {position : Position} {machine : Machine}
      {origin : Origin} {crossings : List Crossing}
      (met : (machine.callNative env.types request).1 = .ok ())
      (inside : ComesTo env origin crossings (checkTop env position)
        ((machine.callNative env.types request).2.spendAll used)) :
      ComesTo env origin crossings (native env request used position) machine
  | thrown (position : Position) (machine : Machine) :
      ComesTo env (.thrown (machine.operands.back?.getD .unit) position) [] (throwLast position)
        machine
  | unable {α : Type} (failure : Failure) (unthrown : failure.problem ≠ .thrown)
      (fresh : failure.calls = []) (machine : Machine) :
      ComesTo env (.unable failure) [] (throw (.raised failure) : Run α) machine
  | first {α β : Type} {work : Run α} {rest : α → Run β} {machine : Machine} {origin : Origin}
      {crossings : List Crossing} (inside : ComesTo env origin crossings work machine) :
      ComesTo env origin crossings (work >>= rest) machine
  | later {α β : Type} {work : Run α} {rest : α → Run β} {machine after : Machine} {result : α}
      {origin : Origin} {crossings : List Crossing} (composed : Composed env work)
      (ended : work machine = .ok result after)
      (inside : ComesTo env origin crossings (rest result) after) :
      ComesTo env origin crossings (work >>= rest) machine
  | around {α β : Type} {crossed : List Crossing} {inner : Run α} {outer : Run β}
      {machine : Machine} {origin : Origin} {crossings : List Crossing}
      (around : Around crossed inner outer) (inside : ComesTo env origin crossings inner machine) :
      ComesTo env origin (crossings ++ crossed) outer machine
  | limit {self : Evaluator} {frame : Frame} {body handler : Term}
      {caught? : Option (String × Position)} {machine : Machine} {origin : Origin}
      {crossings : List Crossing} (limit : origin.failure.problem.isLimit = true)
      (inside : ComesTo env origin crossings (self frame body) machine) :
      ComesTo env origin crossings (attempt env self frame body caught? handler) machine
  | handler {self : Evaluator} {frame : Frame} {body handler : Term}
      {caught? : Option (String × Position)} {machine middle : Machine} {failure : Failure}
      {origin : Origin} {crossings : List Crossing} (tried : Composed env (self frame body))
      (caught : enclosed (self frame body) machine = .error (.raised failure) middle)
      (unlimited : failure.problem.isLimit = false)
      (inside : ComesTo env origin crossings
        (enclosed (handling env self frame caught? handler failure)) middle)
      (own : passesOn origin crossings = false) :
      ComesTo env origin crossings (attempt env self frame body caught? handler) machine
  | again {self : Evaluator} {frame : Frame} {body handler : Term}
      {caught? : Option (String × Position)} {machine middle : Machine} {failure : Failure}
      {origin other : Origin} {crossings others : List Crossing}
      (inside : ComesTo env origin crossings (self frame body) machine)
      (caught : enclosed (self frame body) machine = .error (.raised failure) middle)
      (unlimited : failure.problem.isLimit = false)
      (passing : ComesTo env other others
        (enclosed (handling env self frame caught? handler failure)) middle)
      (passed : passesOn other others = true) :
      ComesTo env origin
        (crossings ++ [.again (marked other.failure others).position?])
        (attempt env self frame body caught? handler) machine

/-! ### The way out -/

theorem attempt_handled {self : Evaluator} {frame : Frame} {body handler : Term}
    {caught? : Option (String × Position)} {machine middle last : Machine} {failure : Failure}
    {halt : Halt} (caught : enclosed (self frame body) machine = .error (.raised failure) middle)
    (unlimited : failure.problem.isLimit = false)
    (ended : endHandler failure machine.thrown.size
      (enclosed (handling env self frame caught? handler failure)) middle = .error halt last) :
    attempt env self frame body caught? handler machine = .error halt last := by
  rw [attempt_apply, caught]
  dsimp only
  rw [unlimited, if_neg (by simp), ended]

theorem throwsAgain_eq {origin : Origin} {crossings : List Crossing} {before : Array Value}
    {machine : Machine} (thrown : machine.thrown = before ++ origin.value?.toArray)
    (own : origin.value? = none → origin.failure.problem ≠ .thrown) :
    throwsAgain (marked origin.failure crossings) machine = passesOn origin crossings := by
  unfold throwsAgain passesOn
  rw [marked_problem, thrown]
  cases origin with
  | refused request fault position => simp [Origin.failure, Origin.value?, Failure.located]
  | thrown value position =>
      have last : (before ++ (Origin.thrown value position).value?.toArray).back? = some value := by
        simp [Origin.value?]
      rw [last]
      rfl
  | unable failure =>
      have unthrown : failure.problem ≠ .thrown := own rfl
      simp [Origin.failure, Origin.value?, unthrown]

theorem value?_of_passesOn {origin : Origin} {crossings : List Crossing}
    (passes : passesOn origin crossings = true) : origin.value? = some (.datum .unit) := by
  unfold passesOn at passes
  have unit := (Bool.and_eq_true_iff.mp passes).2
  split at unit
  · rename_i found
    exact found
  · cases unit

theorem ComesTo.unthrown {origin : Origin} {crossings : List Crossing} {work : Run α}
    {machine : Machine} (comes : ComesTo env origin crossings work machine)
    (valueless : origin.value? = none) : origin.failure.problem ≠ .thrown := by
  induction comes with
  | refused refusal => cases valueless
  | thrown position machine => cases valueless
  | unable failure unthrown fresh machine => exact unthrown
  | excess _ _ ih | first _ ih | later _ _ _ ih | around _ _ ih | limit _ _ ih
  | handler _ _ _ _ _ ih => exact ih valueless
  | again _ _ _ _ _ ih _ => exact ih valueless

theorem ComesTo.fresh {origin : Origin} {crossings : List Crossing} {work : Run α}
    {machine : Machine} (comes : ComesTo env origin crossings work machine) :
    origin.failure.calls = [] := by
  induction comes with
  | refused refusal => rfl
  | thrown position machine => rfl
  | unable failure unthrown fresh machine => exact fresh
  | excess _ _ ih | first _ ih | later _ _ _ ih | around _ _ ih | limit _ _ ih
  | handler _ _ _ _ _ ih => exact ih
  | again _ _ _ _ _ ih _ => exact ih

/-- What a run comes to is what it fails with, after all that this crosses. The value thrown is the
last one. -/
theorem ComesTo.raises {origin : Origin} {crossings : List Crossing} {work : Run α}
    {machine : Machine} (comes : ComesTo env origin crossings work machine) :
    ∃ after, work machine = .error (.raised (marked origin.failure crossings)) after ∧
      after.thrown = machine.thrown ++ origin.value?.toArray := by
  induction comes with
  | @refused request fault used position machine refusal =>
      rw [native_apply, refusal]
      refine ⟨_, rfl, ?_⟩
      have asked := thrown_asked env.types request used machine
      change Array.push _ _ = _
      rw [asked]
      rfl
  | @excess request used position machine origin crossings met inside ih =>
      obtain ⟨after, halted, kept⟩ := ih
      rw [native_apply, met]
      refine ⟨after, halted, kept.trans ?_⟩
      rw [thrown_asked]
  | thrown position machine => exact ⟨_, rfl, rfl⟩
  | unable failure unthrown fresh machine => exact ⟨machine, rfl, (Array.append_empty).symm⟩
  | first inside ih =>
      obtain ⟨after, halted, kept⟩ := ih
      refine ⟨after, ?_, kept⟩
      rw [bind_apply, halted]
  | @later _ _ work rest machine middle result origin crossings composed ended inside ih =>
      -- What came before has ended, so it has left no value behind.
      obtain ⟨after, halted, kept⟩ := ih
      have settled := composed.balanced machine
      rw [ended] at settled
      have same : middle.thrown = machine.thrown := settled
      refine ⟨after, ?_, kept.trans (by rw [same])⟩
      rw [bind_apply, ended]
      exact halted
  | @around _ _ crossed inner outer machine origin crossings around inside ih =>
      obtain ⟨after, halted, kept⟩ := ih
      obtain ⟨last, raised, still⟩ := around.raises halted
      refine ⟨last, ?_, (Machine.thrown_of_still still).trans kept⟩
      rw [raised, marked_append]
  | @limit self frame body handler caught? machine origin crossings limit inside ih =>
      obtain ⟨after, halted, kept⟩ := ih
      obtain ⟨last, raised, still⟩ := (around_enclosed _).raises halted
      refine ⟨last, ?_, (Machine.thrown_of_still still).trans kept⟩
      rw [attempt_apply, raised]
      simp only [marked_nil, marked_problem, limit, if_true]
  | @handler self frame body handler caught? machine middle failure origin crossings tried caught
      unlimited inside own ih =>
      obtain ⟨after, halted, kept⟩ := ih
      have lost := (tried.balanced.around (around_enclosed _)) machine
      rw [caught] at lost
      have ended := endHandler_raised failure machine.thrown.size halted
      rw [throwsAgain_eq kept inside.unthrown, own, if_neg (by simp)] at ended
      exact ⟨_, attempt_handled caught unlimited ended, thrown_finished lost kept⟩
  | @again self frame body handler caught? machine middle failure origin other crossings others
      inside caught unlimited passing passed ih ihPassing =>
      obtain ⟨after, halted, kept⟩ := ih
      obtain ⟨last, raised, still⟩ := (around_enclosed _).raises halted
      rw [caught] at raised
      cases raised
      obtain ⟨final, again, keptFinal⟩ := ihPassing
      have ended := endHandler_raised (marked origin.failure crossings) machine.thrown.size again
      rw [throwsAgain_eq keptFinal passing.unthrown, passed, if_pos rfl] at ended
      refine ⟨final.dropThrown, ?_, ?_⟩
      · rw [attempt_handled caught unlimited ended, marked_append]
        rfl
      · -- The unit that the handler has thrown goes. What it has handled is the last value again.
        have thrownLast : final.thrown = middle.thrown.push (.datum .unit) := by
          rw [keptFinal, value?_of_passesOn passed]
          rfl
        rw [Machine.thrown_dropThrown, thrownLast, Array.pop_push, Machine.thrown_of_still still,
          kept]

theorem ComesTo.within {origin : Origin} {crossings : List Crossing} {inner : Run α}
    {outer : Run β} {machine : Machine} (around : Around [] inner outer)
    (comes : ComesTo env origin crossings inner machine) :
    ComesTo env origin crossings outer machine := by
  have outside := ComesTo.around around comes
  rw [List.append_nil] at outside
  exact outside

theorem ComesTo.enclosed {origin : Origin} {crossings : List Crossing} {inner : Run Unit}
    {machine : Machine} (comes : ComesTo env origin crossings inner machine) :
    ComesTo env origin crossings (enclosed inner) machine :=
  .within (around_enclosed inner) comes

theorem handler_of_endHandler {failure other : Failure} {kept : Nat} {handler : Run Unit}
    {middle last : Machine}
    (ended : endHandler failure kept handler middle = .error (.raised other) last) :
    ∃ cause after, handler middle = .error (.raised cause) after := by
  unfold endHandler at ended
  cases began : handler middle with
  | ok _ after =>
      rw [began] at ended
      cases ended
  | error halt after =>
      rw [began] at ended
      cases halt with
      | raised cause => exact ⟨cause, after, rfl⟩
      | _ => cases ended

theorem attempt_raised {self : Evaluator} {frame : Frame} {body handler : Term}
    {caught? : Option (String × Position)} {machine after : Machine} {failure : Failure}
    (raised : attempt env self frame body caught? handler machine =
      .error (.raised failure) after) :
    ∃ cause middle, enclosed (self frame body) machine = .error (.raised cause) middle ∧
      (cause.problem.isLimit = true ∨
        cause.problem.isLimit = false ∧ ∃ other last,
          enclosed (handling env self frame caught? handler cause) middle =
            .error (.raised other) last) := by
  rw [attempt_apply] at raised
  cases began : enclosed (self frame body) machine with
  | ok _ middle =>
      rw [began] at raised
      cases raised
  | error halt middle =>
      rw [began] at raised
      cases halt with
      | raised cause =>
          refine ⟨cause, middle, rfl, ?_⟩
          dsimp only at raised
          cases limit : cause.problem.isLimit with
          | true => exact .inl rfl
          | false =>
              rw [limit, if_neg (by simp)] at raised
              refine .inr ⟨rfl, ?_⟩
              cases ended : endHandler cause machine.thrown.size
                  (enclosed (handling env self frame caught? handler cause)) middle with
              | ok _ last =>
                  rw [ended] at raised
                  cases raised
              | error halt last =>
                  rw [ended] at raised
                  cases raised
                  exact handler_of_endHandler ended
      | _ => cases raised

/-- Whatever fails has come to a step that fails. -/
theorem Composed.comes {work : Run α} (composed : Composed env work) {machine after : Machine}
    {failure : Failure} (raised : work machine = .error (.raised failure) after) :
    ∃ origin crossings, ComesTo env origin crossings work machine := by
  -- By how the run is composed: one of its parts has failed, and that one has come to a step.
  induction composed generalizing machine after failure with
  | quiet calm =>
      obtain ⟨_, _, ended, _⟩ := calm machine
      rw [ended] at raised
      cases raised
  | request request asks =>
      obtain ⟨_, _, ended, _⟩ := asks machine
      rw [ended] at raised
      cases raised
  | native request used position _ ih =>
      rw [native_apply] at raised
      cases answer : (machine.callNative env.types request).1 with
      | ok _ =>
          rw [answer] at raised
          obtain ⟨origin, crossings, comes⟩ := ih raised
          exact ⟨origin, crossings, .excess answer comes⟩
      | error fault => exact ⟨_, _, .refused answer⟩
  | refuse own unthrown fresh => exact ⟨_, _, .unable own unthrown fresh machine⟩
  | leave halt calm =>
      cases raised
      exact (calm _ rfl).elim
  | throwLast position => exact ⟨_, _, .thrown position machine⟩
  | @bind _ _ work rest composed _ first later =>
      rw [bind_apply] at raised
      cases began : work machine with
      | ok result middle =>
          rw [began] at raised
          obtain ⟨origin, crossings, comes⟩ := later result raised
          exact ⟨origin, crossings, .later composed began comes⟩
      | error halt middle =>
          rw [began] at raised
          cases raised
          obtain ⟨origin, crossings, comes⟩ := first began
          exact ⟨origin, crossings, .first comes⟩
  | around around _ inside =>
      obtain ⟨cause, middle, raisedInside⟩ := around.raised raised
      obtain ⟨origin, crossings, comes⟩ := inside raisedInside
      exact ⟨origin, _, .around around comes⟩
  | @attempt self frame body handler caught? tried handled ihTried ihHandled =>
      obtain ⟨cause, middle, caught, limit | ⟨unlimited, other, last, again⟩⟩ :=
        attempt_raised raised
      · obtain ⟨_, _, raisedInside⟩ := (around_enclosed _).raised caught
        obtain ⟨origin, crossings, comes⟩ := ihTried raisedInside
        obtain ⟨_, out, _⟩ := comes.enclosed.raises
        rw [caught] at out
        cases out
        rw [marked_problem] at limit
        exact ⟨origin, crossings, .limit limit comes⟩
      · obtain ⟨_, _, raisedInside⟩ := (around_enclosed _).raised caught
        obtain ⟨origin, crossings, comes⟩ := ihTried raisedInside
        obtain ⟨_, _, raisedHandling⟩ := (around_enclosed _).raised again
        obtain ⟨other, others, comesOther⟩ := ihHandled cause raisedHandling
        cases passing : passesOn other others with
        | true => exact ⟨_, _, .again comes caught unlimited comesOther.enclosed passing⟩
        | false => exact ⟨_, _, .handler tried caught unlimited comesOther.enclosed passing⟩

def ticked (machine : Machine) : Machine :=
  { machine.record .evaluation with operations := machine.operations + 1 }

theorem tick_eq {position : Position} {machine : Machine}
    (allowed : Limits.allows env.limits.operations (machine.operations + 1) = true) :
    tick env position machine = .ok () (ticked machine) := by
  have looked : tick env position machine =
      (if !Limits.allows env.limits.operations (machine.operations + 1) then
        fail .tooManyOperations position
      else pure () : Run Unit) (ticked machine) := rfl
  rw [looked, allowed]
  rfl

section Terms

variable {self : Evaluator} {frame : Frame} {machine : Machine} {origin : Origin}
  {crossings : List Crossing}

theorem ComesTo.term {fuel : Nat} {frame : Frame} {term : Term} {rest : Run Unit}
    (same : evaluate env (fuel + 1) frame term = (tick env term.position >>= fun _ => rest))
    (allowed : Limits.allows env.limits.operations (machine.operations + 1) = true)
    (inside : ComesTo env origin crossings rest (ticked machine)) :
    ComesTo env origin crossings (evaluate env (fuel + 1) frame term) machine := by
  rw [same]
  exact .later (made_tick _).composed (tick_eq allowed) inside

theorem ComesTo.firstStatement {first : Term} {rest : List Term}
    (inside : ComesTo env origin crossings (self frame first) (machine.push .unit)) :
    ComesTo env origin crossings (block self frame (first :: rest)) machine :=
  .later made_mark.composed rfl (.later (made_push _).composed rfl (.first inside))

theorem ComesTo.calledFromHost {function : Function} {positions : List Nat}
    (inside : ComesTo env origin crossings (self .outermost function.body)
      (machine.declareAll (function.parameters.zip positions))) :
    ComesTo env origin (crossings ++ [.host]) (callFromHost self function positions) machine := by
  refine .around (around_marking .host _) (.within (around_enclosed _) ?_)
  refine .later (Composed.moves fun machine => machine.inert_declareAll _) rfl ?_
  exact .within (around_runBody self function _) inside

theorem ComesTo.refusedInModule {space name : String} {start position : Position}
    {function : FunctionDescriptor} {fault : Fault}
    (parts : ∀ frame term, Made env (self frame term))
    (known : env.functions.hasSpace space = true)
    (found : env.functions.find? space name = some function)
    (refusal : (machine.callNative env.types (.function function [])).1 = .error fault) :
    ComesTo env (.refused (.function function []) fault position) []
      (moduleCall env self frame space name [] start position) machine := by
  refine .later made_mark.composed rfl (.first (.within (around_gathering inOrder _) ?_))
  refine .later (made_evaluateArguments parts frame []).composed rfl ?_
  unfold callInModule
  rw [known, FunctionRegistry.find?_modules, found]
  exact .later Composed.looks rfl (.refused refusal)

end Terms

/-! ### What the host is told -/

/-- The fault for the host when a failure gets out through these crossings. -/
def Origin.told (origin : Origin) (crossings : List Crossing) : Fault :=
  match origin.fault?, origin.value? with
  | some fault, _ => fault
  | none, some value => (marked origin.failure crossings).runtimeFault value.plain
  | none, none =>
      ((marked origin.failure crossings).memberFault?).getD
        ((marked origin.failure crossings).runtimeFault "")

def ofScripts : Fault → Prop
  | .unknownMethod .. | .unknownField .. | .scriptRuntime .. => True
  | _ => False

theorem Origin.told_of_fault? {origin : Origin} {fault : Fault}
    (carried : origin.fault? = some fault) (crossings : List Crossing) :
    origin.told crossings = fault := by
  simp only [told, carried]

theorem ofScripts_memberFault? {failure : Failure} {fault : Fault}
    (member : failure.memberFault? = some fault) : ofScripts fault := by
  unfold Failure.memberFault? at member
  split at member
  · split at member
    · obtain ⟨name, _, rfl⟩ := Option.map_eq_some_iff.mp member
      unfold memberFault
      split
      · trivial
      · split <;> trivial
    · obtain ⟨name, _, rfl⟩ := Option.map_eq_some_iff.mp member
      trivial
    · cases member
  · cases member

theorem Origin.ofScripts_told {origin : Origin} (plain : origin.fault? = none)
    (crossings : List Crossing) : ofScripts (origin.told crossings) := by
  unfold told
  rw [plain]
  cases origin.value? with
  | some value => trivial
  | none =>
      dsimp only
      cases member : (marked origin.failure crossings).memberFault? with
      | none => trivial
      | some fault => exact ofScripts_memberFault? member

theorem toFault_thrown {failure : Failure} (thrown : failure.problem = .thrown) (value : Value) :
    failure.toFault (some value) =
      (carried? value).getD (failure.runtimeFault value.plain) := by
  unfold Failure.toFault
  rw [thrown]
  cases value with
  | datum datum => cases datum <;> rfl
  | _ => rfl

theorem toFault_unthrown {failure : Failure} (unthrown : failure.problem ≠ .thrown)
    (thrown? : Option Value) :
    failure.toFault thrown? = (failure.memberFault?).getD (failure.runtimeFault "") := by
  unfold Failure.toFault
  split
  · rename_i thrown
    exact (unthrown thrown).elim
  · rename_i thrown
    exact (unthrown thrown).elim
  · rfl

theorem Origin.problem_of_value? {origin : Origin} {value : Value}
    (valued : origin.value? = some value) : origin.failure.problem = .thrown := by
  cases origin with
  | refused request fault position => rfl
  | thrown other position => rfl
  | unable failure => cases valued

theorem ComesTo.toFault {origin : Origin} {crossings : List Crossing} {work : Run α}
    {machine : Machine} (comes : ComesTo env origin crossings work machine)
    (before : Array Value) :
    (marked origin.failure crossings).toFault (before ++ origin.value?.toArray).back? =
      origin.told crossings := by
  cases valued : origin.value? with
  | none =>
      have unthrown : (marked origin.failure crossings).problem ≠ .thrown := by
        rw [marked_problem]
        exact comes.unthrown valued
      rw [toFault_unthrown unthrown]
      simp only [Origin.told, Origin.fault?, valued, Option.bind_none]
  | some value =>
      have thrown : (marked origin.failure crossings).problem = .thrown := by
        rw [marked_problem]
        exact Origin.problem_of_value? valued
      have last : (before ++ (some value).toArray).back? = some value := by simp
      rw [last, toFault_thrown thrown]
      simp only [Origin.told, Origin.fault?, valued, Option.bind_some]
      cases carried? value <;> rfl

def leavesCall (crossings : List Crossing) : Bool :=
  crossings.any fun crossing => match crossing with
    | .call .. => true
    | _ => false

theorem calls_thrownAgain (failure : Failure) (position? : Option Position) :
    (thrownAgain failure position?).calls.isEmpty = failure.calls.isEmpty := by
  unfold thrownAgain
  split
  · rename_i name place rest position same
    have calls : failure.calls = ((name, place) :: rest).reverse := by
      rw [← same, List.reverse_reverse]
    rw [calls, List.reverse_cons, List.reverse_cons]
    cases rest.reverse <;> rfl
  · rename_i same
    have calls : failure.calls = [] := List.reverse_eq_nil_iff.mp same
    rw [calls]
  · rfl

theorem calls_mark {failure : Failure} (unlimited : failure.problem.isLimit = false)
    (crossing : Crossing) :
    (crossing.mark failure).calls.isEmpty =
      (failure.calls.isEmpty && !leavesCall [crossing]) := by
  cases crossing with
  | call name position => simp [Crossing.mark, Failure.leaving, unlimited, leavesCall]
  | host => simp [Crossing.mark, Failure.leavingToHost, unlimited, leavesCall]
  | again position? =>
      have kept := calls_thrownAgain failure position?
      simpa [Crossing.mark, leavesCall] using kept

theorem calls_marked {failure : Failure} (unlimited : failure.problem.isLimit = false)
    (crossings : List Crossing) :
    (marked failure crossings).calls.isEmpty =
      (failure.calls.isEmpty && !leavesCall crossings) := by
  induction crossings generalizing failure with
  | nil => simp [leavesCall]
  | cons crossing rest ih =>
      have same : (crossing.mark failure).problem.isLimit = false := by
        rw [Crossing.mark_problem, unlimited]
      change (marked (crossing.mark failure) rest).calls.isEmpty = _
      rw [ih same, calls_mark unlimited]
      simp [leavesCall, Bool.and_assoc]

theorem calls_of_memberFault? {failure : Failure} {fault : Fault}
    (member : failure.memberFault? = some fault) : failure.calls.isEmpty = true := by
  by_contra indirect
  simp [Failure.memberFault?, indirect] at member

theorem unlimited_of_memberFault? {failure : Failure} {fault : Fault}
    (member : failure.memberFault? = some fault) :
    failure.problem.isLimit = false ∧ failure.problem ≠ .thrown := by
  unfold Failure.memberFault? at member
  rw [if_pos (calls_of_memberFault? member)] at member
  split at member
  · rename_i same
    rw [same]
    exact ⟨rfl, nofun⟩
  · rename_i same
    rw [same]
    exact ⟨rfl, nofun⟩
  · cases member

theorem memberFault?_marked {failure : Failure} {fault : Fault}
    (member : failure.memberFault? = some fault) (crossings : List Crossing) :
    (marked failure crossings).memberFault? =
      if leavesCall crossings then none else some fault := by
  have direct := calls_of_memberFault? member
  have calls := calls_marked (unlimited_of_memberFault? member).1 crossings
  rw [direct, Bool.true_and] at calls
  unfold Failure.memberFault? at member ⊢
  rw [if_pos direct] at member
  rw [calls, marked_problem]
  cases leavesCall crossings with
  | true => rfl
  | false => exact member

theorem toFault_marked {failure : Failure} {fault : Fault}
    (member : failure.memberFault? = some fault) (crossings : List Crossing)
    (thrown? : Option Value) :
    (marked failure crossings).toFault thrown? =
      if leavesCall crossings then (marked failure crossings).runtimeFault "" else fault := by
  have unthrown : (marked failure crossings).problem ≠ .thrown := by
    rw [marked_problem]
    exact (unlimited_of_memberFault? member).2
  rw [toFault_unthrown unthrown, memberFault?_marked member]
  cases leavesCall crossings with
  | true => rfl
  | false => rfl

theorem told_member {failure : Failure} {fault : Fault}
    (member : failure.memberFault? = some fault) (crossings : List Crossing) :
    (Origin.unable failure).told crossings =
      if leavesCall crossings then (marked failure crossings).runtimeFault "" else fault := by
  change ((marked failure crossings).memberFault?).getD _ = _
  rw [memberFault?_marked member]
  cases leavesCall crossings with
  | true => rfl
  | false => rfl

end ScriptHost.Script.Run
