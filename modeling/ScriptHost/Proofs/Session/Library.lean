import Mathlib.Data.Finset.Card
import ScriptHost.Proofs.Native.Overloads
import ScriptHost.Proofs.Script.Variables
import ScriptHost.Proofs.Session.Faults
import ScriptHost.Proofs.Session.Lifecycle

/-!
The functions of scripts in a session.

A session has the functions of all scripts that it has run, the last definition counting where
several scripts define the same name with the same number of parameters. It makes no difference
whether the execution of such a script has failed later. A call by the host is for the function that
has as many parameters as there are arguments, and where there is none, no script is run.
-/

set_option autoImplicit false

namespace ScriptHost

open Script

namespace Script.Library

variable {library additions : Library} {name : String} {count : Nat}

theorem isSome_find?_iff :
    (library.find? name count).isSome = true ↔ (name, count) ∈ library.map Function.key := by
  unfold find? Function.key
  rw [List.find?_isSome, List.mem_map]
  simp only [Bool.and_eq_true, beq_iff_eq, Prod.mk.injEq]

theorem find?_merge (library additions : Library) (name : String) (count : Nat) :
    (library.merge additions).find? name count =
      (additions.find? name count).or (library.find? name count) := by
  have keyed : ∀ function : Function,
      (function.name == name && function.parameters.length == count) = true →
        function.name = name ∧ function.parameters.length = count := by
    intro function same
    simpa using same
  unfold merge
  change List.find? _ (_ ++ additions) = _
  rw [List.find?_append, List.find?_filter]
  cases added : additions.find? name count with
  | some function =>
      have hidden : List.find? (fun function : Function =>
          decide ((find? additions function.name function.parameters.length).isNone = true ∧
            (function.name == name && function.parameters.length == count) = true)) library =
              none := by
        rw [List.find?_eq_none]
        intro function _ kept
        obtain ⟨absent, same⟩ := of_decide_eq_true kept
        obtain ⟨rfl, rfl⟩ := keyed function same
        rw [added] at absent
        cases absent
      rw [hidden]
      exact added
  | none =>
      have visible : List.find? (fun function : Function =>
          decide ((find? additions function.name function.parameters.length).isNone = true ∧
            (function.name == name && function.parameters.length == count) = true)) library =
              library.find? name count := by
        unfold find?
        congr 1
        funext function
        rw [Bool.eq_iff_iff, decide_eq_true_iff]
        refine ⟨And.right, fun same => ⟨?_, same⟩⟩
        obtain ⟨rfl, rfl⟩ := keyed function same
        exact Option.isNone_iff_eq_none.mpr added
      rw [visible, show List.find? _ additions = none from added]
      exact Option.or_none

theorem distinct_merge (distinct : (library.map Function.key).Nodup)
    (added : (additions.map Function.key).Nodup) :
    ((library.merge additions).map Function.key).Nodup := by
  unfold merge
  rw [List.map_append]
  refine List.Nodup.append (List.filter_sublist.map _ |>.nodup distinct) added ?_
  intro key kept known
  obtain ⟨function, member, rfl⟩ := List.mem_map.mp kept
  have absent := (List.mem_filter.mp member).2
  have present : (find? additions function.name function.parameters.length).isSome = true :=
    isSome_find?_iff.mpr known
  rw [Option.isNone_iff_eq_none] at absent
  rw [absent] at present
  cases present

def extended (library : Library) (script? : Option Program) : Library :=
  script?.elim library fun script => library.merge script.functions

theorem mem_parameterCounts :
    count ∈ library.parameterCounts name ↔ (library.find? name count).isSome = true := by
  rw [isSome_find?_iff]
  unfold parameterCounts Function.key
  simp only [List.mem_map, List.mem_filter, beq_iff_eq, Prod.mk.injEq, and_assoc]

theorem defines_iff :
    library.defines name = true ↔ ∃ count, (library.find? name count).isSome = true := by
  simp only [← mem_parameterCounts]
  unfold defines parameterCounts
  simp only [List.any_eq_true, List.mem_map, List.mem_filter]
  exact ⟨fun ⟨function, member⟩ => ⟨_, function, member, rfl⟩,
    fun ⟨_, function, member, _⟩ => ⟨function, member⟩⟩

end Script.Library

namespace Session

variable {session : Session} {log : List Program}

def Operation.source? : Operation → Option String
  | run text => some text
  | runFile file => file.text.toOption
  | _ => none

/-- The script that an operation runs, if it runs one and can read it. -/
def script? (session : Session) (operation : Operation) : Option Program :=
  match session.phase with
  | .ready =>
      operation.source?.bind fun text => (Program.read session.surroundings text).toOption
  | _ => none

def scripts (session : Session) : List Operation → List Program
  | [] => []
  | operation :: rest =>
      (session.script? operation).toList ++ (session.perform operation).2.scripts rest

theorem script?_ready (ready : session.phase = .ready) (operation : Operation) :
    session.script? operation =
      operation.source?.bind fun text => (Program.read session.surroundings text).toOption := by
  rw [script?, ready]

theorem script?_unready (unready : session.phase ≠ .ready) (operation : Operation) :
    session.script? operation = none := by
  unfold script?
  split
  · rename_i ready
    exact absurd ready unready
  · rfl

theorem script?_sourceless {operation : Operation} (sourceless : operation.source? = none) :
    session.script? operation = none := by
  by_cases ready : session.phase = .ready
  · rw [script?_ready ready, sourceless]
    rfl
  · exact script?_unready ready operation

theorem runToEnd_unread {text : String} {fault : SyntaxFault}
    (unread : Program.read session.surroundings text = .error fault) :
    runToEnd text session =
      .error (.parse fault.message (some (lineText fault.position))) session := by
  unfold runToEnd
  rw [bind_apply, readWith_eq, unread]

theorem library_run (ready : session.phase = .ready) (text : String) :
    (final (run text) session).library =
      session.library.extended (Program.read session.surroundings text).toOption := by
  unfold final
  cases read : Program.read session.surroundings text with
  | ok script =>
      obtain ⟨machine, ended⟩ := runToEnd_read read
      rw [run_ended ready ended]
      generalize (outcome _ session.machine).1 = reached
      cases reached <;> rfl
  | error fault =>
      rw [run_failed ready (runToEnd_unread read)]
      rfl

theorem library_runFile (ready : session.phase = .ready) (file : SourceFile) :
    (final (runFile file) session).library =
      session.library.extended (session.script? (.runFile file)) := by
  rw [script?_ready ready, Operation.source?]
  cases read : file.text with
  | ok text =>
      have same : final (runFile file) session = final (run text) session := by
        unfold final
        rw [runFile_eq ready, read]
      rw [same]
      exact library_run ready text
  | error fault =>
      have same : final (runFile file) session = session := by
        unfold final
        rw [runFile_eq ready, read]
      rw [same]
      rfl

/-- An operation that runs no script leaves the library alone. -/
theorem library_calm {operation : Operation} (isCalm : operation.IsCalm) (session : Session) :
    (session.perform operation).2.library = session.library := by
  have calm : Calm fun later => later.library = session.library :=
    ⟨fun kept => kept, fun kept => kept⟩
  exact (perform_of_leads (calm.perform_keeps isCalm session rfl)).1

theorem library_perform (session : Session) {operation : Operation}
    (lasts : operation ≠ .teardown) :
    (session.perform operation).2.library =
      session.library.extended (session.script? operation) := by
  have extensible : Extensible fun later => later.library = session.library :=
    ⟨fun kept _ _ => kept, fun kept _ _ => kept⟩
  have calm (isCalm : operation.IsCalm) (sourceless : operation.source? = none) :
      (session.perform operation).2.library =
        session.library.extended (session.script? operation) := by
    rw [library_calm isCalm, script?_sourceless sourceless]
    rfl
  have refused (fallible : operation.MayFail) (starts : operation ≠ .start)
      (unready : session.phase ≠ .ready) : (session.perform operation).2.library =
        session.library.extended (session.script? operation) := by
    rw [perform_refused fallible starts lasts unready, script?_unready unready]
    rfl
  cases operation with
  | start =>
      obtain ⟨phase, same⟩ := perform_start_eq session
      rw [same, script?_sourceless rfl]
      rfl
  | teardown => exact absurd rfl lasts
  | register registration =>
      have keeps := done_keeps (extensible.register_keeps registration)
      rw [script?_sourceless rfl]
      exact (@perform_of_leads _ _ _ (.register registration) (keeps session rfl)).1
  | install extension =>
      have keeps := done_keeps (extensible.install_keeps extension)
      rw [script?_sourceless rfl]
      exact (@perform_of_leads _ _ _ (.install extension) (keeps session rfl)).1
  | run text =>
      by_cases ready : session.phase = .ready
      · rw [perform_done rfl, library_run ready, script?_ready ready]
        rfl
      · exact refused trivial nofun ready
  | runFile file =>
      by_cases ready : session.phase = .ready
      · rw [perform_done rfl, library_runFile ready]
      · exact refused trivial nofun ready
  | _ => exact calm trivial rfl

/-- The definition in the last script that has one. -/
def latest (scripts : List Program) (name : String) (count : Nat) : Option Function :=
  scripts.reverse.findSome? fun script => Library.find? script.functions name count

/-- The library has the last definitions of these scripts, each of them once. -/
structure Defined (scripts : List Program) (session : Session) : Prop where
  latest : ∀ name count, session.library.find? name count = Session.latest scripts name count
  distinct : (session.library.map Function.key).Nodup

theorem latest_append (earlier : List Program) (script : Program) (name : String) (count : Nat) :
    latest (earlier ++ [script]) name count =
      (Library.find? script.functions name count).or (latest earlier name count) := by
  unfold latest
  rw [List.reverse_append, List.reverse_singleton, List.singleton_append, List.findSome?_cons]
  cases Library.find? script.functions name count <;> rfl

theorem isSome_latest_iff {scripts : List Program} {name : String} {count : Nat} :
    (latest scripts name count).isSome = true ↔
      (name, count) ∈ scripts.flatMap fun script => script.functions.map Function.key := by
  unfold latest
  rw [List.findSome?_isSome_iff, List.mem_flatMap]
  simp only [List.mem_reverse, Library.isSome_find?_iff]

theorem defined_create (configuration : Configuration) : Defined [] (create configuration) :=
  ⟨fun _ _ => rfl, List.nodup_nil⟩

theorem after_tornDown (closed : session.phase = .tornDown) (operations : List Operation) :
    (session.after operations).phase = .tornDown := by
  induction operations generalizing session with
  | nil => exact closed
  | cons operation rest ih => exact ih (perform_tornDown closed operation)

namespace Defined

theorem perform (defined : Defined log session) {operation : Operation}
    (lasts : operation ≠ .teardown) :
    Defined (log ++ (session.script? operation).toList) (session.perform operation).2 := by
  have library := library_perform session lasts
  cases known : session.script? operation with
  | none =>
      rw [known] at library
      rw [Option.toList_none, List.append_nil]
      exact ⟨fun name count => by rw [library]; exact defined.latest name count,
        library ▸ defined.distinct⟩
  | some script =>
      rw [known] at library
      constructor
      · intro name count
        rw [library, Option.toList_some, latest_append, ← defined.latest]
        exact Library.find?_merge _ _ _ _
      · rw [library]
        exact Library.distinct_merge defined.distinct script.distinct

theorem after (defined : Defined log session) {operations : List Operation}
    (alive : (session.after operations).phase ≠ .tornDown) :
    Defined (log ++ session.scripts operations) (session.after operations) := by
  induction operations generalizing session log with
  | nil =>
      rw [scripts, List.append_nil]
      exact defined
  | cons operation rest ih =>
      have lasts : operation ≠ .teardown := by
        rintro rfl
        exact alive (after_tornDown (perform_teardown session) rest)
      rw [scripts, ← List.append_assoc]
      exact ih (defined.perform lasts) alive

theorem counted (defined : Defined log session) :
    session.statistics.scriptFunctions =
      (log.flatMap fun script => script.functions.map Function.key).toFinset.card := by
  have length : (session.library.map Function.key).toFinset.card =
      session.statistics.scriptFunctions := by
    rw [List.toFinset_card_of_nodup defined.distinct, List.length_map]
    rfl
  rw [← length]
  congr 1
  ext ⟨name, count⟩
  rw [List.mem_toFinset, List.mem_toFinset, ← isSome_latest_iff, ← Library.isSome_find?_iff,
    defined.latest]

end Defined

theorem receiveAll_live {arguments : List HostValue} (machine : Machine)
    (live : ∀ handle, .object handle ∈ arguments → machine.store.heap.contains handle = true) :
    ∃ later, receiveAll arguments machine = (.ok (), later) := by
  induction arguments generalizing machine with
  | nil => exact ⟨machine, rfl⟩
  | cons value rest ih =>
      have first : ∀ handle, value = .object handle → machine.store.heap.contains handle = true :=
        fun handle known => live handle (known ▸ List.mem_cons_self)
      obtain ⟨held, later, receives⟩ := Machine.receive_live first
      obtain ⟨last, all⟩ := ih later fun handle member =>
        (Heap.contains_congr receives.pins handle).trans
          (live handle (List.mem_cons_of_mem _ member))
      refine ⟨last, ?_⟩
      unfold receiveAll
      rw [receives.received]
      exact all

def callFunction (function : Function) (count : Nat) : Action HostValue := do
  deliver (← execute (← get).library fun self =>
    Run.callFromHost self function (List.range count))

/-- What a call with arguments comes to, by what the scripts have defined. -/
structure CallAnswers (scripts : List Program) (session : Session) (name : String)
    (arguments : List HostValue) : Prop where
  called : ∀ function, latest scripts name arguments.length = some function →
    ∃ machine, receiveAll arguments session.machine = (.ok (), machine) ∧
      Operation.perform (.call name arguments) session =
        (.value <$> callFunction function arguments.length) (session.withMachine machine)
  undefined : (∀ count, latest scripts name count = none) →
    ∃ store, session.perform (.call name arguments) =
      (.error (.undefinedFunction name),
        session.withMachine { session.machine with store := store })
  otherCount : latest scripts name arguments.length = none →
    (∃ count function, latest scripts name count = some function) →
      ∃ (counts : List Nat) (store : Store), counts.Pairwise (· < ·) ∧
        (∀ count, count ∈ counts ↔ (latest scripts name count).isSome = true) ∧
        session.perform (.call name arguments) =
          (.error (.arityMismatch name (" or ".intercalate (counts.map Nat.repr))
              arguments.length),
            session.withMachine { session.machine with store := store })

/-- A call that finds no function gives its arguments up again, and that is all. -/
theorem call_unresolved {name : String} {arguments : List HostValue} {fault : Fault}
    {machine : Machine} (sound : session.Sound (fun _ _ => False) (fun _ => False) fun _ => True)
    (ready : session.phase = .ready)
    (received : receiveAll arguments session.machine = (.ok (), machine))
    (unresolved : resolve session.library name arguments.length = .error fault) :
    ∃ store, session.perform (.call name arguments) =
      (.error fault, session.withMachine { session.machine with store := store }) := by
  have lent : Machine.Lends session.machine session.machine := by
    refine ⟨session.machine.store, session.machine.operands, rfl, fun value member => ?_⟩
    rw [sound.operands] at member
    exact absurd member (Array.not_mem_empty value)
  obtain ⟨later, _, lends, _, same | ⟨_, same⟩⟩ :=
    receiveAll_cases arguments sound.machine lent rfl
  · rw [received] at same
    cases same
    obtain ⟨store, discarded⟩ := discarded_eq lends sound.operands
    have failed : call name arguments session =
        .error fault (session.withMachine { session.machine with store := store }) := by
      rw [call_received ready received, unresolved, ← discarded]
      rfl
    have performed : Operation.perform (.call name arguments) session =
        .error fault (session.withMachine { session.machine with store := store }) :=
      map_error failed
    refine ⟨store, ?_⟩
    unfold perform
    rw [performed]
  · rw [received] at same
    cases same

theorem Defined.callAnswers (defined : Defined log session)
    (sound : session.Sound (fun _ _ => False) (fun _ => False) fun _ => True)
    (ready : session.phase = .ready) (name : String) {arguments : List HostValue}
    (live : ∀ handle, .object handle ∈ arguments → session.isLive handle = true) :
    CallAnswers log session name arguments := by
  obtain ⟨machine, received⟩ := receiveAll_live session.machine live
  refine ⟨?called, ?undefined, ?otherCount⟩
  case called =>
    intro function known
    rw [← defined.latest] at known
    have resolved : resolve session.library name arguments.length = .ok function := by
      unfold resolve
      rw [known]
    refine ⟨machine, received, ?_⟩
    have called : call name arguments session =
        callFunction function arguments.length (session.withMachine machine) := by
      rw [call_received ready received, resolved]
      rfl
    change EStateM.map _ _ session = EStateM.map _ _ _
    unfold EStateM.map
    rw [called]
  case undefined =>
    intro unknown
    simp only [← defined.latest] at unknown
    have nameless : session.library.defines name = false := by
      rw [Bool.eq_false_iff]
      intro defines
      obtain ⟨count, some⟩ := Library.defines_iff.mp defines
      rw [unknown count] at some
      cases some
    apply call_unresolved sound ready received
    unfold resolve
    rw [unknown, nameless]
    rfl
  case otherCount =>
    intro unknown ⟨count, function, elsewhere⟩
    rw [← defined.latest] at unknown elsewhere
    have named : session.library.defines name = true :=
      Library.defines_iff.mpr ⟨count, Option.isSome_of_eq_some elsewhere⟩
    obtain ⟨counts, ascending, same, text⟩ :=
      choiceText_ascending (session.library.parameterCounts name)
    have unresolved : resolve session.library name arguments.length =
        .error (.arityMismatch name (" or ".intercalate (counts.map Nat.repr))
          arguments.length) := by
      unfold resolve
      rw [unknown, named, text]
      rfl
    obtain ⟨store, failed⟩ := call_unresolved sound ready received unresolved
    refine ⟨counts, store, ascending, fun count => ?_, failed⟩
    rw [same, Library.mem_parameterCounts, defined.latest]

/-- A session has the last definition of each function in the scripts that it has been given and
could read, also of those that have failed later. A script that cannot be read changes nothing, and
what the host calls is the definition with as many parameters as there are arguments. -/
theorem last_definition_wins (configuration : Configuration) (operations : List Operation)
    (ready : ((create configuration).after operations).phase = .ready) :
    let session := (create configuration).after operations
    let scripts := (create configuration).scripts operations
    (∀ name count, session.library.find? name count = latest scripts name count) ∧
    session.statistics.scriptFunctions =
      (scripts.flatMap fun script => script.functions.map Function.key).toFinset.card ∧
    (∀ text fault, Program.read session.surroundings text = .error fault →
      let told := Except.error (.parse fault.message (some (lineText fault.position)))
      session.perform (.run text) = (told, session) ∧
        ∀ file, file.text = .ok text → session.perform (.runFile file) = (told, session)) ∧
    (∀ operation, operation.IsCalm → (session.perform operation).2.library = session.library) ∧
    ∀ name arguments, (∀ handle, .object handle ∈ arguments → session.isLive handle = true) →
      CallAnswers scripts session name arguments := by
  intro session scripts
  have alive : session.phase ≠ .tornDown := by
    rw [ready]
    exact nofun
  have defined : Defined scripts session := (defined_create configuration).after alive
  have sound := ((Reachable.created configuration).after operations).sound alive
  refine ⟨defined.latest, defined.counted, fun text fault unread => ?_,
    fun operation isCalm => library_calm isCalm session,
    fun name arguments => defined.callAnswers sound ready name⟩
  have failed := run_failed ready (runToEnd_unread unread)
  refine ⟨perform_done_error rfl failed, fun file read => ?_⟩
  apply perform_done_error rfl
  rw [runFile_eq ready, read]
  exact failed

/-- The first script fails after it has defined two functions, the second defines one of them anew,
and the third cannot be read. -/
def drafts : List Operation :=
  [.start, .run "fn f(a) { 1 } fn f(a, b) { 2 } throw 3;", .run "fn f(c) { 4 }", .run "fn f(d"]

theorem redefined_function_is_called :
    let session := (create .standard).after drafts
    session.phase = .ready ∧ session.statistics.scriptFunctions = 2 ∧
      ∃ function machine, function.parameters = ["c"] ∧
        Operation.perform (.call "f" [.null]) session =
          (.value <$> callFunction function 1) (session.withMachine machine) := by
  intro session
  have ready : session.phase = .ready := by decide +kernel
  obtain ⟨_, counted, _, _, answers⟩ := last_definition_wins .standard drafts ready
  have two : (((create .standard).scripts drafts).flatMap fun script =>
      script.functions.map Function.key).toFinset.card = 2 := by decide +kernel
  have anew : (latest ((create .standard).scripts drafts) "f" 1).map Function.parameters =
      some ["c"] := by decide +kernel
  obtain ⟨function, known, parameters⟩ := Option.map_eq_some_iff.mp anew
  obtain ⟨machine, _, called⟩ := (answers "f" [.null] (by simp)).called function known
  exact ⟨ready, counted.trans two, function, machine, parameters, called⟩

end Session
end ScriptHost
