import ScriptHost.Proofs.Script.Naming
import ScriptHost.Proofs.Script.Notes

/-!
What runs are put together from.

A run of a script consists of steps that move values about, of requests to the host, and of steps
that fail or throw, put one after the other or inside of one another. A property of runs that holds
for these parts and survives their composition holds for every run.
-/

set_option autoImplicit false

namespace ScriptHost.Script.Run

/-- What a failure may pass on its way out and that changes it: a call of a function, the call of
the host itself, and a handler that throws it once more. -/
inductive Crossing where
  | call (name : String) (position : Position)
  | host
  | again (position? : Option Position)
deriving DecidableEq, Repr

def Crossing.mark (failure : Failure) : Crossing → Failure
  | call name position => failure.leaving name position
  | host => failure.leavingToHost
  | again position? => thrownAgain failure position?

/-- A failure after all that it has passed, the first crossing first. -/
def marked (failure : Failure) (crossings : List Crossing) : Failure :=
  crossings.foldl Crossing.mark failure

@[simp] theorem leaving_problem (failure : Failure) (name : String) (position : Position) :
    (failure.leaving name position).problem = failure.problem := by
  unfold Failure.leaving
  split <;> rfl

@[simp] theorem leavingToHost_problem (failure : Failure) :
    failure.leavingToHost.problem = failure.problem := by
  unfold Failure.leavingToHost
  split <;> rfl

@[simp] theorem thrownAgain_problem (failure : Failure) (position? : Option Position) :
    (thrownAgain failure position?).problem = failure.problem := by
  unfold thrownAgain
  split <;> rfl

theorem Crossing.mark_problem (failure : Failure) (crossing : Crossing) :
    (crossing.mark failure).problem = failure.problem := by
  cases crossing with
  | call name position => exact leaving_problem failure name position
  | host => exact leavingToHost_problem failure
  | again position? => exact thrownAgain_problem failure position?

@[simp] theorem marked_problem (failure : Failure) (crossings : List Crossing) :
    (marked failure crossings).problem = failure.problem := by
  induction crossings generalizing failure with
  | nil => rfl
  | cons crossing rest ih =>
      exact (ih (crossing.mark failure)).trans (Crossing.mark_problem failure crossing)

@[simp] theorem marked_nil (failure : Failure) : marked failure [] = failure := rfl

theorem marked_append (failure : Failure) (earlier later : List Crossing) :
    marked failure (earlier ++ later) = marked (marked failure earlier) later :=
  List.foldl_append

/-! ### Composition -/

/-- How a run ends that tidies up after another one. It may end where the other one halts, but it
lets every failure out, marked with what that crosses. -/
inductive Passes {α β : Type} (crossed : List Crossing) :
    EStateM.Result Halt Machine α → EStateM.Result Halt Machine β → Prop where
  | ends {result : α} {answer : β} {after last : Machine} (kept : last.still = after.still) :
      Passes crossed (.ok result after) (.ok answer last)
  | leaves {halt : Halt} {after last : Machine} (calm : ∀ failure, halt ≠ .raised failure)
      (kept : last.still = after.still) : Passes crossed (.error halt after) (.error halt last)
  | stays {halt : Halt} {answer : β} {after last : Machine}
      (calm : ∀ failure, halt ≠ .raised failure) (kept : last.still = after.still) :
      Passes crossed (.error halt after) (.ok answer last)
  | raises {failure : Failure} {after last : Machine} (kept : last.still = after.still) :
      Passes crossed (.error (.raised failure) after)
        (.error (.raised (marked failure crossed)) last)

/-- The outer run runs the inner one and tidies up after it. -/
def Around {α β : Type} (crossed : List Crossing) (inner : Run α) (outer : Run β) : Prop :=
  ∀ machine, Passes crossed (inner machine) (outer machine)

theorem Around.raises {α β : Type} {crossed : List Crossing} {inner : Run α} {outer : Run β}
    (around : Around crossed inner outer) {machine after : Machine} {failure : Failure}
    (halted : inner machine = .error (.raised failure) after) :
    ∃ last, outer machine = .error (.raised (marked failure crossed)) last ∧
      last.still = after.still := by
  have passes := around machine
  rw [halted] at passes
  revert passes
  generalize outer machine = ended
  intro passes
  cases passes with
  | leaves calm _ => exact (calm _ rfl).elim
  | stays calm _ => exact (calm _ rfl).elim
  | raises kept => exact ⟨_, rfl, kept⟩

/-- Only a failure of the inner run is a failure of the outer one. -/
theorem Around.raised {α β : Type} {crossed : List Crossing} {inner : Run α} {outer : Run β}
    (around : Around crossed inner outer) {machine last : Machine} {failure : Failure}
    (halted : outer machine = .error (.raised failure) last) :
    ∃ cause after, inner machine = .error (.raised cause) after := by
  have passes := around machine
  rw [halted] at passes
  revert passes
  generalize inner machine = began
  intro passes
  cases passes with
  | leaves calm _ => exact (calm _ rfl).elim
  | raises _ => exact ⟨_, _, rfl⟩

def throwLast (position : Position) : Run Unit := do
  modify Machine.throwTop
  fail .thrown position

/-- What a handler does about a failure that it is given. -/
def handling (env : Environment) (self : Evaluator) (frame : Frame)
    (caught? : Option (String × Position)) (handler : Term) (failure : Failure) : Run Unit := do
  match caught? with
  | some (name, position) =>
      checkScope env frame position
      pushCaught failure
      modify fun machine => machine.declare name false
  | none => pure ()
  self frame handler

theorem attempt_eq (env : Environment) (self : Evaluator) (frame : Frame) (body : Term)
    (caught? : Option (String × Position)) (handler : Term) (machine : Machine) :
    attempt env self frame body caught? handler machine =
      (caught (enclosed (self frame body)) >>= fun failure? =>
        match failure? with
        | none => pure ()
        | some failure =>
            endHandler failure machine.thrown.size
                (enclosed (handling env self frame caught? handler failure)) >>= fun _ =>
              (modify fun last => last.dropTo machine.operands.size) >>= fun _ => push .unit)
        machine := by
  unfold attempt handling
  rfl

theorem attempt_apply (env : Environment) (self : Evaluator) (frame : Frame) (body : Term)
    (caught? : Option (String × Position)) (handler : Term) (machine : Machine) :
    attempt env self frame body caught? handler machine =
      match enclosed (self frame body) machine with
      | .ok _ after => .ok () after
      | .error (.raised failure) after =>
          if failure.problem.isLimit then .error (.raised failure) after
          else
            match endHandler failure machine.thrown.size
                (enclosed (handling env self frame caught? handler failure)) after with
            | .ok _ last => .ok () ((last.dropTo machine.operands.size).push .unit)
            | .error halt last => .error halt last
      | .error halt after => .error halt after := by
  rw [attempt_eq, bind_apply]
  unfold caught
  rcases enclosed (self frame body) machine with ⟨_, after⟩ | ⟨halt, after⟩
  · rfl
  · cases halt with
    | raised failure =>
        dsimp only
        by_cases limit : failure.problem.isLimit = true
        · rw [if_pos limit, if_pos limit]
        · rw [if_neg limit, if_neg limit]
          dsimp only
          rw [bind_apply]
          rcases endHandler failure machine.thrown.size
            (enclosed (handling env self frame caught? handler failure)) after with
            ⟨_, last⟩ | ⟨halt, last⟩ <;> rfl
    | _ => rfl

/-- Runs that consist of steps of a script. -/
inductive Composed (env : Environment) : {α : Type} → Run α → Prop where
  | quiet {α : Type} {work : Run α}
      (calm : ∀ machine, ∃ result after, work machine = .ok result after ∧
        after.still = machine.still) : Composed env work
  | request {α : Type} {work : Run α} (request : Call.Request)
      (asks : ∀ machine, ∃ result after, work machine = .ok result after ∧
        after.still = (machine.callNative env.types request).2.still) : Composed env work
  | native (request : Call.Request) (used : List Nat) (position : Position)
      (checked : Composed env (checkTop env position)) :
      Composed env (native env request used position)
  | refuse {α : Type} (failure : Failure) (unthrown : failure.problem ≠ .thrown)
      (fresh : failure.calls = []) : Composed env (throw (.raised failure) : Run α)
  | leave {α : Type} (halt : Halt) (calm : ∀ failure, halt ≠ .raised failure) :
      Composed env (throw halt : Run α)
  | throwLast (position : Position) : Composed env (throwLast position)
  | bind {α β : Type} {work : Run α} {rest : α → Run β} (first : Composed env work)
      (later : ∀ result, Composed env (rest result)) : Composed env (work >>= rest)
  | around {α β : Type} {crossed : List Crossing} {inner : Run α} {outer : Run β}
      (around : Around crossed inner outer) (inside : Composed env inner) : Composed env outer
  | attempt {self : Evaluator} {frame : Frame} {body handler : Term}
      {caught? : Option (String × Position)} (tried : Composed env (self frame body))
      (handled : ∀ failure, Composed env (handling env self frame caught? handler failure)) :
      Composed env (attempt env self frame body caught? handler)

/-! ### Values thrown -/

/-- What a failure means for the values thrown. -/
def Lost (problem : Problem) (before after : Array Value) : Prop :=
  if problem = .thrown then ∃ value, after = before.push value else after = before

def Settles {α : Type} (before : Array Value) : EStateM.Result Halt Machine α → Prop
  | .ok _ after => after.thrown = before
  | .error (.raised failure) after => Lost failure.problem before after.thrown
  | .error _ after => after.thrown = before

/-- The values thrown stay as they are, but for one more if a throw is let out. -/
def Balanced {α : Type} (work : Run α) : Prop :=
  ∀ machine, Settles machine.thrown (work machine)

theorem settles_of_calm {α : Type} {before : Array Value} {halt : Halt} {after : Machine}
    (calm : ∀ failure, halt ≠ .raised failure) :
    Settles before (.error halt after : EStateM.Result Halt Machine α) ↔
      after.thrown = before := by
  cases halt with
  | raised failure => exact (calm failure rfl).elim
  | _ => rfl

theorem balanced_of_ends {α : Type} {work : Run α}
    (calm : ∀ machine, ∃ result after, work machine = .ok result after ∧
      after.thrown = machine.thrown) : Balanced work := by
  intro machine
  obtain ⟨_, _, same, kept⟩ := calm machine
  rw [same]
  exact kept

theorem thrown_callNative (types : TypeRegistry) (request : Call.Request) (machine : Machine) :
    (machine.callNative types request).2.thrown = machine.thrown := by
  unfold Machine.callNative
  dsimp only
  split <;> rfl

theorem thrown_asked (types : TypeRegistry) (request : Call.Request) (used : List Nat)
    (machine : Machine) :
    ((machine.callNative types request).2.spendAll used).thrown = machine.thrown :=
  (Machine.thrown_of_still (Machine.still_of_inert (Machine.inert_spendAll _ used))).trans
    (thrown_callNative types request machine)

theorem Balanced.bind {α β : Type} {work : Run α} {rest : α → Run β} (first : Balanced work)
    (later : ∀ result, Balanced (rest result)) : Balanced (work >>= rest) := by
  intro machine
  have settled := first machine
  rw [bind_apply]
  cases began : work machine with
  | ok result middle =>
      rw [began] at settled
      have unchanged : middle.thrown = machine.thrown := settled
      have finished := later result middle
      rw [unchanged] at finished
      exact finished
  | error halt middle =>
      rw [began] at settled
      cases halt <;> exact settled

theorem Balanced.around {α β : Type} {crossed : List Crossing} {inner : Run α} {outer : Run β}
    (around : Around crossed inner outer) (inside : Balanced inner) : Balanced outer := by
  intro machine
  have settled := inside machine
  have passes := around machine
  revert settled passes
  generalize inner machine = began, outer machine = ended
  intro settled passes
  cases passes with
  | ends kept => exact (Machine.thrown_of_still kept).trans settled
  | leaves calm kept =>
      exact (settles_of_calm calm).mpr
        ((Machine.thrown_of_still kept).trans ((settles_of_calm calm).mp settled))
  | stays calm kept =>
      exact (Machine.thrown_of_still kept).trans ((settles_of_calm calm).mp settled)
  | raises kept =>
      change Lost (marked _ crossed).problem machine.thrown _
      rw [marked_problem, Machine.thrown_of_still kept]
      exact settled

theorem thrown_dropThrownAt (machine : Machine) (index : Nat) :
    (machine.dropThrownAt index).thrown = machine.thrown.eraseIdxIfInBounds index := by
  unfold Machine.dropThrownAt
  split
  · rw [Machine.release_thrown]
  · rename_i beyond
    have outside : ¬ index < machine.thrown.size := by
      simpa using beyond
    simp [Array.eraseIdxIfInBounds, outside]

theorem erase_pushed (before extra : Array Value) (value : Value) :
    (before.push value ++ extra).eraseIdxIfInBounds before.size = before ++ extra := by
  apply Array.toList_inj.mp
  simp [List.eraseIdx_append_of_length_le]

theorem thrown_finished {problem : Problem} {before extra middle : Array Value} {last : Machine}
    (lost : Lost problem before middle) (later : last.thrown = middle ++ extra) :
    (if problem = .thrown then last.dropThrownAt before.size else last).thrown =
      before ++ extra := by
  unfold Lost at lost
  by_cases thrown : problem = .thrown
  · rw [if_pos thrown] at lost
    obtain ⟨value, pushed⟩ := lost
    rw [if_pos thrown, thrown_dropThrownAt, later, pushed]
    exact erase_pushed before extra value
  · rw [if_neg thrown] at lost
    rw [if_neg thrown, later, lost]

/-- Whether a handler throws once more what it handles: it throws nothing of its own, and from
itself. -/
def throwsAgain (failure : Failure) (machine : Machine) : Bool :=
  failure.problem = .thrown && failure.calls.isEmpty &&
    match machine.thrown.back? with
    | some (.datum .unit) => true
    | _ => false

theorem endHandler_raised (failure : Failure) (kept : Nat) {other : Failure} {handler : Run Unit}
    {middle last : Machine} (ended : handler middle = .error (.raised other) last) :
    endHandler failure kept handler middle =
      if throwsAgain other last then
        .error (.raised (thrownAgain failure other.position?)) last.dropThrown
      else
        .error (.raised other)
          (if failure.problem = .thrown then last.dropThrownAt kept else last) := by
  unfold endHandler
  rw [ended]
  rfl

theorem settles_endHandler {failure : Failure} {before : Array Value} {handler : Run Unit}
    {middle : Machine} (lost : Lost failure.problem before middle.thrown)
    (handled : Settles middle.thrown (handler middle)) :
    Settles before (endHandler failure before.size handler middle) := by
  have finished : ∀ last : Machine, last.thrown = middle.thrown →
      (if failure.problem = .thrown then last.dropThrownAt before.size else last).thrown =
        before := by
    intro last later
    have same : last.thrown = middle.thrown ++ #[] := by rw [later, Array.append_empty]
    have whole := thrown_finished lost same
    rw [whole, Array.append_empty]
  cases ended : handler middle with
  | ok _ last =>
      rw [ended] at handled
      unfold endHandler
      rw [ended]
      exact finished last handled
  | error halt last =>
      rw [ended] at handled
      cases halt with
      | raised other =>
          rw [endHandler_raised failure _ ended]
          change Lost other.problem middle.thrown last.thrown at handled
          -- Thrown once more, the old failure takes the place of the new one, whose value goes.
          by_cases again : throwsAgain other last = true
          · rw [if_pos again]
            change Lost (thrownAgain failure _).problem before last.dropThrown.thrown
            have thrown : other.problem = .thrown := by
              simp only [throwsAgain, Bool.and_eq_true, decide_eq_true_eq] at again
              exact again.1.1
            rw [Lost, if_pos thrown] at handled
            obtain ⟨value, pushed⟩ := handled
            rw [thrownAgain_problem, Machine.thrown_dropThrown, pushed, Array.pop_push]
            exact lost
          · rw [if_neg again]
            change Lost other.problem before _
            unfold Lost at handled ⊢
            by_cases thrown : other.problem = .thrown
            · rw [if_pos thrown] at handled ⊢
              obtain ⟨value, pushed⟩ := handled
              have whole := thrown_finished lost (show last.thrown = _ ++ #[value] from pushed)
              exact ⟨value, whole⟩
            · rw [if_neg thrown] at handled ⊢
              exact finished last handled
      | _ =>
          unfold endHandler
          rw [ended]
          exact finished last handled

/-! ### Runs around runs -/

/-- The machine that a run leaves. -/
def left {α : Type} : EStateM.Result Halt Machine α → Machine
  | .ok _ after | .error _ after => after

/-- Where the outer run ends, all is as it was where the inner run ended, but for moves. -/
def Tidy {α β : Type} (inner : Run α) (outer : Run β) : Prop :=
  ∀ machine, (left (outer machine)).inert = (left (inner machine)).inert

theorem tidy_enclosed (inner : Run Unit) : Tidy inner (enclosed inner) := by
  intro machine
  unfold enclosed
  dsimp only
  cases inner machine with
  | ok _ after => simp [left]
  | error halt after =>
      dsimp only [left]
      split <;> simp

theorem tidy_givingUp {α : Type} (positions : List Nat) (inner : Run α) :
    Tidy inner (givingUp positions inner) := by
  intro machine
  unfold givingUp
  cases inner machine with
  | ok _ after => rfl
  | error halt after => exact after.inert_spendAll positions

theorem tidy_gatheringFrom {α : Type} (before : Nat) (order : Nat → List Nat) (inner : Run α) :
    Tidy inner (gatheringFrom before order inner) := by
  intro machine
  unfold gatheringFrom
  cases inner machine with
  | ok _ after => rfl
  | error halt after => exact after.inert_spendAll _

theorem tidy_gathering {α : Type} (order : Nat → List Nat) (inner : Run α) :
    Tidy inner (gathering order inner) := fun machine =>
  tidy_gatheringFrom machine.operands.size order inner machine

theorem tidy_spendingAfter {α : Type} (position : Nat) (inner : Run α) :
    Tidy inner (spendingAfter position inner) := by
  intro machine
  unfold spendingAfter
  cases inner machine with
  | ok _ after => exact after.inert_spend position
  | error halt after => exact after.inert_spend position

theorem tidy_turn (body : Run Unit) : Tidy body (turn body) := by
  intro machine
  unfold turn
  dsimp only
  cases body machine with
  | ok _ after => simp [left]
  | error halt after => cases halt <;> simp [left]

theorem tidy_runBody (self : Evaluator) (function : Function) (frame : Frame) :
    Tidy (self frame function.body) (runBody self function frame) := by
  intro machine
  unfold runBody
  cases self frame function.body machine with
  | ok _ after => rfl
  | error halt after => cases halt <;> rfl

theorem around_enclosed (inner : Run Unit) : Around [] inner (enclosed inner) := by
  intro machine
  have kept := Machine.still_of_inert (tidy_enclosed inner machine)
  revert kept
  unfold enclosed
  dsimp only
  cases inner machine with
  | ok _ after => exact fun kept => .ends kept
  | error halt after =>
      intro kept
      cases halt with
      | raised failure => exact .raises kept
      | _ => exact .leaves (by simp) kept

theorem around_givingUp {α : Type} (positions : List Nat) (inner : Run α) :
    Around [] inner (givingUp positions inner) := by
  intro machine
  have kept := Machine.still_of_inert (tidy_givingUp positions inner machine)
  revert kept
  unfold givingUp
  cases inner machine with
  | ok _ after => exact fun kept => .ends kept
  | error halt after =>
      intro kept
      cases halt with
      | raised failure => exact .raises kept
      | _ => exact .leaves (by simp) kept

theorem around_gatheringFrom {α : Type} (before : Nat) (order : Nat → List Nat)
    (inner : Run α) : Around [] inner (gatheringFrom before order inner) := by
  intro machine
  have kept := Machine.still_of_inert (tidy_gatheringFrom before order inner machine)
  revert kept
  unfold gatheringFrom
  cases inner machine with
  | ok _ after => exact fun kept => .ends kept
  | error halt after =>
      intro kept
      cases halt with
      | raised failure => exact .raises kept
      | _ => exact .leaves (by simp) kept

theorem around_gathering {α : Type} (order : Nat → List Nat) (inner : Run α) :
    Around [] inner (gathering order inner) := fun machine =>
  around_gatheringFrom machine.operands.size order inner machine

theorem around_spendingAfter {α : Type} (position : Nat) (inner : Run α) :
    Around [] inner (spendingAfter position inner) := by
  intro machine
  have kept := Machine.still_of_inert (tidy_spendingAfter position inner machine)
  revert kept
  unfold spendingAfter
  cases inner machine with
  | ok _ after => exact fun kept => .ends kept
  | error halt after =>
      intro kept
      cases halt with
      | raised failure => exact .raises kept
      | _ => exact .leaves (by simp) kept

theorem around_turn (body : Run Unit) : Around [] body (turn body) := by
  intro machine
  have kept := Machine.still_of_inert (tidy_turn body machine)
  revert kept
  unfold turn
  dsimp only
  cases body machine with
  | ok _ after => exact fun kept => .ends kept
  | error halt after =>
      intro kept
      cases halt with
      | raised failure => exact .raises kept
      | returning => exact .leaves (by simp) kept
      | breaking => exact .stays (by simp) kept
      | continuing => exact .stays (by simp) kept

theorem around_runBody (self : Evaluator) (function : Function) (frame : Frame) :
    Around [] (self frame function.body) (runBody self function frame) := by
  intro machine
  unfold runBody
  cases self frame function.body machine with
  | ok _ after => exact .ends rfl
  | error halt after =>
      cases halt with
      | raised failure => exact .raises rfl
      | returning => exact .stays (by simp) rfl
      | breaking => exact .leaves (by simp) rfl
      | continuing => exact .leaves (by simp) rfl

def marking (crossing : Crossing) (inner : Run Unit) : Run Unit := fun machine =>
  match inner machine with
  | .error (.raised failure) after => .error (.raised (crossing.mark failure)) after
  | result => result

theorem tidy_marking (crossing : Crossing) (inner : Run Unit) :
    Tidy inner (marking crossing inner) := by
  intro machine
  unfold marking
  cases inner machine with
  | ok _ after => rfl
  | error halt after => cases halt <;> rfl

theorem around_marking (crossing : Crossing) (inner : Run Unit) :
    Around [crossing] inner (marking crossing inner) := by
  intro machine
  unfold marking
  cases inner machine with
  | ok _ after => exact .ends rfl
  | error halt after =>
      cases halt with
      | raised failure => exact .raises rfl
      | _ => exact .leaves (by simp) rfl

variable {env : Environment}

theorem native_apply (request : Call.Request) (used : List Nat) (position : Position)
    (machine : Machine) :
    native env request used position machine =
      match (machine.callNative env.types request).1 with
      | .ok _ =>
          checkTop env position ((machine.callNative env.types request).2.spendAll used)
      | .error fault =>
          .error (.raised (.located .thrown position))
            ((((machine.callNative env.types request).2.spendAll used).throwDatum
              (.fault fault)).record .failure) := by
  have looked : native env request used position machine =
      (match (machine.callNative env.types request).1 with
        | .ok _ => checkTop env position
        | .error fault => do
            modify fun machine : Machine => machine.throwDatum (.fault fault)
            fail .thrown position)
        ((machine.callNative env.types request).2.spendAll used) := rfl
  rw [looked]
  cases (machine.callNative env.types request).1 <;> rfl

theorem Composed.balanced {α : Type} {work : Run α} (composed : Composed env work) :
    Balanced work := by
  induction composed with
  | quiet calm =>
      apply balanced_of_ends
      intro machine
      obtain ⟨result, after, ended, kept⟩ := calm machine
      exact ⟨result, after, ended, Machine.thrown_of_still kept⟩
  | request request asks =>
      apply balanced_of_ends
      intro machine
      obtain ⟨result, after, ended, kept⟩ := asks machine
      exact ⟨result, after, ended, (Machine.thrown_of_still kept).trans
        (thrown_callNative env.types request machine)⟩
  | native request used position _ checked =>
      intro machine
      have asked := thrown_asked env.types request used machine
      rw [native_apply]
      cases (machine.callNative env.types request).1 with
      | ok _ =>
          rw [← asked]
          exact checked _
      | error fault =>
          refine ⟨.datum (.fault fault), ?_⟩
          change Array.push _ _ = _
          rw [asked]
  | refuse failure unthrown fresh =>
      intro machine
      change Lost failure.problem machine.thrown machine.thrown
      rw [Lost, if_neg unthrown]
  | leave halt calm => exact fun machine => (settles_of_calm calm).mpr rfl
  | throwLast position => exact fun machine => ⟨machine.operands.back?.getD .unit, rfl⟩
  | bind _ _ first later => exact first.bind later
  | around around _ inside => exact inside.around around
  | attempt _ _ tried handled =>
      -- Limits pass the handler by. After any other failure the handler decides what is thrown.
      intro machine
      have body := (tried.around (around_enclosed _)) machine
      rw [attempt_apply]
      revert body
      generalize enclosed _ machine = began
      intro body
      rcases began with ⟨_, after⟩ | ⟨halt, after⟩
      · exact body
      · cases halt with
        | raised failure =>
            dsimp only
            split
            · exact body
            · have handler := ((handled failure).around (around_enclosed _)) after
              have settled := settles_endHandler body handler
              revert settled
              generalize endHandler failure _ _ after = ended
              intro settled
              rcases ended with ⟨_, last⟩ | ⟨halt, last⟩
              · have dropped : ((last.dropTo machine.operands.size).push .unit).inert =
                    last.inert := by simp
                exact (Machine.thrown_of_still (Machine.still_of_inert dropped)).trans settled
              · cases halt <;> exact settled
        | _ => exact body

/-! ### Invariants of runs -/

/-- An invariant that depends on the slots with their contents, on the random numbers to come and on
what has been requested, and that lasts whatever is printed, removed and requested. -/
structure Steadfast (types : TypeRegistry) (functions : FunctionRegistry) (inv : Machine → Prop) :
    Prop where
  rests : ∀ {before after : Machine}, after.estate = before.estate → before.LinesStay after →
    inv before → inv after
  removes : ∀ {machine : Machine} (handle : Handle), inv machine →
    inv (machine.mapHeap fun heap => heap.remove handle)
  requests : ∀ {machine : Machine} {request : Call.Request}, functions.Offers request →
    inv machine → inv (machine.callNative types request).2

theorem leads_left {α : Type} {inv : Machine → Prop} {work : Run α} {machine : Machine} :
    Leads inv work (fun _ _ => True) machine ↔ inv (left (work machine)) := by
  unfold Leads
  cases work machine with
  | ok _ after => exact and_iff_left trivial
  | error halt after => exact Iff.rfl

theorem endHandler_same {View : Type} {view : Machine → View}
    (drops : ∀ machine : Machine, view machine.dropThrown = view machine)
    (dropsAt : ∀ (machine : Machine) index, view (machine.dropThrownAt index) = view machine)
    (failure : Failure) (kept : Nat) (handler : Run Unit) (machine : Machine) :
    view (left (endHandler failure kept handler machine)) = view (left (handler machine)) := by
  have finished : ∀ last : Machine,
      view (if failure.problem = .thrown then last.dropThrownAt kept else last) = view last := by
    intro last
    split
    · exact dropsAt last kept
    · rfl
  cases ended : handler machine with
  | ok _ last =>
      unfold endHandler
      rw [ended]
      exact finished last
  | error halt last =>
      cases halt with
      | raised other =>
          rw [endHandler_raised failure kept ended]
          split
          · exact drops last
          · exact finished last
      | _ =>
          unfold endHandler
          rw [ended]
          exact finished last

namespace Steadfast

variable {inv : Machine → Prop}

section Heap

variable {types : TypeRegistry} {functions : FunctionRegistry} {machine : Machine}
  (steadfast : Steadfast types functions inv)

include steadfast

theorem moves {before after : Machine} (same : after.inert = before.inert) (kept : inv before) :
    inv after :=
  steadfast.rests (Machine.estate_of_inert same) (.of_inert same) kept

theorem alters (handle : Handle) (change : Resident Occupant → Resident Occupant)
    (same : ∀ resident, (change resident).content = resident.content) (kept : inv machine) :
    inv (machine.mapHeap fun heap => heap.alter handle change) :=
  steadfast.moves (machine.inert_mapHeap (Heap.bare_alter _ handle same)) kept

theorem reclaims (handle : Handle) (kept : inv machine) :
    inv (machine.mapHeap fun heap => heap.reclaim handle) := by
  cases unclaimed : machine.store.heap.unclaimed handle with
  | true =>
      have removed : machine.mapHeap (fun heap => heap.reclaim handle) =
          machine.mapHeap fun heap => heap.remove handle :=
        congrArg (fun heap => machine.mapHeap fun _ => heap) (if_pos unclaimed)
      rw [removed]
      exact steadfast.removes handle kept
  | false =>
      have left : machine.mapHeap (fun heap => heap.reclaim handle) = machine :=
        congrArg (fun heap => machine.mapHeap fun _ => heap)
          (if_neg (unclaimed ▸ Bool.false_ne_true))
      rw [left]
      exact kept

theorem sweeps (handles : List Handle) (freed : Nat) (kept : inv machine) :
    inv (machine.mapHeap fun heap => (heap.sweep handles freed).2) := by
  induction handles generalizing freed machine with
  | nil => exact kept
  | cons handle rest ih =>
      cases unclaimed : machine.store.heap.unclaimed handle with
      | true =>
          have removed : machine.mapHeap (fun heap => (heap.sweep (handle :: rest) freed).2) =
              (machine.mapHeap fun heap => heap.remove handle).mapHeap fun heap =>
                (heap.sweep rest (freed + 1)).2 :=
            congrArg (fun swept : Nat × Heap Occupant => machine.mapHeap fun _ => swept.2)
              (if_pos unclaimed)
          rw [removed]
          exact ih (freed + 1) (steadfast.removes handle kept)
      | false =>
          have left : machine.mapHeap (fun heap => (heap.sweep (handle :: rest) freed).2) =
              machine.mapHeap fun heap => (heap.sweep rest freed).2 :=
            congrArg (fun swept : Nat × Heap Occupant => machine.mapHeap fun _ => swept.2)
              (if_neg (unclaimed ▸ Bool.false_ne_true))
          rw [left]
          exact ih freed kept

theorem collects (kept : inv machine) : inv machine.collect := by
  have emptied : inv (machine.mapHeap fun heap => ⟨heap.slots, heap.free, heap.live, #[]⟩) :=
    steadfast.moves (machine.inert_mapHeap rfl) kept
  exact steadfast.sweeps machine.store.heap.released.toList 0 emptied

end Heap

theorem encloses {α β : Type} (steadfast : Steadfast env.types env.functions inv) {inner : Run α}
    {outer : Run β} (tidy : Tidy inner outer) (keeps : Keeps inv inner) : Keeps inv outer := by
  intro machine kept
  rw [leads_left]
  exact steadfast.moves (tidy machine) (leads_left.mp (keeps machine kept))

theorem throws (steadfast : Steadfast env.types env.functions inv) (position : Position) :
    Keeps inv (throwLast position) := by
  intro machine kept
  have thrown : machine.throwTop.estate = machine.estate := rfl
  exact steadfast.moves (Machine.inert_recordFailure _) (steadfast.rests thrown (.of_eq rfl) kept)

theorem asks (steadfast : Steadfast env.types env.functions inv) {request : Call.Request}
    (offered : env.functions.Offers request) (used : List Nat) (position : Position)
    (checked : Keeps inv (checkTop env position)) :
    Keeps inv (native env request used position) := by
  intro machine kept
  have asked := steadfast.requests offered kept
  have spent := steadfast.moves (Machine.inert_spendAll _ used) asked
  unfold Leads
  rw [native_apply]
  cases (machine.callNative env.types request).1 with
  | ok _ => exact checked _ spent
  | error fault =>
      let last := (machine.callNative env.types request).2.spendAll used
      have thrown : (last.throwDatum (.fault fault)).estate = last.estate := rfl
      exact steadfast.moves (Machine.inert_recordFailure _)
        (steadfast.rests thrown (.of_eq rfl) spent)

theorem attempts (steadfast : Steadfast env.types env.functions inv) {self : Evaluator} {frame : Frame}
    {body handler : Term} {caught? : Option (String × Position)}
    (tried : Keeps inv (self frame body))
    (handled : ∀ failure, Keeps inv (handling env self frame caught? handler failure)) :
    Keeps inv (attempt env self frame body caught? handler) := by
  intro machine kept
  have body := leads_left.mp (steadfast.encloses (tidy_enclosed _) tried machine kept)
  rw [leads_left, attempt_apply]
  revert body
  generalize enclosed _ machine = began
  intro body
  rcases began with ⟨_, after⟩ | ⟨halt, after⟩
  · exact body
  · cases halt with
    | raised failure =>
        dsimp only
        split
        · exact body
        · have finished := leads_left.mp
            (steadfast.encloses (tidy_enclosed _) (handled failure) after body)
          have ended : inv (left (endHandler failure machine.thrown.size
              (enclosed (handling env self frame caught? handler failure)) after)) :=
            steadfast.rests
              (endHandler_same Machine.estate_dropThrown Machine.estate_dropThrownAt _ _ _ _)
              (.of_eq (endHandler_same Machine.output_dropThrown Machine.output_dropThrownAt
                _ _ _ _)) finished
          revert ended
          generalize endHandler failure _ _ after = result
          intro ended
          rcases result with ⟨_, last⟩ | ⟨halt, last⟩
          · have dropped : ((last.dropTo machine.operands.size).push .unit).inert =
                last.inert := by simp
            exact steadfast.moves dropped ended
          · exact ended
    | _ => exact body

end Steadfast

/-! ### Runs that are oblivious of notes -/

theorem oblivious_marking (crossing : Crossing) {inner : Run Unit} (oblivious : Oblivious inner) :
    Oblivious (marking crossing inner) := by
  intro earlier machine
  have same := oblivious earlier machine
  unfold marking
  rw [same]
  cases inner machine with
  | ok _ after => rfl
  | error halt after => cases halt <;> rfl

theorem oblivious_throwLast (position : Position) : Oblivious (throwLast position) := by
  intro earlier machine
  have noted := machine.throwTop.noting_record earlier .failure
  exact congrArg (EStateM.Result.error _) noted

theorem oblivious_native {request : Call.Request} {used : List Nat} {position : Position}
    (checked : Oblivious (checkTop env position)) :
    Oblivious (native env request used position) := by
  intro earlier machine
  rw [native_apply, native_apply, Machine.noting_callNative]
  cases (machine.callNative env.types request).1 with
  | ok _ =>
      dsimp only
      rw [Machine.noting_spendAll]
      exact checked earlier _
  | error fault =>
      let last := (machine.callNative env.types request).2.spendAll used
      have noted := (last.throwDatum (.fault fault)).noting_record earlier .failure
      dsimp only
      rw [Machine.noting_spendAll]
      exact congrArg (EStateM.Result.error _) noted

theorem oblivious_endHandler (failure : Failure) (kept : Nat) {handler : Run Unit}
    (oblivious : Oblivious handler) : Oblivious (endHandler failure kept handler) := by
  intro earlier machine
  have finished : ∀ last : Machine,
      (if failure.problem = .thrown then (last.noting earlier).dropThrownAt kept
        else last.noting earlier) =
      (if failure.problem = .thrown then last.dropThrownAt kept else last).noting earlier := by
    intro last
    split
    · exact last.noting_dropThrownAt earlier kept
    · rfl
  have same := oblivious earlier machine
  cases ended : handler machine with
  | ok _ last =>
      rw [ended] at same
      unfold endHandler
      rw [same, ended]
      exact congrArg (EStateM.Result.ok ()) (finished last)
  | error halt last =>
      rw [ended] at same
      cases halt with
      | raised other =>
          rw [endHandler_raised failure kept same, endHandler_raised failure kept ended]
          have again : throwsAgain other (last.noting earlier) = throwsAgain other last := rfl
          rw [again]
          split
          · exact congrArg (EStateM.Result.error _) (last.noting_dropThrown earlier)
          · exact congrArg (EStateM.Result.error _) (finished last)
      | _ =>
          unfold endHandler
          rw [same, ended]
          exact congrArg (EStateM.Result.error _) (finished last)

theorem oblivious_attempt {self : Evaluator} {frame : Frame} {body handler : Term}
    {caught? : Option (String × Position)} (tried : Oblivious (self frame body))
    (handled : ∀ failure, Oblivious (handling env self frame caught? handler failure)) :
    Oblivious (attempt env self frame body caught? handler) := by
  intro earlier machine
  have body := oblivious_enclosed tried earlier machine
  rw [attempt_apply, attempt_apply, body]
  rcases enclosed _ machine with ⟨_, after⟩ | ⟨halt, after⟩
  · rfl
  · cases halt with
    | raised failure =>
        dsimp only [changed]
        split
        · rfl
        · have ended := oblivious_endHandler failure machine.thrown.size
            (oblivious_enclosed (handled failure)) earlier after
          change (match endHandler failure machine.thrown.size _ (after.noting earlier) with
            | .ok _ last => EStateM.Result.ok () ((last.dropTo machine.operands.size).push .unit)
            | .error halt last => .error halt last) = _
          rw [ended]
          rcases endHandler failure machine.thrown.size _ after with ⟨_, last⟩ | ⟨halt, last⟩
          · exact congrArg (fun last => EStateM.Result.ok () (last.push .unit))
              (last.noting_dropTo earlier machine.operands.size)
          · rfl
    | _ => rfl

/-- A composed run that keeps all such invariants and is oblivious of notes. -/
structure Made (env : Environment) {α : Type} (work : Run α) : Prop where
  composed : Composed env work
  keeps : ∀ {inv : Machine → Prop}, Steadfast env.types env.functions inv → Keeps inv work
  oblivious : Oblivious work

namespace Made

variable {α β : Type} {work : Run α}

theorem quiet (calm : ∀ machine, ∃ result after, work machine = .ok result after ∧
    after.inert = machine.inert) (oblivious : Oblivious work) : Made env work where
  composed := .quiet fun machine => by
    obtain ⟨result, after, ended, kept⟩ := calm machine
    exact ⟨result, after, ended, Machine.still_of_inert kept⟩
  keeps steadfast := by
    intro machine kept
    obtain ⟨result, after, ended, same⟩ := calm machine
    unfold Leads
    rw [ended]
    exact ⟨steadfast.moves same kept, trivial⟩
  oblivious := oblivious

theorem request {request : Call.Request} (offered : env.functions.Offers request)
    (asks : ∀ machine, ∃ result after, work machine = .ok result after ∧
      after.inert = (machine.callNative env.types request).2.inert)
    (oblivious : Oblivious work) : Made env work where
  composed := .request request fun machine => by
    obtain ⟨result, after, ended, kept⟩ := asks machine
    exact ⟨result, after, ended, Machine.still_of_inert kept⟩
  keeps steadfast := by
    intro machine kept
    obtain ⟨result, after, ended, same⟩ := asks machine
    unfold Leads
    rw [ended]
    exact ⟨steadfast.moves same (steadfast.requests offered kept), trivial⟩
  oblivious := oblivious

theorem native {request : Call.Request} (offered : env.functions.Offers request)
    (used : List Nat) (position : Position) (checked : Made env (checkTop env position)) :
    Made env (native env request used position) :=
  ⟨.native request used position checked.composed, fun steadfast =>
    steadfast.asks offered used position (checked.keeps steadfast),
    oblivious_native checked.oblivious⟩

theorem refuse (failure : Failure) (unthrown : failure.problem ≠ .thrown)
    (fresh : failure.calls = []) : Made env (throw (.raised failure) : Run α) :=
  ⟨.refuse failure unthrown fresh, fun _ => Keeps.of_error _, fun _ => Commutes.of_error _⟩

theorem leave (halt : Halt) (calm : ∀ failure, halt ≠ .raised failure) :
    Made env (throw halt : Run α) :=
  ⟨.leave halt calm, fun _ => Keeps.of_error _, fun _ => Commutes.of_error _⟩

theorem prints (line : String) :
    Made env (modify (fun machine => machine.print line) : Run PUnit) where
  composed := .quiet fun machine => ⟨.unit, machine.print line, rfl, rfl⟩
  keeps steadfast := fun machine kept =>
    ⟨@Steadfast.rests _ _ _ steadfast machine (machine.print line) rfl
      (machine.linesStay_print line) kept, trivial⟩
  oblivious := fun earlier machine =>
    congrArg (EStateM.Result.ok PUnit.unit) (machine.noting_print earlier line)

theorem throwLast (position : Position) : Made env (throwLast position) :=
  ⟨.throwLast position, fun steadfast => steadfast.throws position, oblivious_throwLast position⟩

theorem bind {rest : α → Run β} (first : Made env work) (later : ∀ result, Made env (rest result)) :
    Made env (work >>= rest) :=
  ⟨.bind first.composed fun result => (later result).composed, fun steadfast =>
    (first.keeps steadfast).bind fun result => (later result).keeps steadfast, fun earlier =>
    (first.oblivious earlier).bind fun result => (later result).oblivious earlier⟩

theorem around {crossed : List Crossing} {inner : Run α} {outer : Run β}
    (around : Around crossed inner outer) (tidy : Tidy inner outer)
    (oblivious : Oblivious inner → Oblivious outer) (inside : Made env inner) : Made env outer :=
  ⟨.around around inside.composed, fun steadfast =>
    steadfast.encloses tidy (inside.keeps steadfast), oblivious inside.oblivious⟩

theorem attempt {self : Evaluator} {frame : Frame} {body handler : Term}
    {caught? : Option (String × Position)} (tried : Made env (self frame body))
    (handled : ∀ failure, Made env (handling env self frame caught? handler failure)) :
    Made env (attempt env self frame body caught? handler) :=
  ⟨.attempt tried.composed fun failure => (handled failure).composed, fun steadfast =>
    steadfast.attempts (tried.keeps steadfast) fun failure => (handled failure).keeps steadfast,
    oblivious_attempt tried.oblivious fun failure => (handled failure).oblivious⟩

end Made

theorem output_callNative (types : TypeRegistry) (request : Call.Request) (machine : Machine) :
    (machine.callNative types request).2.output = machine.output := by
  unfold Machine.callNative
  dsimp only
  split <;> rfl

theorem steadfast_linesStay (types : TypeRegistry) (functions : FunctionRegistry)
    (start : Machine) : Steadfast types functions start.LinesStay where
  rests _ lines kept := List.IsPrefix.trans kept lines
  removes _ kept := kept
  requests {machine request} _ kept :=
    List.IsPrefix.trans kept (Machine.LinesStay.of_eq (output_callNative types request machine))

theorem Made.linesStay {α : Type} {work : Run α} (made : Made env work) (machine : Machine) :
    machine.LinesStay (left (work machine)) :=
  leads_left.mp
    (made.keeps (steadfast_linesStay env.types env.functions machine) machine List.prefix_rfl)

end ScriptHost.Script.Run
