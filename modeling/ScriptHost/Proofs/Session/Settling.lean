import ScriptHost.Proofs.Session.Collection

/-!
What operations leave behind.

An operation on a session in which every live instance has a claim leaves such a session, except in
two cases: a run gives up what its script has thrown after it has collected, and setting a variable
does not collect. What is left behind is what loses its last reference there.
-/

set_option autoImplicit false

namespace ScriptHost

open Script

theorem Heap.Tight.not_idle {heap : Heap Occupant} {holdings : List Holding}
    (tight : heap.Tight holdings) (handle : Handle) : ¬ heap.Idle holdings handle := by
  rintro ⟨unpinned, unreferenced⟩
  obtain ⟨resident, found, _⟩ := Option.map_eq_some_iff.mp unpinned
  rcases (tight handle).mp (contains_iff.mpr ⟨resident, found⟩) with pinned | referenced
  · rw [unpinned] at pinned
    cases pinned
  · exact unreferenced referenced

namespace Session

variable {session later : Session} {handle : Handle}

/-- An instance loses its last reference when a run gives up what its script has thrown. -/
def LostByRun (session : Session) (text : String) (handle : Handle) : Prop :=
  ∃ outcome ended, runToEnd text session = .ok outcome ended ∧
    Machine.Loses ended.machine ended.machine.dropAllThrown handle

/-- An instance loses its last reference when a variable is set. -/
def LostBySetting (session : Session) (name : String) (value : HostValue) (handle : Handle) :
    Prop :=
  Machine.Loses session.machine (session.perform (.setGlobal name value)).2.machine handle

/-- The instances that an operation leaves behind without a claim. -/
def Leaves (session : Session) (operation : Operation) (handle : Handle) : Prop :=
  match operation with
  | .run text => session.LostByRun text handle
  | .runFile file => ∃ text, file.text = .ok text ∧ session.LostByRun text handle
  | .setGlobal name value => session.LostBySetting name value handle
  | _ => False

def final {α : Type} (action : Action α) (session : Session) : Session :=
  match action session with
  | .ok _ later => later
  | .error _ later => later

theorem perform_done {operation : Operation} {action : Action Unit}
    (same : operation.perform = done action) (session : Session) :
    (session.perform operation).2 = final action session := by
  unfold perform final
  rw [same]
  unfold done
  rw [bind_apply]
  cases action session with
  | ok result later => rfl
  | error fault later => rfl

theorem final_ofResult {α : Type} (result : Except Fault α) (session : Session) :
    final (ofResult result) session = session := by
  cases result with
  | ok value => rfl
  | error fault => rfl

theorem run_failed {text : String} {fault : Fault} (ready : session.phase = .ready)
    (failed : runToEnd text session = .error fault session) :
    run text session = .error fault session := by
  unfold run whenReady
  rw [ready]
  change (runToEnd text >>= _) session = _
  rw [bind_apply, failed]

theorem run_ended {text : String} {outcome : Except Fault Unit} (ready : session.phase = .ready)
    (ended : runToEnd text session = .ok outcome later) :
    run text session = ofResult outcome (later.withMachine later.machine.dropAllThrown) := by
  unfold run whenReady
  rw [ready]
  change (runToEnd text >>= _) session = _
  rw [bind_apply, ended]
  rfl

theorem runFile_eq {file : SourceFile} (ready : session.phase = .ready) :
    runFile file session =
      match file.text with
      | .ok text => run text session
      | .error fault => .error fault session := by
  unfold runFile whenReady
  rw [ready]
  change (ofResult file.text >>= run) session = _
  rw [bind_apply]
  cases file.text with
  | ok text => rfl
  | error fault => rfl

/-- A run from a session without idle instances leaves what loses its last reference with the
values thrown. -/
theorem idle_run_iff {promised : Handle → TypeId → Prop} {earlier : Moment → Prop}
    (sound : session.Sound promised earlier fun _ => False) (ready : session.phase = .ready)
    (text : String) :
    (final (run text) session).machine.store.heap.Idle
      (final (run text) session).machine.holdings handle ↔ session.LostByRun text handle := by
  rcases runToEnd_cases sound text with
    ⟨fault, failed⟩ | ⟨outcome, closures, library, machine, ended, kept, _, settled⟩
  · have unchanged : final (run text) session = session := by
      unfold final
      rw [run_failed ready failed]
    rw [unchanged]
    constructor
    · intro idle
      exact (sound.tidy handle (sound.unclaimed_iff_idle.mpr idle)).elim
    · rintro ⟨_, _, other, _⟩
      rw [failed] at other
      cases other
  · have cleared : (final (run text) session).machine = machine.dropAllThrown := by
      unfold final
      rw [run_ended ready ended]
      exact congrArg Session.machine (final_ofResult outcome _)
    have pins := Machine.pinned?_dropAllThrown machine
    rw [cleared]
    constructor
    · intro idle
      have unclaimed := kept.dropAllThrown.unclaimed_iff_idle.mpr idle
      rcases kept.unclaimed_or_loses kept.dropAllThrown pins unclaimed with before | loses
      · exact absurd before settled.claimed
      · exact ⟨outcome, _, ended, loses⟩
    · rintro ⟨_, _, other, loses⟩
      rw [ended] at other
      injection other with _ same
      rw [← same] at loses
      exact loses.idle pins

def SamePins (before later : Session) : Prop :=
  later.machine.store.heap.pinned? = before.machine.store.heap.pinned?

theorem leads_bind_pins {before : Session} (same : SamePins before session) (name : String) :
    Leads (SamePins before) (bind name) (fun _ _ => True) session := by
  apply Leads.get_bind
  dsimp only
  split
  · exact ⟨same, trivial⟩
  · rename_i index found
    split
    · apply leads_onMachine
      have pins := congrArg (fun aside => aside.2.2.2) (Machine.aside_dropTo 0 session.machine)
      exact pins.trans same
    · exact ⟨(Machine.pinned?_redeclare session.machine index false).trans same, trivial⟩

theorem leads_setGlobal_pins (session : Session) (name : String) (value : HostValue) :
    Leads (SamePins session) (setGlobal name value) (fun _ _ => True) session := by
  have same : SamePins session session := rfl
  apply leads_whenReady same
  intro _
  split
  · exact same
  · apply leads_onMachine
    rcases Machine.receive_cases session.machine value with
      ⟨fault, refused⟩ | ⟨store, script, leaf, pins, accepted⟩
    · rw [refused]
      exact same
    · rw [accepted]
      refine leads_bind_pins ?_ name
      exact pins

theorem Reachable.settled (reachable : session.Reachable) (ready : session.phase = .ready)
    (tight : session.machine.store.heap.Tight session.machine.holdings) :
    session.Sound (fun _ _ => False) (fun _ => False) fun _ => False := by
  have sound := reachable.sound (alive_of_ready ready)
  refine ⟨sound.alive, sound.machine, sound.operands, sound.thrown, fun handle unclaimed => ?_⟩
  exact tight.not_idle handle (sound.unclaimed_iff_idle.mp unclaimed)

theorem idle_iff_leaves (reachable : session.Reachable) (ready : session.phase = .ready)
    (tight : session.machine.store.heap.Tight session.machine.holdings) {operation : Operation}
    (ends : operation ≠ .teardown) :
    (session.perform operation).2.machine.store.heap.Idle
      (session.perform operation).2.machine.holdings handle ↔
        session.Leaves operation handle := by
  have sound := reachable.settled ready tight
  by_cases tidy : operation.MayLeave
  · cases operation with
    | run text =>
        rw [perform_done rfl session]
        exact idle_run_iff sound ready text
    | runFile file =>
        rw [perform_done rfl session]
        unfold final
        rw [runFile_eq ready]
        unfold Leaves
        cases read : file.text with
        | ok text =>
            apply (idle_run_iff sound ready text).trans
            constructor
            · intro lost
              exact ⟨text, read, lost⟩
            · rintro ⟨other, same, lost⟩
              rw [read] at same
              injection same with same
              exact same ▸ lost
        | error fault =>
            constructor
            · intro idle
              exact (sound.tidy handle (sound.unclaimed_iff_idle.mpr idle)).elim
            · rintro ⟨other, same, _⟩
              rw [read] at same
              cases same
    | setGlobal name value =>
        have pins : SamePins session (session.perform (.setGlobal name value)).2 := by
          have leads : Leads _ (Operation.perform (.setGlobal name value)) _ session :=
            leads_done (leads_setGlobal_pins session name value)
          exact (perform_of_leads leads).1
        have after := (reachable.sound sound.alive).perform ends
          (fun _ _ _ none => none) fun _ _ => trivial
        constructor
        · intro idle
          have unclaimed := after.unclaimed_iff_idle.mpr idle
          rcases sound.machine.unclaimed_or_loses after.machine pins unclaimed with before | loses
          · exact (sound.tidy handle before).elim
          · exact loses
        · intro loses
          exact loses.idle pins
    | _ => exact tidy.elim
  · have after := sound.perform ends (fun _ _ _ none => none) fun may => absurd may tidy
    have none : ¬ session.Leaves operation handle := by
      intro leaves
      cases operation with
      | run text => exact tidy trivial
      | runFile file => exact tidy trivial
      | setGlobal name value => exact tidy trivial
      | _ => exact leaves
    constructor
    · intro idle
      exact (after.tidy handle (after.unclaimed_iff_idle.mpr idle)).elim
    · intro leaves
      exact absurd leaves none

theorem Sound.tight_iff {promised : Handle → TypeId → Prop} {earlier : Moment → Prop}
    {spare : Handle → Prop} (sound : session.Sound promised earlier spare) :
    session.machine.store.heap.Tight session.machine.holdings ↔
      ∀ handle, ¬ session.machine.store.heap.Idle session.machine.holdings handle := by
  constructor
  · intro tight handle
    exact tight.not_idle handle
  · intro claimed
    have accounts := sound.machine.accounts
    rw [zero_add, ← Machine.coe_holdings] at accounts
    apply accounts.tight
    intro handle
    by_contra unclaimed
    rw [Bool.not_eq_false] at unclaimed
    exact claimed handle (sound.unclaimed_iff_idle.mp unclaimed)

/-- From a session in which every live instance has a claim, an operation leads to such a session
exactly if no instance loses its last reference where it does not collect any more: with the values
that the script of a run has thrown, or with the value that a variable had before it is set. A
collection right afterwards frees just these instances. What a captured variable holds is referred
to while its cell is, be it only by itself: cells in a cycle keep their instances. -/
theorem leftovers_are_exact (reachable : session.Reachable) (ready : session.phase = .ready)
    (tight : session.machine.store.heap.Tight session.machine.holdings) {operation : Operation}
    (ends : operation ≠ .teardown) :
    (∀ handle, (session.perform operation).2.machine.store.heap.Idle
      (session.perform operation).2.machine.holdings handle ↔
        session.Leaves operation handle) ∧
    ((session.perform operation).2.machine.store.heap.Tight
      (session.perform operation).2.machine.holdings ↔
        ∀ handle, ¬ session.Leaves operation handle) ∧
    ∃ (left : Finset Handle) (later : Session),
      (∀ handle, handle ∈ left ↔ session.Leaves operation handle) ∧
      collect (session.perform operation).2 = .ok left.card later := by
  have readyAfter := perform_ready ready ends
  have aliveAfter : (session.perform operation).2.phase ≠ .tornDown := by
    rw [readyAfter]
    exact nofun
  have sound := (Reachable.performed operation reachable).sound aliveAfter
  have leaves := fun handle => @idle_iff_leaves session handle reachable ready tight _ ends
  refine ⟨leaves, ?_, ?_⟩
  · rw [sound.tight_iff]
    exact forall_congr' fun handle => not_congr (leaves handle)
  · obtain ⟨left, member, collected⟩ := sound.collects readyAfter
    exact ⟨left, _, fun handle => (member handle).trans (leaves handle), collected⟩

/-- A script that throws a new token leaves it behind. -/
theorem thrown_token_is_left :
    hosting.phase = .ready ∧
      hosting.machine.store.heap.Tight hosting.machine.holdings ∧
      ∃ later, collect (hosting.perform (.run "throw Token();")).2 = .ok 1 later := by
  have ready : hosting.phase = .ready := by decide +kernel
  have alive : hosting.phase ≠ .tornDown := by decide +kernel
  have claimed : ∀ handle ∈ hosting.machine.store.heap.handles,
      hosting.machine.store.heap.unclaimed handle = false := by decide +kernel
  have tight := hosting_reachable.tight alive (Heap.settled_of_handles claimed)
  have ends : Operation.run "throw Token();" ≠ .teardown := nofun
  have counted : (hosting.perform (.run "throw Token();")).2.machine.store.heap.collect.1 = 1 := by
    decide +kernel
  obtain ⟨_, _, left, later, _, collected⟩ :=
    leftovers_are_exact hosting_reachable ready tight ends
  have amount := collected
  rw [collect_eq (perform_ready ready ends), counted] at amount
  injection amount with amount _
  rw [← amount] at collected
  exact ⟨ready, tight, later, collected⟩

/-- Setting a variable leaves the token that it replaces, although every instance had a claim. -/
theorem replaced_token_is_left :
    ¬ ∀ (session : Session) (name : String) (value : HostValue), session.Reachable →
      session.phase = .ready → session.machine.store.heap.Tight session.machine.holdings →
      (session.perform (.setGlobal name value)).2.machine.store.heap.Tight
        (session.perform (.setGlobal name value)).2.machine.holdings := by
  intro settles
  have ready : holding.phase = .ready := by decide +kernel
  have alive : holding.phase ≠ .tornDown := by decide +kernel
  have claimed : ∀ handle ∈ holding.machine.store.heap.handles,
      holding.machine.store.heap.unclaimed handle = false := by decide +kernel
  have unclaimed : (holding.perform (.setGlobal "a" .null)).2.machine.store.heap.unclaimed
      ⟨0, 0⟩ = true := by decide +kernel
  have tight := holding_reachable.tight alive (Heap.settled_of_handles claimed)
  have after := settles holding "a" .null holding_reachable ready tight
  have aliveAfter : (holding.perform (.setGlobal "a" .null)).2.phase ≠ .tornDown := by
    decide +kernel
  have sound := (Reachable.performed (.setGlobal "a" .null) holding_reachable).sound aliveAfter
  exact after.not_idle ⟨0, 0⟩ (sound.unclaimed_iff_idle.mp unclaimed)

end Session
end ScriptHost
