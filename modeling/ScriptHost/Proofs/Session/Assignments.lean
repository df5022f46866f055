import ScriptHost.Proofs.Session.Globals

/-!
Variables that the host sets and reads.

A host can set a variable if it may use the name, the value is no handle of an instance that is
gone, and the name stands for no constant. Then it reads the value back under this name, and under
every other name what it has read there before. If it cannot set the variable, nothing has changed
that it could find out: a value that had already been let in has been given up again.
-/

set_option autoImplicit false

namespace ScriptHost

open Script

namespace Script.Name

def hostReserved : List String :=
  (keywords ++ builtinNames ++ reservedWords).erase "is"

theorem isFreeForHost_iff {name : String} :
    isFreeForHost name = true ↔ name ∉ hostReserved := by
  have distinct : (keywords ++ builtinNames ++ reservedWords).Nodup := by decide +kernel
  unfold hostReserved
  rw [distinct.mem_erase_iff]
  unfold isFreeForHost isFree
  simp only [Bool.or_eq_true, Bool.and_eq_true, Bool.not_eq_true', List.contains_eq_mem,
    decide_eq_false_iff_not, beq_iff_eq, List.mem_append, not_or, not_and, ne_eq]
  tauto

end Script.Name

namespace Session

variable {session : Session} {name other : String} {value : HostValue}

theorem global_eq (ready : session.phase = .ready) (name : String) :
    ∃ later, global name session = ofResult (session.machine.shown name) later := by
  unfold global whenReady
  rw [ready]
  dsimp only
  rw [get_bind_apply]
  cases found : session.machine.findVariable? 0 name with
  | none =>
      have absent : session.machine.binding? name = none := by
        rw [Machine.binding?_eq, found, Option.bind_none]
      unfold Machine.shown
      rw [absent]
      exact ⟨_, rfl⟩
  | some index =>
      obtain ⟨entry, here, _⟩ := Machine.name_of_findVariable? found
      rw [← Machine.handOver_copy found here]
      exact ⟨_, rfl⟩

theorem perform_global (ready : session.phase = .ready) (name : String) :
    (session.perform (.global name)).1 = (session.machine.shown name).map .value := by
  obtain ⟨later, ended⟩ := global_eq ready name
  rw [perform_value rfl ended]

theorem pins_global (reachable : session.Reachable) (ready : session.phase = .ready)
    {handle : Handle} (given : (session.perform (.global name)).1 = .ok (.value (.object handle))) :
    (session.perform (.global name)).2.machine.store.heap.Pins handle := by
  have sound := reachable.sound (alive_of_ready ready)
  have leads := leads_perform sound (.global name) nofun nofun nofun
  exact (perform_of_leads leads).2 _ given handle rfl

/-- A host can set the variable to the value. -/
structure MaySet (session : Session) (name : String) (value : HostValue) : Prop where
  identifier : Name.isIdentifier name = true
  unreserved : name ∉ Name.hostReserved
  live : ∀ handle, value = .object handle → session.machine.store.heap.contains handle = true
  changeable : ∀ entry, session.machine.binding? name = some entry → entry.constant = false

theorem perform_setGlobal (ready : session.phase = .ready) (may : session.MaySet name value) :
    ∃ held machine, session.machine.Receives value held machine ∧
      session.perform (.setGlobal name value) =
        (.ok .done, session.withMachine (machine.put name)) := by
  obtain ⟨held, machine, receives⟩ := Machine.receive_live may.live
  have changeable : ∀ entry, machine.binding? name = some entry → entry.constant = false := by
    rw [receives.binding?_eq]
    exact may.changeable
  refine ⟨held, machine, receives, perform_done_ok rfl ?_⟩
  rw [setGlobal_named ready may.identifier (Name.isFreeForHost_iff.mpr may.unreserved),
    receives.received]
  exact bind_changeable changeable

/-- A value that has been let in is given up again if it cannot be put under the name. -/
theorem refuse_setGlobal (ready : session.phase = .ready)
    (empty : session.machine.operands = #[]) (refused : ¬ session.MaySet name value) :
    ∃ fault store, store.heap.bare = session.machine.store.heap.bare ∧
      store.heap.pinned? = session.machine.store.heap.pinned? ∧
      session.perform (.setGlobal name value) =
        (.error fault, session.withMachine { session.machine with store := store }) := by
  by_cases named : Name.isIdentifier name = true ∧ Name.isFreeForHost name = true
  · have steps := setGlobal_named ready named.1 named.2 value
    by_cases live : ∀ handle, value = .object handle →
        session.machine.store.heap.contains handle = true
    · have fixed : ¬ ∀ entry, session.machine.binding? name = some entry →
          entry.constant = false := fun changeable =>
        refused ⟨named.1, Name.isFreeForHost_iff.mp named.2, live, changeable⟩
      obtain ⟨entry, unchangeable⟩ := not_forall.mp fixed
      obtain ⟨bound, constant⟩ := Classical.not_imp.mp unchangeable
      obtain ⟨held, machine, receives⟩ := Machine.receive_live live
      obtain ⟨store, bare, pins, dropped⟩ := receives.dropTo_zero empty
      rw [← receives.binding?_eq] at bound
      rw [receives.received] at steps
      dsimp only at steps
      rw [bind_constant bound (Bool.eq_true_of_not_eq_false constant), dropped] at steps
      exact ⟨_, store, bare, pins, perform_done_error rfl steps⟩
    · obtain ⟨handle, gone⟩ := not_forall.mp live
      obtain ⟨rfl, dead⟩ := Classical.not_imp.mp gone
      rw [Machine.receive_dead (Bool.eq_false_of_not_eq_true dead)] at steps
      exact ⟨_, session.machine.store, rfl, rfl, perform_done_error rfl steps⟩
  · exact ⟨_, session.machine.store, rfl, rfl,
      perform_done_error rfl (setGlobal_misnamed ready named value)⟩

/-- What a host finds after it has set a variable. -/
structure Assigned (before after : Session) (name : String) (value : HostValue) : Prop where
  own : (after.perform (.global name)).1 = .ok (.value value)
  pinned : ∀ handle, value = .object handle →
    (after.perform (.global name)).2.machine.store.heap.Pins handle
  others : ∀ other, other ≠ name →
    (after.perform (.global other)).1 = (before.perform (.global other)).1

/-- What a host can find out is the same. -/
structure Untouched (before after : Session) : Prop where
  globals : ∀ name, (after.perform (.global name)).1 = (before.perform (.global name)).1
  library : after.library = before.library
  closures : after.closures = before.closures
  contents : after.machine.store.heap.content? = before.machine.store.heap.content?
  pins : after.machine.store.heap.pinned? = before.machine.store.heap.pinned?

theorem MaySet.assigned (reachable : session.Reachable) (ready : session.phase = .ready)
    (may : session.MaySet name value) :
    Assigned session (session.perform (.setGlobal name value)).2 name value := by
  have readyAfter := perform_ready ready (show Operation.setGlobal name value ≠ .teardown by nofun)
  obtain ⟨held, machine, receives, performed⟩ := perform_setGlobal ready may
  have own : ((session.perform (.setGlobal name value)).2.perform (.global name)).1 =
      .ok (.value value) := by
    have shown := (Machine.binds_put receives.last name).shown_eq
      (Machine.carries_put receives.carries name)
    rw [perform_global readyAfter, performed]
    change ((machine.put name).shown name).map Reply.value = _
    rw [shown]
    rfl
  refine ⟨own, fun handle same => ?_, fun other different => ?_⟩
  · subst same
    exact pins_global (.performed _ reachable) readyAfter own
  · have sound := (reachable.sound (alive_of_ready ready)).machine.receive value
    rw [receives.received] at sound
    rw [perform_global readyAfter, perform_global ready, performed]
    exact congrArg (Except.map Reply.value)
      ((sound.shown_put different).trans (receives.shown_eq other))

theorem untouched_of_refused (reachable : session.Reachable) (ready : session.phase = .ready)
    (refused : ¬ session.MaySet name value) :
    (∃ fault, (session.perform (.setGlobal name value)).1 = .error fault) ∧
      Untouched session (session.perform (.setGlobal name value)).2 := by
  obtain ⟨fault, store, bare, pins, performed⟩ :=
    refuse_setGlobal ready (reachable.sound (alive_of_ready ready)).operands refused
  have readyAfter := perform_ready ready (show Operation.setGlobal name value ≠ .teardown by nofun)
  have globals (other : String) :
      ((session.perform (.setGlobal name value)).2.perform (.global other)).1 =
        (session.perform (.global other)).1 := by
    rw [perform_global readyAfter, perform_global ready, performed]
    exact congrArg (Except.map Reply.value) (Machine.shown_congr rfl (fun _ _ => rfl) bare)
  rw [performed] at globals ⊢
  exact ⟨⟨fault, rfl⟩, globals, rfl, rfl, Heap.content?_of_bare bare, pins⟩

/-- A host can set a variable exactly if it may use the name, the value is no handle of an instance
that is gone, and the innermost variable of the name is no constant. It then reads the value under
the name, pinned if it is an instance, and under every other name what it has read before. Otherwise
it reads the same as before under every name, and no function, no instance and no pin is affected. -/
theorem globals_are_read_after_written (reachable : session.Reachable)
    (ready : session.phase = .ready) (name : String) (value : HostValue) :
    ((session.perform (.setGlobal name value)).1 = .ok .done ↔ session.MaySet name value) ∧
      (session.MaySet name value →
        Assigned session (session.perform (.setGlobal name value)).2 name value) ∧
      (¬ session.MaySet name value →
        (∃ fault, (session.perform (.setGlobal name value)).1 = .error fault) ∧
          Untouched session (session.perform (.setGlobal name value)).2) := by
  refine ⟨⟨fun set => ?_, fun may => ?_⟩, fun may => may.assigned reachable ready,
    fun refused => untouched_of_refused reachable ready refused⟩
  · by_contra refused
    obtain ⟨⟨fault, failed⟩, _⟩ := untouched_of_refused reachable ready refused
    rw [set] at failed
    cases failed
  · obtain ⟨_, machine, _, performed⟩ := perform_setGlobal ready may
    rw [performed]

/-- A session in which the variable `a` hides a constant and the constant `b` hides a variable. -/
def shadowing : Session :=
  hosting.after [.run "const a = 1; let a = 2; let b = 3; const b = 4;"]

theorem shadowing_reachable : shadowing.Reachable :=
  hosting_reachable.after _

/-- The host sets the variable and not the constant. -/
theorem hiding_variable_is_set :
    shadowing.phase = .ready ∧
      ((shadowing.perform (.setGlobal "a" (.boolean true))).2.perform (.global "a")).1 =
        .ok (.value (.boolean true)) ∧
      ((shadowing.perform (.setGlobal "a" (.boolean true))).2.perform (.global "b")).1 =
        (shadowing.perform (.global "b")).1 ∧
      ∃ fault, (shadowing.perform (.setGlobal "b" (.boolean true))).1 = .error fault := by
  have ready : shadowing.phase = .ready := by decide +kernel
  have hides : (shadowing.machine.binding? "a").map Variable.constant = some false := by
    decide +kernel
  have fixed : (shadowing.machine.binding? "b").map Variable.constant = some true := by
    decide +kernel
  have may : shadowing.MaySet "a" (.boolean true) := by
    refine ⟨by decide +kernel, by decide +kernel, nofun, fun entry bound => ?_⟩
    rw [bound] at hides
    exact Option.some.inj hides
  have refused : ¬ shadowing.MaySet "b" (.boolean true) := by
    intro may
    obtain ⟨entry, bound, constant⟩ := Option.map_eq_some_iff.mp fixed
    rw [may.changeable entry bound] at constant
    cases constant
  have set := globals_are_read_after_written shadowing_reachable ready "a" (.boolean true)
  have kept := globals_are_read_after_written shadowing_reachable ready "b" (.boolean true)
  have assigned := set.2.1 may
  exact ⟨ready, assigned.own, assigned.others "b" (by decide), (kept.2.2 refused).1⟩

end Session
end ScriptHost
