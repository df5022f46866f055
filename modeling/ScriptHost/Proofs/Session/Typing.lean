import ScriptHost.Proofs.Native.Typing
import ScriptHost.Proofs.Session.Lifecycle

/-!
The types of the instances in a session.

Whatever is done with a session, its instances stay of the types that they are stored under, and no
host type has two numbers. So whoever looks at an instance, the host between two operations, a
script at any moment, or a native routine between any two of its requests, finds the content that
the description of its type speaks of.
-/

set_option autoImplicit false

namespace ScriptHost

open Script

namespace Session

variable {session : Session}

theorem steady_distinct : Steady fun session => session.types.Distinct :=
  ⟨⟨⟨fun kept => kept, fun kept => kept⟩, fun kept => kept⟩,
    ⟨fun kept _ _ => kept, fun kept _ registered => kept.register registered⟩⟩

theorem Reachable.distinct (reachable : session.Reachable) : session.types.Distinct := by
  induction reachable with
  | created configuration => exact TypeRegistry.distinct_empty
  | performed operation _ ih =>
      exact @Steady.kept _ (fun types _ => types.Distinct) steady_distinct ih operation

theorem Reachable.faithful (reachable : session.Reachable) :
    ∀ moment, session.machine.history moment →
      moment.Faithful ⟨session.types, fun _ _ => False, fun _ => False⟩ := by
  induction reachable with
  | created configuration => exact fun _ none => none.elim
  | @performed session operation reachable ih =>
      intro moment known
      by_cases alive : (session.perform operation).2.phase ≠ .tornDown
      · have sound := (Reachable.performed operation reachable).sound alive
        exact (sound.machine.remembered moment known).resolve_left fun none => none
      · rw [Classical.not_not] at alive
        by_cases closed : session.phase = .tornDown
        · by_cases fallible : operation.MayFail
          · rw [perform_closed closed fallible] at known ⊢
            exact ih moment known
          · obtain ⟨_, _, same⟩ := perform_infallible fallible session
            rw [same] at known ⊢
            exact ih moment known
        · obtain rfl := eq_teardown closed alive
          rw [perform_done_ok rfl (teardown_eq closed)] at known ⊢
          exact ih moment known

/-- The heaps that a native call comes upon: what the host finds, or a script at a request. -/
def Enters (session : Session) (heap : Heap Occupant) : Prop :=
  (session.phase = .ready ∧ heap = session.machine.store.heap) ∨
    ∃ request holdings, session.machine.history ⟨.request request, heap, holdings⟩

/-- The heaps that anybody comes to look at. -/
inductive Meets (session : Session) : Heap Occupant → Prop where
  | between : Meets session session.machine.store.heap
  | script {moment : Moment} (known : session.machine.history moment) : Meets session moment.heap
  | native {α : Type} {store : Store} {routine rest : Routine α} {later : CallState}
      (enters : session.Enters store.heap)
      (steps : Call.Steps session.types routine ⟨store.collect, #[]⟩ rest later) :
      Meets session later.store.heap

theorem Reachable.enters (reachable : session.Reachable) {store : Store}
    (enters : session.Enters store.heap) :
    ∃ total, CallState.Sound ⟨session.types, fun _ _ => False, fun _ => False⟩ total
      ⟨store.collect, #[]⟩ := by
  rcases enters with ⟨ready, same⟩ | ⟨request, holdings, known⟩
  · have machine := (reachable.sound (alive_of_ready ready)).machine
    have accounts := machine.accounts
    have queued := machine.queued
    rw [← same] at accounts queued
    exact ⟨_, Store.accounts_start accounts queued⟩
  · have faithful := reachable.faithful _ known
    exact ⟨_, Store.accounts_start faithful.accounts (faithful.fits.settled request rfl).queued⟩

theorem Vacant.wellTyped (vacant : session.Vacant) (distinct : session.types.Distinct) :
    session.machine.store.heap.WellTyped session.types := by
  apply Heap.wellTyped_of_fits distinct
  intro handle resident found
  have dead := vacant.dead handle
  unfold isLive Heap.contains at dead
  rw [found] at dead
  cases dead

/-- In every session that a host can bring about, no host type has two numbers, and every heap that
anybody comes to look at is well typed: an instance is recognised as just the types that it can be
read as, and what looks at it through the description of its own type is never refused. -/
theorem instances_are_understood (reachable : session.Reachable) :
    session.types.Distinct ∧
      ∀ heap, session.Meets heap → heap.WellTyped session.types := by
  have distinct := reachable.distinct
  refine ⟨distinct, fun heap meets => ?_⟩
  cases meets with
  | between =>
      by_cases closed : session.phase = .tornDown
      · exact (reachable.vacant closed).wellTyped distinct
      · exact (reachable.sound closed).machine.accounts.wellTyped distinct
  | script known => exact (reachable.faithful _ known).accounts.wellTyped distinct
  | native enters steps =>
      obtain ⟨total, sound⟩ := reachable.enters enters
      exact (steps.sound sound).accounts.wellTyped distinct

/-- A bead in the slot of a token that is gone can be read as a bead, and as nothing else. -/
theorem bead_is_understood :
    let bead : HostType := ⟨"Bead", .number⟩
    let session := hosting.after [.register (.type (.named "Bead" bead)),
      .insertObject ⟨token, ()⟩, .release ⟨0, 0⟩, .insertObject ⟨bead, (0 : Float)⟩]
    session.Reachable ∧ session.isLive ⟨0, 1⟩ = true ∧
      (∃ content, Call.read session.types bead ⟨0, 1⟩ session.machine.store.heap = .ok content) ∧
      ¬ ∃ content, Call.read session.types token ⟨0, 1⟩ session.machine.store.heap =
        .ok content := by
  intro bead session
  have reachable : session.Reachable := hosting_reachable.after _
  have live : session.isLive ⟨0, 1⟩ = true := by decide +kernel
  have asBead : Call.recognise session.types bead session.machine.store.heap
      (.object ⟨0, 1⟩) = true := by decide +kernel
  have asToken : Call.recognise session.types token session.machine.store.heap
      (.object ⟨0, 1⟩) ≠ true := by decide +kernel
  obtain ⟨_, typed⟩ := instances_are_understood reachable
  have recognised := (typed _ .between).recognised
  exact ⟨reachable, live, (recognised bead (.object ⟨0, 1⟩)).mp asBead,
    mt (recognised token (.object ⟨0, 1⟩)).mpr asToken⟩

end Session
end ScriptHost
