import ScriptHost.Proofs.Session.Phases
import ScriptHost.Proofs.Session.Soundness

/-!
Sessions as hosts can bring them about.

A session is created and then operated on, in any order, and every operation may fail. Until it is
torn down, such a session is sound; after that it stays torn down.
-/

set_option autoImplicit false

namespace ScriptHost

open Script

namespace Session

variable {promised : Handle → TypeId → Prop} {earlier : Moment → Prop} {spare : Handle → Prop}
  {session : Session}

def after (session : Session) (operations : List Operation) : Session :=
  operations.foldl (fun session operation => (session.perform operation).2) session

inductive Reachable : Session → Prop where
  | created (configuration : Configuration) : Reachable (create configuration)
  | performed {session : Session} (operation : Operation) (reachable : Reachable session) :
      Reachable (session.perform operation).2

theorem Reachable.after (reachable : session.Reachable) (operations : List Operation) :
    (session.after operations).Reachable := by
  induction operations generalizing session with
  | nil => exact reachable
  | cons operation rest ih => exact ih (.performed operation reachable)

theorem perform_of_leads {inv : Session → Prop} {post : Reply → Session → Prop}
    {operation : Operation} (leads : Leads inv operation.perform post session) :
    inv (session.perform operation).2 ∧
      ∀ reply, (session.perform operation).1 = .ok reply →
        post reply (session.perform operation).2 := by
  unfold Leads at leads
  unfold perform
  cases ended : operation.perform session with
  | ok reply later =>
      rw [ended] at leads
      refine ⟨leads.1, fun other same => ?_⟩
      injection same with sameReply
      rw [← sameReply]
      exact leads.2
  | error fault later =>
      rw [ended] at leads
      exact ⟨leads, fun _ other => nomatch other⟩

def fault? (session : Session) (operation : Operation) : Option Fault :=
  match (session.perform operation).1 with
  | .ok _ => none
  | .error fault => some fault

theorem error_of_fault? {operation : Operation} {fault : Fault}
    (failed : session.fault? operation = some fault) :
    (session.perform operation).1 = .error fault := by
  unfold fault? at failed
  split at failed
  · cases failed
  · rename_i other same
    rw [same, Option.some.inj failed]

theorem ok_of_fault? {operation : Operation} (none : session.fault? operation = none) :
    ∃ reply, (session.perform operation).1 = .ok reply := by
  unfold fault? at none
  split at none
  · rename_i reply same
    exact ⟨reply, same⟩
  · cases none

theorem perform_phase {operation : Operation} (starts : operation ≠ .start)
    (ends : operation ≠ .teardown) (session : Session) :
    (session.perform operation).2.phase = session.phase :=
  (perform_of_leads (steady_in.perform_keeps starts ends session rfl)).1

theorem perform_start {phase : Phase} (inside : session.phase = phase)
    (later : phase ≠ .uninitialized) : (session.perform .start).2.phase = phase := by
  have leads : Leads (In phase) (Operation.perform .start) (Handing Reply.Gives) session := by
    apply leads_done
    unfold Leads start
    cases known : session.phase with
    | uninitialized => exact absurd (inside.symm.trans known) later
    | ready => exact inside
    | tornDown => exact inside
  exact (perform_of_leads leads).1

theorem leads_teardown (session : Session) :
    Leads (In .tornDown) teardown (fun _ _ => True) session := by
  unfold Leads teardown
  cases phase : session.phase with
  | uninitialized => exact ⟨rfl, trivial⟩
  | ready => exact ⟨rfl, trivial⟩
  | tornDown => exact phase

theorem perform_teardown (session : Session) :
    (session.perform .teardown).2.phase = .tornDown := by
  have leads : Leads (In .tornDown) (Operation.perform .teardown) (Handing Reply.Gives) session :=
    leads_done (leads_teardown session)
  exact (perform_of_leads leads).1

theorem alive_of_ready (ready : session.phase = .ready) : session.phase ≠ .tornDown := by
  rw [ready]
  exact nofun

theorem perform_ready (ready : session.phase = .ready) {operation : Operation}
    (ends : operation ≠ .teardown) : (session.perform operation).2.phase = .ready := by
  by_cases starts : operation = .start
  · subst starts
    exact perform_start ready nofun
  · exact (perform_phase starts ends session).trans ready

theorem perform_tornDown (closed : session.phase = .tornDown) (operation : Operation) :
    (session.perform operation).2.phase = .tornDown := by
  by_cases ends : operation = .teardown
  · subst ends
    exact perform_teardown session
  · by_cases starts : operation = .start
    · subst starts
      exact perform_start closed nofun
    · exact (perform_phase starts ends session).trans closed

theorem Sound.perform (sound : session.Sound promised earlier spare) {operation : Operation}
    (alive : operation ≠ .teardown)
    (free : ∀ handle typeId, operation = .release handle → ¬ promised handle typeId)
    (untidy : operation.MayLeave → ∀ handle, spare handle) :
    (session.perform operation).2.Sound promised earlier spare :=
  (perform_of_leads (leads_perform sound operation alive free untidy)).1

theorem Sound.after (sound : session.Sound promised earlier fun _ => True)
    {operations : List Operation}
    (kept : ∀ operation ∈ operations, operation ≠ .teardown ∧
      ∀ handle typeId, operation = .release handle → ¬ promised handle typeId) :
    (session.after operations).Sound promised earlier fun _ => True := by
  induction operations generalizing session with
  | nil => exact sound
  | cons operation rest ih =>
      obtain ⟨alive, free⟩ := kept operation List.mem_cons_self
      apply ih
      · exact sound.perform alive free fun _ _ => trivial
      · intro other member
        exact kept other (List.mem_cons_of_mem _ member)

/-- A session that has not been torn down is sound, with all of its history. -/
theorem Reachable.sound (reachable : session.Reachable) (alive : session.phase ≠ .tornDown) :
    session.Sound (fun _ _ => False) (fun _ => False) fun _ => True := by
  induction reachable with
  | created configuration => exact sound_create configuration
  | @performed session operation reachable ih =>
      have before : session.phase ≠ .tornDown := fun closed =>
        alive (perform_tornDown closed operation)
      have different : operation ≠ .teardown := by
        rintro rfl
        exact alive (perform_teardown session)
      exact (ih before).perform different (fun _ _ _ none => none) fun _ _ => trivial

def token : HostType := ⟨"Token", .empty⟩

/-- A session that has been started and knows one type, with a constructor for scripts. -/
def hosting : Session :=
  (create .standard).after [.start,
    .register (.type ⟨"Token", token, [⟨[], fun _ => .done ()⟩], [], [], [], none⟩)]

theorem hosting_reachable : hosting.Reachable :=
  (Reachable.created .standard).after _

def holding : Session :=
  hosting.after [.insertObject ⟨token, ()⟩, .setGlobal "a" (.object ⟨0, 0⟩), .release ⟨0, 0⟩]

theorem holding_reachable : holding.Reachable :=
  hosting_reachable.after _

end Session
end ScriptHost
