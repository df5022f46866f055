import ScriptHost.Proofs.Session.Anatomy

/-!
What a session has noted and printed before.

Operations have no use for the notes of earlier ones either: with more notes to begin with, an
operation has the same outcome, and leaves the same session with as many more notes. So what an
operation notes of its own can be told apart from what has been noted before it. The same is true of
what has been printed, except for the one operation that asks for it.
-/

set_option autoImplicit false

namespace ScriptHost

open Script

namespace Session

variable {α : Type} {earlier : Past}

theorem noting_done {action : Action Unit} (commutes : Commutes (noting earlier) action) :
    Commutes (noting earlier) (done action) :=
  commutes.bind fun _ => .of_ok _

theorem noting_map {action : Action α} (commutes : Commutes (noting earlier) action)
    (reply : α → Reply) : Commutes (noting earlier) (reply <$> action) :=
  commutes.bind fun _ => .of_ok _

theorem noting_hostCall (call : HostCall) : Commutes (noting earlier) call.operation.perform := by
  cases call with
  | create typeName arguments =>
      apply noting_map
      apply altering_whenReady
      apply Commutes.get_bind
      · exact fun _ => rfl
      · intro session
        split
        · exact .of_error _
        · exact noting_native _
  | method receiver name arguments => exact noting_map (noting_native _) _
  | read owner name => exact noting_map (noting_native _) _
  | write owner name value => exact noting_done (noting_native _)

theorem noting_operation {operation : Operation}
    (unasked : operation = .takeOutput → earlier.lines = #[]) :
    Commutes (noting earlier) operation.perform := by
  cases composed operation with
  | made made => exact made.oblivious
  | teardown =>
      apply noting_done
      intro session
      unfold teardown
      have phase : (session.noting earlier).phase = session.phase := rfl
      rw [phase]
      cases session.phase <;> rfl
  | takeOutput =>
      obtain ⟨moments, lines⟩ := earlier
      obtain rfl : lines = #[] := unasked rfl
      apply noting_map
      intro session
      have same : #[] ++ session.machine.output = session.machine.output := Array.empty_append
      exact congrArg (fun output : Array String => EStateM.Result.ok output.toList _) same
  | detached detached => exact detached _
  | insert body => exact noting_map (noting_native _) _
  | call call => exact noting_hostCall call

/-- Whatever a session has noted and printed, its operations are the same. -/
theorem perform_noting (session : Session) {earlier : Past} {operation : Operation}
    (unasked : operation = .takeOutput → earlier.lines = #[]) :
    (session.noting earlier).perform operation =
      ((session.perform operation).1, (session.perform operation).2.noting earlier) := by
  unfold perform
  rw [noting_operation unasked session]
  cases operation.perform session with
  | ok reply after => rfl
  | error fault after => rfl

def forgetting (session : Session) : Session :=
  session.withMachine { session.machine with history := fun _ => False }

/-- The moments that the scripts of an operation pass through. -/
def moments (session : Session) (operation : Operation) : Moment → Prop :=
  (session.forgetting.perform operation).2.machine.history

theorem noting_forgetting (session : Session) :
    session.forgetting.noting ⟨session.machine.history, #[]⟩ = session := by
  have history : (fun moment => False ∨ session.machine.history moment) =
      session.machine.history := funext fun _ => false_or _
  have output : #[] ++ session.machine.output = session.machine.output := Array.empty_append
  exact congrArg₂ (fun history output => session.withMachine { session.machine with
    history := history
    output := output }) history output

theorem perform_forgetting (session : Session) (operation : Operation) :
    session.perform operation = ((session.forgetting.perform operation).1,
      (session.forgetting.perform operation).2.noting ⟨session.machine.history, #[]⟩) := by
  have performed := @perform_noting session.forgetting ⟨session.machine.history, #[]⟩ operation
    fun _ => rfl
  rw [noting_forgetting] at performed
  exact performed

theorem heap_perform_forgetting (session : Session) (operation : Operation) :
    (session.perform operation).2.machine.store.heap =
      (session.forgetting.perform operation).2.machine.store.heap := by
  rw [perform_forgetting]
  rfl

/-- After an operation, what is noted is what was noted before, and the moments of the operation. -/
theorem history_perform (session : Session) (operation : Operation) (moment : Moment) :
    (session.perform operation).2.machine.history moment ↔
      session.moments operation moment ∨ session.machine.history moment := by
  rw [perform_forgetting]
  rfl

def silenced (session : Session) : Session :=
  session.withMachine { session.machine with output := #[] }

def printed (session : Session) (operation : Operation) : Array String :=
  (session.silenced.perform operation).2.machine.output

theorem noting_silenced (session : Session) :
    session.silenced.noting ⟨fun _ => False, session.machine.output⟩ = session := by
  have history : (fun moment => session.machine.history moment ∨ False) =
      session.machine.history := funext fun _ => or_false _
  have output : session.machine.output ++ #[] = session.machine.output := Array.append_empty
  exact congrArg₂ (fun history output => session.withMachine { session.machine with
    history := history
    output := output }) history output

theorem output_perform (session : Session) {operation : Operation}
    (unasked : operation ≠ .takeOutput) :
    (session.perform operation).2.machine.output =
      session.machine.output ++ session.printed operation := by
  have performed := @perform_noting session.silenced ⟨fun _ => False, session.machine.output⟩
    operation fun asked => absurd asked unasked
  rw [noting_silenced] at performed
  rw [performed]
  rfl

theorem printed_of_silent {session : Session} (silent : session.machine.output = #[])
    (operation : Operation) :
    session.printed operation = (session.perform operation).2.machine.output := by
  have same : session.silenced = session := by
    unfold silenced
    rw [← silent]
    rfl
  unfold printed
  rw [same]

end Session
end ScriptHost
