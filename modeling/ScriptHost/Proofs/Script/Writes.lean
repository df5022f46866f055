import ScriptHost.Proofs.Native.Writes
import ScriptHost.Proofs.Script.Anatomy

/-!
What scripts write.

A script gets at what instances hold by requests to the host only, and every request is noted with
the heap that it meets. So what an instance holds after a run is what it held before, or what a
setter has stored that a noted request has called for this very instance.
-/

set_option autoImplicit false

namespace ScriptHost.Script

variable {types : TypeRegistry} {handle : Handle} {content first : Occupant} {machine : Machine}

def Moment.writing? (types : TypeRegistry) (moment : Moment) : Option Writing :=
  match moment.occasion with
  | .request request => Call.writing? (request.check types moment.heap)
  | _ => none

theorem Moment.isRequest_of_writing? {moment : Moment} {writing : Writing}
    (written : moment.writing? types = some writing) :
    ∃ request, moment.occasion = .request request := by
  unfold writing? at written
  split at written
  · exact ⟨_, ‹_›⟩
  · cases written

namespace Machine

def writing? (types : TypeRegistry) (request : Call.Request) (machine : Machine) :
    Option Writing :=
  Call.writing? (request.check types machine.store.collect.heap)

theorem ran_callNative (types : TypeRegistry) (request : Call.Request) (machine : Machine) :
    (machine.callNative types request).2.store =
      (machine.store.collect.run (request.call types >>= Call.toScript)).2 := by
  have collected : (machine.requested request).store = machine.store.collect := rfl
  rw [callNative_eq, collected]
  cases machine.store.collect.run (request.call types >>= Call.toScript) with
  | mk outcome store => cases outcome <;> rfl

theorem store_callNative (types : TypeRegistry) (request : Call.Request) (machine : Machine) :
    (machine.callNative types request).2.store =
      (machine.store.collect.run ((Call.ofResult (request.check types machine.store.collect.heap)
        >>= Call.Entry.run types) >>= Call.toScript)).2 := by
  have admitted : machine.store.collect.run (request.call types >>= Call.toScript) =
      machine.store.collect.run ((Call.ofResult (request.check types machine.store.collect.heap)
        >>= Call.Entry.run types) >>= Call.toScript) := by
    apply Store.run_congr
    rw [Store.collect_collect]
    exact Call.Request.call_admitted request
  rw [← admitted, ran_callNative]

theorem history_callNative (types : TypeRegistry) (request : Call.Request) (machine : Machine) :
    (machine.callNative types request).2.history = (machine.requested request).history := by
  rw [callNative_eq]
  cases Store.run (request.call types >>= Call.toScript) (machine.requested request).store with
  | mk outcome store => cases outcome <;> rfl

theorem callNative_retains (types : TypeRegistry)
    (retains : machine.store.heap.Retains handle content) (request : Call.Request) :
    (machine.callNative types request).2.store.heap.Retains handle
      (Writing.leaves (machine.writing? types request) handle content) := by
  rw [store_callNative]
  exact Store.run_retains Call.toScript_endures
    ((Heap.enduring_retains handle content).collect retains)

/-- An instance holds what it held at first, or what has been written to it at a moment noted. -/
def Traced (types : TypeRegistry) (handle : Handle) (first : Occupant) (machine : Machine) :
    Prop :=
  ∃ content, machine.store.heap.Retains handle content ∧ content.typeId = first.typeId ∧
    (content = first ∨
      ∃ moment, machine.history moment ∧ moment.writing? types = some ⟨handle, content⟩)

theorem Traced.requested (traced : machine.Traced types handle first) (request : Call.Request) :
    (machine.callNative types request).2.Traced types handle first := by
  obtain ⟨content, retains, sameType, origin⟩ := traced
  have retained := callNative_retains types retains request
  have noted : ∀ moment, machine.history moment →
      (machine.callNative types request).2.history moment := by
    intro moment known
    rw [history_callNative]
    exact .inr known
  have stays : Writing.leaves (machine.writing? types request) handle content = content →
      (machine.callNative types request).2.Traced types handle first := by
    intro same
    rw [same] at retained
    refine ⟨content, retained, sameType, origin.imp_right ?_⟩
    rintro ⟨moment, known, written⟩
    exact ⟨moment, noted moment known, written⟩
  cases written : machine.writing? types request with
  | none => exact stays (by rw [written]; rfl)
  | some writing =>
      by_cases same : writing.owner = handle
      · obtain ⟨owner, stored⟩ := writing
        dsimp only at same
        subst same
        obtain ⟨entry, admitted, stores⟩ := Call.entry_of_writing? written
        obtain ⟨target, _, _, _, suits⟩ := Call.Request.suits_of_check admitted stores
        obtain ⟨before, held, agrees⟩ := suits.typed
        rw [← suits.same] at held
        have collected : machine.store.collect.heap.Retains owner content :=
          (Heap.enduring_retains owner content).collect retains
        rw [collected.found before held] at agrees
        rw [written, Writing.leaves, if_pos rfl] at retained
        have now : (machine.callNative types request).2.history
            ⟨.request request, machine.collect.store.heap, machine.collect.holdings⟩ := by
          rw [history_callNative]
          exact .inl rfl
        exact ⟨stored, retained, agrees.trans sameType, .inr ⟨_, now, written⟩⟩
      · exact stays (by rw [written]; exact if_neg same)

namespace Traced

variable (traced : machine.Traced types handle first)

include traced

theorem rests {after : Machine} (same : after.estate = machine.estate) :
    after.Traced types handle first := by
  obtain ⟨content, retains, sameType, origin⟩ := traced
  refine ⟨content, retains.of_bare (congrArg Estate.bare same), sameType, origin.imp_right ?_⟩
  rintro ⟨moment, known, written⟩
  have requests : after.requests = machine.requests := congrArg Estate.requests same
  have noted : machine.requests moment := ⟨known, Moment.isRequest_of_writing? written⟩
  rw [← requests] at noted
  exact ⟨moment, noted.1, written⟩

theorem withStore {store : Store}
    (retained : ∀ {content}, machine.store.heap.Retains handle content →
      store.heap.Retains handle content) :
    { machine with store := store }.Traced types handle first := by
  obtain ⟨content, retains, sameType, origin⟩ := traced
  exact ⟨content, retained retains, sameType, origin⟩

theorem shutDown : machine.shutDown.Traced types handle first := by
  obtain ⟨content, retains, sameType, origin⟩ := traced
  exact ⟨content, (Heap.enduring_retains handle content).clear retains, sameType, origin⟩

end Traced

theorem steadfast_traced (types : TypeRegistry) (functions : FunctionRegistry) (handle : Handle)
    (first : Occupant) : Run.Steadfast types functions (Machine.Traced types handle first) where
  rests same _ traced := traced.rests same
  removes other traced := traced.withStore ((Heap.enduring_retains handle _).remove other)
  requests _ traced := traced.requested _

end Machine

end ScriptHost.Script
