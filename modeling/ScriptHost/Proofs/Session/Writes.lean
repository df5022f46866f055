import ScriptHost.Proofs.Script.Writes
import ScriptHost.Proofs.Session.Calls
import ScriptHost.Proofs.Session.Notes

/-!
What instances hold, whatever is done with a session.

Scripts, native bodies and the host all come by the same instances, under handles and references
that stand for slots which are used again and again. Still an instance only ever holds what it has
been created with, or what a setter that has been called for this very instance has stored. Whoever
reads it, through whichever of its handles and references, gets to see just this.
-/

set_option autoImplicit false

namespace ScriptHost

open Script

def Occupant.fieldValue (types : TypeRegistry) (name : String) (content : Occupant) :
    Except Fault HostValue := do
  let descriptor ← types.get content.typeId
  let field ← descriptor.field name
  let held ← descriptor.contentOf content.body
  return field.read held

theorem Call.fieldValue_eq {types : TypeRegistry} {handle : Handle} {name : String}
    {heap : Heap Occupant} {content : Occupant} (found : heap.content? handle = some content) :
    fieldValue types handle name heap = content.fieldValue types name := by
  obtain ⟨resident, resides, rfl⟩ := Heap.content?_eq_some_iff.mp found
  unfold fieldValue
  rw [Heap.get_eq_ok_iff.mpr resides]
  rfl

namespace Session

variable {session : Session} {machine : Machine} {types : TypeRegistry} {handle : Handle}
  {reference : Reference} {first content : Occupant} {α : Type}

/-- What a script that has a reference to an instance gets to see of it. -/
structure ShowsScript (types : TypeRegistry) (machine : Machine) (reference : Reference)
    (content : Occupant) : Prop where
  resides : machine.store.collect.heap.content? reference.handle = some content
  reads : ∀ name, machine.callNative types (.read reference name) =
    answered (machine.requested (.read reference name))
      (machine.store.run (Call.ofResult (content.fieldValue types name) >>= Call.toScript))

theorem showsScript_of_content
    (found : machine.store.collect.heap.content? reference.handle = some content) :
    ShowsScript types machine reference content := by
  refine ⟨found, fun name => ?_⟩
  have read := Call.getField_eq types reference.handle name ⟨machine.store.collect, #[]⟩
  rw [Call.fieldValue_eq found] at read
  rw [callNative_answered]
  exact congrArg (answered _) (Store.run_congr Call.toScript read)

structure ShowsHost (session : Session) (handle : Handle) (content : Occupant) : Prop where
  reads : ∀ name, session.perform (.getField handle name) =
    session.ran (Call.ofResult (content.fieldValue session.types name)) .value
  body : ∀ type, session.perform (.readObject handle type) =
    ((match content.body.as? type with
      | some held => .ok (.content ⟨type, held⟩)
      | none => .error (.typeMismatch .object "object of another type")), session)

theorem perform_readObject (ready : session.phase = .ready) {resident : Resident Occupant}
    (resides : session.machine.store.heap.resident? handle = some resident) (type : HostType) :
    session.perform (.readObject handle type) =
      ((match resident.content.body.as? type with
        | some held => .ok (.content ⟨type, held⟩)
        | none => .error (.typeMismatch .object "object of another type")), session) := by
  have read : readObject handle type session =
      (match resident.content.body.as? type with
        | some held => .ok held session
        | none => .error (.typeMismatch .object "object of another type") session) := by
    unfold readObject inspect whenReady
    rw [ready]
    change ofResult (session.machine.store.heap.get handle >>= _) session = _
    rw [Heap.get_eq_ok_iff.mpr resides]
    change ofResult (match resident.content.body.as? type with
      | some content => pure content
      | none => .error (.typeMismatch .object "object of another type")) session = _
    cases resident.content.body.as? type <;> rfl
  have performed : (Operation.readObject handle type).perform session =
      (readObject handle type >>= fun held => pure (.content ⟨type, held⟩)) session := rfl
  unfold perform
  rw [performed, bind_apply, read]
  cases resident.content.body.as? type <;> rfl

theorem showsHost_of_content (ready : session.phase = .ready)
    (found : session.collected.machine.store.heap.content? handle = some content) :
    ShowsHost session handle content := by
  have collected : session.machine.store.collect.heap.content? handle = some content := found
  constructor
  · intro name
    have read := Call.getField_eq session.types handle name ⟨session.machine.store.collect, #[]⟩
    rw [Call.fieldValue_eq collected] at read
    have got := @perform_native session _ ready (.getField handle name)
      (fun types => Call.getField types handle name >>= Call.pinResult) .value rfl
    rw [got]
    exact ran_congr read .value
  · -- Reading an instance as a whole does not collect, and the collection leaves it what it is.
    obtain ⟨resident, resides, rfl⟩ := Heap.content?_eq_some_iff.mp collected
    have live := Heap.contains_iff.mpr ⟨resident, resides⟩
    exact perform_readObject ready ((Heap.resident?_of_collect live).symm.trans resides)

namespace HostCall

def writing? (session : Session) (call : HostCall) : Option Writing :=
  Call.writing? (call.check session.types session.collected.machine.store.heap)

/-- The host writes only by setting a field of an instance, and only to this instance. -/
theorem suits_of_writing? {call : HostCall} {writing : Writing}
    (written : call.writing? session = some writing) :
    ∃ owner name value, call = .write owner name value ∧
      Call.Suits session.collected.machine.store.heap owner writing := by
  obtain ⟨entry, admitted, writes⟩ := Call.entry_of_writing? written
  have unwritten : entry.writing? ≠ none := by
    rw [writes]
    exact nofun
  cases call with
  | create typeName arguments =>
      rw [check_create] at admitted
      split at admitted
      · exact absurd (Call.unwritten_construct admitted) unwritten
      · cases admitted
  | method receiver name arguments => exact absurd (Call.unwritten_method admitted) unwritten
  | read owner name => exact absurd (Call.unwritten_read admitted) unwritten
  | write owner name value =>
      exact ⟨owner, name, value, rfl, Call.suits_write admitted writes⟩

theorem retains (ready : session.phase = .ready) (call : HostCall)
    (held : session.machine.store.heap.Retains handle content) :
    (session.perform call.operation).2.machine.store.heap.Retains handle
      (Writing.leaves (call.writing? session) handle content) := by
  rcases perform_checked ready call with same | ⟨fault, refused, same⟩
  · rw [same]
    exact Store.run_retains Call.pinResult_endures held
  · rw [same, writing?, refused]
    exact held

end HostCall

/-- In the course of an operation, a setter that the host has called, or a script, has stored this
in an instance. -/
inductive Stores (before : Session) (operation : Operation) (handle : Handle)
    (content : Occupant) : Prop where
  | host (name : String) (value : HostValue) (called : operation = .setField handle name value)
      (stored : (HostCall.write handle name value).writing? before = some ⟨handle, content⟩)
  | script (owner : Reference) (name : String) (value : Value) (heap : Heap Occupant)
      (holdings : List Holding)
      (called : before.moments operation ⟨.request (.write owner name value), heap, holdings⟩)
      (stored : Call.writing? ((Call.Request.write owner name value).check before.types heap) =
        some ⟨handle, content⟩)
      (same : owner.handle = handle)

structure Explained (before : Session) (operation : Operation) (handle : Handle)
    (first content : Occupant) : Prop where
  typed : content.typeId = first.typeId
  origin : content = first ∨ before.Stores operation handle content

theorem explained_hostCall (ready : session.phase = .ready) (call : HostCall)
    (held : session.machine.store.heap.Retains handle first)
    (holds : (session.perform call.operation).2.machine.store.heap.content? handle =
      some content) : session.Explained call.operation handle first content := by
  have now := (call.retains ready held).found content holds
  have unchanged : content = first → session.Explained call.operation handle first content :=
    fun same => ⟨congrArg Occupant.typeId same, .inl same⟩
  cases written : call.writing? session with
  | none =>
      rw [written] at now
      exact unchanged now
  | some writing =>
      rw [written] at now
      by_cases same : writing.owner = handle
      · obtain ⟨owner, name, value, rfl, suits⟩ := HostCall.suits_of_writing? written
        obtain ⟨before, there, typed⟩ := suits.typed
        obtain ⟨target, stored⟩ := writing
        obtain rfl : target = owner := suits.same
        obtain rfl : target = handle := same
        rw [Writing.leaves, if_pos rfl] at now
        have collected : session.collected.machine.store.heap.Retains target first :=
          (Heap.enduring_retains target first).collect held
        rw [collected.found before there] at typed
        subst now
        exact ⟨typed, .inr (.host name value rfl written)⟩
      · rw [Writing.leaves, if_neg same] at now
        exact unchanged now

theorem explained_insert (ready : session.phase = .ready) (body : Instance)
    (held : session.machine.store.heap.Retains handle first)
    (holds : (session.perform (.insertObject body)).2.machine.store.heap.content? handle =
      some content) : session.Explained (.insertObject body) handle first content := by
  have enduring := Heap.enduring_retains handle first
  have inserts : Keeps (Call.Within (Heap.Retains handle first)) (insertion body session.types) :=
    (Call.ofResult_keeps _).bind fun occupant =>
      (Call.insert_endures enduring occupant).bind fun given =>
        (Call.pin_endures enduring given).bind fun _ => Keeps.of_ok _
  rw [perform_insert ready] at holds
  have retains := Store.run_endures enduring (inserts _ (enduring.collect held))
  obtain rfl := retains.found content holds
  exact ⟨rfl, .inl rfl⟩

theorem explained_traced {operation : Operation}
    (traced : (session.forgetting.perform operation).2.machine.Traced session.types handle first)
    (holds : (session.perform operation).2.machine.store.heap.content? handle = some content) :
    session.Explained operation handle first content := by
  obtain ⟨now, retains, typed, origin⟩ := traced
  rw [heap_perform_forgetting] at holds
  obtain rfl := retains.found content holds
  refine ⟨typed, origin.imp_right ?_⟩
  rintro ⟨⟨occasion, heap, holdings⟩, known, written⟩
  obtain ⟨request, same⟩ := Moment.isRequest_of_writing? written
  dsimp only at same
  subst same
  obtain ⟨entry, admitted, writes⟩ := Call.entry_of_writing? written
  obtain ⟨owner, name, value, rfl, suits⟩ := Call.Request.suits_of_check admitted writes
  exact .script owner name value heap holdings known written suits.same.symm

/-- What an instance holds after an operation is what it has held before, or what a setter has
stored in it. -/
theorem explained (ready : session.phase = .ready)
    (held : session.machine.store.heap.Retains handle first) (operation : Operation)
    (holds : (session.perform operation).2.machine.store.heap.content? handle = some content) :
    session.Explained operation handle first content := by
  -- An operation is the same without the notes of earlier ones, and any write that it then notes is
  -- one of its own.
  have began : session.forgetting.machine.Traced session.types handle first :=
    ⟨first, held, rfl, .inl rfl⟩
  have steadfast := Machine.steadfast_traced session.types session.functions handle first
  cases composed operation with
  | made made =>
      have kept := made.keeps steadfast session.forgetting ⟨rfl, rfl, began⟩
      exact explained_traced (perform_of_leads kept).1.machine holds
  | detached detached =>
      exact explained_traced (perform_of_leads (detached.keeps _ began)).1 holds
  | teardown =>
      have alive : session.forgetting.phase ≠ .tornDown := by
        intro gone
        exact nomatch ready.symm.trans gone
      apply explained_traced _ holds
      rw [perform_done_ok rfl (teardown_eq alive)]
      exact began.shutDown
  | takeOutput => exact explained_traced (began.rests rfl) holds
  | insert body => exact explained_insert ready body held holds
  | call call => exact explained_hostCall ready call held holds

variable {promised : Handle → TypeId → Prop} {earlier : Moment → Prop} {request : Call.Request}
  {place : Place}

theorem showsScript_requested (sound : machine.Sound ⟨types, promised, earlier⟩ 0)
    (held : ∀ value ∈ request.values, value.owned ≤ machine.owned)
    (found : machine.store.heap.content? reference.handle = some first)
    (points : (machine.callNative types request).2.valueAt place = .object reference) :
    ShowsScript types (machine.callNative types request).2 reference
      (Writing.leaves (machine.writing? types request) reference.handle first) := by
  have later : (machine.callNative types request).2.Sound ⟨types, promised, earlier⟩ 0 := by
    rcases sound.callNative held with ⟨value, store, _, same, kept⟩ | ⟨fault, store, same, kept⟩
    · rw [same]
      exact kept
    · rw [same]
      exact kept
  obtain ⟨resident, resides, _⟩ := later.resident_collect points
  have retains := Machine.callNative_retains types
    (Heap.Retains.of_content sound.accounts.regular found) request
  have now : (machine.callNative types request).2.store.collect.heap.content? reference.handle =
      some resident.content := Heap.content?_eq_some_iff.mpr ⟨resident, resides, rfl⟩
  have collected := (Heap.enduring_retains reference.handle _).collect retains
  rw [← collected.found resident.content now]
  exact showsScript_of_content now

/-- What the host gets to see of an instance, and scripts by any reference to it. -/
structure Shows (session : Session) (handle : Handle) (content : Occupant) : Prop where
  host : session.ShowsHost handle content
  scripts : ∀ reference, reference.handle = handle →
    ShowsScript session.types session.machine reference content

theorem shows_retained (ready : session.phase = .ready)
    (retains : session.machine.store.heap.Retains handle content)
    (there : session.collected.machine.store.heap.contains handle = true) :
    session.Shows handle content := by
  obtain ⟨resident, resides⟩ := Heap.contains_iff.mp there
  have collected : session.collected.machine.store.heap.Retains handle content :=
    (Heap.enduring_retains handle content).collect retains
  have found : session.collected.machine.store.heap.content? handle = some resident.content :=
    Heap.content?_eq_some_iff.mpr ⟨resident, resides, rfl⟩
  rw [collected.found resident.content found] at found
  constructor
  · exact showsHost_of_content ready found
  · rintro reference rfl
    exact showsScript_of_content found

/-- What the lamp holds before it has been lit or put out, and after that. -/
def lamp (lit? : Option Bool) : Occupant :=
  ⟨0, ⟨⟨"Lamp", .values⟩, (lit?.map HostValue.boolean).toList⟩⟩

/-- Whether an instance is the lamp, and whether it has been lit. -/
def light? (content : Occupant) : Option (Option Bool) := do
  let held ← content.body.as? ⟨"Lamp", .values⟩
  match content.typeId, held with
  | 0, [] => some none
  | 0, [.boolean lit] => some (some lit)
  | _, _ => none

theorem eq_lamp_of_light? {lit? : Option Bool} (found : light? content = some lit?) :
    content = lamp lit? := by
  obtain ⟨typeId, body⟩ := content
  obtain ⟨held, isLamp, found⟩ := Option.bind_eq_some_iff.mp found
  obtain rfl := Instance.eq_of_as? isLamp
  dsimp only at found
  split at found
  · cases found
    rfl
  · cases found
    rfl
  · cases found

theorem holds_lamp {content? : Option Occupant} {lit? : Option Bool}
    (found : content?.bind light? = some lit?) : content? = some (lamp lit?) := by
  obtain ⟨content, rfl, light⟩ := Option.bind_eq_some_iff.mp found
  exact congrArg some (eq_lamp_of_light? light)

/-- An instance only ever holds what setters store that are called for it: this goes for every
operation, for whatever the host gets to see after a call, and for whatever scripts get to see after
a request. -/
theorem contents_change_by_writes (reachable : session.Reachable) (ready : session.phase = .ready) :
    (∀ (operation : Operation) (handle : Handle) (first content : Occupant),
      session.machine.store.heap.content? handle = some first →
      (session.perform operation).2.machine.store.heap.content? handle = some content →
      session.Explained operation handle first content) ∧
    (∀ (handle : Handle) (content : Occupant),
      session.machine.store.heap.content? handle = some content →
      session.collected.machine.store.heap.contains handle = true →
      session.Shows handle content) ∧
    (∀ (call : HostCall) (handle : Handle) (first : Occupant),
      session.machine.store.heap.content? handle = some first →
      (session.perform call.operation).2.collected.machine.store.heap.contains handle = true →
      (session.perform call.operation).2.Shows handle
        (Writing.leaves (call.writing? session) handle first)) ∧
    ∀ (machine : Machine) (request : Call.Request) (reference : Reference) (place : Place)
      (first : Occupant), machine.Sound ⟨session.types, fun _ _ => False, fun _ => False⟩ 0 →
      (∀ value ∈ request.values, value.owned ≤ machine.owned) →
      machine.store.heap.content? reference.handle = some first →
      (machine.callNative session.types request).2.valueAt place = .object reference →
      ShowsScript session.types (machine.callNative session.types request).2 reference
        (Writing.leaves (machine.writing? session.types request) reference.handle first) := by
  have alive : session.phase ≠ .tornDown := by
    rw [ready]
    exact nofun
  have regular := (reachable.sound alive).machine.accounts.regular
  refine ⟨?operations, ?views, ?calls, ?requests⟩
  case operations =>
    intro operation handle first content found holds
    exact explained ready (.of_content regular found) operation holds
  case views =>
    intro handle content found there
    exact shows_retained ready (.of_content regular found) there
  case calls =>
    intro call handle first found there
    have later : (session.perform call.operation).2.phase = .ready :=
      perform_ready ready (by cases call <;> exact nofun)
    exact shows_retained later (call.retains ready (.of_content regular found)) there
  case requests =>
    intro machine request reference place first sound held found points
    exact showsScript_requested sound held found points

/-- Lit by the host or by a script, the lamp shows its light to all. -/
theorem lamp_shows_its_light :
    lighting.Explained (.run "lamp.lit = true;") ⟨0, 0⟩ (lamp none) (lamp (some true)) ∧
    (lighting.perform (.setField ⟨0, 0⟩ "lit" (.boolean true))).2.Shows ⟨0, 0⟩
      (lamp (some true)) ∧
    ShowsScript lighting.types (lighting.machine.callNative lighting.types
        (.write ⟨⟨0, 0⟩, 0⟩ "lit" (.datum (.boolean true)))).2
      ⟨⟨0, 0⟩, 0⟩ (lamp (some true)) := by
  have ready : lighting.phase = .ready := by decide +kernel
  have dark : lighting.machine.store.heap.content? ⟨0, 0⟩ = some (lamp none) :=
    holds_lamp (by decide +kernel)
  obtain ⟨operations, _, calls, requests⟩ := contents_change_by_writes lighting_reachable ready
  refine ⟨operations _ _ _ _ dark (holds_lamp (by decide +kernel)), ?host, ?script⟩
  case host =>
    have shown := calls (.write ⟨0, 0⟩ "lit" (.boolean true)) ⟨0, 0⟩ (lamp none) dark
      (by decide +kernel)
    have stored : Writing.leaves ((HostCall.write ⟨0, 0⟩ "lit" (.boolean true)).writing? lighting)
        ⟨0, 0⟩ (lamp none) = lamp (some true) := eq_lamp_of_light? (by decide +kernel)
    rw [stored] at shown
    exact shown
  case script =>
    have sound := (lighting_reachable.sound lighting_alive).machine
    have refers : lighting.machine.valueAt (.ofVariable 0) = .object ⟨⟨0, 0⟩, 0⟩ :=
      eq_object_of_reference? (by decide +kernel)
    have held : ∀ value ∈ [Value.object ⟨⟨0, 0⟩, 0⟩, .datum (.boolean true)],
        value.owned ≤ lighting.machine.owned := by
      intro value member
      rcases List.mem_pair.mp member with rfl | rfl
      · rw [← refers]
        exact Machine.owned_valueAt_le _ _
      · exact Multiset.zero_le _
    have shown := requests lighting.machine (.write ⟨⟨0, 0⟩, 0⟩ "lit" (.datum (.boolean true)))
      ⟨⟨0, 0⟩, 0⟩ (.ofVariable 0) (lamp none) sound held dark
      (eq_object_of_reference? (by decide +kernel))
    have stored : Writing.leaves (lighting.machine.writing? lighting.types
        (.write ⟨⟨0, 0⟩, 0⟩ "lit" (.datum (.boolean true)))) ⟨0, 0⟩ (lamp none) =
        lamp (some true) := eq_lamp_of_light? (by decide +kernel)
    rw [stored] at shown
    exact shown

end Session
end ScriptHost
