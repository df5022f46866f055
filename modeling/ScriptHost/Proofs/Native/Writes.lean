import ScriptHost.Proofs.Heap.Contents
import ScriptHost.Proofs.Native.Entries

/-!
What native calls write.

Only the setter of a field writes to an instance, and only to the one that it is called for. All
other bodies, constructors, getters, methods, operators and functions, insert instances and read
them. So an instance that is there before and after a native call holds what it held, or what the
setter that has been called for it has stored.
-/

set_option autoImplicit false

namespace ScriptHost

open Script

/-- What a setter stores, and in which instance. -/
structure Writing where
  owner : Handle
  stored : Occupant

/-- What an instance holds after a write, if there is one, given what it holds before. -/
def Writing.leaves (writing? : Option Writing) (handle : Handle) (before : Occupant) : Occupant :=
  match writing? with
  | some writing => if writing.owner = handle then writing.stored else before
  | none => before

namespace Call

variable {types : TypeRegistry} {heap : Heap Occupant} {state : CallState}
  {kept : Heap Occupant → Prop} {handle : Handle} {content : Occupant}

/-- What a body stores is stored also if it ends in a fault. -/
def Entry.writing? : Entry → Option Writing
  | write owner typeId descriptor change content value =>
      some ⟨owner, ⟨typeId, ⟨descriptor.type, (change content value).1⟩⟩⟩
  | _ => none

def writing? (checked : Except Fault Entry) : Option Writing :=
  checked.toOption.bind Entry.writing?

theorem entry_of_writing? {checked : Except Fault Entry} {writing : Writing}
    (written : writing? checked = some writing) :
    ∃ entry, checked = .ok entry ∧ entry.writing? = some writing := by
  obtain ⟨entry, checked, written⟩ := Option.bind_eq_some_iff.mp written
  exact ⟨entry, eq_ok_of_toOption checked, written⟩

theorem unwritten_construct {typeId : TypeId} {arguments : List HostValue} {entry : Entry}
    (admitted : checkConstruct types typeId arguments = .ok entry) : entry.writing? = none := by
  obtain ⟨descriptor, _, admitted⟩ := of_bind_ok admitted
  obtain ⟨constructor, _, admitted⟩ := of_bind_ok admitted
  cases admitted
  rfl

theorem unwritten_method {receiver : Handle} {name : String} {arguments : List HostValue}
    {entry : Entry} (admitted : checkMethod types heap receiver name arguments = .ok entry) :
    entry.writing? = none := by
  obtain ⟨found, _, admitted⟩ := of_bind_ok admitted
  obtain ⟨method, _, admitted⟩ := of_bind_ok admitted
  obtain ⟨_, _, admitted⟩ := of_bind_ok admitted
  obtain ⟨content, _, admitted⟩ := of_bind_ok admitted
  cases admitted
  rfl

theorem unwritten_read {owner : Handle} {name : String} {entry : Entry}
    (admitted : checkRead types heap owner name = .ok entry) : entry.writing? = none := by
  obtain ⟨found, _, admitted⟩ := of_bind_ok admitted
  obtain ⟨field, _, admitted⟩ := of_bind_ok admitted
  obtain ⟨content, _, admitted⟩ := of_bind_ok admitted
  cases admitted
  rfl

theorem unwritten_operator {operator : Operator} {left : HostValue} {right? : Option HostValue}
    {entry : Entry} (admitted : checkOperator types heap operator left right? = .ok entry) :
    entry.writing? = none := by
  obtain ⟨leftOperand, _, admitted⟩ := of_bind_ok admitted
  obtain ⟨rightOperand?, _, admitted⟩ := of_bind_ok admitted
  obtain ⟨⟨owner?, entry?⟩, _, admitted⟩ := of_bind_ok admitted
  cases entry? with
  | none => cases admitted
  | some found =>
      cases admitted
      rfl

theorem unwritten_function {function : FunctionDescriptor} {arguments : List Value} {entry : Entry}
    (admitted : checkScriptFunction heap function arguments = .ok entry) :
    entry.writing? = none := by
  unfold checkScriptFunction at admitted
  split at admitted
  · split at admitted
    · obtain ⟨given, _, same⟩ := of_bind_ok admitted
      cases same
      rfl
    · cases admitted
  · obtain ⟨given, _, same⟩ := of_bind_ok admitted
    cases same
    rfl

theorem content?_of_described {owner : Handle} {found : TypeDescriptor × Occupant}
    (known : described types heap owner = .ok found) : heap.content? owner = some found.2 := by
  obtain ⟨resident, got, later⟩ := of_bind_ok known
  obtain ⟨descriptor, _, same⟩ := of_bind_ok later
  cases same
  exact Heap.content?_eq_some_iff.mpr ⟨resident, Heap.get_eq_ok_iff.mp got, rfl⟩

theorem described_eq {descriptor : TypeDescriptor} (found : heap.content? handle = some content)
    (known : types.get content.typeId = .ok descriptor) :
    described types heap handle = .ok (descriptor, content) := by
  obtain ⟨resident, resides, rfl⟩ := Heap.content?_eq_some_iff.mp found
  unfold described
  rw [Heap.get_eq_ok_iff.mpr resides]
  change (types.get resident.content.typeId >>= _) = _
  rw [known]
  rfl

structure Suits (heap : Heap Occupant) (owner : Handle) (writing : Writing) : Prop where
  same : writing.owner = owner
  typed : ∃ before, heap.content? owner = some before ∧ writing.stored.typeId = before.typeId

theorem suits_write {owner : Handle} {name : String} {value : HostValue} {entry : Entry}
    {writing : Writing} (admitted : checkWrite types heap owner name value = .ok entry)
    (writes : entry.writing? = some writing) : Suits heap owner writing := by
  obtain ⟨found, known, admitted⟩ := of_bind_ok admitted
  obtain ⟨field, _, admitted⟩ := of_bind_ok admitted
  split at admitted
  · cases admitted
  · obtain ⟨_, _, admitted⟩ := of_bind_ok admitted
    obtain ⟨content, _, admitted⟩ := of_bind_ok admitted
    cases admitted
    cases writes
    exact ⟨rfl, found.2, content?_of_described known, rfl⟩

/-- Only a request to write a field of an instance writes, and only to this instance. -/
theorem Request.suits_of_check {request : Request} {entry : Entry} {writing : Writing}
    (admitted : request.check types heap = .ok entry) (writes : entry.writing? = some writing) :
    ∃ owner name value, request = .write owner name value ∧ Suits heap owner.handle writing := by
  have unwritten : entry.writing? ≠ none := by
    rw [writes]
    exact nofun
  cases request with
  | construct typeId arguments =>
      obtain ⟨given, _, admitted⟩ := of_bind_ok admitted
      exact absurd (unwritten_construct admitted) unwritten
  | method receiver name arguments =>
      obtain ⟨found, _, admitted⟩ := of_bind_ok admitted
      obtain ⟨method, _, admitted⟩ := of_bind_ok admitted
      obtain ⟨given, _, admitted⟩ := of_bind_ok admitted
      exact absurd (unwritten_method admitted) unwritten
  | read owner field => exact absurd (unwritten_read admitted) unwritten
  | write owner field value =>
      obtain ⟨found, _, admitted⟩ := of_bind_ok admitted
      obtain ⟨declared, _, admitted⟩ := of_bind_ok admitted
      obtain ⟨given, _, admitted⟩ := of_bind_ok admitted
      exact ⟨owner, field, value, rfl, suits_write admitted writes⟩
  | operator symbol left right =>
      obtain ⟨left, _, admitted⟩ := of_bind_ok admitted
      obtain ⟨right, _, admitted⟩ := of_bind_ok admitted
      exact absurd (unwritten_operator admitted) unwritten
  | negation operand => exact absurd (unwritten_operator admitted) unwritten
  | function descriptor arguments => exact absurd (unwritten_function admitted) unwritten

def Within (kept : Heap Occupant → Prop) (state : CallState) : Prop :=
  kept state.store.heap

section Enduring

variable (enduring : Heap.Enduring kept)

include enduring

theorem insert_endures (occupant : Occupant) : Keeps (Within kept) (insert occupant) :=
  fun _ before => ⟨enduring.insert occupant false before, trivial⟩

theorem pin_endures (handle : Handle) : Keeps (Within kept) (pin handle) := by
  intro state before
  unfold Leads pin withHeap
  dsimp only
  cases found : state.store.heap.resident? handle with
  | none =>
      rw [Heap.pin_eq_error found]
      exact before
  | some resident =>
      rw [Heap.pin_eq_ok found]
      exact ⟨enduring.alter handle (fun _ => rfl) before, trivial⟩

theorem pinResult_endures (value : HostValue) : Keeps (Within kept) (pinResult value) := by
  cases value with
  | object handle => exact (pin_endures enduring handle).bind fun _ => Keeps.of_ok _
  | _ => exact Keeps.of_ok _

theorem toScript_endures (value : HostValue) : Keeps (Within kept) (toScript value) := by
  intro state before
  obtain ⟨⟨heap, generator⟩, fresh⟩ := state
  unfold Leads toScript
  dsimp only
  cases entered : value.toScript heap with
  | error fault => exact before
  | ok result =>
      obtain ⟨script, after⟩ := result
      refine ⟨?_, trivial⟩
      rcases toScript_cases entered with ⟨_, _, rfl⟩ | ⟨handle, _, _, _, rfl⟩
      · exact before
      · exact enduring.alter handle (fun _ => rfl) before

omit enduring in
theorem draw_within (sampler : Sampler) (before : Within kept state) :
    Within kept (draw sampler state).2 := by
  unfold draw
  split
  · exact before
  · exact before

theorem perform_endures {α : Type} (routine : Routine α) :
    Keeps (Within kept) (perform types routine) :=
  @perform_preserves α types (Within kept)
    (fun _ occupant _ before => enduring.insert occupant false before)
    (fun _ sampler before => draw_within sampler before) routine

theorem run_endures (entry : Entry) (none : entry.writing? = none) :
    Keeps (Within kept) (entry.run types) := by
  cases entry with
  | construct typeId descriptor constructor arguments =>
      apply (perform_endures enduring _).bind
      intro content
      exact (insert_endures enduring _).bind fun _ => Keeps.of_ok _
  | method receiver descriptor method content arguments => exact perform_endures enduring _
  | read owner descriptor field content => exact Keeps.of_ok _
  | write owner typeId descriptor change content value => cases none
  | operator entry left right? => exact perform_endures enduring _
  | function descriptor arguments => exact perform_endures enduring _

end Enduring

/-- A body leaves an instance what it held, or what it stores there. -/
theorem run_retains (entry : Entry) (retains : state.store.heap.Retains handle content) :
    Leads (Within fun heap => heap.Retains handle (Writing.leaves entry.writing? handle content))
      (entry.run types) (fun _ _ => True) state := by
  cases entry with
  | write owner typeId descriptor change held value =>
      have stored : Heap.Retains handle (Writing.leaves
          (Entry.write owner typeId descriptor change held value).writing? handle content)
          (state.store.heap.replace owner ⟨typeId, ⟨descriptor.type, (change held value).1⟩⟩) := by
        unfold Entry.writing? Writing.leaves
        dsimp only
        split
        · rename_i same
          rw [same]
          exact retains.replace_self _
        · rename_i different
          exact retains.replace_other (fun same => different same.symm) _
      exact Entry.leads_write stored
  | _ => exact run_endures (Heap.enduring_retains handle content) _ rfl state retains

theorem checked_retains (checked : Except Fault Entry)
    (retains : state.store.heap.Retains handle content) :
    Leads
      (Within fun heap => heap.Retains handle (Writing.leaves (writing? checked) handle content))
      (ofResult checked >>= Entry.run types) (fun _ _ => True) state := by
  cases checked with
  | ok entry => exact run_retains entry retains
  | error fault => exact retains

end Call

namespace Store

open Call

variable {α : Type} {types : TypeRegistry} {store : Store} {kept : Heap Occupant → Prop}
  {handle : Handle} {content : Occupant}

theorem run_endures (enduring : Heap.Enduring kept) {call : Call α}
    (leads : Leads (Within kept) call (fun _ _ => True) ⟨store.collect, #[]⟩) :
    kept (run call store).2.heap := by
  have concluded : ∀ state : CallState, Within kept state → kept (conclude state).heap := by
    intro state within
    rw [conclude_heap]
    exact enduring.collect (enduring.sweep _ 0 within)
  unfold Leads at leads
  unfold run
  cases ended : call ⟨store.collect, #[]⟩ with
  | ok value state =>
      rw [ended] at leads
      exact concluded state leads.1
  | error fault state =>
      rw [ended] at leads
      exact concluded state leads

theorem run_retains {checked : Except Fault Entry} {finish : HostValue → Call α}
    (finishes : ∀ {kept}, Heap.Enduring kept → ∀ value, Keeps (Within kept) (finish value))
    (retains : store.heap.Retains handle content) :
    (run ((ofResult checked >>= Entry.run types) >>= finish) store).2.heap.Retains handle
      (Writing.leaves (writing? checked) handle content) := by
  apply run_endures (Heap.enduring_retains handle _)
  have collected : store.collect.heap.Retains handle content :=
    (Heap.enduring_retains handle content).collect retains
  have written := @checked_retains types ⟨store.collect, #[]⟩ handle content checked collected
  exact written.bind fun value after within _ =>
    finishes (Heap.enduring_retains handle _) value after within

end Store
end ScriptHost
