import ScriptHost.Proofs.Native.Temporaries
import ScriptHost.Proofs.Session.Entries

/-!
Temporaries of native calls.

A native call of the host or of a script may allocate as many instances as it likes. The one in its
result stays, with a claim of whoever gets the result. The others go with the call, and all of them
do if it fails. What the host had pinned or scripts referred to stays, with the claims that it had.
-/

set_option autoImplicit false

namespace ScriptHost

open Script

namespace Session

/-- What a native call leaves of a heap that script values with these holdings refer to. -/
structure Reclaims (heap : Heap Occupant) (holdings : Multiset Holding)
    (Allocated : Handle → Prop) (result? : Option Handle) (claim : Claims → Claims)
    (after : Heap Occupant) : Prop extends heap.Tidied Allocated result? claim after where
  referenced : ∀ reference, .object reference ∈ holdings →
    ∃ claims, heap.claims? reference.handle = some claims ∧ 0 < claims.anchors

/-- The native call that an operation makes, up to its result. -/
def Operation.native? (types : TypeRegistry) : Operation → Option (Call HostValue)
  | createObject named arguments =>
      (types.idOfName? named).map fun typeId =>
        Call.construct types typeId arguments >>= fun handle => pure (.object handle)
  | insertObject body =>
      some (Call.ofResult (Call.allocate types body.type body.content) >>= Call.insert >>=
        fun handle => pure (.object handle))
  | callMethod receiver name arguments => some (Call.callMethod types receiver name arguments)
  | getField owner name => some (Call.getField types owner name)
  | setField owner name value =>
      some (Call.setField types owner name value >>= fun _ => pure .null)
  | _ => none

variable {session : Session} {operation : Operation} {call : Call HostValue}

theorem native?_grows {types : TypeRegistry} (native : operation.native? types = some call)
    {base : Heap Occupant} {state : CallState} (grown : state.Grown base) :
    Leads (CallState.Grown base) call (fun _ _ => True) state := by
  cases operation with
  | createObject named arguments =>
      unfold Operation.native? at native
      obtain ⟨typeId, _, rfl⟩ := Option.map_eq_some_iff.mp native
      exact Call.leads_grown grown (Call.construct_admitted typeId arguments)
  | insertObject body =>
      cases native
      apply (((Call.ofResult_keeps _).bind Call.insert_grows).bind _) state grown
      exact fun _ => Keeps.of_ok _
  | callMethod receiver name arguments =>
      cases native
      exact Call.leads_grown grown (Call.callMethod_admitted receiver name arguments)
  | getField owner name =>
      cases native
      exact Call.leads_grown grown (Call.getField_admitted owner name)
  | setField owner name value =>
      cases native
      exact Call.leads_grown grown (Call.setField_admitted owner name value)
  | _ => cases native

def Reply.handle? : Reply → Option Handle
  | handle given => some given
  | value given => given.handle?
  | _ => none

/-- What an operation replies that has a handle to tell, or nothing. -/
def Reply.telling : HostValue → Reply
  | .object given => .handle given
  | _ => .done

theorem Reply.handle?_telling (value : HostValue) :
    (telling value).handle? = value.handle? := by
  cases value <;> rfl

theorem given?_eq (session : Session) (operation : Operation) :
    session.given? operation = (session.perform operation).1.toOption.bind Reply.handle? := by
  unfold given?
  cases (session.perform operation).1 with
  | error fault => rfl
  | ok reply =>
      cases reply with
      | value given => cases given <;> rfl
      | _ => rfl

theorem HostCall.handle?_reply {hosted : HostCall} (answers : ∀ owner name value,
    hosted ≠ .write owner name value) (value : HostValue) :
    (hosted.reply value).handle? = value.handle? := by
  cases hosted with
  | write owner name value => exact absurd rfl (answers owner name value)
  | _ => cases value <;> rfl

theorem pinResult_null {α : Type} (inner : Call α) :
    ((inner >>= fun _ => pure .null) >>= Call.pinResult) = inner >>= fun _ => pure .null := by
  simp only [bind_assoc, pure_bind]
  rfl

theorem native?_performs (ready : session.phase = .ready)
    (native : operation.native? session.types = some call) :
    ∃ reply : HostValue → Reply, session.perform operation = session.ran call reply ∧
      ∀ value, (reply value).handle? = value.handle? := by
  cases operation with
  | createObject named arguments =>
      unfold Operation.native? at native
      obtain ⟨typeId, known, rfl⟩ := Option.map_eq_some_iff.mp native
      refine ⟨_, (perform_create ready known arguments).trans ?_,
        @HostCall.handle?_reply (.create named arguments) nofun⟩
      exact (ran_congr (Call.construct_admitted typeId arguments) _).symm
  | insertObject body =>
      cases native
      let insertion (types : TypeRegistry) : Call Handle := do
        let occupant ← Call.ofResult (Call.allocate types body.type body.content)
        let handle ← Call.insert occupant
        Call.pin handle
        return handle
      have inserted := @perform_native session Handle ready (.insertObject body) insertion .handle rfl
      have pinned : ((Call.ofResult (Call.allocate session.types body.type body.content) >>=
          Call.insert >>= fun handle => pure (.object handle)) >>= Call.pinResult) =
            insertion session.types >>= fun handle => pure (.object handle) := by
        unfold insertion
        simp only [bind_assoc, pure_bind]
        rfl
      exact ⟨Reply.telling, inserted.trans (ran_map pinned Reply.telling).symm,
        Reply.handle?_telling⟩
  | callMethod receiver name arguments =>
      cases native
      refine ⟨_, (perform_method ready receiver name arguments).trans ?_,
        @HostCall.handle?_reply (.method receiver name arguments) nofun⟩
      exact (ran_congr (Call.callMethod_admitted receiver name arguments) _).symm
  | getField owner name =>
      cases native
      refine ⟨_, (perform_read ready owner name).trans ?_,
        @HostCall.handle?_reply (.read owner name) nofun⟩
      exact (ran_congr (Call.getField_admitted owner name) _).symm
  | setField owner name value =>
      cases native
      refine ⟨Reply.telling, (perform_write ready owner name value).trans ?_,
        Reply.handle?_telling⟩
      refine (ran_congr (Call.setField_admitted owner name value) _).symm.trans ?_
      have pinned := pinResult_null (Call.setField session.types owner name value)
      exact (ran_map pinned _).trans (ran_map pinned Reply.telling).symm
  | _ => cases native

theorem tidied_perform (ready : session.phase = .ready)
    (regular : session.machine.store.heap.Regular) (queued : session.machine.store.heap.Queued)
    (native : operation.native? session.types = some call) :
    session.machine.store.heap.Tidied (call.Allocates session.machine.store)
      (session.given? operation) Claims.held
      (session.perform operation).2.machine.store.heap := by
  obtain ⟨reply, performed, told⟩ := native?_performs ready native
  have tidied := Store.run_tidied Call.hands_pinResult regular queued (native?_grows native)
  rw [given?_eq, performed]
  change session.machine.store.heap.Tidied _
    (((session.machine.store.run (call >>= Call.pinResult)).1.map reply).toOption.bind
      Reply.handle?) _ (session.machine.store.run (call >>= Call.pinResult)).2.heap
  have same : ((session.machine.store.run (call >>= Call.pinResult)).1.map reply).toOption.bind
      Reply.handle? = (session.machine.store.run (call >>= Call.pinResult)).1.toOption.bind
        HostValue.handle? := by
    cases (session.machine.store.run (call >>= Call.pinResult)).1 with
    | ok value => exact told value
    | error fault => rfl
  rw [same]
  exact tidied

def answer? (types : TypeRegistry) (machine : Machine) (request : Call.Request) : Option Handle :=
  match machine.callNative types request with
  | (.ok _, after) => after.operands.back?.bind Value.handle?
  | (.error _, _) => none

theorem tidied_request {store : Store} (regular : store.heap.Regular) (queued : store.heap.Queued)
    (types : TypeRegistry) (request : Call.Request) :
    store.heap.Tidied ((request.call types).Allocates store)
      ((store.run (request.call types >>= Call.toScript)).1.toOption.bind Value.handle?)
      Claims.anchored (store.run (request.call types >>= Call.toScript)).2.heap :=
  Store.run_tidied Call.hands_toScript regular queued fun grown =>
    Call.leads_grown grown (Call.Request.call_admitted request)

theorem tidied_callNative {machine : Machine} (regular : machine.store.heap.Regular)
    (queued : machine.store.heap.Queued) (types : TypeRegistry) (request : Call.Request) :
    machine.store.heap.Tidied ((request.call types).Allocates machine.store)
      (answer? types machine request) Claims.anchored
      (machine.callNative types request).2.store.heap := by
  have tidied := tidied_request regular queued types request
  unfold answer?
  rw [callNative_answered]
  generalize machine.store.run (request.call types >>= Call.toScript) = outcome at tidied ⊢
  obtain ⟨fault | value, left⟩ := outcome
  · exact tidied
  · change machine.store.heap.Tidied _
      (((machine.requested request).operands.push value).back?.bind Value.handle?) _ left.heap
    rw [Array.back?_push]
    exact tidied

/-- However many instances a native call allocates, when it has ended just the one in its result is
live, with a claim of the host or of a script, and none if it fails. Whatever the host had pinned
or script values referred to is live with the claims that it had, that on the result apart. So it is
for every native operation of the host, for every request that a script may make, and for every
request that a script has ever made. -/
theorem native_calls_leave_no_temporaries (reachable : session.Reachable)
    (ready : session.phase = .ready) :
    (∀ (operation : Operation) (call : Call HostValue),
      operation.native? session.types = some call →
      Reclaims session.machine.store.heap session.machine.owned
        (call.Allocates session.machine.store) (session.given? operation) Claims.held
        (session.perform operation).2.machine.store.heap) ∧
    (∀ (types : TypeRegistry) (machine : Machine) (covenant : Covenant) (request : Call.Request),
      machine.Sound covenant 0 →
      Reclaims machine.store.heap machine.owned ((request.call types).Allocates machine.store)
        (answer? types machine request) Claims.anchored
        (machine.callNative types request).2.store.heap) ∧
    ∀ (request : Call.Request) (heap : Heap Occupant) (holdings : List Holding),
      session.machine.history ⟨.request request, heap, holdings⟩ →
      ∀ (types : TypeRegistry) (generator : Random.Generator),
        Reclaims heap holdings ((request.call types).Allocates ⟨heap, generator⟩)
          ((Store.run (request.call types >>= Call.toScript) ⟨heap, generator⟩).1.toOption.bind
            Value.handle?) Claims.anchored
          (Store.run (request.call types >>= Call.toScript) ⟨heap, generator⟩).2.heap := by
  have alive : session.phase ≠ .tornDown := by
    rw [ready]
    exact nofun
  have sound := (reachable.sound alive).machine
  have referenced : ∀ {covenant : Covenant} {machine : Machine}, machine.Sound covenant 0 →
      ∀ reference, .object reference ∈ machine.owned → ∃ claims,
        machine.store.heap.claims? reference.handle = some claims ∧ 0 < claims.anchors := by
    intro covenant machine sound reference member
    have accounts := sound.accounts
    rw [zero_add] at accounts
    exact accounts.anchored_of_reference member
  refine ⟨fun operation call native => ?_, fun types machine covenant request sound => ?_,
    fun request heap holdings known types generator => ?_⟩
  · have tidied := tidied_perform ready sound.accounts.regular sound.queued native
    exact ⟨tidied, referenced sound⟩
  · have tidied := tidied_callNative sound.accounts.regular sound.queued types request
    exact ⟨tidied, referenced sound⟩
  · have faithful := reachable.faithful _ known
    have settled := faithful.fits.settled request rfl
    have tidied := @tidied_request ⟨heap, generator⟩ faithful.accounts.regular settled.queued
      types request
    exact ⟨tidied, fun reference member => faithful.accounts.anchored_of_reference member⟩

/-- A session with a mint. It makes two tokens and gives the second, or makes one and fails. -/
def minting : Session :=
  let mint : HostType := ⟨"Mint", .empty⟩
  let pair : Method mint := ⟨[], fun _ _ => .allocate token () fun _ =>
    .allocate token () .ofResult⟩
  let spoil : Method mint := ⟨[], fun _ _ => .allocate token () fun _ => .fail (.domain "spoilt")⟩
  hosting.after [
    .register (.type ⟨"Mint", mint, [], [], [("pair", pair), ("spoil", spoil)], [], none⟩),
    .insertObject ⟨mint, ()⟩]

theorem minting_reachable : minting.Reachable :=
  hosting_reachable.after _

/-- The second token of a pair is the host's and the first one is gone. A token that has been spoilt
is gone too, and the mint stays the host's through all this. -/
theorem one_token_is_minted :
    minting.Reachable ∧ minting.phase = .ready ∧
      (∃ after, (minting.perform (.callMethod ⟨0, 0⟩ "pair" [])).2 = after ∧
        after.machine.store.heap.claims? ⟨0, 0⟩ = some ⟨true, 0⟩ ∧
        after.machine.store.heap.claims? ⟨1, 0⟩ = none ∧
        after.machine.store.heap.claims? ⟨2, 0⟩ = some ⟨true, 0⟩) ∧
      ∃ after, (minting.perform (.callMethod ⟨0, 0⟩ "spoil" [])).2 = after ∧
        after.machine.store.heap.claims? ⟨0, 0⟩ = some ⟨true, 0⟩ ∧
        after.machine.store.heap.claims? ⟨1, 0⟩ = none := by
  have ready : minting.phase = .ready := by decide +kernel
  obtain ⟨host, _, _⟩ := native_calls_leave_no_temporaries minting_reachable ready
  have mint : minting.machine.store.heap.claims? ⟨0, 0⟩ = some ⟨true, 0⟩ := by decide +kernel
  have pinned : (⟨true, 0⟩ : Claims) ≠ .empty := by decide
  refine ⟨minting_reachable, ready, ⟨_, rfl, ?_⟩, ⟨_, rfl, ?_⟩⟩
  · have minted := host (.callMethod ⟨0, 0⟩ "pair" []) _ rfl
    have given : minting.given? (.callMethod ⟨0, 0⟩ "pair" []) = some ⟨2, 0⟩ := by decide +kernel
    rw [given] at minted
    refine ⟨minted.kept _ _ mint pinned, minted.allocated ⟨1, 0⟩ ?_, minted.allocated ⟨2, 0⟩ ?_⟩
    · exact ⟨by decide +kernel, by decide +kernel⟩
    · exact ⟨by decide +kernel, by decide +kernel⟩
  · have spoilt := host (.callMethod ⟨0, 0⟩ "spoil" []) _ rfl
    have given : minting.given? (.callMethod ⟨0, 0⟩ "spoil" []) = none := by decide +kernel
    rw [given] at spoilt
    refine ⟨spoilt.kept _ _ mint pinned, spoilt.allocated ⟨1, 0⟩ ?_⟩
    exact ⟨by decide +kernel, by decide +kernel⟩

end Session
end ScriptHost
