import ScriptHost.Proofs.Native.Entries
import ScriptHost.Proofs.Session.Methods
import ScriptHost.Proofs.Session.References
import ScriptHost.Proofs.Session.Typing

/-!
The instances that native bodies start with.

Whatever a script passes to a native callable is live when the body starts. So is the instance
whose method is called or whose field is read or written, by a script or by the host. What else the
host passes is looked at for its kind only: a body of the host's call starts with live instances
just if the host has passed no others.
-/

set_option autoImplicit false

namespace ScriptHost

open Script

namespace Session

/-- A request of a script is refused with nothing done, or it is the body that the check has found,
and this starts with live instances only. -/
structure GuardedRequest (types : TypeRegistry) (machine : Machine) (request : Call.Request) :
    Prop where
  refused : ∀ fault, request.check types machine.store.collect.heap = .error fault →
    machine.callNative types request = (.error fault, machine.requested request)
  entered : ∀ entry, request.check types machine.store.collect.heap = .ok entry →
    machine.callNative types request = answered (machine.requested request)
        (machine.store.run (entry.run types >>= Call.toScript)) ∧
      entry.Live machine.store.collect.heap

theorem guardedRequest (types : TypeRegistry) (machine : Machine) (request : Call.Request) :
    GuardedRequest types machine request := by
  have checked : machine.callNative types request = answered (machine.requested request)
      (machine.store.run ((Call.ofResult (request.check types machine.store.collect.heap) >>=
        Call.Entry.run types) >>= Call.toScript)) := by
    rw [callNative_answered]
    exact congrArg (answered _)
      (Store.run_congr Call.toScript (Call.Request.call_admitted request))
  constructor
  · intro fault refused
    have failed : (Call.ofResult (.error fault) >>= Call.Entry.run types)
        ⟨machine.store.collect, #[]⟩ = .error fault ⟨machine.store.collect, #[]⟩ := rfl
    rw [checked, refused, Store.run_error Call.toScript failed, Store.conclude_collect]
    rfl
  · intro entry admitted
    refine ⟨?_, Call.Request.live_of_check admitted⟩
    rw [checked, admitted]
    rfl

inductive HostCall where
  | create (typeName : String) (arguments : List HostValue)
  | method (receiver : Handle) (name : String) (arguments : List HostValue)
  | read (owner : Handle) (name : String)
  | write (owner : Handle) (name : String) (value : HostValue)

variable {session : Session} {types : TypeRegistry} {heap : Heap Occupant}

namespace HostCall

def operation : HostCall → Operation
  | create typeName arguments => .createObject typeName arguments
  | method receiver name arguments => .callMethod receiver name arguments
  | read owner name => .getField owner name
  | write owner name value => .setField owner name value

def receiver? : HostCall → Option Handle
  | create _ _ => none
  | method receiver _ _ => some receiver
  | read owner _ | write owner _ _ => some owner

def arguments : HostCall → List HostValue
  | create _ arguments | method _ _ arguments => arguments
  | read _ _ => []
  | write _ _ value => [value]

/-- What the host is told of a body that ends with a value. -/
def reply : HostCall → HostValue → Reply
  | create _ _, .object handle => .handle handle
  | write _ _ _, _ => .done
  | _, value => .value value

def check (types : TypeRegistry) (heap : Heap Occupant) : HostCall → Except Fault Call.Entry
  | create typeName arguments =>
      match types.idOfName? typeName with
      | some typeId => Call.checkConstruct types typeId arguments
      | none => .error (.undefinedFunction typeName)
  | method receiver name arguments => Call.checkMethod types heap receiver name arguments
  | read owner name => Call.checkRead types heap owner name
  | write owner name value => Call.checkWrite types heap owner name value

theorem check_create (typeName : String) (arguments : List HostValue) :
    (create typeName arguments).check types heap =
      match types.idOfName? typeName with
      | some typeId => Call.checkConstruct types typeId arguments
      | none => .error (.undefinedFunction typeName) :=
  rfl

theorem begins {call : HostCall} {entry : Call.Entry}
    (admitted : call.check types heap = .ok entry) :
    entry.Begins heap call.receiver? call.arguments := by
  cases call with
  | create typeName arguments =>
      rw [check_create] at admitted
      split at admitted
      · exact Call.admitted_construct admitted
      · cases admitted
  | method receiver name arguments => exact Call.admitted_method admitted
  | read owner name => exact Call.admitted_read admitted
  | write owner name value => exact Call.admitted_write admitted

theorem check_stale {call : HostCall} {receiver : Handle} (owner : call.receiver? = some receiver)
    (dead : heap.contains receiver = false) :
    call.check types heap = .error (.staleHandle receiver) := by
  have missing : Call.described types heap receiver = .error (.staleHandle receiver) := by
    have none : heap.resident? receiver = none := by
      unfold Heap.contains at dead
      rwa [Option.isSome_eq_false_iff, Option.isNone_iff_eq_none] at dead
    unfold Call.described Heap.get
    rw [none]
    rfl
  cases call with
  | create typeName arguments => cases owner
  | method other name arguments =>
      cases owner
      change Call.checkMethod _ _ _ _ _ = _
      unfold Call.checkMethod
      rw [missing]
      rfl
  | read other name =>
      cases owner
      change Call.checkRead _ _ _ _ = _
      unfold Call.checkRead
      rw [missing]
      rfl
  | write other name value =>
      cases owner
      change Call.checkWrite _ _ _ _ _ = _
      unfold Call.checkWrite
      rw [missing]
      rfl

end HostCall

/-- The session after a collection. -/
def collected (session : Session) : Session :=
  session.withMachine { session.machine with store := session.machine.store.collect }

/-- What the host gets from a native call, and the session that this leaves. -/
def ran (session : Session) (call : Call HostValue) (reply : HostValue → Reply) :
    Except Fault Reply × Session :=
  ((session.machine.store.run (call >>= Call.pinResult)).1.map reply,
    session.withMachine { session.machine with
      store := (session.machine.store.run (call >>= Call.pinResult)).2 })

theorem ran_congr {first second : Call HostValue}
    (same : first ⟨session.machine.store.collect, #[]⟩ =
      second ⟨session.machine.store.collect, #[]⟩) (reply : HostValue → Reply) :
    session.ran first reply = session.ran second reply := by
  unfold ran
  rw [Store.run_congr Call.pinResult same]

theorem ran_map {α : Type} {call : Call HostValue} {inner : Call α} {result : α → HostValue}
    (same : (call >>= Call.pinResult) = inner >>= fun value => pure (result value))
    (reply : HostValue → Reply) :
    session.ran call reply =
      ((session.machine.store.run inner).1.map fun value => reply (result value),
        session.withMachine { session.machine with
          store := (session.machine.store.run inner).2 }) := by
  unfold ran
  rw [same, Store.run_map]
  cases (session.machine.store.run inner).1 with
  | ok value => rfl
  | error fault => rfl

def insertion (body : Instance) (types : TypeRegistry) : Call Handle := do
  let occupant ← Call.ofResult (Call.allocate types body.type body.content)
  let handle ← Call.insert occupant
  Call.pin handle
  return handle

theorem perform_insert (ready : session.phase = .ready) (body : Instance) :
    session.perform (.insertObject body) =
      ((session.machine.store.run (insertion body session.types)).1.map .handle,
        session.withMachine { session.machine with
          store := (session.machine.store.run (insertion body session.types)).2 }) :=
  perform_native ready rfl

def construction (typeId : TypeId) (arguments : List HostValue) (types : TypeRegistry) :
    Call Handle := do
  let handle ← Call.construct types typeId arguments
  Call.pin handle
  return handle

theorem createObject_eq (ready : session.phase = .ready) (typeName : String)
    (arguments : List HostValue) :
    createObject typeName arguments session =
      match session.types.idOfName? typeName with
      | none => .error (.undefinedFunction typeName) session
      | some typeId => native (construction typeId arguments) session := by
  unfold createObject whenReady
  rw [ready]
  change (match session.types.idOfName? typeName with
    | none => throw (.undefinedFunction typeName)
    | some typeId => native (construction typeId arguments) : Action Handle) session = _
  cases session.types.idOfName? typeName with
  | none => rfl
  | some typeId => rfl

theorem perform_create_unknown (ready : session.phase = .ready) {typeName : String}
    (unknown : session.types.idOfName? typeName = none) (arguments : List HostValue) :
    session.perform (.createObject typeName arguments) =
      (.error (.undefinedFunction typeName), session) := by
  have refused := createObject_eq ready typeName arguments
  rw [unknown] at refused
  have mapped : (Operation.createObject typeName arguments).perform session =
      (createObject typeName arguments).map .handle session := rfl
  unfold perform
  rw [mapped]
  unfold EStateM.map
  rw [refused]

theorem perform_create (ready : session.phase = .ready) {typeName : String} {typeId : TypeId}
    (known : session.types.idOfName? typeName = some typeId) (arguments : List HostValue) :
    session.perform (.createObject typeName arguments) =
      session.ran (Call.ofResult (Call.checkConstruct session.types typeId arguments) >>=
        Call.Entry.run session.types) (HostCall.create typeName arguments).reply := by
  have created := createObject_eq ready typeName arguments
  rw [known] at created
  have made : (Operation.createObject typeName arguments).perform session =
      (native (construction typeId arguments)).map Reply.handle session := by
    change (createObject typeName arguments).map Reply.handle session = _
    unfold EStateM.map
    rw [created]
  rw [perform_native ready made]
  refine Eq.trans ?_ (ran_congr (Call.construct_admitted typeId arguments) _)
  have pinned : ((Call.construct session.types typeId arguments >>= fun handle =>
      pure (.object handle)) >>= Call.pinResult) =
        construction typeId arguments session.types >>= fun handle => pure (.object handle) := by
    unfold construction
    simp only [bind_assoc, pure_bind]
    rfl
  rw [ran_map pinned]
  rfl

theorem perform_write (ready : session.phase = .ready) (owner : Handle) (name : String)
    (value : HostValue) :
    session.perform (.setField owner name value) =
      session.ran (Call.ofResult (Call.checkWrite session.types session.collected.machine.store.heap
        owner name value) >>= Call.Entry.run session.types)
        (HostCall.write owner name value).reply := by
  have set := @perform_native session _ ready (.setField owner name value)
    (fun types => Call.setField types owner name value) (fun _ => .done) rfl
  rw [set]
  refine Eq.trans ?_ (ran_congr (Call.setField_admitted owner name value) _)
  have pinned : ((Call.setField session.types owner name value >>= fun _ => pure .null) >>=
      Call.pinResult) = Call.setField session.types owner name value >>= fun _ => pure .null := by
    simp only [bind_assoc, pure_bind]
    rfl
  rw [ran_map pinned]
  rfl

theorem perform_method (ready : session.phase = .ready) (receiver : Handle) (name : String)
    (arguments : List HostValue) :
    session.perform (.callMethod receiver name arguments) =
      session.ran (Call.ofResult (Call.checkMethod session.types
        session.collected.machine.store.heap receiver name arguments) >>=
          Call.Entry.run session.types)
        (HostCall.method receiver name arguments).reply := by
  rw [perform_callMethod ready]
  exact @ran_congr session _ _ (Call.callMethod_admitted receiver name arguments) .value

theorem perform_read (ready : session.phase = .ready) (owner : Handle) (name : String) :
    session.perform (.getField owner name) =
      session.ran (Call.ofResult (Call.checkRead session.types session.collected.machine.store.heap
        owner name) >>= Call.Entry.run session.types) (HostCall.read owner name).reply := by
  have got := @perform_native session _ ready (.getField owner name)
    (fun types => Call.getField types owner name >>= Call.pinResult) .value rfl
  rw [got]
  exact @ran_congr session _ _ (Call.getField_admitted owner name) .value

theorem ran_error (fault : Fault) (work : Call.Entry → Call HostValue)
    (reply : HostValue → Reply) :
    session.ran (Call.ofResult (.error fault) >>= work) reply =
      (.error fault, session.collected) := by
  have refused : (Call.ofResult (.error fault) >>= work) ⟨session.machine.store.collect, #[]⟩ =
      .error fault ⟨session.machine.store.collect, #[]⟩ := rfl
  unfold ran
  rw [Store.run_error Call.pinResult refused, Store.conclude_collect]
  rfl

namespace HostCall

/-- A call of the host is its check and then a body, unless it names no type. -/
theorem perform_checked (ready : session.phase = .ready) (call : HostCall) :
    session.perform call.operation =
        session.ran (Call.ofResult (call.check session.types session.collected.machine.store.heap)
          >>= Call.Entry.run session.types) call.reply ∨
      ∃ fault, call.check session.types session.collected.machine.store.heap = .error fault ∧
        session.perform call.operation = (.error fault, session) := by
  cases call with
  | create typeName arguments =>
      cases known : session.types.idOfName? typeName with
      | none =>
          have unknown := perform_create_unknown ready known arguments
          refine .inr ⟨.undefinedFunction typeName, ?_, unknown⟩
          rw [check_create, known]
      | some typeId =>
          refine .inl ((perform_create ready known arguments).trans ?_)
          rw [check_create, known]
  | method receiver name arguments => exact .inl (perform_method ready receiver name arguments)
  | read owner name => exact .inl (perform_read ready owner name)
  | write owner name value => exact .inl (perform_write ready owner name value)

/-- The host is told of a fault, and nothing has changed, unclaimed instances apart. -/
def Refused (session : Session) (call : HostCall) (fault : Fault) : Prop :=
  session.perform call.operation = (.error fault, session) ∨
    session.perform call.operation = (.error fault, session.collected)

theorem refused_of_check (ready : session.phase = .ready) {call : HostCall} {fault : Fault}
    (refused : call.check session.types session.collected.machine.store.heap = .error fault) :
    call.Refused session fault := by
  rcases perform_checked ready call with checked | ⟨other, same, unchanged⟩
  · rw [refused, ran_error] at checked
    exact .inr checked
  · rw [refused] at same
    cases same
    exact .inl unchanged

/-- A call of the host is refused, surely so where the instance that it is for is gone, or it is the
body that the check has found. This starts with live instances only if the host has passed no
others. -/
structure Guarded (session : Session) (call : HostCall) : Prop where
  refused : ∀ fault, call.check session.types session.collected.machine.store.heap = .error fault →
    call.Refused session fault
  stale : ∀ receiver, call.receiver? = some receiver → session.collected.isLive receiver = false →
    call.Refused session (.staleHandle receiver)
  entered : ∀ entry, call.check session.types session.collected.machine.store.heap = .ok entry →
    session.perform call.operation = session.ran (entry.run session.types) call.reply ∧
      entry.arguments = call.arguments ∧
      (entry.Live session.collected.machine.store.heap ↔
        ∀ handle, .object handle ∈ call.arguments → session.collected.isLive handle = true)

theorem guarded (ready : session.phase = .ready) (call : HostCall) : call.Guarded session := by
  refine ⟨fun fault refused => refused_of_check ready refused,
    fun receiver owner dead => refused_of_check ready (check_stale owner dead),
    fun entry admitted => ⟨?_, (begins admitted).arguments, (begins admitted).live_iff⟩⟩
  rcases perform_checked ready call with checked | ⟨fault, other, _⟩
  · rw [admitted] at checked
    exact checked
  · rw [admitted] at other
    cases other

end HostCall

/-- Whatever a native body starts with is live if a script asks for it, and what is refused changes
no instance. Where the host asks for it, this holds of the instance that the call is for, and of the
arguments just if the host has taken care of it. No script has ever passed on what is not live. -/
theorem native_bodies_are_guarded (reachable : session.Reachable)
    (ready : session.phase = .ready) :
    (∀ request heap holdings, session.machine.history ⟨.request request, heap, holdings⟩ →
      (∀ value ∈ request.values, ∀ reference, .object reference ∈ value.holdings →
        heap.contains reference.handle = true) ∧
      ∀ types entry, request.check types heap = .ok entry → entry.Live heap) ∧
    (∀ types machine request, GuardedRequest types machine request) ∧
    ∀ call : HostCall, call.Guarded session := by
  refine ⟨fun request heap holdings known => ⟨?_, fun types entry => ?_⟩, guardedRequest,
    HostCall.guarded ready⟩
  · intro value member reference inside
    have secure := (reachable.faithful _ known).secure
    obtain ⟨resident, found, _⟩ := secure.resolves reference (secure.held value member inside)
    exact Heap.contains_iff.mpr ⟨resident, found⟩
  · exact Call.Request.live_of_check

/-- A session with a token, and with boxes that keep whatever they are made with. -/
def boxing : Session :=
  let box : HostType := ⟨"Box", .values⟩
  let content : Method box := ⟨[], fun content _ => .done (content.headD .null)⟩
  hosting.after [
    .register (.type ⟨"Box", box, [⟨[.object], .done⟩], [], [("content", content)], [], none⟩),
    .insertObject ⟨token, ()⟩]

theorem boxing_reachable : boxing.Reachable :=
  hosting_reachable.after _

theorem boxing_ready : boxing.phase = .ready := by decide +kernel

def lets (session : Session) (call : HostCall) : Bool :=
  (call.check session.types session.collected.machine.store.heap).isOk

theorem entry_of_lets {call : HostCall} (lets : session.lets call = true) :
    ∃ entry, call.check session.types session.collected.machine.store.heap = .ok entry := by
  unfold Session.lets at lets
  cases admitted : call.check session.types session.collected.machine.store.heap with
  | ok entry => exact ⟨entry, rfl⟩
  | error fault =>
      rw [admitted] at lets
      cases lets

/-- A box is made for the token, which its constructor finds live. A box that there is not does not
tell its content. -/
theorem token_is_boxed :
    boxing.Reachable ∧ boxing.phase = .ready ∧
      (∃ entry, (HostCall.create "Box" [.object ⟨0, 0⟩]).check boxing.types
          boxing.collected.machine.store.heap = .ok entry ∧
        entry.Live boxing.collected.machine.store.heap) ∧
      (HostCall.method ⟨7, 0⟩ "content" []).Refused boxing (.staleHandle ⟨7, 0⟩) := by
  obtain ⟨_, _, guarded⟩ := native_bodies_are_guarded boxing_reachable boxing_ready
  have live : boxing.collected.isLive ⟨0, 0⟩ = true := by decide +kernel
  have dead : boxing.collected.isLive ⟨7, 0⟩ = false := by decide +kernel
  have lets : boxing.lets (.create "Box" [.object ⟨0, 0⟩]) = true := by decide +kernel
  obtain ⟨entry, admitted⟩ := entry_of_lets lets
  refine ⟨boxing_reachable, boxing_ready, ⟨entry, admitted, ?_⟩,
    (guarded (.method ⟨7, 0⟩ "content" [])).stale _ rfl dead⟩
  obtain ⟨_, _, started⟩ := (guarded _).entered entry admitted
  refine started.mpr fun handle member => ?_
  cases List.mem_singleton.mp member
  exact live

/-- A box is made just as well for an instance that there is not: its constructor runs, and the host
gets the box. -/
theorem phantom_is_boxed :
    (∃ entry, (HostCall.create "Box" [.object ⟨7, 0⟩]).check boxing.types
        boxing.collected.machine.store.heap = .ok entry ∧
      ¬ entry.Live boxing.collected.machine.store.heap) ∧
    ¬ ∀ (session : Session) (call : HostCall) (handle : Handle), session.Reachable →
      session.phase = .ready → .object handle ∈ call.arguments →
      session.collected.isLive handle = false → call.Refused session (.staleHandle handle) := by
  have dead : boxing.collected.isLive ⟨7, 0⟩ = false := by decide +kernel
  have passed : HostValue.object ⟨7, 0⟩ ∈ (HostCall.create "Box" [.object ⟨7, 0⟩]).arguments :=
    List.mem_singleton.mpr rfl
  constructor
  · have lets : boxing.lets (.create "Box" [.object ⟨7, 0⟩]) = true := by decide +kernel
    obtain ⟨entry, admitted⟩ := entry_of_lets lets
    refine ⟨entry, admitted, fun started => ?_⟩
    have live := (HostCall.begins admitted).live_iff.mp started _ passed
    exact Bool.false_ne_true (dead.symm.trans live)
  · intro refuses
    have given : boxing.given? (.createObject "Box" [.object ⟨7, 0⟩]) = some ⟨1, 0⟩ := by
      decide +kernel
    obtain ⟨reply, made, _⟩ := gives_of_given? given
    rcases refuses boxing _ _ boxing_reachable boxing_ready passed dead with refused | refused
    · exact nomatch made.symm.trans (congrArg Prod.fst refused)
    · exact nomatch made.symm.trans (congrArg Prod.fst refused)

end Session
end ScriptHost
