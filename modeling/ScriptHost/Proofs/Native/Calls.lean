import ScriptHost.Proofs.Custody.Soundness
import ScriptHost.Proofs.Effects

/-!
Native calls keep the accounts of the heap.

A call changes no reference from scripts. What it allocates without claiming it is in its list of
fresh instances, so when the call has ended, well or not, every instance has a claim. A result that
goes to a script is counted before that.
-/

set_option autoImplicit false

namespace ScriptHost

open Script

/-- A call under way: instances without a claim are in the queue or among the fresh ones. -/
structure CallState.Sound (covenant : Covenant) (total : Multiset Holding) (state : CallState) :
    Prop where
  accounts : state.store.heap.Accounts covenant total
  queued : ∀ handle, state.store.heap.unclaimed handle = true →
    handle ∈ state.store.heap.released ∨ handle ∈ state.fresh

theorem eq_ok_of_toOption {α : Type} {result : Except Fault α} {value : α}
    (found : result.toOption = some value) : result = .ok value := by
  cases result with
  | ok other => exact congrArg Except.ok (Option.some.inj found)
  | error fault => cases found

theorem TypeRegistry.get_eq_ok {registry : TypeRegistry} {typeId : TypeId}
    {descriptor : TypeDescriptor} (found : registry.get typeId = .ok descriptor) :
    registry.types[typeId]? = some descriptor := by
  unfold get at found
  split at found
  · injection found with same
    rw [← same]
    assumption
  · cases found

theorem TypeRegistry.type_of_idOf? {types : TypeRegistry} {type : HostType} {typeId : TypeId}
    (found : types.idOf? type = some typeId) :
    ∃ descriptor, types.types[typeId]? = some descriptor ∧ descriptor.type = type := by
  obtain ⟨bound, matched, _⟩ := Array.findIdx?_eq_some_iff_getElem.mp found
  exact ⟨types.types[typeId], Array.getElem?_eq_getElem bound, beq_iff_eq.mp matched⟩

namespace Call

variable {α β : Type} {covenant : Covenant} {total : Multiset Holding} {state : CallState}

theorem leads_ofResult {inv : CallState → Prop} {result : Except Fault α} {rest : α → Call β}
    {final : β → CallState → Prop} (kept : inv state)
    (later : ∀ value, result = .ok value → Leads inv (rest value) final state) :
    Leads inv (ofResult result >>= rest) final state := by
  cases result with
  | ok value => exact later value rfl
  | error fault => exact kept

theorem ofResult_keeps {inv : CallState → Prop} (result : Except Fault α) :
    Keeps inv (ofResult result) := by
  intro state kept
  cases result with
  | ok value => exact ⟨kept, trivial⟩
  | error fault => exact kept

theorem leads_heap {inv : CallState → Prop} {rest : Heap Occupant → Call β}
    {final : β → CallState → Prop} (later : Leads inv (rest state.store.heap) final state) :
    Leads inv (heap >>= rest) final state :=
  later

theorem allocate_fits {types : TypeRegistry} {type : HostType} {content : type.Content}
    {occupant : Occupant} (allocated : allocate types type content = .ok occupant) :
    occupant.Fits types := by
  unfold allocate at allocated
  split at allocated
  · rename_i typeId found
    injection allocated with same
    rw [← same]
    exact TypeRegistry.type_of_idOf? found
  · cases allocated

theorem sound_insert (sound : state.Sound covenant total) {occupant : Occupant}
    (fits : occupant.Fits covenant.types) :
    CallState.Sound covenant total
      ⟨⟨(state.store.heap.insert occupant false).2, state.store.generator⟩,
        state.fresh.push (state.store.heap.insert occupant false).1⟩ := by
  refine ⟨sound.accounts.insert fits false, fun handle unclaimed => ?_⟩
  change handle ∈ (state.store.heap.insert occupant false).2.released ∨
    handle ∈ state.fresh.push (state.store.heap.insert occupant false).1
  rw [Heap.insert_released sound.accounts.regular, Array.mem_push]
  rcases Heap.unclaimed_insert sound.accounts.regular unclaimed with earlier | new
  · exact (sound.queued handle earlier).imp_right .inl
  · exact .inr (.inr new)

theorem insert_keeps {occupant : Occupant} (fits : occupant.Fits covenant.types) :
    Keeps (CallState.Sound covenant total) (insert occupant) := fun _ sound =>
  ⟨sound_insert sound fits, trivial⟩

theorem leads_pin (sound : state.Sound covenant total) (handle : Handle) :
    Leads (CallState.Sound covenant total) (pin handle)
      (fun _ after => after.store.heap.Pins handle) state := by
  unfold Leads pin withHeap
  dsimp only
  cases found : state.store.heap.resident? handle with
  | none =>
      rw [Heap.pin_eq_error found]
      exact sound
  | some resident =>
      rw [Heap.pin_eq_ok found]
      refine ⟨⟨sound.accounts.pin found, fun other unclaimed => ?_⟩, resident.held, ?_, rfl⟩
      · rw [Heap.alter_released]
        exact sound.queued other
          (Heap.unclaimed_alter_of found Resident.held (fun pinned _ => nomatch pinned) unclaimed)
      · rw [Heap.resident?_alter, if_pos rfl, found]
        rfl

theorem draw_keeps (sampler : Sampler) (sound : state.Sound covenant total) :
    (draw sampler state).2.Sound covenant total := by
  unfold draw
  split
  · exact ⟨sound.accounts, sound.queued⟩
  · exact sound

/-- A routine keeps what insertions and draws keep: nothing else that it asks for changes the
state. -/
theorem perform_preserves {types : TypeRegistry} {inv : CallState → Prop}
    (inserts : ∀ state (occupant : Occupant), occupant.Fits types → inv state →
      inv ⟨⟨(state.store.heap.insert occupant false).2, state.store.generator⟩,
        state.fresh.push (state.store.heap.insert occupant false).1⟩)
    (draws : ∀ state sampler, inv state → inv (draw sampler state).2) (routine : Routine α) :
    Keeps inv (perform types routine) := by
  induction routine with
  | done result => exact Keeps.of_ok result
  | fail fault => exact Keeps.of_error fault
  | allocate type content next ih =>
      intro state kept
      unfold Leads perform
      cases allocated : Call.allocate types type content with
      | ok occupant => exact ih _ _ (inserts state occupant (allocate_fits allocated) kept)
      | error fault => exact ih _ state kept
  | read type value next ih => exact fun state kept => ih _ state kept
  | recognise type value next ih => exact fun state kept => ih _ state kept
  | nameType value next ih => exact fun state kept => ih _ state kept
  | countLive next ih => exact fun state kept => ih _ state kept
  | draw sampler next ih =>
      intro state kept
      have drawn := draws state sampler kept
      unfold Leads perform
      dsimp only
      generalize Call.draw sampler state = outcome at drawn ⊢
      obtain ⟨answer, after⟩ := outcome
      exact ih answer after drawn

theorem perform_keeps (routine : Routine α) :
    Keeps (CallState.Sound covenant total) (perform covenant.types routine) :=
  @perform_preserves α covenant.types (CallState.Sound covenant total)
    (fun _ _ fits sound => sound_insert sound fits)
    (fun _ sampler sound => draw_keeps sampler sound) routine

theorem leads_describe {rest : TypeDescriptor × Occupant → Call β}
    {final : β → CallState → Prop} {handle : Handle} (sound : state.Sound covenant total)
    (later : ∀ descriptor resident, state.store.heap.resident? handle = some resident →
      covenant.types.types[resident.content.typeId]? = some descriptor →
      Leads (CallState.Sound covenant total) (rest (descriptor, resident.content)) final state) :
    Leads (CallState.Sound covenant total) (describe covenant.types handle >>= rest) final
      state := by
  unfold describe occupant
  simp only [bind_assoc, pure_bind]
  apply leads_heap
  apply leads_ofResult sound
  intro resident found
  apply leads_ofResult sound
  intro descriptor registered
  exact later descriptor resident (Heap.get_eq_ok_iff.mp found)
    (TypeRegistry.get_eq_ok registered)

theorem construct_keeps (typeId : TypeId) (arguments : List HostValue) :
    Keeps (CallState.Sound covenant total) (construct covenant.types typeId arguments) := by
  intro state sound
  apply leads_ofResult sound
  intro descriptor registered
  apply (perform_keeps _ state sound).bind
  intro content after kept _
  exact insert_keeps ⟨descriptor, TypeRegistry.get_eq_ok registered, rfl⟩ after kept

theorem callMethod_keeps (receiver : Handle) (name : String) (arguments : List HostValue) :
    Keeps (CallState.Sound covenant total)
      (callMethod covenant.types receiver name arguments) := by
  intro state sound
  apply leads_describe sound
  intro descriptor resident _ _
  apply leads_ofResult sound
  intro method _
  apply leads_ofResult sound
  intro _ _
  apply leads_heap
  apply leads_ofResult sound
  intro content _
  exact perform_keeps _ state sound

theorem getField_keeps (receiver : Handle) (name : String) :
    Keeps (CallState.Sound covenant total) (getField covenant.types receiver name) := by
  intro state sound
  apply leads_describe sound
  intro descriptor resident _ _
  apply leads_ofResult sound
  intro field _
  apply leads_ofResult sound
  intro content _
  exact Leads.of_ok sound trivial

theorem sound_replace (sound : state.Sound covenant total) {handle : Handle}
    {resident : Resident Occupant} (found : state.store.heap.resident? handle = some resident)
    {descriptor : TypeDescriptor}
    (registered : covenant.types.types[resident.content.typeId]? = some descriptor)
    (content : descriptor.type.Content) :
    CallState.Sound covenant total
      ⟨⟨state.store.heap.replace handle
          ⟨resident.content.typeId, ⟨descriptor.type, content⟩⟩, state.store.generator⟩,
        state.fresh⟩ := by
  refine ⟨sound.accounts.replace found rfl ⟨descriptor, registered, rfl⟩,
    fun other unclaimed => ?_⟩
  unfold Heap.replace at unclaimed ⊢
  rw [Heap.alter_released]
  exact sound.queued other (Heap.unclaimed_alter_of found _ (fun pinned none => ⟨pinned, none⟩)
    unclaimed)

theorem setField_keeps (receiver : Handle) (name : String) (value : HostValue) :
    Keeps (CallState.Sound covenant total)
      (setField covenant.types receiver name value) := by
  intro state sound
  apply leads_describe sound
  intro descriptor resident found registered
  apply leads_ofResult sound
  intro field _
  dsimp only
  cases field.write? with
  | none => exact Leads.of_error sound _
  | some write =>
      apply leads_ofResult sound
      intro _ _
      apply leads_ofResult sound
      intro content _
      exact ofResult_keeps _ _ (sound_replace sound found registered _)

theorem applyOperator_keeps (operator : Operator) (left : HostValue)
    (right? : Option HostValue) :
    Keeps (CallState.Sound covenant total)
      (applyOperator covenant.types operator left right?) := by
  intro state sound
  apply leads_heap
  apply leads_ofResult sound
  intro leftOperand _
  refine leads_ofResult sound fun rightOperand? _ => ?_
  apply leads_ofResult sound
  intro outcome _
  obtain ⟨owner?, entry?⟩ := outcome
  cases entry? with
  | some entry => exact perform_keeps _ state sound
  | none => exact Leads.of_error sound _

theorem scriptFunction_keeps (function : FunctionDescriptor) (arguments : List Value) :
    Keeps (CallState.Sound covenant total)
      (scriptFunction covenant.types function arguments) := by
  intro state sound
  apply leads_heap
  dsimp only
  split
  · split
    · exact leads_ofResult sound fun _ _ => perform_keeps _ state sound
    · exact Leads.of_error sound _
  · exact leads_ofResult sound fun _ _ => perform_keeps _ state sound

theorem request_keeps (request : Request) :
    Keeps (CallState.Sound covenant total) (request.call covenant.types) := by
  intro state sound
  cases request with
  | construct typeId arguments =>
      apply leads_heap
      apply leads_ofResult sound
      intro arguments _
      exact (construct_keeps typeId arguments state sound).bind fun _ after kept _ =>
        Leads.of_ok kept trivial
  | method receiver name arguments =>
      apply leads_describe sound
      intro descriptor resident _ _
      apply leads_ofResult sound
      intro method _
      apply leads_heap
      apply leads_ofResult sound
      intro arguments _
      exact callMethod_keeps receiver.handle name arguments state sound
  | read owner field => exact getField_keeps owner.handle field state sound
  | write owner name value =>
      apply leads_describe sound
      intro descriptor resident _ _
      apply leads_ofResult sound
      intro field _
      apply leads_heap
      apply leads_ofResult sound
      intro value _
      exact (setField_keeps owner.handle name value state sound).bind fun _ after kept _ =>
        Leads.of_ok kept trivial
  | operator symbol left right =>
      apply leads_heap
      apply leads_ofResult sound
      intro left _
      apply leads_heap
      apply leads_ofResult sound
      intro right _
      exact applyOperator_keeps symbol left (some right) state sound
  | negation operand => exact applyOperator_keeps .negate _ none state sound
  | function descriptor arguments =>
      exact scriptFunction_keeps descriptor arguments state sound

theorem live_of_toHost {heap : Heap Occupant} {value : Value} {kind : Kind} {handle : Handle}
    (crossed : value.toHost heap kind = .ok (.object handle)) : heap.contains handle = true := by
  unfold Value.toHost at crossed
  split at crossed
  · cases crossed
  · split at crossed
    · split at crossed
      · split at crossed
        · rename_i live
          cases crossed
          exact live
        · cases crossed
      · rename_i plain
        cases crossed
        exact absurd rfl (plain handle)
    · cases crossed

/-- An instance that is handed to the host is pinned. -/
def Pinned (value : HostValue) (heap : Heap Occupant) : Prop :=
  ∀ handle, value = .object handle → heap.Pins handle

theorem leads_pinResult (sound : state.Sound covenant total) (value : HostValue) :
    Leads (CallState.Sound covenant total) (pinResult value)
      (fun result after => Pinned result after.store.heap) state := by
  cases value with
  | object handle =>
      apply (leads_pin sound handle).bind
      intro _ after kept pinned
      exact Leads.of_ok kept fun other same => HostValue.object.inj same ▸ pinned
  | number _ => exact Leads.of_ok sound fun _ other => nomatch other
  | boolean _ => exact Leads.of_ok sound fun _ other => nomatch other
  | text _ => exact Leads.of_ok sound fun _ other => nomatch other
  | null => exact Leads.of_ok sound fun _ other => nomatch other

theorem toScript_cases {heap after : Heap Occupant} {value : HostValue} {script : Value}
    (entered : value.toScript heap = .ok (script, after)) :
    (∃ datum, script = .datum datum ∧ after = heap) ∨
      ∃ handle resident, heap.resident? handle = some resident ∧
        script = .object ⟨handle, resident.content.typeId⟩ ∧
        after = heap.alter handle Resident.anchored := by
  unfold HostValue.toScript at entered
  split at entered
  · injection entered with both
    injection both with scriptEq heapEq
    exact .inl ⟨_, scriptEq.symm, heapEq.symm⟩
  · injection entered with both
    injection both with scriptEq heapEq
    exact .inl ⟨_, scriptEq.symm, heapEq.symm⟩
  · injection entered with both
    injection both with scriptEq heapEq
    exact .inl ⟨_, scriptEq.symm, heapEq.symm⟩
  · injection entered with both
    injection both with scriptEq heapEq
    exact .inl ⟨_, scriptEq.symm, heapEq.symm⟩
  · rename_i handle
    split at entered
    · cases entered
    · rename_i resident found
      rw [Heap.anchor_eq_ok found] at entered
      injection entered with both
      injection both with scriptEq heapEq
      exact .inr ⟨handle, resident, found, scriptEq.symm, heapEq.symm⟩

theorem pinned?_toScript {heap after : Heap Occupant} {value : HostValue} {script : Value}
    (entered : value.toScript heap = .ok (script, after)) : after.pinned? = heap.pinned? := by
  rcases toScript_cases entered with ⟨_, _, rfl⟩ | ⟨handle, resident, _, _, rfl⟩
  · rfl
  · exact Heap.pinned?_alter heap handle Resident.anchored fun _ => rfl

theorem accounts_toScript {heap after : Heap Occupant} {value : HostValue} {script : Value}
    (accounts : heap.Accounts covenant total)
    (entered : value.toScript heap = .ok (script, after)) :
    after.Accounts covenant (script.owned + total) ∧
      (∀ handle, after.unclaimed handle = true → heap.unclaimed handle = true) ∧
      after.released = heap.released := by
  rcases toScript_cases entered with ⟨datum, rfl, rfl⟩ | ⟨handle, resident, found, rfl, rfl⟩
  · rw [Value.owned_datum, zero_add]
    exact ⟨accounts, fun _ unclaimed => unclaimed, rfl⟩
  · refine ⟨accounts.anchor found, fun other unclaimed => ?_, Heap.alter_released _ _ _⟩
    exact Heap.unclaimed_alter_of found _ (fun _ none => absurd none (Nat.succ_ne_zero _)) unclaimed

end Call

namespace Store

variable {α : Type} {covenant : Covenant} {total : Multiset Holding}

theorem conclude_heap (state : CallState) :
    (conclude state).heap = (Heap.sweep state.fresh.toList 0 state.store.heap).2.collect.2 := by
  obtain ⟨⟨heap, generator⟩, fresh⟩ := state
  rfl

theorem accounts_conclude {state : CallState} (sound : state.Sound covenant total) :
    (conclude state).heap.Accounts covenant total ∧ (conclude state).heap.Settled := by
  rw [conclude_heap]
  refine ⟨(sound.accounts.sweep _ _).collect, Heap.Queued.settled_collect fun handle unclaimed => ?_⟩
  obtain ⟨earlier, old⟩ := Heap.unclaimed_sweep unclaimed
  rw [Heap.released_sweep]
  exact (sound.queued handle earlier).resolve_right fun fresh => old (Array.mem_toList_iff.mpr fresh)

theorem pins_conclude {state : CallState} {handle : Handle}
    (pins : state.store.heap.Pins handle) : (conclude state).heap.Pins handle := by
  obtain ⟨resident, found, pinned⟩ := pins
  have claimed : ∀ {heap : Heap Occupant}, heap.resident? handle = some resident →
      heap.unclaimed handle = false := by
    intro heap found
    simp [Heap.unclaimed, found, pinned]
  have swept : (Heap.sweep state.fresh.toList 0 state.store.heap).2.resident? handle =
      some resident := by
    rw [Heap.resident?_sweep, claimed found]
    simpa using found
  refine ⟨resident, ?_, pinned⟩
  rw [conclude_heap, Heap.resident?_collect, claimed swept]
  simpa using swept

theorem accounts_start {store : Store} (accounts : store.heap.Accounts covenant total)
    (queued : store.heap.Queued) : CallState.Sound covenant total ⟨store.collect, #[]⟩ :=
  ⟨accounts.collect, fun handle unclaimed => .inl (queued.settled_collect.queued handle unclaimed)⟩

/-- A call leaves no instance without a claim. Its result is as it was when the call ended. -/
theorem run_spec {call : Call α} {post : α → CallState → Prop} {store : Store}
    (leads : Leads (CallState.Sound covenant total) call post ⟨store.collect, #[]⟩) :
    (run call store).2.heap.Accounts covenant total ∧ (run call store).2.heap.Settled ∧
      ∀ value, (run call store).1 = .ok value →
        ∃ state, post value state ∧ (run call store).2 = conclude state := by
  unfold Leads at leads
  unfold run
  cases ended : call ⟨store.collect, #[]⟩ with
  | ok value state =>
      rw [ended] at leads
      obtain ⟨accounts, settled⟩ := accounts_conclude leads.1
      refine ⟨accounts, settled, fun result same => ?_⟩
      injection same with valueEq
      exact ⟨state, valueEq ▸ leads.2, rfl⟩
  | error fault state =>
      rw [ended] at leads
      obtain ⟨accounts, settled⟩ := accounts_conclude leads
      exact ⟨accounts, settled, fun _ same => nomatch same⟩

theorem run_toScript {call : Call HostValue} {store : Store}
    (accounts : store.heap.Accounts covenant total) (queued : store.heap.Queued)
    (keeps : Keeps (CallState.Sound covenant total) call) :
    (∃ value after, run (call >>= Call.toScript) store = (.ok value, after) ∧
      after.heap.Accounts covenant (value.owned + total) ∧ after.heap.Settled ∧
      ((∃ datum, value = .datum datum) ∨ ∃ reference, value = .object reference)) ∨
    ∃ fault after, run (call >>= Call.toScript) store = (.error fault, after) ∧
      after.heap.Accounts covenant total ∧ after.heap.Settled := by
  have leads := keeps _ (accounts_start accounts queued)
  unfold Leads at leads
  unfold run
  rw [bind_apply]
  cases ended : call ⟨store.collect, #[]⟩ with
  | error fault state =>
      rw [ended] at leads
      exact .inr ⟨fault, conclude state, rfl, accounts_conclude leads⟩
  | ok value state =>
      rw [ended] at leads
      obtain ⟨⟨heap, generator⟩, fresh⟩ := state
      dsimp only [Call.toScript]
      cases entered : value.toScript heap with
      | error fault => exact .inr ⟨fault, _, rfl, accounts_conclude leads.1⟩
      | ok outcome =>
          obtain ⟨script, after⟩ := outcome
          obtain ⟨counted, claimless, released⟩ := Call.accounts_toScript leads.1.accounts entered
          have sound : CallState.Sound covenant (script.owned + total)
              ⟨⟨after, generator⟩, fresh⟩ :=
            ⟨counted, fun handle unclaimed => by
              rw [released]
              exact leads.1.queued handle (claimless handle unclaimed)⟩
          obtain ⟨concluded, settled⟩ := accounts_conclude sound
          refine .inl ⟨script, _, rfl, concluded, settled, ?_⟩
          rcases Call.toScript_cases entered with ⟨datum, same, _⟩ | ⟨_, _, _, same, _⟩
          · exact .inl ⟨datum, same⟩
          · exact .inr ⟨_, same⟩

end Store
end ScriptHost
