import ScriptHost.Proofs.Native.Entries

/-!
What native calls leave behind.

While a call is under way it only makes instances: it takes no claim from any, and what it makes is
unclaimed. Its result gets a claim when it is handed over. When the call has ended, everything else
that it has made is gone, and every instance that was claimed before is there with its claims.
-/

set_option autoImplicit false

namespace ScriptHost

open Script

/-- Who claims an instance: the host, and how many references of scripts. -/
structure Claims where
  pinned : Bool
  anchors : Nat
deriving DecidableEq, Repr

namespace Claims

def empty : Claims := ⟨false, 0⟩

def anchored (claims : Claims) : Claims := ⟨claims.pinned, claims.anchors + 1⟩

def held (claims : Claims) : Claims := ⟨true, claims.anchors⟩

theorem anchored_ne_empty (claims : Claims) : claims.anchored ≠ empty := fun same =>
  Nat.succ_ne_zero _ (congrArg anchors same)

theorem held_ne_empty (claims : Claims) : claims.held ≠ empty := fun same =>
  Bool.noConfusion (congrArg pinned same)

end Claims

def Resident.claims {α : Type} (resident : Resident α) : Claims :=
  ⟨resident.pinned, resident.anchors⟩

namespace Heap

variable {α : Type} {heap : Heap α} {handle : Handle}

def claims? (heap : Heap α) (handle : Handle) : Option Claims :=
  (heap.resident? handle).map Resident.claims

theorem isSome_claims? : (heap.claims? handle).isSome = heap.contains handle :=
  Option.isSome_map

theorem claims?_eq_empty_iff :
    heap.claims? handle = some .empty ↔ heap.unclaimed handle = true := by
  rw [unclaimed_iff, claims?, Option.map_eq_some_iff]
  refine exists_congr fun resident => and_congr_right fun _ => ?_
  exact Claims.mk.injEq .. ▸ Iff.rfl

theorem claims?_insert_handle (regular : heap.Regular) (content : α) (pinned : Bool) :
    heap.claims? (heap.insert content pinned).1 = none := by
  rw [claims?, resident?_insert_handle regular]
  rfl

theorem claims?_insert (regular : heap.Regular) (content : α) (other : Handle) :
    (heap.insert content false).2.claims? other =
      if other = (heap.insert content false).1 then some .empty else heap.claims? other := by
  rw [claims?, resident?_insert regular, claims?]
  split
  · rfl
  · rfl

theorem claims?_alter {claim : Claims → Claims} {change : Resident α → Resident α}
    (same : ∀ resident, (change resident).claims = claim resident.claims) (other : Handle) :
    (heap.alter handle change).claims? other =
      if other = handle then (heap.claims? handle).map claim else heap.claims? other := by
  rw [claims?, resident?_alter, claims?, claims?]
  split
  · rw [Option.map_map, Option.map_map]
    congr 1
    exact funext same
  · rfl

theorem claims?_replace (content : α) : (heap.replace handle content).claims? = heap.claims? := by
  funext other
  let change (resident : Resident α) : Resident α := ⟨content, resident.pinned, resident.anchors⟩
  refine (@claims?_alter α heap handle id change (fun _ => rfl) other).trans ?_
  rw [Option.map_id]
  split
  · rename_i same
    rw [same]
    rfl
  · rfl

theorem claims?_collect (heap : Heap α) (handle : Handle) :
    heap.collect.2.claims? handle =
      if handle ∈ heap.released ∧ heap.unclaimed handle = true then none
      else heap.claims? handle := by
  rw [claims?, resident?_collect, apply_ite (Option.map _)]
  rfl

theorem Queued.claims?_collect_eq_some_iff {heap : Heap Occupant} (queued : heap.Queued)
    {claims : Claims} :
    heap.collect.2.claims? handle = some claims ↔
      heap.claims? handle = some claims ∧ claims ≠ .empty := by
  rw [claims?_collect]
  constructor
  · intro found
    split at found
    · cases found
    · rename_i stays
      refine ⟨found, fun none => stays ?_⟩
      rw [none] at found
      have unclaimed := claims?_eq_empty_iff.mp found
      exact ⟨queued handle unclaimed, unclaimed⟩
  · rintro ⟨found, claimed⟩
    rw [if_neg, found]
    rintro ⟨_, unclaimed⟩
    exact claimed (Option.some.inj (found.symm.trans (claims?_eq_empty_iff.mpr unclaimed)))

theorem Accounts.anchored_of_reference {covenant : Covenant} {total : Multiset Holding}
    {heap : Heap Occupant} (accounts : heap.Accounts covenant total) {reference : Reference}
    (member : .object reference ∈ total) :
    ∃ claims, heap.claims? reference.handle = some claims ∧ 0 < claims.anchors := by
  obtain ⟨resident, found, _⟩ := accounts.resolved member
  refine ⟨resident.claims, ?_, ?_⟩
  · rw [claims?, found]
    rfl
  · change 0 < resident.anchors
    rw [accounts.counted found]
    exact Multiset.countP_pos.mpr ⟨_, member, beq_self_eq_true _⟩

end Heap

theorem Store.claims?_conclude (state : CallState) (handle : Handle) :
    (conclude state).heap.claims? handle =
      if state.store.heap.unclaimed handle = true ∧
          (handle ∈ state.fresh ∨ handle ∈ state.store.heap.released) then none
      else state.store.heap.claims? handle := by
  rw [Heap.claims?, resident?_conclude, apply_ite (Option.map _)]
  rfl

/-- What a call has made of the heap that it began with: there are the fresh instances, without a
claim, and beyond that nothing has a claim more or less than before. -/
structure CallState.Grown (base : Heap Occupant) (state : CallState) : Prop where
  regular : state.store.heap.Regular
  released : state.store.heap.released = base.released
  claims : ∀ handle, state.store.heap.claims? handle =
    if handle ∈ state.fresh then some .empty else base.claims? handle
  new : ∀ handle ∈ state.fresh, base.claims? handle = none

namespace Call

variable {α : Type} {types : TypeRegistry} {base : Heap Occupant} {state : CallState}

theorem grown_start (regular : base.Regular) (generator : Random.Generator) :
    CallState.Grown base ⟨⟨base, generator⟩, #[]⟩ := by
  refine ⟨regular, rfl, fun handle => (if_neg ?_).symm, fun handle member => ?_⟩
  · exact Array.not_mem_empty handle
  · exact absurd member (Array.not_mem_empty handle)

theorem grown_insert (grown : state.Grown base) (occupant : Occupant) :
    CallState.Grown base
      ⟨⟨(state.store.heap.insert occupant false).2, state.store.generator⟩,
        state.fresh.push (state.store.heap.insert occupant false).1⟩ := by
  have vacant := Heap.claims?_insert_handle grown.regular occupant false
  rw [grown.claims] at vacant
  refine ⟨grown.regular.insert occupant false, ?_, fun handle => ?_, fun handle member => ?_⟩
  · exact (Heap.insert_released grown.regular occupant false).trans grown.released
  · refine (Heap.claims?_insert grown.regular occupant handle).trans ?_
    rw [grown.claims handle]
    simp only [Array.mem_push]
    by_cases inserted : handle = (state.store.heap.insert occupant false).1
    · rw [if_pos inserted, if_pos (.inr inserted)]
    · simp only [inserted, or_false, if_false]
  · rcases Array.mem_push.mp member with earlier | rfl
    · exact grown.new handle earlier
    · split at vacant
      · cases vacant
      · exact vacant

theorem grown_replace (grown : state.Grown base) (handle : Handle) (occupant : Occupant) :
    CallState.Grown base
      ⟨⟨state.store.heap.replace handle occupant, state.store.generator⟩, state.fresh⟩ := by
  refine ⟨grown.regular.alter handle _, ?_, fun other => ?_, grown.new⟩
  · exact (Heap.alter_released _ _ _).trans grown.released
  · exact (congrFun (Heap.claims?_replace occupant) other).trans (grown.claims other)

theorem grown_draw (sampler : Sampler) (grown : state.Grown base) :
    (draw sampler state).2.Grown base := by
  unfold draw
  split
  · exact ⟨grown.regular, grown.released, grown.claims, grown.new⟩
  · exact grown

theorem perform_grows (routine : Routine α) :
    Keeps (CallState.Grown base) (perform types routine) :=
  @perform_preserves α types (CallState.Grown base)
    (fun _ occupant _ grown => grown_insert grown occupant)
    (fun _ sampler grown => grown_draw sampler grown) routine

theorem insert_grows (occupant : Occupant) : Keeps (CallState.Grown base) (insert occupant) :=
  fun _ grown => ⟨grown_insert grown occupant, trivial⟩

theorem run_grows (entry : Entry) : Keeps (CallState.Grown base) (entry.run types) := by
  cases entry with
  | construct typeId descriptor constructor arguments =>
      apply (perform_grows _).bind
      intro content
      exact (insert_grows _).bind fun _ => Keeps.of_ok _
  | method receiver descriptor method content arguments => exact perform_grows _
  | read owner descriptor field content => exact Keeps.of_ok _
  | write owner typeId descriptor change content value =>
      intro state grown
      exact Entry.leads_write (grown_replace grown owner _)
  | operator entry left right? => exact perform_grows _
  | function descriptor arguments => exact perform_grows _

theorem checked_grows (checked : Except Fault Entry) :
    Keeps (CallState.Grown base) (ofResult checked >>= Entry.run types) :=
  (ofResult_keeps checked).bind run_grows

theorem leads_grown {call : Call HostValue} {checked : Except Fault Entry}
    (grown : state.Grown base)
    (admitted : call state = (ofResult checked >>= Entry.run types) state) :
    Leads (CallState.Grown base) call (fun _ _ => True) state := by
  unfold Leads
  rw [admitted]
  exact checked_grows checked state grown

end Call

def HostValue.handle? : HostValue → Option Handle
  | .object handle => some handle
  | _ => none

def Script.Value.handle? : Value → Option Handle
  | .object reference => some reference.handle
  | _ => none

/-- A call after its result has been handed over: the instance in the result, if there is one, was
live and has got a claim. -/
structure CallState.Handed (state : CallState) (result? : Option Handle) (claim : Claims → Claims)
    (after : CallState) : Prop where
  fresh : after.fresh = state.fresh
  released : after.store.heap.released = state.store.heap.released
  claims : ∀ handle, after.store.heap.claims? handle =
    if result? = some handle then (state.store.heap.claims? handle).map claim
    else state.store.heap.claims? handle
  live : ∀ handle, result? = some handle → state.store.heap.contains handle = true

namespace Call

variable {α : Type} {types : TypeRegistry} {base : Heap Occupant} {state : CallState}

theorem handed_nothing (claim : Claims → Claims) : state.Handed none claim state :=
  ⟨rfl, rfl, fun _ => rfl, nofun⟩

theorem handed_alter {handle : Handle} {resident : Resident Occupant}
    (found : state.store.heap.resident? handle = some resident) {claim : Claims → Claims}
    {change : Resident Occupant → Resident Occupant}
    (same : ∀ resident, (change resident).claims = claim resident.claims) :
    state.Handed (some handle) claim
      ⟨⟨state.store.heap.alter handle change, state.store.generator⟩, state.fresh⟩ := by
  refine ⟨rfl, Heap.alter_released _ _ _, fun other => ?_, fun other isIt => ?_⟩
  · refine (Heap.claims?_alter same other).trans ?_
    by_cases isIt : other = handle
    · rw [if_pos isIt, if_pos (congrArg some isIt.symm), isIt]
    · rw [if_neg isIt, if_neg fun same => isIt (Option.some.inj same).symm]
  · cases isIt
    exact Heap.contains_iff.mpr ⟨resident, found⟩

/-- A way to hand results over. It refuses a handle that is dead. -/
structure Hands (finish : HostValue → Call α) (named? : α → Option Handle)
    (claim : Claims → Claims) : Prop where
  claimed : ∀ claims, claim claims ≠ .empty
  handed : ∀ value state, match finish value state with
    | .ok result after => named? result = value.handle? ∧ state.Handed value.handle? claim after
    | .error _ after => after = state

theorem hands_toScript : Hands toScript Value.handle? Claims.anchored where
  claimed := Claims.anchored_ne_empty
  handed value state := by
    obtain ⟨⟨heap, generator⟩, fresh⟩ := state
    unfold toScript
    dsimp only
    cases value with
    | object handle =>
        unfold HostValue.toScript
        dsimp only
        cases found : heap.resident? handle with
        | none => rfl
        | some resident =>
            rw [Heap.anchor_eq_ok found]
            exact ⟨rfl, @handed_alter ⟨⟨heap, generator⟩, fresh⟩ _ _ found _ _ fun _ => rfl⟩
    | _ => exact ⟨rfl, handed_nothing _⟩

theorem hands_pinResult : Hands pinResult HostValue.handle? Claims.held where
  claimed := Claims.held_ne_empty
  handed value state := by
    cases value with
    | object handle =>
        have pinned : pinResult (.object handle) state =
          (pin handle >>= fun _ => pure (.object handle)) state := rfl
        rw [pinned, bind_apply]
        unfold pin withHeap
        dsimp only
        cases found : state.store.heap.resident? handle with
        | none =>
            rw [Heap.pin_eq_error found]
        | some resident =>
            rw [Heap.pin_eq_ok found]
            exact ⟨rfl, handed_alter found fun _ => rfl⟩
    | _ => exact ⟨rfl, handed_nothing _⟩

def ending (call : Call α) (store : Store) : CallState :=
  match call ⟨store.collect, #[]⟩ with
  | .ok _ state | .error _ state => state

/-- An instance that is live when the call ends, but was not when it began. -/
def Allocates (call : Call α) (store : Store) (handle : Handle) : Prop :=
  store.collect.heap.contains handle = false ∧
    (call.ending store).store.heap.contains handle = true

end Call

/-- How a call leaves a heap, by the instances that it has allocated and the one in its result.
Of what it has allocated this one alone stays, and whatever had a claim before stays with its
claims. The instance in the result has one claim more. -/
structure Heap.Tidied (before : Heap Occupant) (Allocated : Handle → Prop)
    (result? : Option Handle) (claim : Claims → Claims) (after : Heap Occupant) : Prop where
  allocated : ∀ handle, Allocated handle →
    after.claims? handle = if result? = some handle then some (claim .empty) else none
  kept : ∀ handle claims, before.claims? handle = some claims → claims ≠ .empty →
    after.claims? handle = some (if result? = some handle then claim claims else claims)
  only : ∀ handle, after.contains handle = true → Allocated handle ∨
    ∃ claims, before.claims? handle = some claims ∧ claims ≠ .empty

theorem CallState.Grown.contains_iff {base : Heap Occupant} {state : CallState}
    (grown : state.Grown base) {handle : Handle} :
    base.contains handle = false ∧ state.store.heap.contains handle = true ↔
      handle ∈ state.fresh := by
  rw [← Heap.isSome_claims?, ← Heap.isSome_claims?, grown.claims]
  by_cases fresh : handle ∈ state.fresh
  · rw [if_pos fresh, grown.new handle fresh]
    exact ⟨fun _ => fresh, fun _ => ⟨rfl, rfl⟩⟩
  · rw [if_neg fresh]
    refine ⟨fun both => ?_, fun member => absurd member fresh⟩
    exact absurd (both.1.symm.trans both.2) Bool.false_ne_true

namespace Store

open Call

variable {α : Type} {store : Store} {state after : CallState} {result? : Option Handle}
  {claim : Claims → Claims}

theorem released_handed (grown : state.Grown store.collect.heap)
    (handed : state.Handed result? claim after) : after.store.heap.released = #[] :=
  handed.released.trans (grown.released.trans (Heap.released_collect store.heap))

theorem claims?_fresh (grown : state.Grown store.collect.heap)
    (handed : state.Handed result? claim after) (claimed : ∀ claims, claim claims ≠ .empty)
    {handle : Handle} (fresh : handle ∈ state.fresh) :
    (conclude after).heap.claims? handle =
      if result? = some handle then some (claim .empty) else none := by
  have claims := handed.claims handle
  rw [grown.claims, if_pos fresh] at claims
  rw [claims?_conclude, handed.fresh]
  by_cases given : result? = some handle
  · rw [if_pos given] at claims ⊢
    rw [if_neg, claims]
    · rfl
    · rintro ⟨unclaimed, _⟩
      have none := Heap.claims?_eq_empty_iff.mpr unclaimed
      exact claimed _ (Option.some.inj (claims.symm.trans none))
  · rw [if_neg given] at claims ⊢
    exact if_pos ⟨Heap.claims?_eq_empty_iff.mp claims, .inl fresh⟩

theorem claims?_earlier (grown : state.Grown store.collect.heap)
    (handed : state.Handed result? claim after) {handle : Handle}
    (earlier : handle ∉ state.fresh) :
    (conclude after).heap.claims? handle =
      if result? = some handle then (store.collect.heap.claims? handle).map claim
      else store.collect.heap.claims? handle := by
  have claims := handed.claims handle
  rw [grown.claims, if_neg earlier] at claims
  rw [claims?_conclude, handed.fresh, released_handed grown handed, if_neg, claims]
  rintro ⟨_, fresh | waiting⟩
  · exact earlier fresh
  · exact absurd waiting (Array.not_mem_empty handle)

theorem tidied_conclude (queued : store.heap.Queued) (grown : state.Grown store.collect.heap)
    (handed : state.Handed result? claim after) (claimed : ∀ claims, claim claims ≠ .empty) :
    store.heap.Tidied (fun handle => store.collect.heap.contains handle = false ∧
      state.store.heap.contains handle = true) result? claim (conclude after).heap := by
  refine ⟨fun handle allocated => ?_, fun handle claims found claim => ?_, fun handle live => ?_⟩
  · exact claims?_fresh grown handed claimed (grown.contains_iff.mp allocated)
  · have kept := queued.claims?_collect_eq_some_iff.mpr ⟨found, claim⟩
    have earlier : handle ∉ state.fresh := by
      intro fresh
      have none := grown.new handle fresh
      exact nomatch none.symm.trans kept
    rw [claims?_earlier grown handed earlier]
    change (if _ then Option.map _ (store.heap.collect.2.claims? handle)
      else store.heap.collect.2.claims? handle) = _
    rw [kept]
    split
    · rfl
    · rfl
  · by_cases fresh : handle ∈ state.fresh
    · exact .inl (grown.contains_iff.mpr fresh)
    · right
      rw [← Heap.isSome_claims?, claims?_earlier grown handed fresh] at live
      have there : (store.heap.collect.2.claims? handle).isSome = true := by
        split at live
        · rwa [Option.isSome_map] at live
        · exact live
      obtain ⟨claims, found⟩ := Option.isSome_iff_exists.mp there
      exact ⟨claims, queued.claims?_collect_eq_some_iff.mp found⟩

/-- A call leaves its heap tidy, whether it gives a result or fails, and wherever it fails. -/
theorem run_tidied {call : Call HostValue} {finish : HostValue → Call α}
    {named? : α → Option Handle} (hands : Hands finish named? claim) (regular : store.heap.Regular)
    (queued : store.heap.Queued)
    (grows : CallState.Grown store.collect.heap ⟨store.collect, #[]⟩ →
      Leads (CallState.Grown store.collect.heap) call (fun _ _ => True) ⟨store.collect, #[]⟩) :
    store.heap.Tidied (call.Allocates store)
      ((run (call >>= finish) store).1.toOption.bind named?) claim
      (run (call >>= finish) store).2.heap := by
  have grown : (call.ending store).Grown store.collect.heap := by
    have grows := grows (grown_start regular.collect store.generator)
    unfold Leads at grows
    unfold ending
    cases ended : call ⟨store.collect, #[]⟩ with
    | ok value state =>
        rw [ended] at grows
        exact grows.1
    | error fault state =>
        rw [ended] at grows
        exact grows
  have tidied : ∀ {result? after}, (call.ending store).Handed result? claim after →
      store.heap.Tidied (call.Allocates store) result? claim (conclude after).heap :=
    fun handed => tidied_conclude queued grown handed hands.claimed
  unfold run
  rw [bind_apply]
  unfold ending at tidied
  cases ended : call ⟨store.collect, #[]⟩ with
  | error fault state =>
      rw [ended] at tidied
      exact tidied (handed_nothing claim)
  | ok value state =>
      rw [ended] at tidied
      have handed := hands.handed value state
      dsimp only
      cases finished : finish value state with
      | error fault after =>
          rw [finished] at handed
          rw [handed]
          exact tidied (handed_nothing claim)
      | ok result after =>
          rw [finished] at handed
          obtain ⟨named, handed⟩ := handed
          change store.heap.Tidied _ (named? result) claim _
          rw [named]
          exact tidied handed

end Store
end ScriptHost
