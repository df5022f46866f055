import ScriptHost.Proofs.Native.Calls
import ScriptHost.Proofs.Script.Places

/-!
The exchange of a sound machine with the host, and what giving values up leaves alone.

A request of the host finds the heap settled. Its result is a new operand, and so is what the host
hands in; what goes to the host is pinned.
-/

set_option autoImplicit false

namespace ScriptHost.Script

def Value.IsLeaf (value : Value) : Prop :=
  (∃ datum, value = .datum datum) ∨ ∃ reference, value = .object reference

namespace Machine

open Value

variable {covenant : Covenant} {hand : Multiset Holding} {machine : Machine}

/-- The positions other than cells, the moments and lines so far, and the pins. -/
def frame (machine : Machine) :
    Array Variable × Array Value × Array Value × (Moment → Prop) × Array String ×
      (Handle → Option Bool) :=
  (machine.scope, machine.operands, machine.thrown, machine.history, machine.output,
    machine.store.heap.pinned?)

theorem frame_leaveCell (machine : Machine) (index : Nat) :
    (machine.leaveCell index).2.frame = machine.frame := by
  unfold leaveCell
  split
  · rfl
  · split <;> rfl

theorem frame_releaseAll (depth : Nat) (holdings : List Holding) (machine : Machine) :
    (releaseAll depth holdings machine).frame = machine.frame := by
  induction depth generalizing holdings machine with
  | zero => rfl
  | succ depth deeper =>
      rw [releaseAll_succ]
      induction holdings generalizing machine with
      | nil => rfl
      | cons holding rest ih =>
          apply (ih (releaseOne depth machine holding)).trans
          cases holding with
          | object reference =>
              have pins := Heap.pinned?_unanchor machine.store.heap reference.handle
              exact congrArg (fun pinned => (machine.scope, machine.operands, machine.thrown,
                machine.history, machine.output, pinned)) pins
          | cell index => exact (deeper _ _).trans (frame_leaveCell machine index)

theorem frame_release (value : Value) (machine : Machine) :
    (machine.release value).frame = machine.frame := by
  unfold release
  split
  · rfl
  · exact frame_releaseAll _ _ _

@[simp] theorem release_scope (value : Value) (machine : Machine) :
    (machine.release value).scope = machine.scope :=
  congrArg Prod.fst (frame_release value machine)

@[simp] theorem release_operands (value : Value) (machine : Machine) :
    (machine.release value).operands = machine.operands :=
  congrArg (fun frame => frame.2.1) (frame_release value machine)

@[simp] theorem release_thrown (value : Value) (machine : Machine) :
    (machine.release value).thrown = machine.thrown :=
  congrArg (fun frame => frame.2.2.1) (frame_release value machine)

@[simp] theorem release_history (value : Value) (machine : Machine) :
    (machine.release value).history = machine.history :=
  congrArg (fun frame => frame.2.2.2.1) (frame_release value machine)

@[simp] theorem release_output (value : Value) (machine : Machine) :
    (machine.release value).output = machine.output :=
  congrArg (fun frame => frame.2.2.2.2.1) (frame_release value machine)

@[simp] theorem release_pinned? (value : Value) (machine : Machine) :
    (machine.release value).store.heap.pinned? = machine.store.heap.pinned? :=
  congrArg (fun frame => frame.2.2.2.2.2) (frame_release value machine)

theorem operands_dropMany (count : Nat) (machine : Machine) :
    (machine.dropMany count).operands.size = machine.operands.size - count := by
  induction count generalizing machine with
  | zero => rfl
  | succ count ih =>
      apply (ih machine.drop).trans
      simp only [drop, release_operands, Array.size_pop]
      omega

theorem operands_dropTo_zero (machine : Machine) : (machine.dropTo 0).operands = #[] := by
  apply Array.eq_empty_of_size_eq_zero
  rw [dropTo, operands_dropMany]
  omega

def aside (machine : Machine) :
    Array Variable × Array Value × (Moment → Prop) × (Handle → Option Bool) :=
  (machine.scope, machine.thrown, machine.history, machine.store.heap.pinned?)

theorem aside_release (value : Value) (machine : Machine) :
    (machine.release value).aside = machine.aside := by
  simp only [aside, release_scope, release_thrown, release_history, release_pinned?]

theorem aside_dropMany (count : Nat) (machine : Machine) :
    (machine.dropMany count).aside = machine.aside := by
  induction count generalizing machine with
  | zero => rfl
  | succ count ih => exact (ih machine.drop).trans (aside_release _ _)

theorem aside_dropTo (size : Nat) (machine : Machine) :
    (machine.dropTo size).aside = machine.aside :=
  aside_dropMany _ machine

theorem thrown_dropTo (size : Nat) (machine : Machine) :
    (machine.dropTo size).thrown = machine.thrown :=
  congrArg (fun aside => aside.2.1) (aside_dropTo size machine)

theorem aside_spendAll (positions : List Nat) (machine : Machine) :
    (machine.spendAll positions).aside = machine.aside := by
  induction positions generalizing machine with
  | nil => rfl
  | cons position rest ih =>
      apply (ih (machine.spend position)).trans
      change ((machine.takeOperand position).2.release
        (machine.takeOperand position).1).aside = machine.aside
      rw [aside_release]
      unfold takeOperand
      split <;> rfl

theorem operands_redeclare (machine : Machine) (index : Nat) (constant : Bool) :
    (machine.redeclare index constant).operands = machine.operands.pop := by
  unfold redeclare
  dsimp only
  split <;> exact release_operands _ _

theorem thrown_redeclare (machine : Machine) (index : Nat) (constant : Bool) :
    (machine.redeclare index constant).thrown = machine.thrown := by
  unfold redeclare
  dsimp only
  split <;> exact release_thrown _ _

theorem pinned?_redeclare (machine : Machine) (index : Nat) (constant : Bool) :
    (machine.redeclare index constant).store.heap.pinned? = machine.store.heap.pinned? := by
  unfold redeclare
  dsimp only
  split <;> exact release_pinned? _ _

theorem thrown_dropThrown (machine : Machine) :
    machine.dropThrown.thrown = machine.thrown.pop := by
  unfold dropThrown
  cases last : machine.thrown.back? with
  | none =>
      have empty : machine.thrown = #[] := by simpa using last
      simp [empty]
  | some value => simp

theorem thrown_dropAllThrown (machine : Machine) : machine.dropAllThrown.thrown = #[] := by
  suffices fewer : ∀ count machine, (dropAllThrown.go count machine).thrown.size =
      machine.thrown.size - count by
    apply Array.eq_empty_of_size_eq_zero
    rw [dropAllThrown, fewer]
    omega
  intro count
  induction count with
  | zero => exact fun _ => rfl
  | succ count ih =>
      intro machine
      apply (ih machine.dropThrown).trans
      rw [thrown_dropThrown, Array.size_pop]
      omega

theorem dropAllThrown_same {View : Type} (view : Machine → View)
    (same : ∀ machine : Machine, view machine.dropThrown = view machine) (machine : Machine) :
    view machine.dropAllThrown = view machine := by
  unfold dropAllThrown
  generalize machine.thrown.size = count
  induction count generalizing machine with
  | zero => rfl
  | succ count ih => exact (ih machine.dropThrown).trans (same machine)

theorem operands_dropAllThrown (machine : Machine) :
    machine.dropAllThrown.operands = machine.operands := by
  refine dropAllThrown_same Machine.operands (fun machine => ?_) machine
  unfold dropThrown
  split
  · rw [release_operands]
  · rfl

theorem pinned?_dropAllThrown (machine : Machine) :
    machine.dropAllThrown.store.heap.pinned? = machine.store.heap.pinned? := by
  refine dropAllThrown_same (fun machine => machine.store.heap.pinned?) (fun machine => ?_)
    machine
  unfold dropThrown
  split
  · rw [release_pinned?]
  · rfl

theorem release_leaf {value : Value} (leaf : value.IsLeaf) (machine : Machine) :
    ∃ store, machine.release value = { machine with store := store } := by
  rcases leaf with ⟨datum, rfl⟩ | ⟨reference, rfl⟩
  · exact ⟨machine.store, rfl⟩
  · exact ⟨_, rfl⟩

/-- Only the heap and the operands have changed, and all operands are plain data or references. -/
def Lends (machine after : Machine) : Prop :=
  ∃ store operands, after = { machine with store := store, operands := operands } ∧
    ∀ value ∈ operands, value.IsLeaf

theorem Lends.release {after : Machine} {value : Value} (lends : Lends machine after)
    (leaf : value.IsLeaf) : Lends machine (after.release value) := by
  obtain ⟨store, operands, rfl, leaves⟩ := lends
  obtain ⟨later, released⟩ := release_leaf leaf
    { machine with store := store, operands := operands }
  exact ⟨later, operands, released, leaves⟩

theorem Lends.spendAll {after : Machine} (lends : Lends machine after) (positions : List Nat) :
    Lends machine (after.spendAll positions) := by
  induction positions generalizing after with
  | nil => exact lends
  | cons position rest ih =>
      apply ih
      obtain ⟨store, operands, rfl, leaves⟩ := lends
      unfold spend takeOperand
      cases found : operands[position]? with
      | none => exact Lends.release ⟨store, operands, rfl, leaves⟩ (.inl ⟨.unit, rfl⟩)
      | some value =>
          have leaf := leaves value (Array.mem_of_getElem? found)
          refine Lends.release ⟨store, operands.set! position .unit, rfl, ?_⟩ leaf
          intro other member
          rcases Array.mem_or_eq_of_mem_setIfInBounds member with earlier | rfl
          · exact leaves other earlier
          · exact .inl ⟨.unit, rfl⟩

theorem Lends.dropMany {after : Machine} (lends : Lends machine after) (count : Nat) :
    Lends machine (after.dropMany count) := by
  induction count generalizing after with
  | zero => exact lends
  | succ count ih =>
      apply ih
      obtain ⟨store, operands, rfl, leaves⟩ := lends
      have rest : Lends machine
          { machine with store := store, operands := operands.pop } := by
        refine ⟨store, operands.pop, rfl, fun value member => ?_⟩
        obtain ⟨position, found⟩ := Array.getElem?_of_mem member
        rw [Array.getElem?_pop] at found
        split at found
        · exact leaves value (Array.mem_of_getElem? found)
        · cases found
      apply rest.release
      cases last : operands.back? with
      | none => exact .inl ⟨.unit, rfl⟩
      | some value => exact leaves value (Array.mem_of_back? last)

theorem Lends.dropAll {after : Machine} (lends : Lends machine after)
    (empty : machine.operands = #[]) : ∃ store, after.dropTo 0 = { machine with store := store } := by
  have none := operands_dropTo_zero after
  obtain ⟨store, operands, same, _⟩ := lends.dropMany (after.operands.size - 0)
  change after.dropTo 0 = _ at same
  rw [same] at none
  change operands = #[] at none
  refine ⟨store, same.trans ?_⟩
  rw [none, ← empty]

theorem holdings_subset {value : Value} (held : value.owned ≤ machine.owned) :
    value.holdings ⊆ machine.holdings := fun _ member =>
  mem_holdings.mpr (Multiset.mem_of_le held (Multiset.mem_coe.mpr member))

/-- The machine as a native callable finds it. -/
def requested (machine : Machine) (request : Call.Request) : Machine :=
  machine.collect.record (.request request)

theorem Sound.requested (sound : machine.Sound covenant 0) {request : Call.Request}
    (held : ∀ value ∈ request.values, value.owned ≤ machine.owned) :
    (machine.requested request).Sound covenant 0 :=
  sound.collect.record ⟨fun value member => holdings_subset (held value member),
    fun _ _ => sound.queued.settled_collect, nofun⟩

theorem Sound.withLeaf (sound : machine.Sound covenant hand) {value : Value} (leaf : value.IsLeaf)
    {store : Store}
    (accounts : store.heap.Accounts covenant (value.owned + (hand + machine.owned)))
    (queued : store.heap.Queued) :
    { machine with store := store }.Sound covenant (value.owned + hand) := by
  have total : value.owned + hand + { machine with store := store }.owned =
      value.owned + (hand + machine.owned) := add_assoc _ _ _
  have apart : ∀ index, value.owned.count (.cell index) = 0 := by
    intro index
    rcases leaf with ⟨datum, rfl⟩ | ⟨reference, rfl⟩
    · rfl
    · exact Multiset.count_eq_zero_of_notMem (by simp [Value.owned, Value.holdings])
  refine ⟨?_, queued, fun {index cell} found => ?_, fun {index} member => ?_, sound.remembered⟩
  · rw [total]
    exact accounts
  · rw [total, Multiset.count_add, apart, zero_add]
    exact sound.shared found
  · rw [total] at member
    apply sound.inside
    apply (Multiset.mem_add.mp member).resolve_left
    intro inside
    exact (Multiset.count_pos.mpr inside).ne' (apart index)

theorem callNative_eq (types : TypeRegistry) (request : Call.Request) (machine : Machine) :
    machine.callNative types request =
      match Store.run (request.call types >>= Call.toScript) (machine.requested request).store with
      | (.ok value, store) =>
          (.ok (), { machine.requested request with
            store := store
            operands := (machine.requested request).operands.push value })
      | (.error fault, store) => (.error fault, { machine.requested request with store := store }) :=
  rfl

/-- A request that succeeds pushes its result, and one that fails changes nothing but the heap. -/
theorem Sound.callNative (sound : machine.Sound covenant 0) {request : Call.Request}
    (held : ∀ value ∈ request.values, value.owned ≤ machine.owned) :
    (∃ value store, value.IsLeaf ∧
      machine.callNative covenant.types request =
        (.ok (), { machine.requested request with
          store := store
          operands := machine.operands.push value }) ∧
      Sound covenant 0 { machine.requested request with
          store := store
          operands := machine.operands.push value }) ∨
    ∃ fault store,
      machine.callNative covenant.types request =
        (.error fault, { machine.requested request with store := store }) ∧
      Sound covenant 0 { machine.requested request with store := store } := by
  have before := sound.requested held
  rw [callNative_eq]
  rcases Store.run_toScript before.accounts before.queued
      (Call.request_keeps request) with
    ⟨value, after, ran, accounts, settled, leaf⟩ | ⟨fault, after, ran, accounts, settled⟩
  · rw [ran]
    refine .inl ⟨value, after, leaf, rfl, ?_⟩
    exact (before.withLeaf leaf accounts settled.queued).pushRaw
  · rw [ran]
    exact .inr ⟨fault, after, rfl, before.withStore accounts settled.queued⟩

theorem receive_cases (machine : Machine) (value : HostValue) :
    (∃ fault, machine.receive value = (.error fault, machine)) ∨
      ∃ store script, script.IsLeaf ∧ store.heap.pinned? = machine.store.heap.pinned? ∧
        machine.receive value =
          (.ok (), { machine with store := store, operands := machine.operands.push script }) := by
  obtain ⟨⟨heap, generator⟩, output, scope, operands, cells, thrown, operations, history, asked⟩ :=
    machine
  unfold receive
  dsimp only
  cases entered : value.toScript heap with
  | error fault => exact .inl ⟨fault, rfl⟩
  | ok outcome =>
      obtain ⟨script, after⟩ := outcome
      refine .inr ⟨⟨after, generator⟩, script, ?_, Call.pinned?_toScript entered, rfl⟩
      rcases Call.toScript_cases entered with ⟨datum, same, _⟩ | ⟨_, _, _, same, _⟩
      · exact .inl ⟨datum, same⟩
      · exact .inr ⟨_, same⟩

theorem Sound.receive (sound : machine.Sound covenant hand) (value : HostValue) :
    (machine.receive value).2.Sound covenant hand := by
  obtain ⟨⟨heap, generator⟩, output, scope, operands, cells, thrown, operations, history, asked⟩ :=
    machine
  unfold Machine.receive
  dsimp only
  cases entered : value.toScript heap with
  | error fault => exact sound
  | ok outcome =>
      obtain ⟨script, after⟩ := outcome
      obtain ⟨counted, claimless, released⟩ := Call.accounts_toScript sound.accounts entered
      have leaf : script.IsLeaf := by
        rcases Call.toScript_cases entered with ⟨datum, same, _⟩ | ⟨_, _, _, same, _⟩
        · exact .inl ⟨datum, same⟩
        · exact .inr ⟨_, same⟩
      have queued : after.Queued := fun handle unclaimed => by
        rw [released]
        exact sound.queued handle (claimless handle unclaimed)
      have stored := @Sound.withLeaf covenant hand _ sound script leaf ⟨after, generator⟩ counted
        queued
      exact stored.pushRaw

theorem owned_top_le (machine : Machine) : machine.top.owned ≤ machine.owned :=
  owned_valueAt_le machine _

theorem Sound.handOver (sound : machine.Sound covenant 0) :
    machine.handOver.2.Sound covenant 0 ∧
      ∀ value, machine.handOver.1 = .ok value →
        Call.Pinned value machine.handOver.2.store.heap := by
  have noted : (machine.record (.delivery machine.top)).Sound covenant 0 :=
    sound.record ⟨fun value member => by
      rw [List.mem_singleton.mp member]
      exact holdings_subset (owned_top_le machine), nofun, nofun⟩
  unfold Machine.handOver
  dsimp only
  split
  · rename_i handle crossed
    cases found : (machine.record (.delivery machine.top)).store.heap.resident? handle with
    | none =>
        rw [Heap.pin_eq_error found]
        exact ⟨noted, fun _ failed => nomatch failed⟩
    | some resident =>
        rw [Heap.pin_eq_ok found]
        dsimp only
        refine ⟨noted.withStore (noted.accounts.pin found)
          (noted.queued.alter found _ fun pinned _ => nomatch pinned), fun value same => ?_⟩
        injection same with valueEq
        subst valueEq
        intro other otherEq
        injection otherEq with handleEq
        subst handleEq
        exact ⟨resident.held, by rw [Heap.resident?_alter, if_pos rfl, found]; rfl, rfl⟩
  · rename_i other
    refine ⟨noted, fun value same => ?_⟩
    intro handle valueEq
    subst valueEq
    exact absurd same (other handle)

end Machine
end ScriptHost.Script
