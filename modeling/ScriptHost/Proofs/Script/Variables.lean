import ScriptHost.Proofs.Script.Evaluation

/-!
What names stand for.

A name stands for the variable that was declared last under it. Declaring a variable, or putting a
new value into one, settles what its name stands for, and to look a name up and to hand the value
over gives the host what it put there.
-/

set_option autoImplicit false

namespace ScriptHost.Script

namespace Value

/-- A script value stands for a value of the host. -/
def Carries (heap : Heap Occupant) (value : Value) (given : HostValue) : Prop :=
  value.IsLeaf ∧ value.toHost? = some given ∧
    ∀ handle, given = .object handle → heap.contains handle = true

variable {heap after : Heap Occupant} {value : Value} {given : HostValue}

theorem Carries.toHost_eq (carries : value.Carries heap given) :
    value.toHost heap .any = .ok given := by
  obtain ⟨_, host, live⟩ := carries
  unfold toHost
  rw [host]
  cases given with
  | object handle => exact if_pos (live handle rfl)
  | _ => rfl

theorem toHost_congr (same : ∀ handle, after.contains handle = heap.contains handle)
    (value : Value) (kind : Kind) : value.toHost after kind = value.toHost heap kind := by
  unfold toHost
  simp only [same]

theorem Carries.mono (carries : value.Carries heap given)
    (kept : ∀ handle, heap.contains handle = true → after.contains handle = true) :
    value.Carries after given :=
  ⟨carries.1, carries.2.1, fun handle same => kept handle (carries.2.2 handle same)⟩

theorem toScript_live (live : ∀ handle, given = .object handle → heap.contains handle = true) :
    ∃ value after, given.toScript heap = .ok (value, after) := by
  cases given with
  | object handle =>
      obtain ⟨resident, found⟩ := Heap.contains_iff.mp (live handle rfl)
      simp only [HostValue.toScript, found, Heap.anchor_eq_ok found]
      exact ⟨_, _, rfl⟩
  | _ => exact ⟨_, _, rfl⟩

theorem toScript_stale {handle : Handle} (dead : heap.contains handle = false) :
    (HostValue.object handle).toScript heap = .error (.staleHandle handle) := by
  have absent : heap.resident? handle = none :=
    Option.isNone_iff_eq_none.mp (Option.isSome_eq_false_iff.mp dead)
  simp only [HostValue.toScript, absent]

theorem carries_of_toScript (entered : given.toScript heap = .ok (value, after)) :
    value.Carries after given := by
  cases given with
  | object handle =>
      unfold HostValue.toScript at entered
      dsimp only at entered
      cases found : heap.resident? handle with
      | none =>
          rw [found] at entered
          cases entered
      | some resident =>
          rw [found] at entered
          dsimp only at entered
          rw [Heap.anchor_eq_ok found] at entered
          injection entered with both
          injection both with same changed
          subst same
          refine ⟨.inr ⟨_, rfl⟩, rfl, fun other named => ?_⟩
          injection named with named
          subst named
          refine Heap.contains_iff.mpr ⟨resident.anchored, ?_⟩
          rw [← changed, Heap.resident?_alter, if_pos rfl, found]
          rfl
  | _ =>
      injection entered with both
      injection both with same _
      subst same
      exact ⟨.inl ⟨_, rfl⟩, rfl, nofun⟩

end Value

namespace Machine

variable {machine later : Machine} {name : String} {constant : Bool} {value : Value}
  {base index : Nat}

theorem findVariable?_congr (same : later.scope.map Variable.name = machine.scope.map Variable.name)
    (base : Nat) (name : String) :
    later.findVariable? base name = machine.findVariable? base name := by
  have size : later.scope.size = machine.scope.size := by
    rw [← Array.size_map, same, Array.size_map]
  have entries (index : Nat) : later.scope[index]?.map Variable.name =
      machine.scope[index]?.map Variable.name := by
    rw [← Array.getElem?_map, ← Array.getElem?_map, same]
  have walk (count : Nat) : findVariable?.go later base name count =
      findVariable?.go machine base name count := by
    induction count with
    | zero => rfl
    | succ count ih =>
        have entry := entries count
        unfold findVariable?.go
        rw [ih]
        cases first : later.scope[count]? with
        | none =>
            rw [first, Option.map_none] at entry
            rw [Option.map_eq_none_iff.mp entry.symm]
        | some held =>
            rw [first, Option.map_some] at entry
            obtain ⟨other, found, called⟩ := Option.map_eq_some_iff.mp entry.symm
            rw [found]
            dsimp only
            rw [called]
  unfold findVariable?
  rw [size, walk]

theorem findVariable?_last {entry : Variable} (last : machine.scope.back? = some entry) :
    machine.findVariable? 0 entry.name = some (machine.scope.size - 1) := by
  rw [Array.back?_eq_getElem?] at last
  obtain ⟨bound, _⟩ := Array.getElem?_eq_some_iff.mp last
  obtain ⟨count, size⟩ := Nat.exists_eq_succ_of_ne_zero (show machine.scope.size ≠ 0 by omega)
  rw [size, Nat.succ_sub_one] at last ⊢
  unfold findVariable?
  rw [size]
  unfold findVariable?.go
  rw [if_neg (Nat.not_lt_zero count), last]
  exact if_pos (beq_self_eq_true _)

theorem name_of_findVariable? (found : machine.findVariable? base name = some index) :
    ∃ entry, machine.scope[index]? = some entry ∧ entry.name = name := by
  have walk (count : Nat) (ended : findVariable?.go machine base name count = some index) :
      ∃ entry, machine.scope[index]? = some entry ∧ entry.name = name := by
    induction count with
    | zero => cases ended
    | succ count ih =>
        unfold findVariable?.go at ended
        split at ended
        · cases ended
        · split at ended
          · rename_i entry here
            split at ended
            · rename_i called
              injection ended with same
              subst same
              exact ⟨entry, here, eq_of_beq called⟩
            · exact ih ended
          · exact ih ended
  exact walk _ found

/-- What a name stands for. -/
def Binds (machine : Machine) (name : String) (constant : Bool) (value : Value) : Prop :=
  ∃ index, machine.findVariable? 0 name = some index ∧
    machine.scope[index]? = some ⟨name, constant, value⟩

theorem binds_declare (machine : Machine) (name : String) (constant : Bool) :
    (machine.declare name constant).Binds name constant (machine.operands.back?.getD .unit) := by
  have last : (machine.declare name constant).scope.back? =
      some ⟨name, constant, machine.operands.back?.getD .unit⟩ :=
    Array.back?_push
  refine ⟨_, findVariable?_last last, ?_⟩
  rw [← Array.back?_eq_getElem?, last]

theorem scope_redeclare (found : machine.findVariable? 0 name = some index) (constant : Bool) :
    (machine.redeclare index constant).scope = machine.scope.modify index
      (fun entry => ⟨entry.name, constant, machine.operands.back?.getD .unit⟩) := by
  obtain ⟨entry, here, _⟩ := name_of_findVariable? found
  unfold redeclare
  dsimp only
  rw [here]
  exact release_scope _ _

theorem names_redeclare (found : machine.findVariable? 0 name = some index) (constant : Bool) :
    (machine.redeclare index constant).scope.map Variable.name =
      machine.scope.map Variable.name := by
  rw [scope_redeclare found]
  exact map_modify_of_eq machine.scope index fun _ => rfl

theorem binds_redeclare (found : machine.findVariable? 0 name = some index) (constant : Bool) :
    (machine.redeclare index constant).Binds name constant
      (machine.operands.back?.getD .unit) := by
  obtain ⟨entry, here, called⟩ := name_of_findVariable? found
  refine ⟨index, (findVariable?_congr (names_redeclare found constant) 0 name).trans found, ?_⟩
  rw [scope_redeclare found, Array.getElem?_modify, if_pos rfl, here, Option.map_some, called]

/-- What is in the captured variable that a value stands for, and otherwise the value itself. -/
def follow (machine : Machine) : Value → Value
  | .shared cell => machine.valueAt ⟨.cell cell, []⟩
  | value => value

theorem follow_leaf (leaf : value.IsLeaf) (machine : Machine) : machine.follow value = value := by
  rcases leaf with ⟨datum, rfl⟩ | ⟨reference, rfl⟩
  · rfl
  · rfl

theorem valueAt_ofVariable {entry : Variable} (found : machine.scope[index]? = some entry) :
    machine.valueAt (.ofVariable index) = machine.follow entry.value := by
  unfold valueAt valueAt? rootOf Place.ofVariable
  dsimp only
  rw [found, Option.map_some]
  cases held : entry.value with
  | shared cell => rfl
  | _ =>
      dsimp only
      rw [found, Option.map_some, held]
      rfl

theorem top_pushRaw (machine : Machine) (value : Value) :
    (machine.pushRaw value).top = machine.follow value := by
  have last : (machine.pushRaw value).operands[machine.operands.size]? = some value :=
    Array.getElem?_push_size
  have size : (machine.pushRaw value).operands.size - 1 = machine.operands.size := by
    simp [pushRaw]
  unfold top operand valueAt valueAt? rootOf Place.ofOperand
  dsimp only
  rw [size, last]
  cases value with
  | shared cell => rfl
  | _ =>
      dsimp only
      rw [last]
      rfl

theorem handOver_result (machine : Machine) :
    machine.handOver.1 = machine.top.toHost machine.store.heap .any := by
  unfold handOver
  dsimp only
  rw [show (machine.record (.delivery machine.top)).top = machine.top from rfl,
    show (machine.record (.delivery machine.top)).store = machine.store from rfl]
  split
  · rename_i handle crossed
    obtain ⟨resident, found⟩ := Heap.contains_iff.mp (Call.live_of_toHost crossed)
    rw [Heap.pin_eq_ok found, crossed]
  · rfl

theorem handOver_of_carries {given : HostValue} (carries : value.Carries machine.store.heap given) :
    (machine.pushRaw value).handOver.1 = .ok given := by
  rw [handOver_result, top_pushRaw, follow_leaf carries.1]
  exact carries.toHost_eq

theorem retainAll_leaf (leaf : value.IsLeaf) (machine : Machine) :
    ∃ store, store.heap.pinned? = machine.store.heap.pinned? ∧
      machine.retainAll value.holdings = { machine with store := store } := by
  rcases leaf with ⟨datum, rfl⟩ | ⟨reference, rfl⟩
  · exact ⟨machine.store, rfl, rfl⟩
  · change ∃ store : Store, _ ∧ machine.retain (.object reference) = _
    cases found : machine.store.heap.resident? reference.handle with
    | none =>
        refine ⟨machine.store, rfl, ?_⟩
        simp only [retain, mapHeap, Store.mapHeap, Heap.anchor_eq_error found]
    | some resident =>
        refine ⟨_, ?_, mapHeap_retain machine found⟩
        exact Heap.pinned?_alter _ _ Resident.anchored fun _ => rfl

theorem keepTop_pushRaw {operands : Array Value} (last : machine.operands = operands.push .unit)
    (value : Value) :
    (machine.pushRaw value).keepTop operands.size =
      ({ machine with operands := operands } : Machine).pushRaw value := by
  have many : ¬ (machine.pushRaw value).operands.size ≤ operands.size + 1 := by
    simp [pushRaw, last]
  have popped : (machine.pushRaw value).operands.pop = operands.push .unit := by
    rw [← last]
    exact Array.pop_push
  have rest : dropTo operands.size { machine with operands := operands.push .unit } =
      { machine with operands := operands } := by
    have single : (operands.push Value.unit).size - operands.size = 1 := by simp
    have dropped : drop { machine with operands := operands.push .unit } =
        { machine with operands := operands } := by
      unfold drop
      dsimp only
      rw [Array.back?_push, Array.pop_push]
      rfl
    unfold dropTo
    dsimp only
    rw [single]
    exact dropped
  unfold keepTop
  rw [if_neg many]
  dsimp only
  rw [popped, show (machine.pushRaw value).operands.back? = some value from Array.back?_push]
  exact congrArg (pushRaw value) rest

/-- The value from the host has become the last operand. -/
structure Receives (machine : Machine) (given : HostValue) (held : Value) (later : Machine) :
    Prop where
  received : machine.receive given = (.ok (), later)
  carries : held.Carries later.store.heap given
  pins : later.store.heap.pinned? = machine.store.heap.pinned?
  moved : later = { machine with store := later.store, operands := machine.operands.push held }

theorem receive_live {given : HostValue}
    (live : ∀ handle, given = .object handle → machine.store.heap.contains handle = true) :
    ∃ held later, machine.Receives given held later := by
  obtain ⟨⟨heap, generator⟩, output, scope, operands, cells, thrown, operations, history, asked⟩ :=
    machine
  obtain ⟨held, after, entered⟩ := Value.toScript_live live
  refine ⟨held, ⟨⟨after, generator⟩, output, scope, operands.push held, cells, thrown, operations,
    history, asked⟩, ?_, Value.carries_of_toScript entered, Call.pinned?_toScript entered, rfl⟩
  unfold receive
  dsimp only
  rw [entered]

theorem receive_dead {handle : Handle} (dead : machine.store.heap.contains handle = false) :
    machine.receive (.object handle) = (.error (.staleHandle handle), machine) := by
  obtain ⟨⟨heap, generator⟩, output, scope, operands, cells, thrown, operations, history, asked⟩ :=
    machine
  unfold receive
  dsimp only
  rw [Value.toScript_stale dead]

theorem receives_of_ok {given : HostValue} (received : machine.receive given = (.ok (), later)) :
    ∃ held, machine.Receives given held later := by
  by_cases live : ∀ handle, given = .object handle → machine.store.heap.contains handle = true
  · obtain ⟨held, after, receives⟩ := receive_live live
    have same := receives.received
    rw [received] at same
    injection same with _ same
    exact ⟨held, same ▸ receives⟩
  · obtain ⟨handle, gone⟩ := not_forall.mp live
    obtain ⟨rfl, dead⟩ := Classical.not_imp.mp gone
    rw [receive_dead (Bool.eq_false_of_not_eq_true dead)] at received
    cases received

namespace Receives

variable {given : HostValue} {held : Value}

theorem last (receives : machine.Receives given held later) :
    later.operands.back? = some held := by
  rw [receives.moved]
  exact Array.back?_push

theorem scope (receives : machine.Receives given held later) : later.scope = machine.scope := by
  rw [receives.moved]

theorem cells (receives : machine.Receives given held later) : later.cells = machine.cells := by
  rw [receives.moved]

end Receives

end Machine

namespace Run

variable {machine : Machine} {name : String} {constant : Bool} {value : Value} {given : HostValue}

theorem allows_one (limit : Nat) : Limits.allows limit 1 = true := by
  simp only [Limits.allows, Bool.or_eq_true, beq_iff_eq, decide_eq_true_eq]
  omega

/-- A name that is evaluated first of all gives a copy of the variable that it stands for. -/
theorem evaluate_lookup (env : Environment) {index : Nat}
    (found : machine.findVariable? 0 name = some index) (fresh : machine.operations = 0)
    (position : Position) :
    evaluate env (stepBound env.limits) .outermost (.lookup name position) machine =
      .ok () ({ machine.record .evaluation with operations := 1 }.copy (.ofVariable index)) := by
  have steps : stepBound env.limits ≠ 0 := by
    unfold stepBound
    split
    · exact (Nat.pow_pos Nat.zero_lt_two).ne'
    · exact Nat.succ_ne_zero _
  obtain ⟨fuel, succ⟩ := Nat.exists_eq_succ_of_ne_zero steps
  have ticked : tick env position machine =
      .ok () { machine.record .evaluation with operations := 1 } := by
    obtain ⟨store, output, scope, operands, cells, thrown, operations, history, asked⟩ := machine
    obtain rfl : operations = 0 := fresh
    have allowed : Limits.allows env.limits.operations (0 + 1) = true := allows_one _
    unfold tick
    rw [bind_apply]
    change (if !Limits.allows env.limits.operations (0 + 1) then _ else _ : Run Unit) _ = _
    rw [allowed]
    rfl
  rw [succ]
  change (tick env position >>= fun _ => lookup env .outermost name position) machine = _
  rw [bind_apply, ticked]
  have names : ({ machine.record .evaluation with operations := 1 } : Machine).scope.map
      Variable.name = machine.scope.map Variable.name := rfl
  have here := (Machine.findVariable?_congr names Frame.outermost.base name).trans found
  unfold lookup
  dsimp only
  rw [get_bind_apply, here]
  rfl

theorem block_lookup (env : Environment) (bound : machine.Binds name constant value)
    (carries : value.Carries machine.store.heap given) (position : Position) :
    ∃ later : Machine, block (evaluate env (stepBound env.limits)) .outermost
        [.lookup name position] { machine with operations := 0 } = .ok () (later.pushRaw value) ∧
      value.Carries later.store.heap given := by
  obtain ⟨index, found, held⟩ := bound
  let start : Machine := { machine with operations := 0 }
  let noted : Machine := { (start.push .unit).record .evaluation with operations := 1 }
  have sameNames : (start.push .unit).scope.map Variable.name = machine.scope.map Variable.name := rfl
  have evaluated := @evaluate_lookup (start.push .unit) name env index
    ((Machine.findVariable?_congr sameNames 0 name).trans found) rfl position
  have valued : noted.valueAt (.ofVariable index) = value :=
    (Machine.valueAt_ofVariable (show noted.scope[index]? = _ from held)).trans
      (Machine.follow_leaf carries.1 noted)
  obtain ⟨store, pins, retained⟩ := Machine.retainAll_leaf carries.1 noted
  have copied : noted.copy (.ofVariable index) = ({ noted with store := store }).pushRaw value := by
    unfold Machine.copy
    rw [valued]
    exact congrArg (Machine.pushRaw value) retained
  refine ⟨{ noted with store := store, operands := machine.operands }, ?_, ?_⟩
  · change (evaluate env (stepBound env.limits) .outermost (.lookup name position) >>= fun _ =>
      keepTop machine.operands.size >>= fun _ => pure ()) (start.push .unit) = _
    rw [bind_apply, evaluated]
    change EStateM.Result.ok () ((noted.copy (.ofVariable index)).keepTop machine.operands.size) = _
    rw [copied, Machine.keepTop_pushRaw rfl]
  · exact carries.mono fun handle live => (Heap.contains_congr pins handle).trans live

end Run
end ScriptHost.Script
