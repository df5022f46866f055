import ScriptHost.Proofs.Script.Housekeeping
import ScriptHost.Proofs.Script.Variables

/-!
What names show to hosts.

A host that reads a name is shown the value of the innermost variable of that name, and where this
has been captured, what is in its cell. To put a value under a name gives up what was there, and a
cell goes with it only if nothing else shares it. So no other name shows anything else afterwards.
-/

set_option autoImplicit false

namespace ScriptHost.Script.Machine

open Value

variable {covenant : Covenant} {machine before after : Machine} {name other : String}
  {index : Nat} {value : Value} {given : HostValue}

/-- The variable that was declared last under a name. -/
def binding? (machine : Machine) (name : String) : Option Variable :=
  machine.scope.toList.reverse.find? fun entry => entry.name == name

theorem binding?_eq (machine : Machine) (name : String) :
    machine.binding? name =
      (machine.findVariable? 0 name).bind fun index => machine.scope[index]? := by
  have walk (count : Nat) :
      (machine.scope.toList.take count).reverse.find? (fun entry => entry.name == name) =
        (findVariable?.go machine 0 name count).bind fun index => machine.scope[index]? := by
    induction count with
    | zero => rfl
    | succ count ih =>
        unfold findVariable?.go
        rw [if_neg (Nat.not_lt_zero count), List.take_add_one, Array.getElem?_toList]
        cases here : machine.scope[count]? with
        | none =>
            rw [Option.toList_none, List.append_nil]
            exact ih
        | some entry =>
            rw [Option.toList_some, List.reverse_append, List.reverse_singleton,
              List.singleton_append, List.find?_cons]
            dsimp only
            cases entry.name == name with
            | true => exact here.symm
            | false => exact ih
  have whole := walk machine.scope.size
  rw [← Array.length_toList, List.take_length, Array.length_toList] at whole
  exact whole

theorem binding?_of_found {entry : Variable} (found : machine.findVariable? 0 name = some index)
    (here : machine.scope[index]? = some entry) : machine.binding? name = some entry := by
  rw [binding?_eq, found, Option.bind_some, here]

theorem binding?_declare (different : other ≠ name) (constant : Bool) :
    (machine.declare name constant).binding? other = machine.binding? other := by
  unfold binding? declare
  rw [Array.toList_push, List.reverse_append, List.reverse_singleton, List.singleton_append,
    List.find?_cons_of_neg]
  simpa using different.symm

theorem binding?_redeclare (found : machine.findVariable? 0 name = some index)
    (different : other ≠ name) (constant : Bool) :
    (machine.redeclare index constant).binding? other = machine.binding? other := by
  rw [binding?_eq, binding?_eq, findVariable?_congr (names_redeclare found constant)]
  cases elsewhere : machine.findVariable? 0 other with
  | none => rfl
  | some position =>
      have apart : index ≠ position := by
        rintro rfl
        obtain ⟨entry, here, called⟩ := name_of_findVariable? found
        obtain ⟨same, there, otherwise⟩ := name_of_findVariable? elsewhere
        rw [here] at there
        injection there with equal
        exact different (otherwise.symm.trans (equal ▸ called))
      rw [Option.bind_some, Option.bind_some, scope_redeclare found, Array.getElem?_modify,
        if_neg apart]

/-- Every cell that is still shared has kept its content. -/
def Spares (before after : Array Cell) : Prop :=
  ∀ (index : Nat) (cell : Cell), after[index]? = some cell → cell.holders ≠ 0 →
    ∃ earlier : Cell, before[index]? = some earlier ∧ earlier.content = cell.content ∧
      earlier.holders ≠ 0

theorem Spares.refl (cells : Array Cell) : Spares cells cells :=
  fun _ cell found shared => ⟨cell, found, rfl, shared⟩

theorem Spares.trans {first second third : Array Cell} (one : Spares first second)
    (two : Spares second third) : Spares first third := by
  intro index cell found shared
  obtain ⟨between, middle, sameContent, stillShared⟩ := two index cell found shared
  obtain ⟨earlier, there, same, earlierShared⟩ := one index between middle stillShared
  exact ⟨earlier, there, same.trans sameContent, earlierShared⟩

theorem spares_modify {cells : Array Cell} {cell : Cell} (here : cells[index]? = some cell)
    (change : Cell → Cell) (kept : (change cell).holders ≠ 0 →
      (change cell).content = cell.content ∧ cell.holders ≠ 0) :
    Spares cells (cells.modify index change) := by
  intro other later found shared
  rw [Array.getElem?_modify] at found
  by_cases same : index = other
  · rw [if_pos same, ← same, here] at found
    injection found with changed
    rw [← changed] at shared ⊢
    obtain ⟨sameContent, earlierShared⟩ := kept shared
    exact ⟨cell, same ▸ here, sameContent.symm, earlierShared⟩
  · rw [if_neg same] at found
    exact ⟨later, found, rfl, shared⟩

theorem spares_leaveCell (machine : Machine) (index : Nat) :
    Spares machine.cells (machine.leaveCell index).2.cells := by
  unfold leaveCell
  cases here : machine.cells[index]? with
  | none => exact .refl _
  | some left =>
      dsimp only
      by_cases last : left.holders ≤ 1
      · rw [if_pos last, set!_eq_modify]
        exact spares_modify here (fun _ => ⟨.unit, 0⟩) fun shared => absurd rfl shared
      · rw [if_neg last]
        refine spares_modify here (fun cell => ⟨cell.content, cell.holders - 1⟩) fun _ => ⟨rfl, ?_⟩
        omega

theorem spares_releaseAll (depth : Nat) (holdings : List Holding) (machine : Machine) :
    Spares machine.cells (releaseAll depth holdings machine).cells := by
  induction depth generalizing holdings machine with
  | zero => exact .refl _
  | succ depth deeper =>
      rw [releaseAll_succ]
      induction holdings generalizing machine with
      | nil => exact .refl _
      | cons holding rest ih =>
          have one : Spares machine.cells (releaseOne depth machine holding).cells := by
            cases holding with
            | object reference => exact .refl _
            | cell index => exact (spares_leaveCell machine index).trans (deeper _ _)
          exact one.trans (ih _)

theorem spares_release (value : Value) (machine : Machine) :
    Spares machine.cells (machine.release value).cells := by
  unfold release
  split
  · exact .refl _
  · exact spares_releaseAll _ _ machine

theorem spares_redeclare (machine : Machine) (index : Nat) (constant : Bool) :
    Spares machine.cells (machine.redeclare index constant).cells := by
  unfold redeclare
  dsimp only
  split
  · exact spares_release _ { machine with operands := machine.operands.pop, scope := _ }
  · exact spares_release _ { machine with operands := machine.operands.pop }

theorem valueAt_cell (machine : Machine) (cell : Nat) :
    machine.valueAt ⟨.cell cell, []⟩ = ((machine.cells.map Cell.content)[cell]?).getD .unit := by
  unfold valueAt valueAt? rootOf
  dsimp only
  rw [Array.getElem?_map]
  cases machine.cells[cell]? <;> rfl

theorem follow_congr (same : after.cells.map Cell.content = before.cells.map Cell.content)
    (value : Value) : after.follow value = before.follow value := by
  cases value with
  | shared cell => exact (valueAt_cell after cell).trans (same ▸ (valueAt_cell before cell).symm)
  | _ => rfl

theorem owned_follow_le (held : value.owned ≤ machine.owned) :
    (machine.follow value).owned ≤ machine.owned := by
  cases value with
  | shared cell => exact owned_valueAt_le machine _
  | _ => exact held

theorem Sound.follow_eq (sound : after.Sound covenant 0) (spares : Spares before.cells after.cells)
    (held : value.owned ≤ after.owned) : after.follow value = before.follow value := by
  cases value with
  | shared cell =>
      have member : Holding.cell cell ∈ 0 + after.owned := by
        rw [zero_add]
        exact Multiset.mem_of_le held (Multiset.mem_singleton_self _)
      obtain ⟨later, here⟩ : ∃ later, after.cells[cell]? = some later :=
        ⟨_, Array.getElem?_eq_getElem (sound.inside member)⟩
      have shared : later.holders ≠ 0 := by
        rw [sound.shared here]
        exact (Multiset.count_pos.mpr member).ne'
      obtain ⟨earlier, there, same, _⟩ := spares cell later here shared
      change after.valueAt _ = before.valueAt _
      rw [valueAt_cell, valueAt_cell, Array.getElem?_map, Array.getElem?_map, here, there,
        Option.map_some, Option.map_some, same]
  | _ => rfl

/-- What a host is shown under a name. A cell may stand for another one. -/
def shown (machine : Machine) (name : String) : Except Fault HostValue :=
  match machine.binding? name with
  | some entry => (machine.follow (machine.follow entry.value)).toHost machine.store.heap .any
  | none => .error (.scriptRuntime ("Variable not found: " ++ name) none)

theorem Binds.shown_eq {constant : Bool} (bound : machine.Binds name constant value)
    (carries : value.Carries machine.store.heap given) : machine.shown name = .ok given := by
  obtain ⟨index, found, here⟩ := bound
  unfold shown
  rw [binding?_of_found found here]
  dsimp only
  rw [follow_leaf carries.1, follow_leaf carries.1]
  exact carries.toHost_eq

theorem owned_binding_le {entry : Variable} (bound : machine.binding? name = some entry) :
    entry.value.owned ≤ machine.owned := by
  have member : entry ∈ machine.scope.toList :=
    List.mem_reverse.mp (List.mem_of_find?_eq_some bound)
  exact (owned_le_ownedAll (List.mem_map_of_mem member)).trans (Multiset.le_add_right _ _)

theorem shown_congr (binding : after.binding? name = before.binding? name)
    (follows : ∀ value, value.owned ≤ after.owned → after.follow value = before.follow value)
    (bare : after.store.heap.bare = before.store.heap.bare) :
    after.shown name = before.shown name := by
  unfold shown
  rw [binding]
  cases bound : before.binding? name with
  | none => rfl
  | some entry =>
      have held := owned_binding_le (binding.trans bound)
      dsimp only
      rw [follows _ (owned_follow_le held), follows _ held]
      exact toHost_congr (Heap.contains_of_bare bare) _ _

theorem handOver_copy {entry : Variable} (found : machine.findVariable? 0 name = some index)
    (here : machine.scope[index]? = some entry) :
    (machine.copy (.ofVariable index)).handOver.1 = machine.shown name := by
  have contents (holdings : List Holding) (machine : Machine) :
      (machine.retainAll holdings).cells.map Cell.content =
        machine.cells.map Cell.content := by
    induction holdings generalizing machine with
    | nil => rfl
    | cons holding rest ih =>
        exact (ih (machine.retain holding)).trans (contents_retain machine holding)
  unfold copy shown
  dsimp only
  rw [handOver_result, top_pushRaw, valueAt_ofVariable here, follow_congr (contents _ machine),
    binding?_of_found found here]
  exact toHost_congr (Heap.contains_of_bare (bare_of_inert (inert_retainAll machine _))) _ _

namespace Receives

variable {held : Value} {later : Machine}

theorem inert_eq (receives : machine.Receives given held later) : later.inert = machine.inert := by
  have same := inert_receive machine given
  rw [receives.received] at same
  exact same

theorem binding?_eq (receives : machine.Receives given held later) (name : String) :
    later.binding? name = machine.binding? name := by
  unfold binding?
  rw [receives.scope]

theorem shown_eq (receives : machine.Receives given held later) (name : String) :
    later.shown name = machine.shown name := by
  refine shown_congr (receives.binding?_eq name) (fun value _ => ?_)
    (bare_of_inert receives.inert_eq)
  apply follow_congr
  rw [receives.cells]

/-- A value that is given up right after it has been let in leaves nothing but other counts. -/
theorem dropTo_zero (receives : machine.Receives given held later)
    (empty : machine.operands = #[]) :
    ∃ store, store.heap.bare = machine.store.heap.bare ∧
      store.heap.pinned? = machine.store.heap.pinned? ∧
      later.dropTo 0 = { machine with store := store } := by
  have leaves : ∀ value ∈ machine.operands.push held, value.IsLeaf := by
    intro value member
    rw [empty] at member
    rcases Array.mem_push.mp member with none | rfl
    · exact absurd none (Array.not_mem_empty value)
    · exact receives.carries.1
  obtain ⟨store, dropped⟩ := Lends.dropAll ⟨later.store, _, receives.moved, leaves⟩ empty
  have bare := bare_of_inert ((inert_dropTo later 0).trans receives.inert_eq)
  have pins := congrArg (fun aside => aside.2.2.2) (aside_dropTo 0 later)
  rw [dropped] at bare pins
  exact ⟨store, bare, Eq.trans pins receives.pins, dropped⟩

end Receives

/-- Moves the last operand into the innermost variable of a name, or into a new one. -/
def put (name : String) (machine : Machine) : Machine :=
  match machine.findVariable? 0 name with
  | some index => machine.redeclare index false
  | none => machine.declare name false

theorem inert_put (machine : Machine) (name : String) :
    (machine.put name).inert = machine.inert := by
  unfold put
  split
  · exact inert_redeclare machine _ false
  · exact inert_declare machine name false

theorem binds_put (last : machine.operands.back? = some value) (name : String) :
    (machine.put name).Binds name false value := by
  unfold put
  split
  · rename_i index found
    have bound := binds_redeclare found false
    rw [last, Option.getD_some] at bound
    exact bound
  · have bound := binds_declare machine name false
    rw [last, Option.getD_some] at bound
    exact bound

theorem carries_put (carries : value.Carries machine.store.heap given) (name : String) :
    value.Carries (machine.put name).store.heap given :=
  carries.mono fun handle live =>
    (Heap.contains_of_bare (bare_of_inert (inert_put machine name)) handle).trans live

theorem Sound.shown_put (sound : machine.Sound covenant 0) (different : other ≠ name) :
    (machine.put name).shown other = machine.shown other := by
  have bare := bare_of_inert (inert_put machine name)
  unfold put at bare ⊢
  cases found : machine.findVariable? 0 name with
  | none =>
      rw [found] at bare
      refine shown_congr (binding?_declare different false) (fun value _ => ?_) bare
      exact follow_congr rfl value
  | some index =>
      rw [found] at bare
      refine shown_congr (binding?_redeclare found different false) (fun value held => ?_) bare
      exact (sound.redeclare index false).follow_eq (spares_redeclare machine index false) held

end ScriptHost.Script.Machine
