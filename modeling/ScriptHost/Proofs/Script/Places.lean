import ScriptHost.Proofs.Script.Positions

/-!
Places, closures and thrown values of a sound machine.

A change at a place trades what was there for what is there afterwards. A variable that is captured
keeps its value, which moves into a cell of its own.
-/

set_option autoImplicit false

namespace ScriptHost.Script.Machine

open Value

variable {covenant : Covenant} {hand : Multiset Holding} {machine : Machine}

theorem exchange {outer outer' inner inner' old new : Multiset Holding}
    (outside : outer' + inner = outer + inner') (within : inner' + old = inner + new) :
    outer' + old = outer + new := by
  apply add_right_cancel (b := inner)
  calc
    _ = (outer' + inner) + old := by abel
    _ = outer + (inner' + old) := by rw [outside, add_assoc]
    _ = _ := by
      rw [within]
      abel

theorem lookup_of_extend {place : Place} {name : String} {entries : List (String × Value)}
    (found : machine.valueAt? place = some (.table entries))
    (absent : machine.valueAt? (place.extend (.entry name)) = none) :
    entries.lookup name = none := by
  unfold valueAt? Place.extend at absent
  unfold valueAt? at found
  obtain ⟨value, valueFound, inner⟩ := Option.bind_eq_some_iff.mp found
  dsimp only at absent valueFound
  rw [valueFound] at absent
  change inside? (place.path ++ [.entry name]) value = none at absent
  rw [inside?_append, inner] at absent
  change entries.lookup name >>= inside? [] = none at absent
  cases held : entries.lookup name with
  | none => rfl
  | some value =>
      rw [held] at absent
      cases absent

theorem owned_alter {place : Place} {old : Value} (found : machine.valueAt? place = some old)
    (change : Value → Value) :
    (machine.alter place change).owned + old.owned = machine.owned + (change old).owned := by
  unfold valueAt? at found
  unfold alter
  obtain ⟨value, valueFound, inner⟩ := Option.bind_eq_some_iff.mp found
  have traded := owned_alterInside inner change
  cases root : machine.rootOf place.root with
  | «variable» index =>
      rw [root] at valueFound
      obtain ⟨entry, entryFound, rfl⟩ := Option.map_eq_some_iff.mp valueFound
      have outer := owned_modify_scope machine entryFound fun entry =>
        ⟨entry.name, entry.constant, alterInside change place.path entry.value⟩
      exact exchange outer traded
  | operand index =>
      rw [root] at valueFound
      have outer := owned_modify_operand machine valueFound (alterInside change place.path)
      exact exchange outer traded
  | cell index =>
      rw [root] at valueFound
      obtain ⟨cell, cellFound, rfl⟩ := Option.map_eq_some_iff.mp valueFound
      have outer := owned_modify_cells machine cellFound fun cell =>
        ⟨alterInside change place.path cell.content, cell.holders⟩
      exact exchange outer traded

@[simp] theorem alter_store (machine : Machine) (place : Place) (change : Value → Value) :
    (machine.alter place change).store = machine.store := by
  unfold alter
  cases machine.rootOf place.root <;> rfl

@[simp] theorem alter_history (machine : Machine) (place : Place) (change : Value → Value) :
    (machine.alter place change).history = machine.history := by
  unfold alter
  cases machine.rootOf place.root <;> rfl

@[simp] theorem alter_holders (machine : Machine) (place : Place) (change : Value → Value) :
    (machine.alter place change).cells.map Cell.holders = machine.cells.map Cell.holders := by
  unfold alter
  cases machine.rootOf place.root with
  | «variable» index => rfl
  | operand index => rfl
  | cell index =>
      refine @map_modify_of_eq Cell Nat Cell.holders
        (fun cell => ⟨alterInside change place.path cell.content, cell.holders⟩)
        machine.cells index fun _ => rfl

/-- What a change needs is in hand, and what it frees is in hand afterwards. -/
theorem Sound.alter {place : Place} {old : Value} {spent freed : Multiset Holding}
    (sound : machine.Sound covenant (spent + hand)) (found : machine.valueAt? place = some old)
    (change : Value → Value) (traded : (change old).owned + freed = old.owned + spent) :
    (machine.alter place change).Sound covenant (freed + hand) := by
  apply sound.shift (by rw [alter_store]) (alter_history _ _ _) (alter_holders _ _ _)
  have total := owned_alter found change
  apply add_right_cancel (b := old.owned)
  calc
    _ = ((machine.alter place change).owned + old.owned) + (freed + hand) := by abel
    _ = ((change old).owned + freed) + (machine.owned + hand) := by
      rw [total]
      abel
    _ = _ := by
      rw [traded]
      abel

theorem Sound.replace {place : Place} {value : Value}
    (sound : machine.Sound covenant (value.owned + hand)) :
    (machine.replace place value).Sound covenant hand := by
  unfold Machine.replace
  split
  · rename_i old found
    exact (sound.alter found (fun _ => value) (add_comm _ _)).release
  · exact sound.release

theorem Sound.assign (sound : machine.Sound covenant hand) (place : Place) :
    (machine.assign place).Sound covenant hand :=
  sound.pop.replace

theorem Sound.redeclare (sound : machine.Sound covenant hand) (index : Nat) (constant : Bool) :
    (machine.redeclare index constant).Sound covenant hand := by
  unfold Machine.redeclare
  dsimp only
  split
  · rename_i old found
    refine Sound.release (sound.pop.shift rfl rfl rfl ?_)
    have traded := owned_modify_scope { machine with operands := machine.operands.pop } found
      fun entry => ⟨entry.name, constant, machine.operands.back?.getD .unit⟩
    rw [add_comm old.value.owned, add_assoc, add_comm old.value.owned]
    exact (congrArg (hand + ·) traded).trans (by abel)
  · exact sound.pop.release

theorem Sound.assignEntry (sound : machine.Sound covenant hand) (place : Place) (name : String) :
    (machine.assignEntry place name).Sound covenant hand := by
  unfold Machine.assignEntry
  dsimp only
  split
  · rename_i entries absent found
    have missing : entries.lookup name = none := lookup_of_extend found absent
    rw [← zero_add hand]
    apply sound.pop.alter found _
    rw [owned_table, owned_table, ownedEntries_insertEntry missing]
    abel
  · exact sound.pop.replace

theorem operands_takeOperand {position index : Nat} (different : index ≠ position) :
    (machine.takeOperand position).2.operands[index]? = machine.operands[index]? := by
  unfold takeOperand
  split
  · simp [Ne.symm different]
  · rfl

theorem scope_takeOperand (machine : Machine) (position : Nat) :
    (machine.takeOperand position).2.scope = machine.scope := by
  unfold takeOperand
  split <;> rfl

theorem cells_takeOperand (machine : Machine) (position : Nat) :
    (machine.takeOperand position).2.cells = machine.cells := by
  unfold takeOperand
  split <;> rfl

theorem rootOf_eq_operand {root : Root} {index : Nat}
    (found : machine.rootOf root = .operand index) : root = .operand index := by
  cases root with
  | «variable» other =>
      simp only [rootOf] at found
      split at found <;> cases found
  | operand other =>
      simp only [rootOf] at found
      split at found
      · cases found
      · exact found
  | cell other => cases found

/-- Taking an operand leaves places in other operands and in variables as they are. Behind a
variable may be a cell, but never the operand. -/
theorem valueAt?_takeOperand {place : Place} {position : Nat}
    (apart : place.root ≠ .operand position) :
    (machine.takeOperand position).2.valueAt? place = machine.valueAt? place := by
  obtain ⟨root, path⟩ := place
  have sameRoot : (machine.takeOperand position).2.rootOf root = machine.rootOf root := by
    cases root with
    | «variable» index => simp only [rootOf, scope_takeOperand]
    | operand index =>
        have different : index ≠ position := fun same => apart (same ▸ rfl)
        simp only [rootOf, operands_takeOperand different]
    | cell index => rfl
  unfold valueAt?
  rw [sameRoot]
  dsimp only
  cases found : machine.rootOf root with
  | «variable» index => simp only [scope_takeOperand]
  | operand index =>
      have different : index ≠ position := fun same =>
        apart (same ▸ rootOf_eq_operand found)
      simp only [operands_takeOperand different]
  | cell index => simp only [cells_takeOperand]

theorem Sound.append (sound : machine.Sound covenant hand) (place : Place) (position : Nat) :
    (machine.append place position).Sound covenant hand := by
  unfold Machine.append
  split
  · rename_i items found
    split
    · exact sound
    · rename_i apart
      rw [← valueAt?_takeOperand apart] at found
      rw [← zero_add hand]
      apply (sound.takeOperand position).alter found _
      simp only [owned_list, Array.toList_push, ownedAll_append, ownedAll_cons, ownedAll_nil]
      abel
  · exact sound

theorem fst_takeOperand {position : Nat} {value : Value}
    (found : machine.operands[position]? = some value) :
    (machine.takeOperand position).1 = value := by
  simp only [takeOperand, found]

theorem Sound.appendItems (sound : machine.Sound covenant hand) (place : Place)
    (position : Nat) : (machine.appendItems place position).Sound covenant hand := by
  unfold Machine.appendItems
  split
  · rename_i items added found addedFound
    split
    · exact sound
    · rename_i apart
      have taken := sound.takeOperand position
      rw [fst_takeOperand addedFound] at taken
      rw [← valueAt?_takeOperand apart] at found
      rw [← zero_add hand]
      apply taken.alter found _
      simp only [owned_list, Array.toList_append, ownedAll_append]
      abel
  · exact sound

theorem Sound.mergeEntries (sound : machine.Sound covenant hand) (place : Place)
    (position : Nat) : (machine.mergeEntries place position).Sound covenant hand := by
  unfold Machine.mergeEntries
  split
  · rename_i old added found addedFound
    split
    · exact sound
    · rename_i apart
      have taken := sound.takeOperand position
      rw [fst_takeOperand addedFound] at taken
      rw [← valueAt?_takeOperand apart] at found
      have merged := owned_mergeEntries added old
      dsimp only
      generalize Value.mergeEntries added old = outcome at merged ⊢
      obtain ⟨entries, replaced⟩ := outcome
      apply Sound.release
      apply taken.alter found _
      simp only [owned_table, owned_list]
      rw [merged]
      abel
  · exact sound

theorem Sound.clear (sound : machine.Sound covenant hand) (place : Place) :
    (machine.clear place).Sound covenant hand := by
  have untouched : machine.Sound covenant (0 + hand) := by
    rw [zero_add]
    exact sound
  unfold Machine.clear
  split
  · rename_i text found
    rw [← zero_add hand]
    exact untouched.alter found _ rfl
  · rename_i items found
    exact (untouched.alter found (fun _ => .list #[]) (by simp)).release
  · rename_i entries found
    exact (untouched.alter found (fun _ => .table []) (by simp)).release
  · exact sound

theorem Sound.takeItem (sound : machine.Sound covenant hand) (position index : Nat) :
    (machine.takeItem position index).Sound covenant hand := by
  have untouched : machine.Sound covenant (0 + hand) := by
    rw [zero_add]
    exact sound
  unfold Machine.takeItem
  dsimp only
  split
  · rename_i value found
    exact (untouched.alter found (fun _ => .unit) (by simp)).pushRaw
  · exact Sound.pushRaw untouched

theorem owned_push_cells (machine : Machine) (cell : Cell) :
    { machine with cells := machine.cells.push cell }.owned =
      machine.owned + cell.content.owned := by
  simp only [owned, Array.toList_push, List.map_append, List.map_cons, List.map_nil,
    ownedAll_append, ownedAll_cons, ownedAll_nil, add_zero]
  abel

theorem Sound.enclose {value : Value} (sound : machine.Sound covenant (value.owned + hand)) :
    { machine with cells := machine.cells.push ⟨value, 1⟩ }.Sound covenant
      (.cell machine.cells.size ::ₘ hand) := by
  have total : .cell machine.cells.size ::ₘ hand +
      { machine with cells := machine.cells.push ⟨value, 1⟩ }.owned =
        .cell machine.cells.size ::ₘ (value.owned + hand + machine.owned) := by
    rw [owned_push_cells, Multiset.cons_add]
    congr 1
    abel
  have unknown : Holding.cell machine.cells.size ∉ value.owned + hand + machine.owned :=
    fun member => Nat.lt_irrefl _ (sound.inside member)
  refine ⟨?_, sound.queued, fun {index cell} found => ?_, fun {index} member => ?_,
    sound.remembered⟩
  · rw [total]
    exact ⟨sound.accounts.regular, fun found => (sound.accounts.counted found).trans
        (references_cell _ _ _).symm,
      fun member => sound.accounts.resolved
        ((Multiset.mem_cons.mp member).resolve_left (by simp)),
      sound.accounts.typed, sound.accounts.kept⟩
  · rw [total]
    change (machine.cells.push _)[index]? = _ at found
    rw [Array.getElem?_push] at found
    by_cases same : index = machine.cells.size
    · rw [if_pos same] at found
      injection found with cellEq
      rw [← cellEq, same, Multiset.count_cons_self, Multiset.count_eq_zero_of_notMem unknown]
    · rw [if_neg same] at found
      have different : Holding.cell index ≠ Holding.cell machine.cells.size := fun equal =>
        same (Holding.cell.inj equal)
      rw [Multiset.count_cons_of_ne different]
      exact sound.shared found
  · rw [total] at member
    change index < (machine.cells.push _).size
    rw [Array.size_push]
    rcases Multiset.mem_cons.mp member with equal | earlier
    · rw [Holding.cell.inj equal]
      exact Nat.lt_succ_self _
    · exact Nat.lt_succ_of_lt (sound.inside earlier)

def withVariable (machine : Machine) (index : Nat) (value : Value) : Machine :=
  { machine with
    scope := machine.scope.modify index fun entry => ⟨entry.name, entry.constant, value⟩ }

theorem owned_withVariable {index : Nat} {entry : Variable}
    (found : machine.scope[index]? = some entry) (value : Value) :
    (machine.withVariable index value).owned + entry.value.owned = machine.owned + value.owned :=
  owned_modify_scope machine found _

theorem mem_owned_of_shared {index cell : Nat} {entry : Variable}
    (found : machine.scope[index]? = some entry) (shared : entry.value = .shared cell) :
    Holding.cell cell ∈ machine.owned := by
  have emptied := owned_withVariable found .unit
  rw [shared, owned_shared, owned_datum, add_zero] at emptied
  rw [← emptied]
  exact Multiset.mem_add.mpr (.inr (Multiset.mem_singleton_self _))

theorem Sound.share (sound : machine.Sound covenant hand) {index : Nat} {entry : Variable}
    (found : machine.scope[index]? = some entry) :
    (machine.share index).2.Sound covenant hand ∧
      Holding.cell (machine.share index).1 ∈ (machine.share index).2.owned := by
  unfold Machine.share
  rw [found]
  dsimp only
  split
  · rename_i cell shared
    exact ⟨sound, mem_owned_of_shared found shared⟩
  · have emptied := owned_withVariable found .unit
    have pointed := owned_withVariable found (.shared machine.cells.size)
    rw [owned_datum, add_zero] at emptied
    have taken : (machine.withVariable index .unit).Sound covenant (entry.value.owned + hand) := by
      refine sound.shift rfl rfl rfl ?_
      rw [← emptied]
      abel
    have before := owned_push_cells (machine.withVariable index .unit) ⟨entry.value, 1⟩
    have after := owned_push_cells (machine.withVariable index (.shared machine.cells.size))
      ⟨entry.value, 1⟩
    refine ⟨taken.enclose.shift rfl rfl rfl ?_, ?_⟩
    · apply (congrArg (hand + ·) after).trans
      rw [before, emptied, pointed, owned_shared, ← Multiset.singleton_add]
      change _ = {Holding.cell machine.cells.size} + hand + machine.owned
      abel
    · have moved : (machine.withVariable index (.shared machine.cells.size)).scope[index]? =
          some ⟨entry.name, entry.constant, .shared machine.cells.size⟩ := by
        change (machine.scope.modify index _)[index]? = _
        rw [Array.getElem?_modify, if_pos rfl, found]
        rfl
      exact @mem_owned_of_shared { machine with
          cells := machine.cells.push ⟨entry.value, 1⟩
          scope := machine.scope.modify index _ } index machine.cells.size _ moved rfl

theorem Sound.bindOperand (sound : machine.Sound covenant hand) (position : Nat) :
    (machine.bindOperand position).Sound covenant hand := by
  unfold Machine.bindOperand
  split
  · rename_i name bound last
    dsimp only
    split
    · exact sound
    · rename_i different
      have taken := sound.takeOperand position
      have size : (machine.takeOperand position).2.operands.size = machine.operands.size := by
        unfold Machine.takeOperand
        split
        · simp
        · rfl
      have found : (machine.takeOperand position).2.operands[machine.operands.size - 1]? =
          some (.function name bound) := by
        rw [operands_takeOperand (Ne.symm different), ← last, Array.back?]
      refine taken.shift rfl rfl rfl ?_
      have grown := owned_set_operand (machine.takeOperand position).2 found
        (.function name (bound ++ [(machine.takeOperand position).1]))
      refine add_right_cancel (b := (Value.function name bound).owned) ?_
      rw [add_assoc, grown]
      simp only [owned_function, ownedAll_append, ownedAll_cons, ownedAll_nil]
      abel
  · exact sound

theorem Sound.bindOperands (sound : machine.Sound covenant hand) (positions : List Nat) :
    (machine.bindOperands positions).Sound covenant hand := by
  induction positions generalizing machine with
  | nil => exact sound
  | cons position rest ih => exact ih (sound.bindOperand position)

theorem Sound.throwValue {value : Value} (sound : machine.Sound covenant (value.owned + hand)) :
    { machine with thrown := machine.thrown.push value }.Sound covenant hand := by
  refine sound.shift rfl rfl rfl ?_
  rw [owned_push_thrown]
  abel

theorem Sound.throwTop (sound : machine.Sound covenant hand) :
    machine.throwTop.Sound covenant hand :=
  sound.pop.throwValue

theorem Sound.throwDatum (sound : machine.Sound covenant hand) (datum : Datum) :
    (machine.throwDatum datum).Sound covenant hand := by
  apply Sound.throwValue
  rw [owned_datum, zero_add]
  exact sound

theorem owned_thrown_le {value : Value} (member : value ∈ machine.thrown.toList) :
    value.owned ≤ machine.owned := by
  apply (owned_le_ownedAll member).trans
  exact (Multiset.le_add_left _ _).trans
    ((Multiset.le_add_left _ _).trans (Multiset.le_add_left _ _))

theorem Sound.copyThrown (sound : machine.Sound covenant hand) :
    machine.copyThrown.Sound covenant hand := by
  apply Sound.pushRaw
  apply sound.copyHeld
  cases last : machine.thrown.back? with
  | none => exact Multiset.zero_le _
  | some value => exact owned_thrown_le (Array.mem_toList_iff.mpr (Array.mem_of_back? last))

theorem Sound.dropThrownAt (sound : machine.Sound covenant hand) (index : Nat) :
    (machine.dropThrownAt index).Sound covenant hand := by
  unfold Machine.dropThrownAt
  split
  · rename_i value found
    refine Sound.release (sound.shift rfl rfl rfl ?_)
    rw [← owned_erase_thrown machine found]
    abel
  · exact sound

theorem Sound.dropThrown (sound : machine.Sound covenant hand) :
    machine.dropThrown.Sound covenant hand := by
  unfold Machine.dropThrown
  split
  · rename_i value last
    refine Sound.release (sound.shift rfl rfl rfl ?_)
    obtain ⟨rest, around⟩ := Array.back?_eq_some_iff.mp last
    simp only [owned, around, Array.pop_push, Array.toList_push, ownedAll_append, ownedAll_cons,
      ownedAll_nil, add_zero]
    abel
  · exact sound

theorem Sound.dropAllThrown (sound : machine.Sound covenant hand) :
    machine.dropAllThrown.Sound covenant hand := by
  unfold Machine.dropAllThrown
  generalize machine.thrown.size = count
  induction count generalizing machine with
  | zero => exact sound
  | succ count ih => exact ih sound.dropThrown

end ScriptHost.Script.Machine
