import Mathlib.Tactic.Abel
import ScriptHost.Proofs.Custody.Accounts
import ScriptHost.Script.Machine

set_option autoImplicit false

/-!
Soundness of a machine: references and shared variables are counted exactly.

What all positions of the machine hold on to, together with what is in hand between two positions,
is what the heap and the cells count. Values move between a position and the hand without a change
of the counts; a copy takes more into the hand, and what is in hand can be given up.
-/

namespace ScriptHost.Script

theorem map_modify_of_eq {α β : Type} {view : α → β} {change : α → α} (array : Array α)
    (index : Nat) (unseen : ∀ item, view (change item) = view item) :
    (array.modify index change).map view = array.map view := by
  apply Array.ext_getElem?
  intro position
  rw [Array.getElem?_map, Array.getElem?_map, Array.getElem?_modify]
  by_cases same : index = position
  · rw [if_pos same]
    cases array[position]? <;> simp [unseen]
  · rw [if_neg same]

theorem set!_eq_modify {β : Type} (array : Array β) (index : Nat) (item : β) :
    array.set! index item = array.modify index fun _ => item := by
  apply Array.ext_getElem?
  intro position
  rw [Array.set!_eq_setIfInBounds, Array.getElem?_modify, Array.getElem?_setIfInBounds]
  by_cases same : index = position
  · rw [if_pos same, if_pos same]
    by_cases bound : index < array.size
    · rw [if_pos bound, ← same, Array.getElem?_eq_getElem bound]
      rfl
    · rw [if_neg bound, ← same, Array.getElem?_eq_none (Nat.le_of_not_lt bound)]
      rfl
  · rw [if_neg same, if_neg same]

def Cell.loaded (cell : Cell) : Bool := !cell.content.holdings.isEmpty

namespace Value

def owned (value : Value) : Multiset Holding := ↑value.holdings

def ownedAll (values : List Value) : Multiset Holding := ↑(itemHoldings values)

@[simp] theorem owned_datum (value : Datum) : (datum value).owned = 0 := rfl

@[simp] theorem owned_list (items : Array Value) : (list items).owned = ownedAll items.toList := by
  obtain ⟨items⟩ := items
  simp only [owned, ownedAll, holdings, arrayHoldings]

@[simp] theorem owned_function (name : String) (bound : List Value) :
    (function name bound).owned = ownedAll bound := rfl

@[simp] theorem owned_shared (cell : Nat) : (shared cell).owned = {.cell cell} := rfl

@[simp] theorem ownedAll_nil : ownedAll [] = 0 := rfl

@[simp] theorem ownedAll_cons (value : Value) (rest : List Value) :
    ownedAll (value :: rest) = value.owned + ownedAll rest :=
  (Multiset.coe_add _ _).symm

@[simp] theorem ownedAll_append (left right : List Value) :
    ownedAll (left ++ right) = ownedAll left + ownedAll right := by
  induction left with
  | nil => exact (zero_add _).symm
  | cons value rest ih => rw [List.cons_append, ownedAll_cons, ownedAll_cons, ih, add_assoc]

theorem ownedAll_modify {β : Type} {array : Array β} {index : Nat} {item : β}
    (found : array[index]? = some item) (view : β → Value) (change : β → β) :
    ownedAll ((array.modify index change).toList.map view) + (view item).owned =
      ownedAll (array.toList.map view) + (view (change item)).owned := by
  obtain ⟨before, after, around, _, changed⟩ := exists_around found
  rw [changed, around]
  simp only [List.map_append, List.map_cons, ownedAll_append, ownedAll_cons]
  abel

end Value

open Value

namespace Machine

def owned (machine : Machine) : Multiset Holding :=
  ownedAll (machine.scope.toList.map Variable.value) +
    (ownedAll machine.operands.toList +
      (ownedAll (machine.cells.toList.map Cell.content) + ownedAll machine.thrown.toList))

theorem coe_holdings (machine : Machine) : (↑machine.holdings : Multiset Holding) = machine.owned := by
  simp only [holdings, owned, ownedAll, Multiset.coe_add]

theorem mem_holdings {machine : Machine} {holding : Holding} :
    holding ∈ machine.holdings ↔ holding ∈ machine.owned := by
  rw [← coe_holdings, Multiset.mem_coe]

end Machine

/-- What an occasion needs of the state of affairs. What it is about is held on to, no instance is
without a claim at a request, and the text of an instance comes from the description of its type. -/
structure Occasion.Fits (covenant : Covenant) (heap : Heap Occupant) (holdings : List Holding)
    (occasion : Occasion) : Prop where
  held : ∀ value ∈ occasion.values, value.holdings ⊆ holdings
  settled : ∀ request, occasion = .request request → heap.Settled
  described : ∀ reference text, occasion = .description reference text →
    ∃ resident descriptor, heap.resident? reference.handle = some resident ∧
      covenant.types.types[reference.typeId]? = some descriptor ∧
      text = descriptor.render reference.handle resident.content.body

/-- A moment at which every reference was counted and found its instance. -/
structure Moment.Faithful (covenant : Covenant) (moment : Moment) : Prop where
  accounts : moment.heap.Accounts covenant ↑moment.holdings
  fits : moment.occasion.Fits covenant moment.heap moment.holdings

namespace Machine

/-- `hand` is what is held on to outside of all positions. -/
structure Sound (covenant : Covenant) (hand : Multiset Holding) (machine : Machine) : Prop where
  accounts : machine.store.heap.Accounts covenant (hand + machine.owned)
  queued : machine.store.heap.Queued
  shared : ∀ {index cell}, machine.cells[index]? = some cell →
    cell.holders = (hand + machine.owned).count (.cell index)
  inside : ∀ {index}, Holding.cell index ∈ hand + machine.owned → index < machine.cells.size
  remembered : ∀ moment, machine.history moment →
    covenant.earlier moment ∨ moment.Faithful covenant

variable {covenant : Covenant} {hand hand' : Multiset Holding} {machine machine' : Machine}

theorem holders_of_map (same : machine'.cells.map Cell.holders = machine.cells.map Cell.holders)
    {index : Nat} {cell : Cell} (found : machine'.cells[index]? = some cell) :
    ∃ earlier, machine.cells[index]? = some earlier ∧ earlier.holders = cell.holders := by
  have view := congrArg (fun holders => holders[index]?) same
  simp only [Array.getElem?_map, found, Option.map_some] at view
  exact Option.map_eq_some_iff.mp view.symm

theorem Sound.shift (sound : machine.Sound covenant hand)
    (heap : machine'.store.heap = machine.store.heap)
    (history : machine'.history = machine.history)
    (holders : machine'.cells.map Cell.holders = machine.cells.map Cell.holders)
    (total : hand' + machine'.owned = hand + machine.owned) :
    machine'.Sound covenant hand' := by
  have size : machine'.cells.size = machine.cells.size := by
    simpa using congrArg Array.size holders
  refine ⟨?_, ?_, fun {index cell} found => ?_, fun {index} member => ?_, ?_⟩
  · rw [heap, total]
    exact sound.accounts
  · rw [heap]
    exact sound.queued
  · obtain ⟨earlier, earlierFound, same⟩ := holders_of_map holders found
    rw [total, ← same]
    exact sound.shared earlierFound
  · rw [total] at member
    rw [size]
    exact sound.inside member
  · rw [history]
    exact sound.remembered

theorem Sound.withStore (sound : machine.Sound covenant hand) {store : Store}
    (accounts : store.heap.Accounts covenant (hand + machine.owned))
    (queued : store.heap.Queued) : { machine with store := store }.Sound covenant hand :=
  ⟨accounts, queued, sound.shared, sound.inside, sound.remembered⟩

theorem Sound.record (sound : machine.Sound covenant 0) {occasion : Occasion}
    (fits : occasion.Fits covenant machine.store.heap machine.holdings) :
    (machine.record occasion).Sound covenant 0 := by
  refine ⟨sound.accounts, sound.queued, sound.shared, sound.inside, fun moment known => ?_⟩
  rcases known with rfl | earlier
  · have accounts := sound.accounts
    rw [zero_add, ← coe_holdings] at accounts
    exact .inr ⟨accounts, fits⟩
  · exact sound.remembered moment earlier

theorem Sound.recordPlain (sound : machine.Sound covenant 0) {occasion : Occasion}
    (plain : occasion = .evaluation ∨ occasion = .failure) :
    (machine.record occasion).Sound covenant 0 := by
  apply sound.record
  rcases plain with rfl | rfl
  · exact ⟨nofun, nofun, nofun⟩
  · exact ⟨nofun, nofun, nofun⟩

theorem Sound.collect (sound : machine.Sound covenant hand) :
    machine.collect.Sound covenant hand :=
  sound.withStore sound.accounts.collect sound.queued.settled_collect.queued

theorem Sound.extend {types types' : TypeRegistry} {promised : Handle → TypeId → Prop}
    {earlier : Moment → Prop} (sound : machine.Sound ⟨types, promised, earlier⟩ hand)
    (known : types.ExtendsTo types') :
    machine.Sound ⟨types', promised, earlier⟩ hand := by
  refine ⟨sound.accounts.renew known sound.accounts.kept, sound.queued, sound.shared, sound.inside,
    fun moment inHistory => ?_⟩
  apply (sound.remembered moment inHistory).imp_right
  intro faithful
  refine ⟨faithful.accounts.renew known faithful.accounts.kept, faithful.fits.held,
    faithful.fits.settled, fun reference text same => ?_⟩
  obtain ⟨resident, descriptor, found, registered, shown⟩ := faithful.fits.described _ _ same
  exact ⟨resident, descriptor, found, known _ _ registered, shown⟩

theorem Sound.renew (sound : machine.Sound covenant hand) {promised : Handle → TypeId → Prop}
    (kept : ∀ {handle typeId}, promised handle typeId →
      ∃ resident, machine.store.heap.resident? handle = some resident ∧ resident.pinned = true ∧
        resident.content.typeId = typeId) :
    machine.Sound ⟨covenant.types, promised, machine.history⟩ hand :=
  ⟨sound.accounts.renew (fun _ _ same => same) kept, sound.queued, sound.shared, sound.inside,
    fun _ inHistory => .inl inHistory⟩

theorem Sound.pins (sound : machine.Sound covenant hand) {change : Machine → Machine}
    (keeps : ∀ {covenant machine}, machine.Sound covenant hand →
      (change machine).Sound covenant hand)
    {handle : Handle} (pins : machine.store.heap.Pins handle) :
    (change machine).store.heap.Pins handle := by
  obtain ⟨resident, found, pinned⟩ := pins
  have relied : machine.Sound ⟨covenant.types,
      fun other typeId => other = handle ∧ typeId = resident.content.typeId, machine.history⟩
      hand := by
    refine sound.renew fun {other typeId} same => ?_
    obtain ⟨rfl, rfl⟩ := same
    exact ⟨resident, found, pinned, rfl⟩
  obtain ⟨later, laterFound, laterPinned, _⟩ := (keeps relied).accounts.kept ⟨rfl, rfl⟩
  exact ⟨later, laterFound, laterPinned⟩

theorem count_cell_object (index : Nat) (reference : Reference) (total : Multiset Holding) :
    (Holding.object reference ::ₘ total).count (.cell index) = total.count (.cell index) :=
  Multiset.count_cons_of_ne (by simp) _

theorem mapHeap_retain (machine : Machine) {reference : Reference}
    {resident : Resident Occupant}
    (found : machine.store.heap.resident? reference.handle = some resident) :
    machine.retain (.object reference) = { machine with
      store := ⟨machine.store.heap.alter reference.handle Resident.anchored,
        machine.store.generator⟩ } := by
  simp only [retain, mapHeap, Store.mapHeap, Heap.anchor_eq_ok found]

theorem contents_retain (machine : Machine) (holding : Holding) :
    (machine.retain holding).cells.map Cell.content = machine.cells.map Cell.content := by
  cases holding with
  | object reference => rfl
  | cell position =>
      exact @map_modify_of_eq Cell Value Cell.content
        (fun cell => ⟨cell.content, cell.holders + 1⟩) machine.cells position fun _ => rfl

theorem owned_retain (machine : Machine) (holding : Holding) :
    (machine.retain holding).owned = machine.owned := by
  cases holding with
  | object reference => rfl
  | cell position =>
      have listed := congrArg Array.toList (contents_retain machine (.cell position))
      simp only [Array.toList_map] at listed
      simp only [retain] at listed ⊢
      simp only [owned, listed]

theorem Sound.retain (sound : machine.Sound covenant hand) {holding : Holding}
    (held : holding ∈ hand + machine.owned) :
    (machine.retain holding).Sound covenant (holding ::ₘ hand) := by
  cases holding with
  | object reference =>
      obtain ⟨resident, found, sameType⟩ := sound.accounts.resolved held
      have anchored := sound.accounts.anchor found
      rw [sameType] at anchored
      rw [mapHeap_retain machine found]
      refine ⟨?_, sound.queued.anchor found, fun {index cell} cellFound => ?_,
        fun {index} member => ?_, sound.remembered⟩
      · rw [Multiset.cons_add]
        exact anchored
      · rw [Multiset.cons_add]
        exact (sound.shared cellFound).trans (count_cell_object index reference _).symm
      · rw [Multiset.cons_add] at member
        exact sound.inside ((Multiset.mem_cons.mp member).resolve_left (by simp))
  | cell position =>
      have apart := owned_retain machine (.cell position)
      have size : (machine.retain (.cell position)).cells.size = machine.cells.size := by
        simp [Machine.retain]
      refine ⟨?_, sound.queued, fun {index cell} cellFound => ?_, fun {index} member => ?_,
        sound.remembered⟩
      · rw [apart, Multiset.cons_add]
        exact ⟨sound.accounts.regular, fun found => (sound.accounts.counted found).trans
            (references_cell _ _ _).symm,
          fun member => sound.accounts.resolved
            ((Multiset.mem_cons.mp member).resolve_left (by simp)),
          sound.accounts.typed, sound.accounts.kept⟩
      · change (machine.cells.modify position _)[index]? = _ at cellFound
        rw [Array.getElem?_modify] at cellFound
        rw [apart, Multiset.cons_add]
        by_cases same : position = index
        · rw [if_pos same] at cellFound
          obtain ⟨earlier, earlierFound, rfl⟩ := Option.map_eq_some_iff.mp cellFound
          rw [← same, Multiset.count_cons_self, same, ← sound.shared earlierFound]
        · rw [if_neg same] at cellFound
          have different : Holding.cell index ≠ Holding.cell position := fun equal =>
            same (Holding.cell.inj equal).symm
          rw [Multiset.count_cons_of_ne different]
          exact sound.shared cellFound
      · rw [apart, Multiset.cons_add] at member
        rw [size]
        rcases Multiset.mem_cons.mp member with equal | earlier
        · injection equal with same
          exact same ▸ sound.inside held
        · exact sound.inside earlier

theorem Sound.retainAll {holdings : List Holding} (sound : machine.Sound covenant hand)
    (held : ∀ holding ∈ holdings, holding ∈ hand + machine.owned) :
    (machine.retainAll holdings).Sound covenant (↑holdings + hand) := by
  induction holdings generalizing machine hand with
  | nil =>
      change machine.Sound covenant (0 + hand)
      rw [zero_add]
      exact sound
  | cons holding rest ih =>
      have first := sound.retain (held holding List.mem_cons_self)
      have total : holding ::ₘ hand + (machine.retain holding).owned =
          holding ::ₘ (hand + machine.owned) := by
        rw [Multiset.cons_add, owned_retain]
      have later := ih first fun other member => by
        rw [total]
        exact Multiset.mem_cons_of_mem (held other (List.mem_cons_of_mem _ member))
      rw [← Multiset.cons_coe, Multiset.cons_add, ← Multiset.add_cons]
      exact later

def full (machine : Machine) : Nat :=
  machine.cells.toList.countP Cell.loaded

theorem full_le (machine : Machine) : machine.full ≤ machine.cells.size :=
  List.countP_le_length

theorem owned_modify_cells (machine : Machine) {index : Nat} {cell : Cell}
    (found : machine.cells[index]? = some cell) (change : Cell → Cell) :
    { machine with cells := machine.cells.modify index change }.owned + cell.content.owned =
      machine.owned + (change cell).content.owned := by
  have inside := ownedAll_modify found Cell.content change
  simp only [owned]
  calc
    _ = ownedAll (machine.scope.toList.map Variable.value) +
        (ownedAll machine.operands.toList +
          ((ownedAll ((machine.cells.modify index change).toList.map Cell.content) +
            cell.content.owned) + ownedAll machine.thrown.toList)) := by abel
    _ = _ := by
      rw [inside]
      abel

theorem full_modify (machine : Machine) {index : Nat} {cell : Cell}
    (found : machine.cells[index]? = some cell) (change : Cell → Cell) :
    { machine with cells := machine.cells.modify index change }.full +
        (if cell.loaded then 1 else 0) =
      machine.full + if (change cell).loaded then 1 else 0 := by
  obtain ⟨before, after, around, _, changed⟩ := exists_around found
  simp only [full, changed, around, List.countP_append, List.countP_cons]
  omega

theorem Sound.uncount {index : Nat} (sound : machine.Sound covenant (.cell index ::ₘ hand)) :
    machine.store.heap.Accounts covenant (hand + machine.owned) := by
  have earlier := sound.accounts
  rw [Multiset.cons_add] at earlier
  exact ⟨earlier.regular, fun found => (earlier.counted found).trans (references_cell _ _ _),
    fun member => earlier.resolved (Multiset.mem_cons_of_mem member), earlier.typed, earlier.kept⟩

theorem Sound.shared_elsewhere {index : Nat}
    (sound : machine.Sound covenant (.cell index ::ₘ hand)) (change : Cell → Cell) {other : Nat}
    {cell : Cell} (different : index ≠ other)
    (found : (machine.cells.modify index change)[other]? = some cell) :
    cell.holders = (hand + machine.owned).count (.cell other) := by
  rw [Array.getElem?_modify, if_neg different] at found
  have apart : Holding.cell other ≠ Holding.cell index := fun equal =>
    different (Holding.cell.inj equal).symm
  rw [sound.shared found, Multiset.cons_add, Multiset.count_cons_of_ne apart]

theorem Sound.leaveCell {index : Nat} (sound : machine.Sound covenant (.cell index ::ₘ hand)) :
    (machine.leaveCell index).2.Sound covenant ((machine.leaveCell index).1.owned + hand) ∧
      (machine.leaveCell index).2.full ≤ machine.full ∧
      ((machine.leaveCell index).1.holdings ≠ [] →
        (machine.leaveCell index).2.full < machine.full) := by
  have bound : index < machine.cells.size := sound.inside (by simp)
  obtain ⟨cell, found⟩ : ∃ cell, machine.cells[index]? = some cell :=
    ⟨_, Array.getElem?_eq_getElem bound⟩
  have count := sound.shared found
  rw [Multiset.cons_add, Multiset.count_cons_self] at count
  have inside : ∀ {other}, Holding.cell other ∈ hand + machine.owned →
      other < machine.cells.size := fun member =>
    sound.inside (Multiset.cons_add _ _ _ ▸ Multiset.mem_cons_of_mem member)
  by_cases last : cell.holders ≤ 1
  · have left : machine.leaveCell index = (cell.content,
        { machine with cells := machine.cells.modify index fun _ => ⟨.unit, 0⟩ }) := by
      simp only [Machine.leaveCell, found, if_pos last, set!_eq_modify]
    have total := owned_modify_cells machine found fun _ => ⟨.unit, 0⟩
    have loaded := full_modify machine found fun _ => ⟨.unit, 0⟩
    rw [left]
    dsimp only
    refine ⟨?_, ?_, fun nonempty => ?_⟩
    · have kept : cell.content.owned + hand +
          { machine with cells := machine.cells.modify index fun _ => ⟨.unit, 0⟩ }.owned =
            hand + machine.owned := by
        rw [add_comm cell.content.owned, add_assoc, add_comm cell.content.owned, total]
        simp
      refine ⟨kept ▸ sound.uncount, sound.queued, fun {other cell'} cellFound => ?_,
        fun {other} member => ?_, sound.remembered⟩
      · rw [kept]
        by_cases same : index = other
        · change (machine.cells.modify index _)[other]? = _ at cellFound
          rw [Array.getElem?_modify, if_pos same, ← same, found] at cellFound
          injection cellFound with cellEq
          rw [← cellEq, ← same]
          change 0 = _
          omega
        · exact sound.shared_elsewhere _ same cellFound
      · rw [kept] at member
        simpa using inside member
    · change _ = machine.full + 0 at loaded
      omega
    · have nonfree : cell.loaded = true := by
        simpa [Cell.loaded] using nonempty
      rw [nonfree] at loaded
      change _ + 1 = machine.full + 0 at loaded
      omega
  · have left : machine.leaveCell index = (.unit, { machine with
        cells := machine.cells.modify index fun cell => ⟨cell.content, cell.holders - 1⟩ }) := by
      simp only [Machine.leaveCell, found, if_neg last]
    have total := owned_modify_cells machine found fun cell => ⟨cell.content, cell.holders - 1⟩
    have loaded := full_modify machine found fun cell => ⟨cell.content, cell.holders - 1⟩
    have same : Cell.loaded ⟨cell.content, cell.holders - 1⟩ = cell.loaded := rfl
    rw [same] at loaded
    rw [left]
    dsimp only
    refine ⟨?_, by omega, fun nonempty => (nonempty rfl).elim⟩
    have kept := add_right_cancel total
    refine ⟨?_, sound.queued, fun {other cell'} cellFound => ?_, fun {other} member => ?_,
      sound.remembered⟩
    · rw [kept, owned_datum, zero_add]
      exact sound.uncount
    · rw [kept, owned_datum, zero_add]
      by_cases same : index = other
      · change (machine.cells.modify index _)[other]? = _ at cellFound
        rw [Array.getElem?_modify, if_pos same, ← same, found] at cellFound
        injection cellFound with cellEq
        rw [← cellEq, ← same]
        change cell.holders - 1 = _
        omega
      · exact sound.shared_elsewhere _ same cellFound
    · rw [kept, owned_datum, zero_add] at member
      simpa using inside member

/-- Counts one reference less. What has been alone in a cell is given. -/
def releaseOne (depth : Nat) (machine : Machine) : Holding → Machine
  | .object reference => machine.mapHeap fun heap => heap.unanchor reference.handle
  | .cell index => releaseAll depth (machine.leaveCell index).1.holdings (machine.leaveCell index).2

theorem releaseAll_succ (depth : Nat) (holdings : List Holding) (machine : Machine) :
    releaseAll (depth + 1) holdings machine = holdings.foldl (releaseOne depth) machine := by
  rw [releaseAll]
  rfl

theorem Sound.unanchor {reference : Reference}
    (sound : machine.Sound covenant (.object reference ::ₘ hand)) :
    (machine.mapHeap fun heap => heap.unanchor reference.handle).Sound covenant hand := by
  have accounts := sound.accounts
  rw [Multiset.cons_add] at accounts
  obtain ⟨resident, found, _⟩ := accounts.resolved (Multiset.mem_cons_self _ _)
  refine ⟨accounts.unanchor, sound.queued.unanchor found, fun {index cell} cellFound => ?_,
    fun {index} member => ?_, sound.remembered⟩
  · rw [sound.shared cellFound, Multiset.cons_add, count_cell_object]
    rfl
  · exact sound.inside (Multiset.cons_add _ _ _ ▸ Multiset.mem_cons_of_mem member)

/-- Everything in hand is given up, provided that `depth` exceeds the number of cells that hold on
to something. -/
theorem Sound.releaseAll {depth : Nat} {holdings : List Holding}
    (sound : machine.Sound covenant (↑holdings + hand))
    (deep : holdings ≠ [] → machine.full < depth) :
    (Machine.releaseAll depth holdings machine).Sound covenant hand ∧
      (Machine.releaseAll depth holdings machine).full ≤ machine.full := by
  induction depth generalizing holdings machine hand with
  | zero =>
      cases holdings with
      | nil => exact ⟨(zero_add hand) ▸ sound, le_refl _⟩
      | cons holding rest => exact absurd (deep (List.cons_ne_nil _ _)) (Nat.not_lt_zero _)
  | succ depth deeper =>
      rw [releaseAll_succ]
      induction holdings generalizing machine with
      | nil => exact ⟨(zero_add hand) ▸ sound, le_refl _⟩
      | cons holding rest ih =>
          have bound := deep (List.cons_ne_nil _ _)
          rw [← Multiset.cons_coe, Multiset.cons_add] at sound
          have one : (releaseOne depth machine holding).Sound covenant (↑rest + hand) ∧
              (releaseOne depth machine holding).full ≤ machine.full := by
            cases holding with
            | object reference => exact ⟨sound.unanchor, le_refl _⟩
            | cell index =>
                obtain ⟨left, fewer, lighter⟩ := sound.leaveCell
                have inner := deeper left fun nonempty => by
                  have less := lighter nonempty
                  omega
                exact ⟨inner.1, inner.2.trans fewer⟩
          have others := ih one.1 fun _ => by
            have less := one.2
            omega
          exact ⟨others.1, others.2.trans one.2⟩

theorem Sound.release {value : Value} (sound : machine.Sound covenant (value.owned + hand)) :
    (machine.release value).Sound covenant hand := by
  have all : (Machine.releaseAll (machine.cells.size + 1) value.holdings machine).Sound covenant
      hand := by
    refine (Sound.releaseAll sound fun _ => ?_).1
    have bound := machine.full_le
    omega
  unfold Machine.release
  split
  · rw [owned_datum, zero_add] at sound
    exact sound
  · exact all

end Machine
end ScriptHost.Script
