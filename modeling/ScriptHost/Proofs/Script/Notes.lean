import ScriptHost.Proofs.Effects
import ScriptHost.Proofs.Script.Housekeeping
import ScriptHost.Script.Evaluator

/-!
What has been noted and printed before.

A machine notes the moments that its scripts pass through and collects the lines that they print,
and scripts look at neither. So with more of them to begin with, whatever happens to a machine is
the same, and ends with as many more.
-/

set_option autoImplicit false

namespace ScriptHost.Script

/-- Moments that have been noted, and lines that have been printed. -/
structure Past where
  moments : Moment → Prop
  lines : Array String

namespace Machine

def noting (earlier : Past) (machine : Machine) : Machine :=
  { machine with
    history := fun moment => machine.history moment ∨ earlier.moments moment
    output := earlier.lines ++ machine.output }

variable (machine : Machine) (earlier : Past)

@[simp] theorem noting_store : (machine.noting earlier).store = machine.store := rfl

@[simp] theorem noting_scope : (machine.noting earlier).scope = machine.scope := rfl

@[simp] theorem noting_operands : (machine.noting earlier).operands = machine.operands := rfl

@[simp] theorem noting_cells : (machine.noting earlier).cells = machine.cells := rfl

@[simp] theorem noting_thrown : (machine.noting earlier).thrown = machine.thrown := rfl

@[simp] theorem noting_operations :
    (machine.noting earlier).operations = machine.operations := rfl

@[simp] theorem noting_rootOf (root : Root) :
    (machine.noting earlier).rootOf root = machine.rootOf root := rfl

@[simp] theorem noting_valueAt? (place : Place) :
    (machine.noting earlier).valueAt? place = machine.valueAt? place := rfl

@[simp] theorem noting_valueAt (place : Place) :
    (machine.noting earlier).valueAt place = machine.valueAt place := rfl

@[simp] theorem noting_operand (position : Nat) :
    (machine.noting earlier).operand position = machine.operand position := rfl

@[simp] theorem noting_top : (machine.noting earlier).top = machine.top := rfl

@[simp] theorem noting_findVariable? (base : Nat) (name : String) :
    (machine.noting earlier).findVariable? base name = machine.findVariable? base name := by
  unfold findVariable?
  rw [noting_scope]
  generalize machine.scope.size = count
  induction count with
  | zero => rfl
  | succ count ih =>
      unfold findVariable?.go
      rw [noting_scope, ih]

@[simp] theorem noting_isShared (place : Place) :
    (machine.noting earlier).isShared place = machine.isShared place := rfl

@[simp] theorem noting_isConstant (place : Place) :
    (machine.noting earlier).isConstant place = machine.isConstant place := rfl

@[simp] theorem noting_isBoundTo (place : Place) (value : Value) :
    (machine.noting earlier).isBoundTo place value = machine.isBoundTo place value := rfl

@[simp] theorem noting_objectText (types : TypeRegistry) (reference : Reference) :
    (machine.noting earlier).objectText types reference =
      machine.objectText types reference := rfl

@[simp] theorem noting_record (occasion : Occasion) :
    (machine.noting earlier).record occasion = (machine.record occasion).noting earlier := by
  have notes : (fun moment => moment = ⟨occasion, machine.store.heap, machine.holdings⟩ ∨
      (machine.history moment ∨ earlier.moments moment)) =
        fun moment => (moment = ⟨occasion, machine.store.heap, machine.holdings⟩ ∨
          machine.history moment) ∨ earlier.moments moment := by
    funext moment
    exact propext or_assoc.symm
  exact congrArg (fun history => { machine.record occasion with
    history := history
    output := earlier.lines ++ machine.output }) notes

@[simp] theorem noting_print (line : String) :
    (machine.noting earlier).print line = (machine.print line).noting earlier :=
  congrArg (fun output => { machine.noting earlier with output := output }) Array.push_append

theorem noting_retain (holding : Holding) :
    (machine.noting earlier).retain holding = (machine.retain holding).noting earlier := by
  cases holding <;> rfl

@[simp] theorem noting_retainAll (holdings : List Holding) :
    (machine.noting earlier).retainAll holdings = (machine.retainAll holdings).noting earlier := by
  induction holdings generalizing machine with
  | nil => rfl
  | cons holding rest ih =>
      have first := congrArg (fun machine => machine.retainAll rest)
        (machine.noting_retain earlier holding)
      exact first.trans (ih (machine.retain holding))

theorem noting_leaveCell (index : Nat) :
    (machine.noting earlier).leaveCell index =
      ((machine.leaveCell index).1, (machine.leaveCell index).2.noting earlier) := by
  unfold leaveCell
  rw [noting_cells]
  cases machine.cells[index]? with
  | none => rfl
  | some cell =>
      dsimp only
      by_cases last : cell.holders ≤ 1
      · rw [if_pos last, if_pos last]
        rfl
      · rw [if_neg last, if_neg last]
        rfl

theorem noting_releaseAll (depth : Nat) (holdings : List Holding) :
    releaseAll depth holdings (machine.noting earlier) =
      (releaseAll depth holdings machine).noting earlier := by
  induction depth generalizing holdings machine with
  | zero => rfl
  | succ depth deeper =>
      rw [releaseAll_succ, releaseAll_succ]
      induction holdings generalizing machine with
      | nil => rfl
      | cons holding rest ih =>
          have first : releaseOne depth (machine.noting earlier) holding =
              (releaseOne depth machine holding).noting earlier := by
            cases holding with
            | object reference => rfl
            | cell index =>
                have left := machine.noting_leaveCell earlier index
                change releaseAll depth ((machine.noting earlier).leaveCell index).1.holdings
                  ((machine.noting earlier).leaveCell index).2 = _
                rw [left]
                exact deeper _ _
          rw [List.foldl_cons, List.foldl_cons, first]
          exact ih (releaseOne depth machine holding)

@[simp] theorem noting_release (value : Value) :
    (machine.noting earlier).release value = (machine.release value).noting earlier := by
  unfold release
  split
  · rfl
  · exact noting_releaseAll machine earlier _ _

/-! ### Operands -/

@[simp] theorem noting_pushLiteral (literal : Literal) :
    (machine.noting earlier).pushLiteral literal =
      (machine.pushLiteral literal).noting earlier := rfl

@[simp] theorem noting_push (datum : Datum) :
    (machine.noting earlier).push datum = (machine.push datum).noting earlier := rfl

@[simp] theorem noting_copy (place : Place) :
    (machine.noting earlier).copy place = (machine.copy place).noting earlier :=
  congrArg (fun last => last.pushRaw (machine.valueAt place))
    (machine.noting_retainAll earlier _)

@[simp] theorem noting_pushCopy (value : Value) :
    (machine.noting earlier).pushCopy value = (machine.pushCopy value).noting earlier := by
  unfold pushCopy
  split
  · exact machine.noting_copy earlier _
  · exact congrArg (fun last => last.pushRaw value) (machine.noting_retainAll earlier _)

@[simp] theorem noting_drop : (machine.noting earlier).drop = machine.drop.noting earlier :=
  noting_release { machine with operands := machine.operands.pop } earlier _

@[simp] theorem noting_dropMany (count : Nat) :
    (machine.noting earlier).dropMany count = (machine.dropMany count).noting earlier := by
  induction count generalizing machine with
  | zero => rfl
  | succ count ih =>
      unfold dropMany
      rw [noting_drop]
      exact ih machine.drop

@[simp] theorem noting_dropTo (size : Nat) :
    (machine.noting earlier).dropTo size = (machine.dropTo size).noting earlier :=
  machine.noting_dropMany earlier _

@[simp] theorem noting_takeOperand (position : Nat) :
    (machine.noting earlier).takeOperand position =
      ((machine.takeOperand position).1, (machine.takeOperand position).2.noting earlier) := by
  unfold takeOperand
  rw [noting_operands]
  cases machine.operands[position]? <;> rfl

@[simp] theorem noting_raise (position : Nat) :
    (machine.noting earlier).raise position = (machine.raise position).noting earlier := by
  unfold raise
  rw [noting_takeOperand]
  rfl

@[simp] theorem noting_spend (position : Nat) :
    (machine.noting earlier).spend position = (machine.spend position).noting earlier := by
  unfold spend
  rw [noting_takeOperand]
  exact noting_release _ earlier _

@[simp] theorem noting_spendAll (positions : List Nat) :
    (machine.noting earlier).spendAll positions = (machine.spendAll positions).noting earlier := by
  induction positions generalizing machine with
  | nil => rfl
  | cons position rest ih =>
      have first := congrArg (fun machine => machine.spendAll rest)
        (machine.noting_spend earlier position)
      exact first.trans (ih (machine.spend position))

@[simp] theorem noting_keepTop (size : Nat) :
    (machine.noting earlier).keepTop size = (machine.keepTop size).noting earlier := by
  unfold keepTop
  rw [noting_operands]
  by_cases few : machine.operands.size ≤ size + 1
  · rw [if_pos few, if_pos few]
  · rw [if_neg few, if_neg few]
    have dropped := noting_dropTo { machine with operands := machine.operands.pop } earlier size
    exact congrArg (fun last => last.pushRaw (machine.operands.back?.getD .unit)) dropped

@[simp] theorem noting_makeList (size : Nat) :
    (machine.noting earlier).makeList size = (machine.makeList size).noting earlier := rfl

@[simp] theorem noting_makeTable (names : List String) (size : Nat) :
    (machine.noting earlier).makeTable names size =
      (machine.makeTable names size).noting earlier := by
  let values := (machine.operands.extract size machine.operands.size).toList
  let merged := Value.mergeEntries (names.zip values) []
  exact noting_release
    (({ machine with operands := machine.operands.take size }).pushRaw (.table merged.1)) earlier
    (.list (merged.2 ++ values.drop names.length).toArray)

/-! ### Variables -/

@[simp] theorem noting_declare (name : String) (constant : Bool) :
    (machine.noting earlier).declare name constant =
      (machine.declare name constant).noting earlier := rfl

@[simp] theorem noting_declareAll (entries : List (String × Nat)) :
    (machine.noting earlier).declareAll entries = (machine.declareAll entries).noting earlier := by
  induction entries generalizing machine with
  | nil => rfl
  | cons entry rest ih =>
      unfold declareAll
      rw [noting_takeOperand]
      let taken := machine.takeOperand entry.2
      exact ih { taken.2 with scope := taken.2.scope.push ⟨entry.1, false, taken.1⟩ }

@[simp] theorem noting_declareCopies (entries : List (String × Value)) :
    (machine.noting earlier).declareCopies entries =
      (machine.declareCopies entries).noting earlier := by
  induction entries generalizing machine with
  | nil => rfl
  | cons entry rest ih =>
      unfold declareCopies
      rw [noting_retainAll]
      let held := machine.retainAll entry.2.holdings
      exact ih { held with scope := held.scope.push ⟨entry.1, false, entry.2⟩ }

@[simp] theorem noting_forget :
    (machine.noting earlier).forget = machine.forget.noting earlier := by
  unfold forget
  rw [noting_scope]
  cases machine.scope.back? with
  | none => rfl
  | some entry => exact noting_release { machine with scope := machine.scope.pop } earlier _

@[simp] theorem noting_forgetMany (count : Nat) :
    (machine.noting earlier).forgetMany count = (machine.forgetMany count).noting earlier := by
  induction count generalizing machine with
  | zero => rfl
  | succ count ih =>
      unfold forgetMany
      rw [noting_forget]
      exact ih machine.forget

@[simp] theorem noting_forgetTo (size : Nat) :
    (machine.noting earlier).forgetTo size = (machine.forgetTo size).noting earlier :=
  machine.noting_forgetMany earlier _

@[simp] theorem noting_alter (place : Place) (change : Value → Value) :
    (machine.noting earlier).alter place change = (machine.alter place change).noting earlier := by
  unfold alter
  rw [noting_rootOf]
  cases machine.rootOf place.root <;> rfl

@[simp] theorem noting_replace (place : Place) (value : Value) :
    (machine.noting earlier).replace place value =
      (machine.replace place value).noting earlier := by
  unfold replace
  rw [noting_valueAt?]
  cases machine.valueAt? place with
  | none => exact machine.noting_release earlier value
  | some old =>
      dsimp only
      rw [noting_alter, noting_release]

@[simp] theorem noting_assign (place : Place) :
    (machine.noting earlier).assign place = (machine.assign place).noting earlier :=
  noting_replace { machine with operands := machine.operands.pop } earlier place _

@[simp] theorem noting_redeclare (index : Nat) (constant : Bool) :
    (machine.noting earlier).redeclare index constant =
      (machine.redeclare index constant).noting earlier := by
  unfold redeclare
  dsimp only
  rw [noting_scope]
  cases machine.scope[index]? with
  | none => exact noting_release { machine with operands := machine.operands.pop } earlier _
  | some old =>
      let renew (entry : Variable) : Variable :=
        ⟨entry.name, constant, machine.operands.back?.getD .unit⟩
      exact noting_release { machine with
        operands := machine.operands.pop
        scope := machine.scope.modify index renew } earlier old.value

@[simp] theorem noting_assignEntry (place : Place) (name : String) :
    (machine.noting earlier).assignEntry place name =
      (machine.assignEntry place name).noting earlier := by
  have popped : { machine.noting earlier with operands := machine.operands.pop } =
      noting earlier { machine with operands := machine.operands.pop } := rfl
  unfold assignEntry
  rw [noting_operands]
  dsimp only
  rw [popped, noting_valueAt?, noting_valueAt?]
  split
  · exact noting_alter _ earlier place _
  · exact noting_replace _ earlier (place.extend (.entry name)) _

@[simp] theorem noting_append (place : Place) (position : Nat) :
    (machine.noting earlier).append place position =
      (machine.append place position).noting earlier := by
  unfold append
  rw [noting_valueAt?]
  cases machine.valueAt? place with
  | none => rfl
  | some held =>
      cases held with
      | list items =>
          dsimp only
          by_cases same : place.root = .operand position
          · rw [if_pos same, if_pos same]
          · rw [if_neg same, if_neg same, noting_takeOperand]
            exact noting_alter _ earlier _ _
      | _ => rfl

@[simp] theorem noting_appendItems (place : Place) (position : Nat) :
    (machine.noting earlier).appendItems place position =
      (machine.appendItems place position).noting earlier := by
  unfold appendItems
  rw [noting_valueAt?, noting_operands]
  split
  · by_cases inside : place.root = .operand position
    · simp [*]
    · simp [*]
  · simp [*]

@[simp] theorem noting_mergeEntries (place : Place) (position : Nat) :
    (machine.noting earlier).mergeEntries place position =
      (machine.mergeEntries place position).noting earlier := by
  unfold mergeEntries
  rw [noting_valueAt?, noting_operands]
  split
  · by_cases inside : place.root = .operand position
    · simp [*]
    · simp [*]
  · simp [*]

@[simp] theorem noting_clear (place : Place) :
    (machine.noting earlier).clear place = (machine.clear place).noting earlier := by
  unfold clear
  rw [noting_valueAt?]
  split <;> simp [*]

@[simp] theorem noting_takeItem (position index : Nat) :
    (machine.noting earlier).takeItem position index =
      (machine.takeItem position index).noting earlier := by
  unfold takeItem
  dsimp only
  rw [noting_valueAt?]
  cases machine.valueAt? ⟨.operand position, [.item index]⟩ with
  | none => rfl
  | some value =>
      exact congrArg (fun last => last.pushRaw value) (machine.noting_alter earlier _ _)

theorem noting_share (index : Nat) :
    (machine.noting earlier).share index =
      ((machine.share index).1, (machine.share index).2.noting earlier) := by
  unfold share
  rw [noting_scope]
  cases machine.scope[index]? with
  | none => rfl
  | some entry =>
      dsimp only
      cases entry.value <;> rfl

@[simp] theorem noting_pushShared (cell : Nat) :
    (machine.noting earlier).pushShared cell = (machine.pushShared cell).noting earlier := rfl

@[simp] theorem noting_makeFunction (name : String) (bound : List Value) :
    (machine.noting earlier).makeFunction name bound =
      (machine.makeFunction name bound).noting earlier :=
  congrArg (fun last => last.pushRaw (.function name bound)) (machine.noting_retainAll earlier _)

@[simp] theorem noting_bindOperand (position : Nat) :
    (machine.noting earlier).bindOperand position =
      (machine.bindOperand position).noting earlier := by
  unfold bindOperand
  rw [noting_operands]
  cases machine.operands.back? with
  | none => rfl
  | some last =>
      cases last with
      | function name bound =>
          dsimp only
          by_cases itself : position = machine.operands.size - 1
          · rw [if_pos itself, if_pos itself]
          · rw [if_neg itself, if_neg itself, noting_takeOperand]
            rfl
      | _ => rfl

@[simp] theorem noting_bindOperands (positions : List Nat) :
    (machine.noting earlier).bindOperands positions =
      (machine.bindOperands positions).noting earlier := by
  induction positions generalizing machine with
  | nil => rfl
  | cons position rest ih =>
      have first := congrArg (fun machine => machine.bindOperands rest)
        (machine.noting_bindOperand earlier position)
      exact first.trans (ih (machine.bindOperand position))

@[simp] theorem noting_copyThrown :
    (machine.noting earlier).copyThrown = machine.copyThrown.noting earlier :=
  congrArg (fun last => last.pushRaw (machine.thrown.back?.getD .unit))
    (machine.noting_retainAll earlier _)

@[simp] theorem noting_dropThrown :
    (machine.noting earlier).dropThrown = machine.dropThrown.noting earlier := by
  unfold dropThrown
  rw [noting_thrown]
  cases machine.thrown.back? with
  | none => rfl
  | some value => exact noting_release { machine with thrown := machine.thrown.pop } earlier value

@[simp] theorem noting_dropThrownAt (index : Nat) :
    (machine.noting earlier).dropThrownAt index =
      (machine.dropThrownAt index).noting earlier := by
  unfold dropThrownAt
  rw [noting_thrown]
  cases machine.thrown[index]? with
  | none => rfl
  | some value =>
      exact noting_release
        { machine with thrown := machine.thrown.eraseIdxIfInBounds index } earlier value

@[simp] theorem noting_dropAllThrown :
    (machine.noting earlier).dropAllThrown = machine.dropAllThrown.noting earlier := by
  unfold dropAllThrown
  rw [noting_thrown]
  generalize machine.thrown.size = count
  induction count generalizing machine with
  | zero => rfl
  | succ count ih =>
      unfold dropAllThrown.go
      rw [noting_dropThrown]
      exact ih machine.dropThrown

theorem noting_callNative (types : TypeRegistry) (request : Call.Request) :
    (machine.noting earlier).callNative types request =
      ((machine.callNative types request).1,
        (machine.callNative types request).2.noting earlier) := by
  have noted : (machine.noting earlier).collect.record (.request request) =
      (machine.collect.record (.request request)).noting earlier :=
    machine.collect.noting_record earlier _
  unfold callNative
  rw [noted]
  dsimp only [collect, record, noting]
  generalize machine.store.collect.run (request.call types >>= Call.toScript) = ran
  obtain ⟨_ | _, store⟩ := ran
  · rfl
  · rfl

theorem noting_receive (value : HostValue) :
    (machine.noting earlier).receive value =
      ((machine.receive value).1, (machine.receive value).2.noting earlier) := by
  obtain ⟨⟨heap, generator⟩, output, scope, operands, cells, thrown, operations, history, asked⟩ :=
    machine
  unfold noting receive
  dsimp only
  cases value.toScript heap with
  | error fault => rfl
  | ok outcome => rfl

theorem noting_handOver :
    (machine.noting earlier).handOver =
      (machine.handOver.1, machine.handOver.2.noting earlier) := by
  have noted : (machine.noting earlier).record (.delivery (machine.noting earlier).top) =
      (machine.record (.delivery machine.top)).noting earlier :=
    machine.noting_record earlier _
  unfold handOver
  dsimp only
  rw [noted]
  generalize machine.record (.delivery machine.top) = last
  have crossed : (last.noting earlier).top.toHost (last.noting earlier).store.heap .any =
      last.top.toHost last.store.heap .any := rfl
  rw [crossed]
  cases last.top.toHost last.store.heap .any with
  | error fault => rfl
  | ok value =>
      cases value with
      | object handle =>
          have pinned : (last.noting earlier).store.heap.pin handle =
              last.store.heap.pin handle := rfl
          dsimp only
          rw [pinned]
          cases last.store.heap.pin handle <;> rfl
      | _ => rfl

end Machine

namespace Run

variable {α : Type}

theorem noting_values (arguments : Arguments) (machine : Machine) (earlier : Past) :
    arguments.values (machine.noting earlier) = arguments.values machine := rfl

/-- What has been noted before makes no difference to a run. -/
def Oblivious (work : Run α) : Prop :=
  ∀ earlier, Commutes (Machine.noting earlier) work

theorem noting_namedPlace? (frame : Frame) (term : Term) (machine : Machine)
    (earlier : Past) :
    namedPlace? frame term (machine.noting earlier) = namedPlace? frame term machine := by
  unfold namedPlace?
  simp only [Machine.noting_findVariable?, Machine.noting_isShared, Machine.noting_isConstant]

/-! ### Runs around runs -/

section Around

variable {work : Run Unit} {inner : Run α}

theorem oblivious_enclosed (oblivious : Oblivious work) : Oblivious (enclosed work) := by
  intro earlier machine
  have same := oblivious earlier machine
  unfold enclosed
  dsimp only
  rw [same]
  cases work machine with
  | ok _ after =>
      dsimp only [changed]
      rw [Machine.noting_keepTop, Machine.noting_forgetTo]
      rfl
  | error halt after =>
      dsimp only [changed]
      by_cases valued : halt.hasValue = true
      · rw [if_pos valued, if_pos valued, Machine.noting_keepTop, Machine.noting_forgetTo]
        rfl
      · rw [if_neg valued, if_neg valued, Machine.noting_dropTo, Machine.noting_forgetTo]
        rfl

theorem oblivious_givingUp (positions : List Nat) (oblivious : Oblivious inner) :
    Oblivious (givingUp positions inner) := by
  intro earlier machine
  have same := oblivious earlier machine
  unfold givingUp
  rw [same]
  cases inner machine with
  | ok _ after => rfl
  | error halt after =>
      dsimp only [changed]
      rw [Machine.noting_spendAll]

theorem oblivious_gatheringFrom (before : Nat) (order : Nat → List Nat)
    (oblivious : Oblivious inner) : Oblivious (gatheringFrom before order inner) := by
  intro earlier machine
  have same := oblivious earlier machine
  unfold gatheringFrom
  rw [same]
  cases inner machine with
  | ok _ after => rfl
  | error halt after =>
      dsimp only [changed]
      rw [Machine.noting_spendAll]
      rfl

theorem oblivious_gathering (order : Nat → List Nat) (oblivious : Oblivious inner) :
    Oblivious (gathering order inner) := fun earlier machine =>
  oblivious_gatheringFrom machine.operands.size order oblivious earlier machine

theorem oblivious_spendingAfter (position : Nat) (oblivious : Oblivious inner) :
    Oblivious (spendingAfter position inner) := by
  intro earlier machine
  have same := oblivious earlier machine
  unfold spendingAfter
  rw [same]
  cases inner machine with
  | ok _ after =>
      dsimp only [changed]
      rw [Machine.noting_spend]
  | error halt after =>
      dsimp only [changed]
      rw [Machine.noting_spend]

theorem oblivious_turn (oblivious : Oblivious work) : Oblivious (turn work) := by
  intro earlier machine
  have same := oblivious earlier machine
  unfold turn
  dsimp only
  rw [same]
  cases work machine with
  | ok _ after =>
      dsimp only [changed]
      rw [Machine.noting_dropTo]
      rfl
  | error halt after =>
      cases halt with
      | continuing =>
          dsimp only [changed]
          rw [Machine.noting_dropTo]
          rfl
      | breaking =>
          dsimp only [changed]
          rw [Machine.noting_keepTop]
          rfl
      | _ => rfl

theorem oblivious_runBody {self : Evaluator} {function : Function} {frame : Frame}
    (oblivious : Oblivious (self frame function.body)) :
    Oblivious (runBody self function frame) := by
  intro earlier machine
  have same := oblivious earlier machine
  unfold runBody
  rw [same]
  cases self frame function.body machine with
  | ok _ after => rfl
  | error halt after => cases halt <;> rfl

end Around

theorem output_print {machine : Machine} {text : String}
    (top : machine.top = .datum (.text text)) (position : Position) :
    ∃ later, output "print" position machine = .ok () later ∧
      later.output = machine.output.push text := by
  have done : output "print" position machine =
      .ok () ((machine.drop.print text).push .unit) := by
    have looked : (get : Run Machine) machine = .ok machine machine := rfl
    unfold output
    rw [if_pos (by decide), bind_apply, looked]
    dsimp only
    rw [top]
    rfl
  have dropped : machine.drop.output = machine.output := Machine.release_output _ _
  refine ⟨_, done, ?_⟩
  exact congrArg (fun lines : Array String => lines.push text) dropped

end Run
end ScriptHost.Script
