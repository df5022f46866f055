import ScriptHost.Proofs.Heap.Contents
import ScriptHost.Proofs.Script.Exchange

/-!
What moving values about leaves alone.

A script computes by moving values between the positions of the machine. Such a move changes counts
of references, but it throws nothing, prints nothing, draws no random number, requests nothing from
the host, and changes neither what an instance holds nor which slots are free, so all of that is
left to native calls and to the few steps that throw or print.
-/

set_option autoImplicit false

namespace ScriptHost

namespace Script.Machine

/-- The values thrown, the random numbers to come, and what the instances hold. -/
def still (machine : Machine) :
    Array Value × Random.Generator × (Handle → Option Occupant) :=
  (machine.thrown, machine.store.generator, machine.store.heap.content?)

/-- The moments of requests among those that have been noted. -/
def requests (machine : Machine) (moment : Moment) : Prop :=
  machine.history moment ∧ ∃ request, moment.occasion = .request request

/-- The slots with what the instances hold, the random numbers to come, and what has been
requested. -/
structure Estate where
  bare : Array (Nat × Option Occupant) × List Nat × Nat
  generator : Random.Generator
  requests : Moment → Prop
  asked : Ghost (List Asked)

def estate (machine : Machine) : Estate :=
  ⟨machine.store.heap.bare, machine.store.generator, machine.requests, machine.asked⟩

/-- All that moves leave alone. -/
def inert (machine : Machine) : Array Value × Array String × Estate :=
  (machine.thrown, machine.output, machine.estate)

variable (machine : Machine)

theorem thrown_of_still {before after : Machine} (same : after.still = before.still) :
    after.thrown = before.thrown :=
  congrArg Prod.fst same

theorem estate_of_inert {before after : Machine} (same : after.inert = before.inert) :
    after.estate = before.estate :=
  congrArg (fun inert => inert.2.2) same

theorem output_of_inert {before after : Machine} (same : after.inert = before.inert) :
    after.output = before.output :=
  congrArg (fun inert => inert.2.1) same

theorem bare_of_inert {before after : Machine} (same : after.inert = before.inert) :
    after.store.heap.bare = before.store.heap.bare :=
  congrArg Estate.bare (estate_of_inert same)

theorem still_of_inert {before after : Machine} (same : after.inert = before.inert) :
    after.still = before.still := by
  have thrown : after.thrown = before.thrown := congrArg Prod.fst same
  have generator : after.store.generator = before.store.generator :=
    congrArg Estate.generator (estate_of_inert same)
  have contents : after.store.heap.content? = before.store.heap.content? :=
    Heap.content?_of_bare (bare_of_inert same)
  unfold still
  rw [thrown, generator, contents]

/-- The lines printed so far have stayed, and others may have been printed. -/
def LinesStay (before after : Machine) : Prop :=
  before.output.toList <+: after.output.toList

theorem LinesStay.of_eq {before after : Machine} (same : after.output = before.output) :
    before.LinesStay after :=
  ⟨[], by rw [List.append_nil, same]⟩

theorem LinesStay.of_inert {before after : Machine} (same : after.inert = before.inert) :
    before.LinesStay after :=
  .of_eq (output_of_inert same)

theorem linesStay_print (line : String) : machine.LinesStay (machine.print line) := by
  unfold LinesStay print
  rw [Array.toList_push]
  exact List.prefix_append _ _

@[simp] theorem inert_withOperands (operands : Array Value) :
    ({ machine with operands := operands } : Machine).inert = machine.inert := rfl

@[simp] theorem inert_withScope (scope : Array Variable) :
    ({ machine with scope := scope } : Machine).inert = machine.inert := rfl

@[simp] theorem inert_withCells (cells : Array Cell) :
    ({ machine with cells := cells } : Machine).inert = machine.inert := rfl

theorem inert_record {occasion : Occasion} (apart : ∀ request, occasion ≠ .request request) :
    (machine.record occasion).inert = machine.inert := by
  have requests : (machine.record occasion).requests = machine.requests := by
    funext moment
    apply propext
    constructor
    · rintro ⟨rfl | known, request, wanted⟩
      · exact absurd wanted (apart request)
      · exact ⟨known, request, wanted⟩
    · rintro ⟨known, wanted⟩
      exact ⟨.inr known, wanted⟩
  have asked : (machine.record occasion).asked = machine.asked := by
    cases occasion with
    | request wanted => exact absurd rfl (apart wanted)
    | _ => rfl
  exact congrArg₂ (fun requests asked => (machine.thrown, machine.output,
    (⟨machine.store.heap.bare, machine.store.generator, requests, asked⟩ : Estate))) requests asked

@[simp] theorem inert_recordFailure : (machine.record .failure).inert = machine.inert :=
  inert_record machine nofun

theorem inert_mapHeap {change : Heap Occupant → Heap Occupant}
    (same : (change machine.store.heap).bare = machine.store.heap.bare) :
    (machine.mapHeap change).inert = machine.inert :=
  congrArg (fun bare => (machine.thrown, machine.output,
    (⟨bare, machine.store.generator, machine.requests, machine.asked⟩ : Estate))) same

@[simp] theorem inert_retain (holding : Holding) :
    (machine.retain holding).inert = machine.inert := by
  cases holding with
  | object reference =>
      apply inert_mapHeap
      cases found : machine.store.heap.resident? reference.handle with
      | none => rw [Heap.anchor_eq_error found]
      | some resident =>
          rw [Heap.anchor_eq_ok found]
          exact Heap.bare_alter _ _ fun _ => rfl
  | cell index => rfl

@[simp] theorem inert_retainAll (holdings : List Holding) :
    (machine.retainAll holdings).inert = machine.inert := by
  induction holdings generalizing machine with
  | nil => rfl
  | cons holding rest ih => exact (ih (machine.retain holding)).trans (inert_retain machine holding)

@[simp] theorem inert_leaveCell (index : Nat) :
    (machine.leaveCell index).2.inert = machine.inert := by
  unfold leaveCell
  split
  · rfl
  · split <;> rfl

theorem inert_releaseAll (depth : Nat) (holdings : List Holding) :
    (releaseAll depth holdings machine).inert = machine.inert := by
  induction depth generalizing holdings machine with
  | zero => rfl
  | succ depth deeper =>
      rw [releaseAll_succ]
      induction holdings generalizing machine with
      | nil => rfl
      | cons holding rest ih =>
          apply (ih (releaseOne depth machine holding)).trans
          cases holding with
          | object reference =>
              exact machine.inert_mapHeap (Heap.bare_unanchor _ reference.handle)
          | cell index => exact (deeper _ _).trans (inert_leaveCell machine index)

@[simp] theorem inert_release (value : Value) :
    (machine.release value).inert = machine.inert := by
  unfold release
  split
  · rfl
  · exact inert_releaseAll _ _ _

@[simp] theorem inert_pushRaw (value : Value) :
    (machine.pushRaw value).inert = machine.inert := rfl

@[simp] theorem inert_pushLiteral (literal : Literal) :
    (machine.pushLiteral literal).inert = machine.inert := rfl

@[simp] theorem inert_push (datum : Datum) : (machine.push datum).inert = machine.inert := rfl

@[simp] theorem inert_copy (place : Place) : (machine.copy place).inert = machine.inert := by
  simp [copy]

@[simp] theorem inert_pushCopy (value : Value) :
    (machine.pushCopy value).inert = machine.inert := by
  unfold pushCopy
  split <;> simp

@[simp] theorem inert_drop : machine.drop.inert = machine.inert := by
  simp [drop]

@[simp] theorem inert_dropMany (count : Nat) :
    (machine.dropMany count).inert = machine.inert := by
  induction count generalizing machine with
  | zero => rfl
  | succ count ih => exact (ih machine.drop).trans machine.inert_drop

@[simp] theorem inert_dropTo (size : Nat) : (machine.dropTo size).inert = machine.inert :=
  inert_dropMany machine _

@[simp] theorem inert_takeOperand (position : Nat) :
    (machine.takeOperand position).2.inert = machine.inert := by
  unfold takeOperand
  split <;> rfl

@[simp] theorem inert_raise (position : Nat) : (machine.raise position).inert = machine.inert := by
  simp [raise]

@[simp] theorem inert_spend (position : Nat) : (machine.spend position).inert = machine.inert := by
  simp [spend]

@[simp] theorem inert_spendAll (positions : List Nat) :
    (machine.spendAll positions).inert = machine.inert := by
  induction positions generalizing machine with
  | nil => rfl
  | cons position rest ih =>
      exact (ih (machine.spend position)).trans (machine.inert_spend position)

@[simp] theorem inert_keepTop (size : Nat) : (machine.keepTop size).inert = machine.inert := by
  unfold keepTop
  split <;> simp

@[simp] theorem inert_makeList (size : Nat) : (machine.makeList size).inert = machine.inert := rfl

@[simp] theorem inert_makeTable (names : List String) (size : Nat) :
    (machine.makeTable names size).inert = machine.inert := by
  simp [makeTable]

@[simp] theorem inert_declare (name : String) (constant : Bool) :
    (machine.declare name constant).inert = machine.inert := rfl

@[simp] theorem inert_declareAll (entries : List (String × Nat)) :
    (machine.declareAll entries).inert = machine.inert := by
  induction entries generalizing machine with
  | nil => rfl
  | cons entry rest ih =>
      unfold declareAll
      rw [ih]
      exact inert_takeOperand machine entry.2

@[simp] theorem inert_declareCopies (entries : List (String × Value)) :
    (machine.declareCopies entries).inert = machine.inert := by
  induction entries generalizing machine with
  | nil => rfl
  | cons entry rest ih =>
      unfold declareCopies
      rw [ih]
      exact inert_retainAll machine entry.2.holdings

@[simp] theorem inert_forget : machine.forget.inert = machine.inert := by
  unfold forget
  split <;> simp

@[simp] theorem inert_forgetMany (count : Nat) :
    (machine.forgetMany count).inert = machine.inert := by
  induction count generalizing machine with
  | zero => rfl
  | succ count ih => exact (ih machine.forget).trans machine.inert_forget

@[simp] theorem inert_forgetTo (size : Nat) : (machine.forgetTo size).inert = machine.inert :=
  inert_forgetMany machine _

@[simp] theorem inert_alter (place : Place) (change : Value → Value) :
    (machine.alter place change).inert = machine.inert := by
  unfold alter
  cases machine.rootOf place.root <;> rfl

@[simp] theorem inert_replace (place : Place) (value : Value) :
    (machine.replace place value).inert = machine.inert := by
  unfold replace
  split <;> simp

@[simp] theorem inert_assign (place : Place) : (machine.assign place).inert = machine.inert := by
  simp [assign]

@[simp] theorem inert_redeclare (index : Nat) (constant : Bool) :
    (machine.redeclare index constant).inert = machine.inert := by
  unfold redeclare
  dsimp only
  split <;> exact inert_release _ _

@[simp] theorem inert_assignEntry (place : Place) (name : String) :
    (machine.assignEntry place name).inert = machine.inert := by
  unfold assignEntry
  dsimp only
  split <;> simp

@[simp] theorem inert_append (place : Place) (position : Nat) :
    (machine.append place position).inert = machine.inert := by
  unfold append
  split
  · split <;> simp
  · rfl

@[simp] theorem inert_appendItems (place : Place) (position : Nat) :
    (machine.appendItems place position).inert = machine.inert := by
  unfold appendItems
  split
  · split <;> simp
  · rfl

@[simp] theorem inert_mergeEntries (place : Place) (position : Nat) :
    (machine.mergeEntries place position).inert = machine.inert := by
  unfold mergeEntries
  split
  · split <;> simp
  · rfl

@[simp] theorem inert_clear (place : Place) : (machine.clear place).inert = machine.inert := by
  unfold clear
  split <;> simp

@[simp] theorem inert_takeItem (position index : Nat) :
    (machine.takeItem position index).inert = machine.inert := by
  unfold takeItem
  dsimp only
  split <;> simp

@[simp] theorem inert_share (index : Nat) : (machine.share index).2.inert = machine.inert := by
  unfold share
  split
  · rfl
  · split <;> rfl

@[simp] theorem inert_pushShared (cell : Nat) :
    (machine.pushShared cell).inert = machine.inert := rfl

@[simp] theorem inert_makeFunction (name : String) (bound : List Value) :
    (machine.makeFunction name bound).inert = machine.inert := by
  simp [makeFunction]

@[simp] theorem inert_bindOperand (position : Nat) :
    (machine.bindOperand position).inert = machine.inert := by
  unfold bindOperand
  split
  · dsimp only
    split <;> simp
  · rfl

@[simp] theorem inert_bindOperands (positions : List Nat) :
    (machine.bindOperands positions).inert = machine.inert := by
  induction positions generalizing machine with
  | nil => rfl
  | cons position rest ih =>
      exact (ih (machine.bindOperand position)).trans (machine.inert_bindOperand position)

@[simp] theorem inert_copyThrown : machine.copyThrown.inert = machine.inert := by
  simp [copyThrown]

theorem estate_release (value : Value) : (machine.release value).estate = machine.estate :=
  estate_of_inert (inert_release machine value)

theorem estate_dropThrown : machine.dropThrown.estate = machine.estate := by
  unfold dropThrown
  split
  · rw [estate_release]
    rfl
  · rfl

theorem estate_dropThrownAt (index : Nat) :
    (machine.dropThrownAt index).estate = machine.estate := by
  unfold dropThrownAt
  split
  · rw [estate_release]
    rfl
  · rfl

theorem output_dropThrown : machine.dropThrown.output = machine.output := by
  unfold dropThrown
  split
  · rw [release_output]
  · rfl

theorem output_dropThrownAt (index : Nat) :
    (machine.dropThrownAt index).output = machine.output := by
  unfold dropThrownAt
  split
  · rw [release_output]
  · rfl

theorem estate_dropAllThrown : machine.dropAllThrown.estate = machine.estate := by
  unfold dropAllThrown
  generalize machine.thrown.size = count
  induction count generalizing machine with
  | zero => rfl
  | succ count ih => exact (ih machine.dropThrown).trans machine.estate_dropThrown

theorem output_dropAllThrown : machine.dropAllThrown.output = machine.output := by
  unfold dropAllThrown
  generalize machine.thrown.size = count
  induction count generalizing machine with
  | zero => rfl
  | succ count ih => exact (ih machine.dropThrown).trans machine.output_dropThrown

end Script.Machine

theorem HostValue.bare_toScript {heap after : Heap Occupant} {value : HostValue}
    {script : Script.Value} (entered : value.toScript heap = .ok (script, after)) :
    after.bare = heap.bare := by
  rcases Call.toScript_cases entered with ⟨_, _, rfl⟩ | ⟨handle, resident, _, _, rfl⟩
  · rfl
  · exact Heap.bare_alter heap handle fun _ => rfl

@[simp] theorem Script.Machine.inert_receive (machine : Machine) (value : HostValue) :
    (machine.receive value).2.inert = machine.inert := by
  obtain ⟨⟨heap, generator⟩, output, scope, operands, cells, thrown, operations, history, asked⟩ :=
    machine
  unfold receive
  dsimp only
  cases entered : value.toScript heap with
  | error fault => rfl
  | ok outcome =>
      exact congrArg (fun bare => (thrown, output,
        (⟨bare, generator, requests _, asked⟩ : Estate))) (HostValue.bare_toScript entered)

@[simp] theorem Script.Machine.inert_handOver (machine : Machine) :
    machine.handOver.2.inert = machine.inert := by
  have noted : (machine.record (.delivery machine.top)).inert = machine.inert :=
    inert_record machine nofun
  unfold handOver
  dsimp only
  split
  · rename_i given _
    cases found : (machine.record (.delivery machine.top)).store.heap.resident? given with
    | none =>
        rw [Heap.pin_eq_error found]
        exact noted
    | some resident =>
        rw [Heap.pin_eq_ok found]
        have bare := Heap.bare_alter (machine.record (.delivery machine.top)).store.heap given
          fun resident => @rfl _ resident.held.content
        exact Eq.trans (inert_mapHeap _ bare) noted
  · exact noted

end ScriptHost
