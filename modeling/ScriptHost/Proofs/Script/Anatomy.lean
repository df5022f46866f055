import ScriptHost.Proofs.Script.Parts

/-!
The anatomy of evaluation.

Chains and terms are composed of steps, given that their parts are. The induction over the steps
from term to part gives the result for all terms, so whatever survives composition holds for every
script.
-/

set_option autoImplicit false

namespace ScriptHost.Script.Run

open Made

variable {α : Type} {env : Environment} {self : Evaluator}

theorem made_noProperty (name : String) (value : Value) (position : Position) :
    Made env (noProperty name value position : Run α) :=
  fails (by simp) position

theorem made_newOperand : Made env newOperand :=
  made_mark.bind fun _ => ends _

theorem made_toProperty (place : Place) (name : String) (position : Position) :
    Made env (toProperty env place name position) := by
  refine looking (fun _ _ => rfl) fun machine => ?_
  split
  · split
    · exact ends _
    · exact fails (by simp) position
  · split
    · exact (made_native (by trivial) [] position).bind fun _ => made_newOperand
    · exact made_noProperty name _ position
  · split
    · exact (made_push _).bind fun _ => made_newOperand
    · exact made_noProperty name _ position

theorem made_noIndexer (value key : Value) (assigned? : Option Value) (position : Position) :
    Made env (noIndexer value key assigned? position : Run α) :=
  fails (by simp) position

theorem made_toItem (place : Place) (key : Value) (keyPosition position : Position) :
    Made env (toItem place key keyPosition position) := by
  refine looking (fun _ _ => rfl) fun machine => ?_
  split
  · split
    · exact ends _
    · exact fails (by simp) keyPosition
  · split
    · exact ends _
    · exact fails (by simp) keyPosition
  · split
    · exact (made_push _).bind fun _ => made_newOperand
    · exact fails (by simp) keyPosition
  · split
    · exact (made_push _).bind fun _ => made_newOperand
    · exact fails (by simp) keyPosition
  · exact fails (by simp) keyPosition
  · exact fails (by simp) keyPosition
  · exact fails (by simp) keyPosition
  · exact fails (by simp) keyPosition
  · exact made_noIndexer _ _ none position

theorem made_newValue (assignment : Assignment) {old : Run Unit}
    (made : Made env old) : Made env (newValue env assignment old) := by
  unfold newValue
  split
  · exact moves (fun machine => machine.inert_raise _) (by simp)
  · refine made.bind fun _ => ?_
    exact made_newOperand.bind fun place => made_change _ place _ _

theorem made_assignPlace (assignment : Assignment) (place : Place) :
    Made env (assignPlace env assignment place) := by
  unfold assignPlace
  split
  · refine (moves (fun machine => machine.inert_raise _) (by simp)).bind fun _ => ?_
    exact moves (fun machine => machine.inert_assign place) (by simp)
  · exact made_change _ place _ _

theorem made_writeMember (owner : Place) (name : String) (value : Nat)
    (position : Position) : Made env (writeMember env owner name value position) := by
  refine (made_operand value).bind fun held => ?_
  refine looking (fun _ _ => rfl) fun machine => ?_
  split
  · split
    · refine looking (fun _ _ => rfl) fun machine => ?_
      dsimp only
      refine checks (by simp) position fun _ => ?_
      exact (made_native (by trivial) _ position).bind fun _ => made_drop
    · exact fails (by simp) position
  · exact fails (by simp) position

theorem made_refuseConstant (place : Place) (assignment : Assignment) :
    Made env (refuseConstant place assignment) :=
  looking (fun _ _ => rfl) fun _ => checked (by simp) _

theorem made_refuseEntry (place : Place) (name : String) (assignment : Assignment) :
    Made env (refuseEntry place name assignment) := by
  refine looking (fun _ _ => rfl) fun machine => ?_
  split
  · split
    · exact made_refuseConstant place assignment
    · exact ends _
  · exact ends _

theorem made_assignEntry (assignment : Assignment) (place : Place) (name : String) :
    Made env (assignEntry env assignment place name) := by
  refine (made_refuseEntry place name assignment).bind fun _ => ?_
  refine looking (fun _ _ => rfl) fun machine => ?_
  split
  · refine (made_push .unit).bind fun _ => ?_
    refine (moves (fun machine => machine.inert_assignEntry place name) (by simp)).bind fun _ => ?_
    exact made_assignPlace assignment _
  · refine (moves (fun machine => machine.inert_raise _) (by simp)).bind fun _ => ?_
    exact moves (fun machine => machine.inert_assignEntry place name) (by simp)
  · exact made_assignPlace assignment _

theorem made_assignProperty (assignment : Assignment) (place : Place) (name : String)
    (position : Position) :
    Made env (assignProperty env assignment place name position) := by
  refine looking (fun _ _ => rfl) fun machine => ?_
  split
  · refine (made_assignEntry assignment place name).bind fun _ => ?_
    exact made_checkPlace place _
  · refine (made_newValue assignment ?_).bind fun _ => ?_
    · split
      · exact made_native (by trivial) [] position
      · exact made_noProperty name _ position
    · refine made_mark.bind fun count => ?_
      exact (made_writeMember place name _ position).bind fun _ => made_drop
  · dsimp only
    split
    · refine (made_noProperty name _ position).bind fun _ => ?_
      exact made_writeMember place name _ position
    · exact made_writeMember place name _ position

theorem made_assignLetter (assignment : Assignment) (place : Place) (text : String)
    (index : Nat) : Made env (assignLetter env assignment place text index) := by
  refine (made_newValue assignment (made_push _)).bind fun _ => ?_
  refine looking (fun _ _ => rfl) fun machine => ?_
  split
  · refine made_drop.bind fun _ => ?_
    refine (made_push _).bind fun _ => ?_
    exact moves (fun machine => machine.inert_assign place) (by simp)
  · exact fails (by simp) _

theorem made_assignBit (assignment : Assignment) (place : Place) (number : Int64)
    (bit : Nat) : Made env (assignBit env assignment place number bit) := by
  refine (made_newValue assignment (made_push _)).bind fun _ => ?_
  refine looking (fun _ _ => rfl) fun machine => ?_
  split
  · refine made_drop.bind fun _ => ?_
    refine (made_push _).bind fun _ => ?_
    exact moves (fun machine => machine.inert_assign place) (by simp)
  · exact fails (by simp) _

theorem made_assignItem (assignment : Assignment) (place : Place) (key : Value)
    (keyPosition position : Position) :
    Made env (assignItem env assignment place key keyPosition position) := by
  have target : Made env (do
      let target ← toItem place key keyPosition position
      refuseConstant place assignment
      assignPlace env assignment target) := by
    refine (made_toItem place key keyPosition position).bind fun target => ?_
    refine (made_refuseConstant place assignment).bind fun _ => ?_
    exact made_assignPlace assignment target
  refine (made_operand _).bind fun held => ?_
  refine looking (fun _ _ => rfl) fun machine => ?_
  split
  · exact made_assignEntry assignment place _
  · split
    · exact made_assignLetter assignment place _ _
    · exact fails (by simp) keyPosition
  · split
    · exact made_assignBit assignment place _ _
    · exact fails (by simp) keyPosition
  · exact target
  · exact target
  · exact target
  · exact target
  · split
    · exact made_noIndexer _ _ none position
    · exact made_noIndexer _ _ (some held) position

theorem made_giveBack (borrowed : List Borrowed) : Made env (giveBack env borrowed) := by
  induction borrowed with
  | nil => exact ends _
  | cons member rest ih => exact (made_writeMember _ _ _ _).bind fun _ => ih

/-! ### Chains -/

section Terms

variable (parts : ∀ frame term, Made env (self frame term))

include parts

theorem made_prepare (frame : Frame) (links : List Link) :
    Made env (prepare self frame links) := by
  induction links with
  | nil => exact ends _
  | cons link rest ih =>
      refine made_mark.bind fun before => ?_
      have later : ∀ result : PUnit, Made env (do
          let count := (← mark) - before
          let positions := (List.range count).map fun offset => before + offset
          let rest ← prepare self frame rest
          return (link, positions) :: rest) := fun _ =>
        made_mark.bind fun count => ih.bind fun _ => ends _
      cases link with
      | property name position => exact (ends PUnit.unit).bind later
      | index key position => exact (parts frame key).bind later
      | method name arguments position => exact (forM (parts frame) arguments).bind later

theorem made_walk (frame : Frame) (assignment? : Option Assignment)
    (prepared : List Prepared) (place : Place) (borrowed : List Borrowed) :
    Made env (walk env self frame assignment? prepared place borrowed) := by
  induction prepared generalizing place borrowed with
  | nil => exact moves (fun machine => machine.inert_copy place) (by simp)
  | cons link rest ih =>
      have given : Made env (do
          giveBack env borrowed
          push .unit) :=
        (made_giveBack borrowed).bind fun _ => made_push .unit
      obtain ⟨link, positions⟩ := link
      cases link with
      | property name position =>
          unfold walk
          split
          · exact (made_assignProperty _ place name position).bind fun _ => given
          · refine looking (fun _ _ => rfl) fun machine => ?_
            exact (made_toProperty place name position).bind fun next => ih _ _
      | index key position =>
          unfold walk
          refine (made_operand _).bind fun value => ?_
          split
          · exact (made_assignItem _ place value _ position).bind fun _ => given
          · exact (made_toItem place value _ position).bind fun next => ih _ _
      | method name arguments position =>
          unfold walk
          dsimp only
          refine (made_givingUp positions
            (made_callMethod parts frame name place positions _ position)).bind
              fun changed => ?_
          split
          · split
            · exact made_giveBack borrowed
            · exact ends _
          · exact made_newOperand.bind fun next => ih _ _

theorem made_rootPlace (frame : Frame) (root : Term) :
    Made env (rootPlace env self frame root) := by
  unfold rootPlace
  split
  · refine looking (fun _ _ => by simp only [Machine.noting_findVariable?]) fun machine => ?_
    split
    · exact ends _
    · split
      · refine (moves (fun machine => machine.inert_makeFunction _ _) (by simp)).bind fun _ => ?_
        exact made_newOperand
      · exact fails (by simp) _
  · split
    · exact ends _
    · exact fails (by simp) _
  · exact (parts frame _).bind fun _ => made_newOperand

theorem made_chain (frame : Frame) (assignment? : Option Assignment) (root : Term)
    (links : List Link) : Made env (chain env self frame assignment? root links) := by
  refine made_mark.bind fun before => ?_
  refine (made_gathering inOrder (made_prepare parts frame links)).bind
    fun prepared => ?_
  refine made_mark.bind fun count => ?_
  refine (made_gatheringFrom before _ ?_).bind fun _ => made_keepTop before
  refine (made_rootPlace parts frame root).bind fun place => ?_
  exact made_walk parts frame assignment? prepared place []

omit parts in
theorem made_takeBoolean (position : Position) : Made env (takeBoolean position) := by
  refine looking (fun _ _ => rfl) fun machine => ?_
  refine made_drop.bind fun _ => ?_
  split
  · exact ends _
  · exact fails (by simp) position

omit parts in
theorem made_lookup (frame : Frame) (name : String) (position : Position) :
    Made env (lookup env frame name position) := by
  refine looking (fun _ _ => by simp only [Machine.noting_findVariable?]) fun machine => ?_
  split
  · exact moves (fun machine => machine.inert_copy _) (by simp)
  · split
    · exact moves (fun machine => machine.inert_makeFunction _ _) (by simp)
    · exact fails (by simp) position

omit parts in
theorem made_receiver (frame : Frame) (position : Position) :
    Made env (receiver frame position) := by
  unfold receiver
  split
  · exact ends _
  · exact fails (by simp) position

theorem made_items (frame : Frame) (counted : Extent) (terms : List Term) (extent : Extent) :
    Made env (items env self frame counted terms extent) := by
  induction terms generalizing extent with
  | nil => exact ends _
  | cons item rest ih =>
      refine (parts frame item).bind fun _ => ?_
      refine looking (fun _ _ => rfl) fun machine => ?_
      exact (made_checkExtent _ _).bind fun _ => ih _

theorem made_pieces (frame : Frame) (terms : List Term) (text : String) :
    Made env (pieces env self frame terms text) := by
  induction terms generalizing text with
  | nil => exact made_push _
  | cons piece rest ih =>
      refine (parts frame piece).bind fun _ => ?_
      refine looking (fun _ _ => rfl) fun machine => ?_
      refine (made_display _).bind fun shown => ?_
      refine made_drop.bind fun _ => ?_
      exact (made_checkExtent _ _).bind fun _ => ih _

theorem made_sequence (frame : Frame) (mark : Nat) (statements : List Term) :
    Made env (sequence self frame mark statements) := by
  induction statements with
  | nil => exact ends _
  | cons statement rest ih =>
      exact (parts frame statement).bind fun _ => (made_keepTop mark).bind fun _ => ih

theorem made_block (frame : Frame) (statements : List Term) :
    Made env (block self frame statements) := by
  refine made_mark.bind fun before => ?_
  exact (made_push .unit).bind fun _ => made_sequence parts frame before statements

/-! ### Calls in terms -/

theorem made_evaluateArguments (frame : Frame) (arguments : List Term) :
    Made env (evaluateArguments self frame arguments) := by
  refine made_mark.bind fun before => ?_
  refine (forM (parts frame) _).bind fun _ => ?_
  exact looking (fun _ _ => by simp only [noting_namedPlace?]) fun machine => ends _

theorem made_boundValue (frame : Frame) (term : Term) :
    Made env (boundValue self frame term) := by
  refine looking (fun _ _ => by simp only [Machine.noting_findVariable?, Machine.noting_scope])
    fun machine => ?_
  dsimp only
  split
  · exact moves (fun machine => machine.inert_pushShared _) (by simp)
  · exact parts frame term

theorem made_call (frame : Frame) (name : String) (arguments : List Term)
    (position : Position) : Made env (call env self frame name arguments position) := by
  refine made_mark.bind fun before => ?_
  refine (made_gathering inOrder ?_).bind fun _ => made_keepTop before
  split
  · rename_i target rest
    refine (parts frame target).bind fun _ => ?_
    refine looking (fun _ _ => rfl) fun machine => ?_
    dsimp only
    refine refuses (made_noFunctionValue _ _) fun _ => ?_
    refine (made_evaluateArguments parts frame rest).bind fun found => ?_
    refine (made_operand before).bind fun value => ?_
    split
    · exact made_callValue parts frame _ _ none _ position
    · exact made_noFunctionValue _ _
  · rename_i target first rest
    refine (parts frame target).bind fun _ => ?_
    refine looking (fun _ _ => rfl) fun machine => ?_
    dsimp only
    refine refuses (made_noFunctionValue _ _) fun _ => ?_
    refine (forM (made_boundValue parts frame) _).bind fun _ => ?_
    exact (made_operand before).bind fun value => made_bindArguments value _ _
  · rename_i target
    refine (parts frame target).bind fun _ => ?_
    exact looking (fun _ _ => rfl) fun machine => made_functionNamed _ _
  · refine (made_lookup frame _ _).bind fun _ => ?_
    exact looking (fun _ _ => by simp only [Machine.noting_findVariable?, Machine.noting_isShared])
      fun machine => made_push _
  · exact (parts frame _).bind fun _ => made_push _
  · refine (made_evaluateArguments parts frame _).bind fun found => ?_
    refine (made_callNamed parts frame _ _ _ position).bind fun _ => ?_
    exact ends _

theorem made_moduleCall (frame : Frame) (space name : String) (arguments : List Term)
    (start position : Position) :
    Made env (moduleCall env self frame space name arguments start position) := by
  refine made_mark.bind fun before => ?_
  refine (made_gathering inOrder ?_).bind fun _ => made_keepTop before
  refine (made_evaluateArguments parts frame arguments).bind fun found => ?_
  exact made_callInModule space name found.1 start position

theorem made_capture (frame : Frame) (term : Term) :
    Made env (capture self frame term) := by
  unfold capture
  split
  · refine looking (fun _ _ => by simp only [Machine.noting_findVariable?]) fun machine => ?_
    split
    · refine Made.bind (.quiet (fun machine => ⟨_, _, rfl, machine.inert_share _⟩)
        fun earlier => .of_modifyGet fun machine => machine.noting_share earlier _) fun cell => ?_
      exact moves (fun machine => machine.inert_pushShared cell) (by simp)
    · exact fails (by simp) _
  · exact parts frame _

theorem made_closure (frame : Frame) (name : String) (bound : List Term) :
    Made env (closure self frame name bound) := by
  refine made_mark.bind fun before => ?_
  refine (made_gathering inOrder (forM (made_capture parts frame) bound)).bind
    fun _ => ?_
  refine (moves (fun machine => ?_) fun machine earlier => ?_).bind fun _ => made_keepTop before
  · simp
  · simp

omit parts in
theorem made_assignWhole (operation? : Option Operation) (place : Place) (value : Nat)
    (position : Position) : Made env (assignWhole env operation? place value position) := by
  unfold assignWhole
  split
  · refine (moves (fun machine => machine.inert_raise value) (by simp)).bind fun _ => ?_
    exact (moves (fun machine => machine.inert_assign place) (by simp)).bind fun _ => made_push _
  · exact (made_change _ place value position).bind fun _ => made_push _

theorem made_assignVariable (frame : Frame) (operation? : Option Operation) (name : String)
    (value : Term) (namePosition position : Position) :
    Made env
      (assignVariable env self frame operation? name value namePosition position) := by
  refine made_mark.bind fun before => ?_
  refine (parts frame value).bind fun _ => ?_
  refine looking (fun _ _ => by simp only [Machine.noting_findVariable?]) fun machine => ?_
  split
  · dsimp only
    split
    · exact (fails (by simp) namePosition).bind fun _ => fails (by simp) namePosition
    · exact fails (by simp) namePosition
  · refine looking (fun _ _ => rfl) fun machine => ?_
    dsimp only
    refine checks (by simp) namePosition fun _ => ?_
    exact made_assignWhole operation? _ before position

theorem made_assignReceiver (frame : Frame) (operation? : Option Operation) (value : Term)
    (namePosition position : Position) :
    Made env (assignReceiver env self frame operation? value namePosition position) := by
  refine made_mark.bind fun before => ?_
  refine (parts frame value).bind fun _ => ?_
  refine (made_receiver frame namePosition).bind fun place => ?_
  refine looking (fun _ _ => rfl) fun machine => ?_
  dsimp only
  refine checks (by simp) namePosition fun _ => ?_
  exact made_assignWhole operation? place before position

theorem made_assignment (frame : Frame) (operation? : Option Operation) (target value : Term)
    (position : Position) :
    Made env (assignment env self frame operation? target value position) := by
  refine made_mark.bind fun before => ?_
  refine (made_gathering inOrder ?_).bind fun _ => made_keepTop before
  split
  · exact made_assignVariable parts frame operation? _ value _ position
  · exact made_assignReceiver parts frame operation? value _ position
  · refine made_mark.bind fun before => ?_
    refine (parts frame value).bind fun _ => ?_
    exact made_chain parts frame _ _ _
  · exact fails (by simp) _

omit parts in
theorem made_checkScope (frame : Frame) (position : Position) :
    Made env (checkScope env frame position) :=
  looking (fun _ _ => rfl) fun _ => checked (by simp) position

theorem made_declared (frame : Frame) (name : String) (constant again : Bool) (value : Term) :
    Made env (do
      self frame value
      let found? := (← get).findVariable? frame.base name
      match again, found? with
      | true, some index => modify fun machine : Machine => machine.redeclare index constant
      | _, _ => modify fun machine : Machine => machine.declare name constant
      push .unit) := by
  refine (parts frame value).bind fun _ => ?_
  refine looking (fun _ _ => by simp only [Machine.noting_findVariable?]) fun machine => ?_
  dsimp only
  split
  · exact (moves (fun machine => machine.inert_redeclare _ constant) (by simp)).bind fun _ =>
      made_push .unit
  · exact (moves (fun machine => machine.inert_declare name constant) (by simp)).bind fun _ =>
      made_push .unit

theorem made_declaration (frame : Frame) (name : String) (constant again : Bool)
    (value : Term) (position : Position) :
    Made env (declaration env self frame name constant again value position) := by
  have later := made_declared parts frame name constant again value
  unfold declaration
  dsimp only
  split
  · exact (made_checkScope frame position).bind fun _ => later
  · exact later

theorem made_whileLoop (frame : Frame) (condition body : Term) (fuel : Nat) {tick : Run Unit}
    (ticking : Made env tick) (position : Position) :
    Made env (whileLoop self frame condition body fuel tick position) := by
  refine made_repeatWhile ?_ position fuel
  refine ticking.bind fun _ => ?_
  refine (parts frame condition).bind fun _ => ?_
  refine (made_takeBoolean _).bind fun holds => ?_
  split
  · exact made_turn (parts frame body)
  · exact (made_push .unit).bind fun _ => ends _

theorem made_overItems (frame : Frame) (body : Term) (variable_ : Nat)
    {next : Nat → Run Unit} (nexts : ∀ index, Made env (next index)) {tick : Run Unit}
    (ticking : Made env tick) (remaining index : Nat) :
    Made env (overItems self frame body variable_ next tick remaining index) := by
  induction remaining generalizing index with
  | zero => exact made_push .unit
  | succ remaining ih =>
      refine ticking.bind fun _ => ?_
      refine (nexts index).bind fun _ => ?_
      refine (moves (fun machine => machine.inert_assign _) (by simp)).bind fun _ => ?_
      refine (made_turn (parts frame body)).bind fun goes => ?_
      cases goes with
      | true => exact ih _
      | false => exact ends _

omit parts in
theorem made_iteration? {position : Nat} {value : Value} {count : Nat}
    {next : Nat → Run Unit} (found : iteration? position value = some (count, next))
    (index : Nat) : Made env (next index) := by
  unfold iteration? at found
  split at found
  · cases found
    exact moves (fun machine => machine.inert_takeItem position index) (by simp)
  · cases found
    exact made_push _
  · cases found
    exact made_push _
  · cases found

theorem made_forLoop (frame : Frame) (name : String) (namePosition : Position)
    (iterated body : Term) {tick : Run Unit} (ticking : Made env tick) :
    Made env (forLoop env self frame name namePosition iterated body tick) := by
  refine (made_checkScope frame namePosition).bind fun _ => ?_
  refine made_mark.bind fun before => ?_
  refine (made_gathering inOrder ?_).bind fun _ => made_keepTop before
  refine (parts frame iterated).bind fun _ => ?_
  refine (made_operand before).bind fun value => ?_
  split
  · exact fails (by simp) _
  · rename_i count next found
    refine made_enclosed ?_
    refine looking (fun _ _ => rfl) fun machine => ?_
    refine (made_push .unit).bind fun _ => ?_
    refine (moves (fun machine => machine.inert_declare name false) (by simp)).bind fun _ => ?_
    refine made_spendingAfter before ?_
    exact made_overItems parts frame body _ (made_iteration? found) ticking count 0

omit parts in
theorem made_pushCaught (failure : Failure) : Made env (pushCaught failure) := by
  unfold pushCaught
  split
  · exact moves Machine.inert_copyThrown (by simp)
  · exact moves (fun machine => machine.inert_pushLiteral _) (by simp)

theorem made_attempt (frame : Frame) (body handler : Term)
    (caught? : Option (String × Position)) :
    Made env (attempt env self frame body caught? handler) := by
  refine .attempt (parts frame body) fun failure => ?_
  unfold handling
  split
  · refine (made_checkScope frame _).bind fun _ => ?_
    refine (made_pushCaught failure).bind fun _ => ?_
    refine (moves (fun machine => machine.inert_declare _ false) (by simp)).bind fun _ => ?_
    exact parts frame handler
  · exact (ends PUnit.unit).bind fun _ => parts frame handler

theorem made_term (fuel : Nat) (frame : Frame) (term : Term) :
    Made env (Run.term env self fuel frame term) := by
  have boolean : ∀ inner : Term, Made env (do
      self frame inner
      push (.boolean (← takeBoolean inner.position))) := fun inner =>
    (parts frame inner).bind fun _ => (made_takeBoolean _).bind fun _ => made_push _
  refine (made_tick _).bind fun _ => ?_
  cases term with
  | literal value position => exact moves (fun machine => machine.inert_pushLiteral value) (by simp)
  | lookup name position => exact made_lookup frame name position
  | constant name index position => exact moves (fun machine => machine.inert_copy _) (by simp)
  | receiver position =>
      refine (made_receiver frame position).bind fun place => ?_
      exact moves (fun machine => machine.inert_copy place) (by simp)
  | list values position =>
      refine made_mark.bind fun before => ?_
      refine (made_gathering inOrder
        (made_items parts frame _ values _)).bind fun _ => ?_
      exact moves (fun machine => machine.inert_makeList before) (by simp)
  | table entries position =>
      refine made_mark.bind fun before => ?_
      refine (made_gathering _ (made_items parts frame _ _ _)).bind
        fun _ => ?_
      exact moves (fun machine => machine.inert_makeTable _ before) (by simp)
  | interpolation pieces position => exact made_pieces parts frame pieces ""
  | call name arguments position => exact made_call parts frame name arguments position
  | moduleCall space name arguments start position =>
      exact made_moduleCall parts frame space name arguments start position
  | moduleLookup space name start =>
      change Made env (if _ then _ else _)
      split
      · exact fails (by simp) start
      · exact fails (by simp) start
  | negation operand position =>
      refine made_gathering inOrder ?_
      exact (parts frame operand).bind fun _ => made_unary "-" position
  | complement operand position =>
      refine made_gathering inOrder ?_
      exact (parts frame operand).bind fun _ => made_unary "!" position
  | binary operation left right position =>
      refine made_mark.bind fun before => ?_
      refine (made_gathering backwards ?_).bind fun _ => made_keepTop before
      refine (parts frame left).bind fun _ => ?_
      refine (parts frame right).bind fun _ => ?_
      exact made_binary operation before (before + 1) position
  | conjunction left right position =>
      refine (parts frame left).bind fun _ => ?_
      refine (made_takeBoolean _).bind fun holds => ?_
      split
      · exact boolean right
      · exact made_push _
  | disjunction left right position =>
      refine (parts frame left).bind fun _ => ?_
      refine (made_takeBoolean _).bind fun holds => ?_
      split
      · exact made_push _
      · exact boolean right
  | chain root links position => exact made_chain parts frame none root links
  | conditional condition consequence alternative position =>
      refine (parts frame condition).bind fun _ => ?_
      refine (made_takeBoolean _).bind fun holds => ?_
      split
      · exact parts frame consequence
      · exact parts frame alternative
  | closure name bound position => exact made_closure parts frame name bound
  | block statements position =>
      exact made_enclosed (made_block parts frame statements)
  | declaration name constant again value position =>
      exact made_declaration parts frame name constant again value position
  | assignment operation? target value position =>
      exact made_assignment parts frame operation? target value position
  | whileLoop condition body position =>
      exact made_whileLoop parts frame condition body fuel (made_tick position) position
  | forLoop name namePosition iterated body position =>
      exact made_forLoop parts frame name namePosition iterated body (made_tick position)
  | breaking value position => exact (parts frame value).bind fun _ => .leave _ (by simp)
  | continuing position => exact .leave _ (by simp)
  | returning value position => exact (parts frame value).bind fun _ => .leave _ (by simp)
  | throwing value position => exact (parts frame value).bind fun _ => .throwLast position
  | attempt body caught? handler position => exact made_attempt parts frame body handler caught?

end Terms

/-- Every term runs as a composition of steps. -/
theorem made_evaluate (fuel : Nat) (frame : Frame) (term : Term) :
    Made env (evaluate env fuel frame term) := by
  induction fuel generalizing frame term with
  | zero => exact fails (by simp) _
  | succ fuel ih => exact made_term ih fuel frame term

end ScriptHost.Script.Run
