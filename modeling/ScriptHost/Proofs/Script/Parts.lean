import ScriptHost.Proofs.Script.Composition

/-!
Native functions, operators and calls are composed of steps.

There is one lemma for each function that evaluates something. Calls of script functions are
composed if the evaluation of terms is.
-/

set_option autoImplicit false

namespace ScriptHost.Script

namespace Arithmetic

/-- The only problems of operators between plain data are arithmetical. -/
def Plain : Outcome → Prop
  | some (.error problem) => ∃ detail, problem = .arithmetic detail
  | _ => True

@[simp] theorem plain_none : Plain none := trivial

@[simp] theorem plain_value (datum : Datum) : Plain (value datum) := trivial

@[simp] theorem plain_boolean (truth : Bool) : Plain (boolean truth) := trivial

@[simp] theorem plain_problem (detail : String) : Plain (problem detail) := ⟨detail, rfl⟩

@[simp] theorem plain_exact (result : Int) (failing : String) : Plain (exact result failing) := by
  unfold exact
  split <;> simp

@[simp] theorem plain_integers (operation : Operation) (left right : Int64) :
    Plain (integers operation left right) := by
  cases operation with
  | divide =>
      simp only [integers]
      split <;> simp
  | remainder =>
      simp only [integers]
      split <;> simp
  | _ => simp [integers]

@[simp] theorem plain_floats (operation : Operation) (left right : Float) :
    Plain (floats operation left right) := by
  cases operation <;> simp [floats]

@[simp] theorem plain_booleans (operation : Operation) (left right : Bool) :
    Plain (booleans operation left right) := by
  cases operation <;> simp [booleans]

@[simp] theorem plain_texts (operation : Operation) (left right : String) :
    Plain (texts operation left right) := by
  cases operation <;> simp [texts]

@[simp] theorem plain_letterText (operation : Operation) (left right : String) :
    Plain (letterText operation left right) := by
  cases operation <;> simp [letterText]

@[simp] theorem plain_textLetter (operation : Operation) (left : String) (right : Char) :
    Plain (textLetter operation left right) := by
  cases operation <;> simp [textLetter]

@[simp] theorem plain_letters (operation : Operation) (left right : Char) :
    Plain (letters operation left right) := by
  cases operation <;> simp [letters]

@[simp] theorem plain_units (operation : Operation) : Plain (units operation) := by
  cases operation <;> simp [units]

@[simp] theorem plain_unlike (operation : Operation) : Plain (unlike operation) := by
  cases operation <;> simp [unlike]

@[simp] theorem plain_ranges (operation : Operation) (same : Bool) :
    Plain (ranges operation same) := by
  cases operation <;> simp [ranges]

theorem plain_apply (operation : Operation) (left right : Datum) :
    Plain (apply operation left right) := by
  unfold apply
  split <;> simp

theorem plain_outcome (operation : Operation) (left right : Value) :
    Plain (outcome operation left right) := by
  unfold outcome
  split
  · exact plain_apply operation _ _
  · trivial
  · trivial
  · split <;> simp

theorem plain_negate (operand : Datum) : Plain (some (negate operand)) := by
  unfold negate
  split
  · split
    · trivial
    · exact ⟨_, rfl⟩
  · trivial
  · trivial

theorem Plain.unthrown {outcome : Outcome} {problem : Problem} (plain : Plain outcome)
    (same : outcome = some (.error problem)) : problem ≠ .thrown := by
  subst same
  obtain ⟨detail, rfl⟩ := plain
  simp

end Arithmetic

namespace Run

variable {α β : Type} {env : Environment}

/-! ### Single steps -/

theorem Composed.looks : Composed env (get : Run Machine) :=
  .quiet fun machine => ⟨machine, machine, rfl, rfl⟩

theorem Composed.moves {move : Machine → Machine}
    (kept : ∀ machine, (move machine).inert = machine.inert) :
    Composed env (modify move : Run PUnit) :=
  .quiet fun machine => ⟨.unit, move machine, rfl, Machine.still_of_inert (kept machine)⟩

namespace Made

theorem ends (result : α) : Made env (pure result : Run α) :=
  .quiet (fun machine => ⟨result, machine, rfl, rfl⟩) fun _ => .of_ok result

theorem looking {rest : Machine → Run β}
    (same : ∀ machine earlier, rest (machine.noting earlier) = rest machine)
    (later : ∀ machine, Made env (rest machine)) : Made env (get >>= rest) where
  composed := .bind .looks fun machine => (later machine).composed
  keeps steadfast := fun machine kept =>
    Leads.get_bind ((later machine).keeps steadfast machine kept)
  oblivious := fun earlier => .get_bind (fun machine => same machine earlier) fun machine =>
    (later machine).oblivious earlier

/-- A step that moves values about, and that the notes do not matter to. -/
theorem moves {move : Machine → Machine}
    (kept : ∀ machine, (move machine).inert = machine.inert)
    (same : ∀ machine earlier,
      move (machine.noting earlier) = (move machine).noting earlier) :
    Made env (modify move : Run PUnit) :=
  .quiet (fun machine => ⟨.unit, move machine, rfl, kept machine⟩) fun earlier =>
    .of_modify fun machine => same machine earlier

theorem fails {problem : Problem} (unthrown : problem ≠ .thrown) (position : Position) :
    Made env (fail problem position : Run α) := by
  have noted : Made env (record .failure) := moves Machine.inert_recordFailure (by simp)
  exact noted.bind fun _ => .refuse _ unthrown rfl

theorem refuses {condition : Prop} [Decidable condition] {refused : Run PUnit}
    {rest : PUnit → Run β} (refusing : Made env refused)
    (later : ∀ result, Made env (rest result)) :
    Made env (if condition then refused >>= rest else rest PUnit.unit) := by
  split
  · exact refusing.bind later
  · exact later _

theorem checks {condition : Prop} [Decidable condition] {problem : Problem}
    {rest : PUnit → Run β} (unthrown : problem ≠ .thrown) (position : Position)
    (later : ∀ result, Made env (rest result)) :
    Made env (if condition then fail problem position >>= rest else rest PUnit.unit) :=
  refuses (fails unthrown position) later

theorem checked {condition : Prop} [Decidable condition] {problem : Problem}
    (unthrown : problem ≠ .thrown) (position : Position) :
    Made env (if condition then fail problem position else pure PUnit.unit) := by
  split
  · exact fails unthrown position
  · exact ends _

theorem forM {item : Type} {work : item → Run PUnit} (each : ∀ item, Made env (work item))
    (items : List item) : Made env (items.forM work) := by
  induction items with
  | nil => exact ends _
  | cons first rest ih => exact (each first).bind fun _ => ih

theorem forM? {item : Type} {work : item → Run PUnit} (each : ∀ item, Made env (work item))
    (item? : Option item) : Made env (item?.forM work) := by
  cases item? with
  | none => exact ends _
  | some item => exact each item

end Made

open Made

section Around

variable {inner : Run α} {work : Run Unit}

theorem made_enclosed (made : Made env work) : Made env (enclosed work) :=
  .around (around_enclosed work) (tidy_enclosed work) oblivious_enclosed made

theorem made_givingUp (positions : List Nat) (made : Made env inner) :
    Made env (givingUp positions inner) :=
  .around (around_givingUp positions inner) (tidy_givingUp positions inner)
    (oblivious_givingUp positions) made

theorem made_gatheringFrom (before : Nat) (order : Nat → List Nat) (made : Made env inner) :
    Made env (gatheringFrom before order inner) :=
  .around (around_gatheringFrom before order inner) (tidy_gatheringFrom before order inner)
    (oblivious_gatheringFrom before order) made

theorem made_gathering (order : Nat → List Nat) (made : Made env inner) :
    Made env (gathering order inner) :=
  .around (around_gathering order inner) (tidy_gathering order inner)
    (oblivious_gathering order) made

theorem made_spendingAfter (position : Nat) (made : Made env inner) :
    Made env (spendingAfter position inner) :=
  .around (around_spendingAfter position inner) (tidy_spendingAfter position inner)
    (oblivious_spendingAfter position) made

theorem made_turn (made : Made env work) : Made env (turn work) :=
  .around (around_turn work) (tidy_turn work) oblivious_turn made

theorem made_runBody {self : Evaluator} (function : Function) (frame : Frame)
    (made : Made env (self frame function.body)) : Made env (runBody self function frame) :=
  .around (around_runBody self function frame) (tidy_runBody self function frame)
    oblivious_runBody made

theorem made_marking (crossing : Crossing) (made : Made env work) :
    Made env (marking crossing work) :=
  .around (around_marking crossing work) (tidy_marking crossing work)
    (oblivious_marking crossing) made

end Around

theorem made_push (datum : Datum) : Made env (push datum) :=
  moves (fun machine => machine.inert_push datum) (by simp)

theorem made_keepTop (mark : Nat) : Made env (keepTop mark) :=
  moves (fun machine => machine.inert_keepTop mark) (by simp)

theorem made_drop : Made env (modify Machine.drop : Run PUnit) :=
  moves Machine.inert_drop (by simp)

theorem made_mark : Made env mark :=
  looking (fun _ _ => rfl) fun _ => ends _

theorem made_operand (position : Nat) : Made env (operand position) :=
  looking (fun _ _ => rfl) fun _ => ends _

theorem made_tick (position : Position) : Made env (tick env position) := by
  refine (moves (fun machine => machine.inert_record (by simp)) (by simp)).bind fun _ => ?_
  refine (moves (fun (machine : Machine) => ?_) fun machine earlier => ?_).bind fun _ => ?_
  · rfl
  · rfl
  exact looking (fun _ _ => rfl) fun machine => checked (by simp) position

theorem made_checkExtent (extent : Extent) (position : Position) :
    Made env (checkExtent env extent position) := by
  unfold checkExtent
  dsimp only
  refine checks (by simp) position fun _ => ?_
  refine checks (by simp) position fun _ => ?_
  exact checked (by simp) position

theorem made_checkPlace (place : Place) (position : Position) :
    Made env (checkPlace env place position) :=
  looking (fun _ _ => rfl) fun _ => made_checkExtent _ position

theorem made_checkTop (position : Position) : Made env (checkTop env position) :=
  looking (fun _ _ => rfl) fun _ => made_checkExtent _ position

theorem made_noFunction (name : String) (values : List Value) (position : Position) :
    Made env (noFunction name values position : Run α) :=
  fails (by simp) position

theorem made_native {request : Call.Request} (offered : env.functions.Offers request)
    (used : List Nat) (position : Position) : Made env (native env request used position) :=
  .native offered used position (made_checkTop position)

theorem made_repeatWhile {again : Run Bool} (made : Made env again)
    (position : Position) (fuel : Nat) : Made env (repeatWhile position fuel again) := by
  induction fuel with
  | zero => exact fails (by simp) position
  | succ fuel ih =>
      refine made.bind fun goes => ?_
      cases goes with
      | true => exact ih
      | false => exact ends _

theorem made_requestText {request : Call.Request} (offered : env.functions.Offers request) :
    Made env (requestText env request) := by
  refine .request offered (fun machine => ?_) fun earlier machine => ?_
  · unfold requestText
    rcases machine.callNative env.types request with ⟨_ | _, after⟩
    · exact ⟨_, _, rfl, rfl⟩
    · exact ⟨_, _, rfl, after.inert_drop⟩
  · unfold requestText
    rw [machine.noting_callNative]
    rcases machine.callNative env.types request with ⟨_ | _, after⟩
    · rfl
    · change EStateM.Result.ok _ (after.noting earlier).drop = _
      rw [after.noting_drop]
      rfl

theorem made_objectText (reference : Reference) :
    Made env (objectText env reference) := by
  refine looking (fun _ _ => rfl) fun machine => ?_
  refine (moves (fun machine => machine.inert_record (by simp)) (by simp)).bind fun _ => ?_
  exact ends _

theorem made_leafText (name : String) (value : Value) :
    Made env (leafText env name value) := by
  unfold leafText
  split
  · exact ends _
  · rename_i found
    split
    · exact ends _
    · exact made_objectText _
    · split
      · rename_i asked
        have offered := (Native.registered_of_resolve? found).offers asked
        exact (made_requestText offered).bind fun _ => ends _
      · exact ends _

mutual

theorem made_textOf (name : String) : ∀ value, Made env (textOf env name value)
  | .list ⟨items⟩ => by
      unfold textOf arrayTexts
      exact (made_itemTexts items).bind fun _ => ends _
  | .table entries => by
      unfold textOf
      exact (made_entryTexts entries).bind fun _ => ends _
  | .datum _ | .object _ | .function .. | .shared _ => by
      unfold textOf
      exact made_leafText name _

theorem made_itemTexts : ∀ items, Made env (itemTexts env items)
  | [] => by
      unfold itemTexts
      exact ends _
  | item :: rest => by
      unfold itemTexts
      refine (made_textOf "to_debug" item).bind fun _ => ?_
      exact (made_itemTexts rest).bind fun _ => ends _

theorem made_entryTexts : ∀ entries, Made env (entryTexts env entries)
  | [] => by
      unfold entryTexts
      exact ends _
  | (_, value) :: rest => by
      unfold entryTexts
      refine (made_textOf "to_debug" value).bind fun _ => ?_
      exact (made_entryTexts rest).bind fun _ => ends _

end

theorem made_display (value : Value) : Made env (display env value) := by
  unfold display
  split
  · exact ends _
  · exact made_textOf "to_string" value

theorem made_sameLeaf (position : Position) (left right : Value) :
    Made env (sameLeaf env position left right) := by
  unfold sameLeaf
  dsimp only
  split
  · rename_i asked
    obtain ⟨found, resolved, asked⟩ := Option.bind_eq_some_iff.mp asked
    have offered := (Native.registered_of_resolve? resolved).offers asked
    refine (made_native offered _ position).bind fun _ => ?_
    refine looking (fun _ _ => rfl) fun _ => ?_
    refine made_drop.bind fun _ => ?_
    split
    · exact ends _
    · exact ends _
  · split
    · exact ends _
    · exact made_noFunction _ _ position

mutual

theorem made_sameValue (position : Position) (left right : Value) :
    Made env (sameValue env position left right) := by
  match left with
  | .list ⟨items⟩ =>
      unfold sameValue
      split
      · rename_i given others same
        injection same with itemsEq
        subst itemsEq
        split
        · unfold sameArray
          exact made_sameItems position items others.toList
        · exact ends _
      · rename_i other
        cases other
      · exact made_sameLeaf position _ _
  | .table entries =>
      unfold sameValue
      split
      · rename_i other
        cases other
      · rename_i given others same
        injection same with entriesEq
        subst entriesEq
        split
        · exact made_sameEntries position entries others
        · exact ends _
      · exact made_sameLeaf position _ _
  | .datum _ =>
      unfold sameValue
      exact made_sameLeaf position _ _
  | .object _ =>
      unfold sameValue
      exact made_sameLeaf position _ _
  | .function _ _ =>
      unfold sameValue
      exact made_sameLeaf position _ _
  | .shared _ =>
      unfold sameValue
      exact made_sameLeaf position _ _

theorem made_sameItems (position : Position) (items others : List Value) :
    Made env (sameItems env position others items) := by
  match items with
  | [] =>
      unfold sameItems
      exact ends _
  | item :: rest =>
      unfold sameItems
      cases others with
      | nil => exact ends _
      | cons other others =>
          refine (made_sameValue position item other).bind fun equal => ?_
          cases equal with
          | true => exact made_sameItems position rest others
          | false => exact ends _

theorem made_sameEntries (position : Position) (entries others : List (String × Value)) :
    Made env (sameEntries env position others entries) := by
  match entries with
  | [] =>
      unfold sameEntries
      exact ends _
  | (name, value) :: rest =>
      unfold sameEntries
      cases others.lookup name with
      | none => exact ends _
      | some other =>
          refine (made_sameValue position value other).bind fun equal => ?_
          cases equal with
          | true => exact made_sameEntries position rest others
          | false => exact ends _

end

/-! ### Native functions -/

theorem made_refuseConstantReceiver (name : String) (place : Place) (position : Position) :
    Made env (refuseConstantReceiver name place position) :=
  looking (fun _ _ => rfl) fun _ => checked (by simp) position

theorem made_performBuiltin (builtin : Builtin) (name : String) (arguments : Arguments)
    (values : List Value) (place? : Option Place) (position : Position) :
    Made env (performBuiltin env builtin name arguments values place? position) := by
  unfold performBuiltin
  split
  · exact made_push _
  · exact (made_textOf name _).bind fun _ => made_push _
  · exact (made_textOf _ _).bind fun _ => made_push _
  · exact made_push _
  · refine (forM? (fun place => ?_) place?).bind fun _ => made_push _
    refine (made_refuseConstantReceiver name place position).bind fun _ => ?_
    exact forM (fun item => moves (fun machine => machine.inert_append place item) (by simp)) _
  · refine (forM? (fun place => ?_) place?).bind fun _ => made_push _
    refine (made_refuseConstantReceiver name place position).bind fun _ => ?_
    exact moves (fun machine => machine.inert_clear place) (by simp)
  · exact made_push _
  · split
    · exact made_push _
    · rename_i operand _ problem failed
      have plain := Arithmetic.plain_negate operand
      exact fails (plain.unthrown (congrArg some failed)) position
  · exact made_push _
  · refine (made_display _).bind fun _ => ?_
    exact (made_display _).bind fun _ => made_push _
  · split
    · refine (moves (fun machine => machine.inert_raise _) (by simp)).bind fun _ => ?_
      refine made_mark.bind fun _ => ?_
      exact moves (fun machine => machine.inert_appendItems _ _) (by simp)
    · exact made_push _
  · split
    · refine (moves (fun machine => machine.inert_raise _) (by simp)).bind fun _ => ?_
      refine made_mark.bind fun _ => ?_
      exact moves (fun machine => machine.inert_mergeEntries _ _) (by simp)
    · exact made_push _
  · exact (made_sameValue position _ _).bind fun _ => made_push _
  · exact (made_sameValue position _ _).bind fun _ => made_push _
  · exact made_push _
  · exact made_push _
  · exact made_push _
  · exact made_push _
  · exact made_push _

theorem made_perform {found : Native} (registered : found.Registered env.functions)
    (name : String) (arguments : Arguments) (values : List Value) (place? : Option Place)
    (used : List Nat) (position : Position) :
    Made env (perform env found name arguments values place? used position) := by
  have ending : Made env
      (do
        if found.byReference then
          place?.forM fun place => checkPlace env place position
        checkTop env position) := by
    dsimp only
    split
    · refine (forM? (fun place => made_checkPlace place position) place?).bind fun _ => ?_
      exact made_checkTop position
    · exact made_checkTop position
  unfold perform
  dsimp only
  split
  · refine (made_performBuiltin _ name arguments _ place? position).bind fun _ => ?_
    exact (moves (fun machine => machine.inert_spendAll used) (by simp)).bind fun _ => ending
  · refine (made_objectText _).bind fun _ => ?_
    refine (made_push _).bind fun _ => ?_
    exact (moves (fun machine => machine.inert_spendAll used) (by simp)).bind fun _ => ending
  · split
    · rename_i asked
      exact (made_native (registered.offers asked) used position).bind fun _ => ending
    · exact (made_noFunction name _ position).bind fun _ => ending

theorem made_output (name : String) (position : Position) :
    Made env (output name position) := by
  unfold output
  split
  · refine looking (fun _ _ => rfl) fun machine => ?_
    split
    · refine made_drop.bind fun _ => ?_
      dsimp only
      split
      · exact (Made.prints _).bind fun _ => made_push _
      · exact made_push _
    · exact fails (by simp) position
  · exact ends _

theorem made_callNative (name : String) (arguments : Arguments) (place? : Option Place)
    (position : Position) : Made env (callNative env name arguments place? position) := by
  refine looking (fun _ _ => rfl) fun machine => ?_
  dsimp only
  split
  · exact made_noFunction name _ position
  · rename_i resolved
    have registered := Native.registered_of_resolve? resolved
    refine (made_perform registered name arguments _ place? _ position).bind fun _ => ?_
    exact (made_output name position).bind fun _ => ends _

theorem made_pushSpending (datum : Datum) (used : List Nat) (position : Position) :
    Made env (do
      push datum
      modify fun machine : Machine => machine.spendAll used
      checkTop env position) := by
  refine (made_push datum).bind fun _ => ?_
  exact (moves (fun machine => machine.inert_spendAll used) (by simp)).bind fun _ =>
    made_checkTop position

theorem made_outcome {outcome : Outcome} (plain : Arithmetic.Plain outcome) (name : String)
    (values : List Value) (used : List Nat) (position : Position) :
    Made env
      (match outcome with
        | some (.ok datum) => do
            push datum
            modify fun machine : Machine => machine.spendAll used
            checkTop env position
        | some (.error problem) => fail problem position
        | none => noFunction name values position) := by
  split
  · exact made_pushSpending _ _ position
  · exact fails (plain.unthrown rfl) position
  · exact made_noFunction _ _ position

theorem made_applyFunction (operation : Operation) (left right : Nat) (position : Position) :
    Made env (applyFunction env operation left right position) := by
  refine (made_operand left).bind fun leftValue => ?_
  refine (made_operand right).bind fun rightValue => ?_
  have finish := fun {outcome : Outcome} (plain : Arithmetic.Plain outcome) =>
    @made_outcome env outcome plain operation.symbol [leftValue, rightValue] [right, left]
      position
  dsimp only
  split
  · rename_i resolved
    exact made_perform (Native.registered_of_resolve? resolved) _ _ _ _ _ position
  · split
    · rename_i outcome found
      have plain := Arithmetic.plain_outcome operation leftValue rightValue
      rw [found] at plain
      exact finish plain
    · split
      · exact @finish none trivial
      · exact finish (Arithmetic.plain_unlike operation)

theorem made_binary (operation : Operation) (left right : Nat) (position : Position) :
    Made env (binary env operation left right position) := by
  refine (made_operand left).bind fun leftValue => ?_
  refine (made_operand right).bind fun rightValue => ?_
  split
  · exact made_pushSpending _ _ position
  · rename_i problem found
    exact fails ((Arithmetic.plain_outcome operation leftValue rightValue).unthrown found) position
  · exact made_applyFunction operation left right position

theorem made_unary (symbol : String) (position : Position) :
    Made env (unary env symbol position) := by
  refine made_mark.bind fun count => ?_
  refine (made_operand _).bind fun value => ?_
  split
  · rename_i resolved
    have registered := Native.registered_of_resolve? resolved
    exact (made_perform registered _ _ _ _ _ position).bind fun _ => made_keepTop _
  · exact made_noFunction _ _ position

theorem plain_changed? (operation : Operation) (held added : Value) :
    Arithmetic.Plain (changed? operation held added) := by
  unfold changed?
  split
  · trivial
  · exact Arithmetic.plain_outcome operation _ _

theorem made_checkGrowth (held added : Value) (result : Datum) (position : Position) :
    Made env (checkGrowth env held added result position) := by
  unfold checkGrowth
  split
  · exact made_checkExtent _ position
  · exact ends _

theorem made_changeByFunction (operation : Operation) (place : Place) (added : Nat)
    (position : Position) :
    Made env (changeByFunction env operation place added position) := by
  refine looking (fun _ _ => by rw [Machine.noting_valueAt]) fun machine => ?_
  refine (made_operand added).bind fun value => ?_
  dsimp only
  split
  · rename_i resolved
    have registered := Native.registered_of_resolve? resolved
    split
    · refine Made.bind (moves (fun machine => machine.inert_mergeEntries place added) ?_) fun _ => ?_
      · simp
      · exact made_checkPlace place position
    · refine (made_display _).bind fun _ => ?_
      refine (made_display _).bind fun _ => ?_
      refine (made_push _).bind fun _ => ?_
      refine (moves (fun machine => machine.inert_assign place) (by simp)).bind fun _ => ?_
      exact made_checkPlace place position
    · refine (made_perform registered _ _ _ _ _ position).bind fun _ => ?_
      exact made_drop.bind fun _ => made_checkPlace place position
  · refine (moves (fun machine => machine.inert_copy place) (by simp)).bind fun _ => ?_
    refine made_mark.bind fun count => ?_
    refine (made_applyFunction operation _ added position).bind fun _ => ?_
    refine (moves (fun machine => machine.inert_assign place) (by simp)).bind fun _ => ?_
    refine (moves (fun machine => machine.inert_dropTo _) (by simp)).bind fun _ => ?_
    exact made_checkPlace place position

theorem made_change (operation : Operation) (place : Place) (added : Nat)
    (position : Position) : Made env (change env operation place added position) := by
  refine looking (fun _ _ => rfl) fun machine => ?_
  refine (made_operand added).bind fun value => ?_
  split
  · refine (moves (fun machine => machine.inert_appendItems place added) (by simp)).bind fun _ => ?_
    exact made_checkPlace place position
  · refine (moves (fun machine => machine.inert_append place added) (by simp)).bind fun _ => ?_
    exact made_checkPlace place position
  · split
    · refine (made_checkGrowth _ _ _ position).bind fun _ => ?_
      exact (made_push _).bind fun _ => moves (fun machine => machine.inert_assign place) (by simp)
    · rename_i problem found
      exact fails ((plain_changed? _ _ _).unthrown found) position
    · exact made_changeByFunction _ place added position

/-! ### Calls by name -/

variable {self : Evaluator} (parts : ∀ frame term, Made env (self frame term))

include parts

theorem made_callFunction (frame : Frame) (function : Function) (bound : List Value)
    (receiver? : Option Place) (positions : List Nat) (position : Position) :
    Made env (callFunction env self frame function bound receiver? positions position) := by
  unfold callFunction
  dsimp only
  refine checks (by simp) position fun _ => ?_
  refine looking (fun _ _ => rfl) fun machine => ?_
  refine made_marking (.call function.name position) ?_
  refine made_enclosed ?_
  refine (moves (fun machine => ?_) fun machine earlier => ?_).bind fun _ => ?_
  · simp
  · simp
  · exact made_runBody function _ (parts _ _)

theorem made_callFromHost (function : Function) (positions : List Nat) :
    Made env (callFromHost self function positions) := by
  refine made_marking .host ?_
  refine made_enclosed ?_
  refine (moves (fun machine => machine.inert_declareAll _) (by simp)).bind fun _ => ?_
  exact made_runBody function _ (parts _ _)

theorem made_callValue (frame : Frame) (name : String) (bound : List Value)
    (receiver? : Option Place) (positions : List Nat) (position : Position) :
    Made env (callValue env self frame name bound receiver? positions position) := by
  unfold callValue
  split
  · exact made_callFunction parts frame _ bound receiver? positions position
  · refine made_mark.bind fun before => ?_
    apply Made.bind
    · exact forM (fun value => moves (fun machine => machine.inert_pushCopy value) (by simp)) bound
    intro _
    refine (made_callNative name _ none position).bind fun _ => ?_
    exact made_keepTop before

omit parts

theorem made_noFunctionValue (value : Value) (position : Position) :
    Made env (noFunctionValue value position : Run α) :=
  fails (by simp) position

theorem made_functionNamed (value : Value) (argument : Position) :
    Made env (functionNamed value argument) := by
  unfold functionNamed
  split
  · split
    · exact moves (fun machine => machine.inert_makeFunction _ _) (by simp)
    · exact fails (by simp) argument
  · exact fails (by simp) argument

theorem made_bindArguments (value : Value) (positions : List Nat) (position : Position) :
    Made env (bindArguments value positions position) := by
  unfold bindArguments
  split
  · exact moves (fun machine => by simp) (by simp)
  · exact made_noFunctionValue _ position

theorem made_callNamed (parts : ∀ frame term, Made env (self frame term)) (frame : Frame)
    (name : String) (arguments : Arguments) (place? : Option Place) (position : Position) :
    Made env (callNamed env self frame name arguments place? position) := by
  refine looking (fun _ _ => by rw [noting_values]) fun machine => ?_
  split
  · refine (made_push _).bind fun _ => ?_
    exact (moves (fun machine => machine.inert_spendAll _) (by simp)).bind fun _ => ends _
  · split
    · refine (made_callFunction parts frame _ [] _ _ position).bind fun _ => ?_
      exact ends _
    · exact made_callNative _ arguments place? position

theorem made_checkRaces (name : String) (place : Place) (positions : List Nat) :
    Made env (checkRaces name place positions) := by
  refine looking (fun _ _ => rfl) fun machine => ?_
  split
  · exact .refuse _ (by simp) rfl
  · exact ends _

theorem made_callMethod (parts : ∀ frame term, Made env (self frame term))
    (frame : Frame) (name : String) (place : Place) (positions : List Nat)
    (start position : Position) :
    Made env (callMethod env self frame name place positions start position) := by
  refine looking (fun _ _ => by simp only [Machine.noting_valueAt, Machine.noting_operand,
    Machine.noting_isShared]) fun machine => ?_
  dsimp only
  split
  · refine (made_callValue parts frame _ _ none _ position).bind fun _ => ?_
    exact ends _
  · exact made_noFunctionValue _ position
  · split
    · refine (made_callValue parts frame _ _ (some place) _ position).bind fun _ => ?_
      exact ends _
    · exact made_noFunctionValue _ start
  · exact (made_bindArguments _ _ position).bind fun _ => ends _
  · exact (made_push _).bind fun _ => ends _
  · split
    · refine (made_callValue parts frame _ _ (some place) _ position).bind fun _ => ?_
      exact ends _
    · refine (made_checkRaces _ place _).bind fun _ => ?_
      exact made_callNamed parts frame _ _ (some place) position

theorem made_callInModule (space name : String) (positions : List Nat)
    (start position : Position) :
    Made env (callInModule env space name positions start position) := by
  unfold callInModule
  dsimp only
  refine checks (by simp) start fun _ => ?_
  refine looking (fun _ _ => rfl) fun machine => ?_
  split
  · rename_i function found
    rw [FunctionRegistry.find?_modules] at found
    have known := FunctionRegistry.has_of_find? found
    split
    · exact @made_native env (.function function _) known positions position
    · exact made_noFunction _ _ position
  · exact made_noFunction _ _ position

end Run
end ScriptHost.Script
