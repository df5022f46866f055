import ScriptHost.Proofs.Script.Calling
import ScriptHost.Script.Chain

/-!
Chains keep a machine sound.

Wherever a walk along a chain ends, the members that it has borrowed from instances are operands of
their own, and what is assigned is an operand until it is moved.
-/

set_option autoImplicit false

namespace ScriptHost.Script.Run

open Machine Value

variable {env : Environment} {promised : Handle → TypeId → Prop} {earlier : Moment → Prop}
  {machine : Machine} {self : Evaluator}

theorem newOperand_keeps {covenant : Covenant} : Keeps (Machine.Sound covenant 0) newOperand :=
  fun _ sound => Leads.get_bind (Leads.of_ok sound trivial)

theorem leads_readMember (sound : env.Safe promised earlier machine) {place : Place}
    {reference : Reference} (found : machine.valueAt place = .object reference) (name : String)
    (position : Position) :
    Leads (env.Safe promised earlier) (native env (.read reference name) [] position) anything
      machine := by
  refine (leads_native sound (fun value member => ?_) [] position).mono fun _ _ _ _ => trivial
  rw [List.mem_singleton.mp member, ← found]
  exact owned_valueAt_le machine place

theorem toProperty_keeps (place : Place) (name : String) (position : Position) :
    Keeps (env.Safe promised earlier) (toProperty env place name position) := by
  intro machine sound
  apply Leads.get_bind
  split
  · split
    · exact Leads.of_ok sound trivial
    · exact leads_fail sound _ position _
  · rename_i reference found
    split
    · exact (leads_readMember sound found name position).bind fun _ after kept _ =>
        newOperand_keeps after kept
    · exact leads_fail sound _ position _
  · split
    · exact (push_keeps _ _ sound).bind fun _ after kept _ => newOperand_keeps after kept
    · exact leads_fail sound _ position _

theorem toItem_keeps {covenant : Covenant} (place : Place) (key : Value)
    (keyPosition position : Position) :
    Keeps (Machine.Sound covenant 0) (toItem place key keyPosition position) := by
  intro machine sound
  apply Leads.get_bind
  split
  · split
    · exact Leads.of_ok sound trivial
    · exact leads_fail sound _ keyPosition _
  · split
    · exact Leads.of_ok sound trivial
    · exact leads_fail sound _ keyPosition _
  · split
    · exact (push_keeps _ _ sound).bind fun _ after kept _ => newOperand_keeps after kept
    · exact leads_fail sound _ keyPosition _
  · split
    · exact (push_keeps _ _ sound).bind fun _ after kept _ => newOperand_keeps after kept
    · exact leads_fail sound _ keyPosition _
  · exact leads_fail sound _ keyPosition _
  · exact leads_fail sound _ keyPosition _
  · exact leads_fail sound _ keyPosition _
  · exact leads_fail sound _ keyPosition _
  · exact leads_fail sound _ position _

theorem leads_newValue (assignment : Assignment) {old : Run Unit}
    (before : Leads (env.Safe promised earlier) old anything machine)
    (sound : env.Safe promised earlier machine) :
    Leads (env.Safe promised earlier) (newValue env assignment old) anything machine := by
  unfold newValue
  split
  · exact Leads.of_modify (sound.raise _) trivial
  · rename_i operation _
    apply before.bind
    intro _ after kept _
    exact change_keeps operation _ _ _ after kept

theorem assignPlace_keeps (assignment : Assignment) (place : Place) :
    Keeps (env.Safe promised earlier) (assignPlace env assignment place) := by
  intro machine sound
  unfold assignPlace
  split
  · exact Leads.modify_bind (Leads.of_modify ((sound.raise _).assign place) trivial)
  · exact change_keeps _ place _ _ machine sound

theorem writeMember_keeps (owner : Place) (name : String) (value : Nat) (position : Position) :
    Keeps (env.Safe promised earlier) (writeMember env owner name value position) := by
  intro machine sound
  apply Leads.get_bind
  apply Leads.get_bind
  split
  · rename_i reference found
    split
    · apply Leads.get_bind
      apply leads_refuse sound rfl
      intro _
      refine (leads_native sound (fun other member => ?_) [value] position).bind
        fun _ after kept _ => drop_keeps _ kept
      rcases List.mem_pair.mp member with rfl | rfl
      · rw [← found]
        exact owned_valueAt_le machine owner
      · exact owned_operand machine value
    · exact leads_fail sound _ position _
  · exact leads_fail sound _ position _

theorem refuseConstant_keeps {covenant : Covenant} (place : Place) (assignment : Assignment) :
    Keeps (Machine.Sound covenant 0) (refuseConstant place assignment) := by
  intro machine sound
  apply Leads.get_bind
  exact (leads_check sound _ _).mono fun _ _ _ _ => trivial

theorem refuseEntry_keeps {covenant : Covenant} (place : Place) (name : String)
    (assignment : Assignment) :
    Keeps (Machine.Sound covenant 0) (refuseEntry place name assignment) := by
  intro machine sound
  apply Leads.get_bind
  split
  · split
    · exact refuseConstant_keeps place assignment machine sound
    · exact Leads.of_ok sound trivial
  · exact Leads.of_ok sound trivial

theorem assignEntry_keeps (assignment : Assignment) (place : Place) (name : String) :
    Keeps (env.Safe promised earlier) (assignEntry env assignment place name) := by
  intro machine sound
  apply (refuseEntry_keeps place name assignment machine sound).bind
  intro _ after kept _
  apply Leads.get_bind
  split
  · apply (push_keeps _ _ kept).bind
    intro _ pushed keptPushed _
    exact Leads.modify_bind (assignPlace_keeps assignment _ _ (keptPushed.assignEntry place name))
  · exact Leads.modify_bind (Leads.of_modify ((kept.raise _).assignEntry place name) trivial)
  · exact assignPlace_keeps assignment _ after kept

theorem assignProperty_keeps (assignment : Assignment) (place : Place) (name : String)
    (position : Position) :
    Keeps (env.Safe promised earlier) (assignProperty env assignment place name position) := by
  intro machine sound
  apply Leads.get_bind
  split
  · apply (assignEntry_keeps assignment place name machine sound).bind
    intro _ after kept _
    exact checkPlace_keeps place _ after kept
  · rename_i reference found
    refine (leads_newValue assignment ?_ sound).bind fun _ after kept _ => ?_
    · split
      · exact leads_readMember sound found name position
      · exact leads_fail sound _ position _
    · apply Leads.get_bind
      apply (writeMember_keeps place name _ position after kept).bind
      intro _ last keptLast _
      exact drop_keeps _ keptLast
  · exact leads_refuse sound rfl fun _ => writeMember_keeps place name _ position machine sound

theorem assignLetter_keeps (assignment : Assignment) (place : Place) (text : String)
    (index : Nat) :
    Keeps (env.Safe promised earlier) (assignLetter env assignment place text index) := by
  intro machine sound
  apply (leads_newValue assignment (push_keeps _ _ sound) sound).bind
  intro _ after kept _
  apply Leads.get_bind
  split
  · apply Leads.modify_bind
    apply (push_keeps _ _ kept.drop).bind
    intro _ last keptLast _
    exact Leads.of_modify (keptLast.assign place) trivial
  · exact leads_fail kept _ _ _

theorem assignBit_keeps (assignment : Assignment) (place : Place) (number : Int64) (bit : Nat) :
    Keeps (env.Safe promised earlier) (assignBit env assignment place number bit) := by
  intro machine sound
  apply (leads_newValue assignment (push_keeps _ _ sound) sound).bind
  intro _ after kept _
  apply Leads.get_bind
  split
  · apply Leads.modify_bind
    apply (push_keeps _ _ kept.drop).bind
    intro _ last keptLast _
    exact Leads.of_modify (keptLast.assign place) trivial
  · exact leads_fail kept _ _ _

theorem assignItem_keeps (assignment : Assignment) (place : Place) (key : Value)
    (keyPosition position : Position) :
    Keeps (env.Safe promised earlier)
      (assignItem env assignment place key keyPosition position) := by
  intro machine sound
  have walking : Leads (env.Safe promised earlier)
      (do
        let target ← toItem place key keyPosition position
        refuseConstant place assignment
        assignPlace env assignment target) anything machine := by
    apply (toItem_keeps place key keyPosition position machine sound).bind
    intro target after kept _
    apply (refuseConstant_keeps place assignment after kept).bind
    intro _ last keptLast _
    exact assignPlace_keeps assignment target last keptLast
  apply Leads.get_bind
  apply Leads.get_bind
  split
  · exact assignEntry_keeps assignment place _ machine sound
  · split
    · exact assignLetter_keeps assignment place _ _ machine sound
    · exact leads_fail sound _ keyPosition _
  · split
    · exact assignBit_keeps assignment place _ _ machine sound
    · exact leads_fail sound _ keyPosition _
  · exact walking
  · exact walking
  · exact walking
  · exact walking
  · split
    · exact leads_fail sound _ position _
    · exact leads_fail sound _ position _

theorem prepare_keeps {covenant : Covenant} (keeps : Preserving (Machine.Sound covenant 0) self)
    (frame : Frame) (links : List Link) :
    Keeps (Machine.Sound covenant 0) (prepare self frame links) := by
  induction links with
  | nil => exact Keeps.of_ok _
  | cons link rest ih =>
      intro machine sound
      have later : Keeps (Machine.Sound covenant 0)
          (do
            let count := (← mark) - machine.operands.size
            let positions := (List.range count).map fun offset => machine.operands.size + offset
            let rest ← prepare self frame rest
            return (link, positions) :: rest) := fun _ kept =>
        Leads.get_bind ((ih _ kept).bind fun _ _ keptRest _ => Leads.of_ok keptRest trivial)
      apply Leads.get_bind
      dsimp only
      split
      · exact later machine sound
      · exact (keeps frame _ machine sound).bind fun _ after kept _ => later after kept
      · exact (Leads.forM (fun item _ => keeps frame item) sound).bind
          fun _ after kept _ => later after kept

theorem giveBack_keeps (borrowed : List Borrowed) :
    Keeps (env.Safe promised earlier) (giveBack env borrowed) := by
  induction borrowed with
  | nil => exact Keeps.of_ok _
  | cons first rest ih =>
      exact (writeMember_keeps first.owner first.name first.position first.source).bind fun _ => ih

theorem walk_keeps (keeps : Preserving (env.Safe promised earlier) self) (frame : Frame)
    (assignment? : Option Assignment) (prepared : List Prepared) (place : Place)
    (borrowed : List Borrowed) :
    Keeps (env.Safe promised earlier)
      (walk env self frame assignment? prepared place borrowed) := by
  have assigned : ∀ {work : Run Unit} borrowed, Keeps (env.Safe promised earlier) work →
      Keeps (env.Safe promised earlier) (do work; giveBack env borrowed; push .unit) :=
    fun borrowed first => first.bind fun _ => (giveBack_keeps borrowed).bind fun _ => push_keeps _
  induction prepared generalizing place borrowed with
  | nil => exact Keeps.of_modify fun _ sound => sound.copy place
  | cons step rest ih =>
      obtain ⟨link, positions⟩ := step
      intro machine sound
      unfold walk
      cases link with
      | property name position =>
          dsimp only
          split
          · exact assigned borrowed (assignProperty_keeps _ place name position) machine sound
          · apply Leads.get_bind
            apply (toProperty_keeps place name position machine sound).bind
            intro next after kept _
            exact ih _ _ after kept
      | index key position =>
          apply Leads.get_bind
          split
          · exact assigned borrowed (assignItem_keeps _ place _ _ position) machine sound
          · apply (toItem_keeps place _ _ position machine sound).bind
            intro next after kept _
            exact ih _ _ after kept
      | method name arguments position =>
          dsimp only
          refine (leads_givingUp (callMethod_keeps keeps frame name place positions _ position
            machine sound)).bind fun changed after kept _ => ?_
          split
          · split
            · exact giveBack_keeps borrowed after kept
            · exact Leads.of_ok kept trivial
          · apply Leads.get_bind
            exact ih _ _ after kept

theorem rootPlace_keeps (keeps : Preserving (env.Safe promised earlier) self) (frame : Frame)
    (root : Term) : Keeps (env.Safe promised earlier) (rootPlace env self frame root) := by
  intro machine sound
  unfold rootPlace
  split
  · apply Leads.get_bind
    split
    · exact Leads.of_ok sound trivial
    · split
      · exact Leads.modify_bind (newOperand_keeps _ (sound.makeFunction _ (Multiset.zero_le _)))
      · exact leads_fail sound _ _ _
  · split
    · exact Leads.of_ok sound trivial
    · exact leads_fail sound _ _ _
  · exact (keeps frame _ machine sound).bind fun _ after kept _ => newOperand_keeps after kept

theorem chain_keeps (keeps : Preserving (env.Safe promised earlier) self) (frame : Frame)
    (assignment? : Option Assignment) (root : Term) (links : List Link) :
    Keeps (env.Safe promised earlier) (chain env self frame assignment? root links) := by
  intro machine sound
  apply Leads.get_bind
  apply (leads_gathering (prepare_keeps keeps frame links machine sound)).bind
  intro prepared after kept _
  apply Leads.get_bind
  have walked : Leads (env.Safe promised earlier)
      (do
        let place ← rootPlace env self frame root
        walk env self frame assignment? prepared place []) anything after :=
    (rootPlace_keeps keeps frame root after kept).bind fun place _ keptRoot _ =>
      walk_keeps keeps frame assignment? prepared place [] _ keptRoot
  exact (leads_gatheringFrom walked).bind fun _ _ keptWalk _ => keepTop_keeps _ _ keptWalk

end ScriptHost.Script.Run
