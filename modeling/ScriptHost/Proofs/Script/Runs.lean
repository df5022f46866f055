import ScriptHost.Proofs.Script.Exchange
import ScriptHost.Script.Run

/-!
Runs keep a machine sound.

Whatever a run does, and wherever it halts, references and shared variables are counted exactly
afterwards. Requests of the host need values that the machine holds on to.
-/

set_option autoImplicit false

namespace ScriptHost.Script

open Machine

/-- Machines that are sound in an environment, with nothing in hand. -/
abbrev Environment.Safe (env : Environment) (promised : Handle → TypeId → Prop)
    (earlier : Moment → Prop) : Machine → Prop :=
  Machine.Sound ⟨env.types, promised, earlier⟩ 0

namespace Run

variable {α β : Type} {env : Environment} {promised : Handle → TypeId → Prop}
  {earlier : Moment → Prop} {covenant : Covenant} {machine : Machine}

abbrev anything : α → Machine → Prop := fun _ _ => True

theorem leads_fail (sound : machine.Sound covenant 0) (problem : Problem) (position : Position)
    (post : α → Machine → Prop) :
    Leads (Machine.Sound covenant 0) (fail problem position) post machine :=
  sound.recordPlain (.inr rfl)

theorem leads_refuse {condition : Prop} [Decidable condition] {problem : Problem}
    {position : Position} {refused : Run α} {rest : α → Run β} {work : Run β}
    {final : β → Machine → Prop} (sound : machine.Sound covenant 0)
    (failing : refused = fail problem position)
    (later : ¬ condition → Leads (Machine.Sound covenant 0) work final machine) :
    Leads (Machine.Sound covenant 0) (if condition then refused >>= rest else work) final
      machine := by
  split
  · rw [failing]
    exact (leads_fail sound problem position fun _ _ => False).bind fun _ _ _ wrong => wrong.elim
  · rename_i passed
    exact later passed

theorem leads_check {condition : Prop} [Decidable condition] (sound : machine.Sound covenant 0)
    (problem : Problem) (position : Position) :
    Leads (Machine.Sound covenant 0)
      (if condition then fail problem position else pure PUnit.unit)
      (fun _ after => after = machine) machine := by
  split
  · exact leads_fail sound problem position _
  · exact Leads.of_ok sound rfl

theorem tick_keeps (position : Position) :
    Keeps (Machine.Sound covenant 0) (tick env position) := by
  intro machine sound
  have noted : (machine.record .evaluation).Sound covenant 0 :=
    sound.recordPlain (.inl rfl)
  have counted : Machine.Sound covenant 0 { machine.record .evaluation with
      operations := (machine.record .evaluation).operations + 1 } :=
    noted.shift rfl rfl rfl rfl
  exact (leads_check counted _ position).mono fun _ _ _ _ => trivial

theorem leads_checkExtent (sound : machine.Sound covenant 0) (extent : Extent)
    (position : Position) :
    Leads (Machine.Sound covenant 0) (checkExtent env extent position)
      (fun _ after => after = machine) machine := by
  apply leads_refuse sound rfl
  intro _
  apply leads_refuse sound rfl
  intro _
  exact leads_check sound _ _

theorem leads_checkTop (sound : machine.Sound covenant 0) (position : Position) :
    Leads (Machine.Sound covenant 0) (checkTop env position)
      (fun _ after => after = machine) machine :=
  leads_checkExtent sound _ position

theorem leads_checkPlace (sound : machine.Sound covenant 0) (place : Place)
    (position : Position) :
    Leads (Machine.Sound covenant 0) (checkPlace env place position)
      (fun _ after => after = machine) machine :=
  leads_checkExtent sound _ position

theorem push_keeps (datum : Datum) : Keeps (Machine.Sound covenant 0) (push datum) :=
  Keeps.of_modify fun _ sound => sound.push datum

theorem keepTop_keeps (size : Nat) : Keeps (Machine.Sound covenant 0) (keepTop size) :=
  Keeps.of_modify fun _ sound => sound.keepTop size

theorem drop_keeps : Keeps (Machine.Sound covenant 0) (modify Machine.drop : Run PUnit) :=
  Keeps.of_modify fun _ sound => sound.drop

def Answered (machine after : Machine) : Prop :=
  ∃ value store history asked, value.IsLeaf ∧
    after = { machine with
      store := store
      operands := machine.operands.push value
      history := history
      asked := asked }

theorem Answered.owned_drop {after : Machine} (answered : Answered machine after) :
    after.drop.owned = machine.owned := by
  obtain ⟨value, store, history, asked, leaf, rfl⟩ := answered
  unfold Machine.drop
  simp only [Array.back?_push, Option.getD_some, Array.pop_push]
  obtain ⟨rest, released⟩ := release_leaf leaf { machine with
    store := store
    history := history
    asked := asked }
  rw [released]
  rfl

theorem leads_native (sound : env.Safe promised earlier machine) {request : Call.Request}
    (held : ∀ value ∈ request.values, value.owned ≤ machine.owned) (used : List Nat)
    (position : Position) :
    Leads (env.Safe promised earlier) (native env request used position)
      (fun _ after => used = [] → Answered machine after) machine := by
  apply Leads.modifyGet_bind
  rcases sound.callNative held with
    ⟨value, store, leaf, called, answered⟩ | ⟨fault, store, called, failed⟩
  · dsimp only at called ⊢
    rw [called]
    apply (leads_checkTop (answered.spendAll used) position).mono
    intro _ after _ same
    rintro rfl
    exact ⟨value, store, _, _, leaf, same⟩
  · dsimp only at called ⊢
    rw [called]
    have thrown := (failed.spendAll used).throwDatum (.fault fault)
    exact Leads.modify_bind (leads_fail thrown .thrown position _)

theorem leads_enclosed {inner : Run Unit}
    (inside : Leads (Machine.Sound covenant 0) inner anything machine) :
    Leads (Machine.Sound covenant 0) (enclosed inner) anything machine := by
  refine inside.outcome (fun _ after ended kept _ => ?_) fun halt after halted kept => ?_
  · unfold Leads enclosed
    dsimp only
    rw [ended]
    exact ⟨(kept.keepTop _).forgetTo _, trivial⟩
  · unfold Leads enclosed
    dsimp only
    rw [halted]
    dsimp only
    split
    · exact (kept.keepTop _).forgetTo _
    · exact (kept.dropTo _).forgetTo _

theorem leads_givingUp {positions : List Nat} {inner : Run α} {post : α → Machine → Prop}
    (inside : Leads (Machine.Sound covenant 0) inner post machine) :
    Leads (Machine.Sound covenant 0) (givingUp positions inner) post machine := by
  refine inside.outcome (fun _ after ended kept meets => ?_) fun halt after halted kept => ?_
  · unfold Leads givingUp
    rw [ended]
    exact ⟨kept, meets⟩
  · unfold Leads givingUp
    rw [halted]
    exact kept.spendAll positions

theorem leads_gatheringFrom {before : Nat} {order : Nat → List Nat} {inner : Run α}
    {post : α → Machine → Prop} (inside : Leads (Machine.Sound covenant 0) inner post machine) :
    Leads (Machine.Sound covenant 0) (gatheringFrom before order inner) post machine := by
  refine inside.outcome (fun _ after ended kept meets => ?_) fun halt after halted kept => ?_
  · unfold Leads gatheringFrom
    rw [ended]
    exact ⟨kept, meets⟩
  · unfold Leads gatheringFrom
    rw [halted]
    exact kept.spendAll _

theorem leads_gathering {order : Nat → List Nat} {inner : Run α} {post : α → Machine → Prop}
    (inside : Leads (Machine.Sound covenant 0) inner post machine) :
    Leads (Machine.Sound covenant 0) (gathering order inner) post machine :=
  leads_gatheringFrom inside

theorem leads_spendingAfter {position : Nat} {inner : Run α}
    (inside : Leads (Machine.Sound covenant 0) inner anything machine) :
    Leads (Machine.Sound covenant 0) (spendingAfter position inner) anything machine := by
  refine inside.outcome (fun _ after ended kept _ => ?_) fun halt after halted kept => ?_
  · unfold Leads spendingAfter
    rw [ended]
    exact ⟨kept.spend position, trivial⟩
  · unfold Leads spendingAfter
    rw [halted]
    exact kept.spend position

theorem turn_keeps {body : Run Unit} (keeps : Keeps (Machine.Sound covenant 0) body) :
    Keeps (Machine.Sound covenant 0) (turn body) := by
  intro machine sound
  refine (keeps machine sound).outcome (fun _ after ended kept _ => ?_)
    fun halt after halted kept => ?_
  · unfold Leads turn
    dsimp only
    rw [ended]
    exact ⟨kept.dropTo _, trivial⟩
  · unfold Leads turn
    dsimp only
    rw [halted]
    cases halt with
    | continuing => exact ⟨kept.dropTo _, trivial⟩
    | breaking => exact ⟨kept.keepTop _, trivial⟩
    | returning => exact kept
    | raised failure => exact kept

theorem repeatWhile_keeps {again : Run Bool} (keeps : Keeps (Machine.Sound covenant 0) again)
    (position : Position) (fuel : Nat) :
    Keeps (Machine.Sound covenant 0) (repeatWhile position fuel again) := by
  induction fuel with
  | zero => exact fun _ sound => leads_fail sound _ position _
  | succ fuel ih =>
      apply keeps.bind
      intro goes
      cases goes with
      | true => exact ih
      | false => exact Keeps.of_ok _

end Run
end ScriptHost.Script
