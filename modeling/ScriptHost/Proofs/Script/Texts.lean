import ScriptHost.Proofs.Script.Runs
import ScriptHost.Script.Equality
import ScriptHost.Script.Rendering

/-!
Texts and equality of values keep a machine sound.

Functions of the host may be asked for them. A text or a comparison that comes about leaves all
positions as they were, so what the machine holds on to before it holds on to afterwards.
-/

set_option autoImplicit false

namespace ScriptHost.Script

theorem Native.mem_of_request? {native : Native} {values : List Value} {request : Call.Request}
    (found : native.request? values = some request) {value : Value}
    (member : value ∈ request.values) : value ∈ values := by
  unfold Native.request? at found
  split at found <;> cases found <;> exact member

namespace Run

open Machine Value

variable {env : Environment} {promised : Handle → TypeId → Prop} {earlier : Moment → Prop}
  {machine : Machine}

abbrev unmoved {α : Type} (machine : Machine) : α → Machine → Prop :=
  fun _ after => after.owned = machine.owned

theorem leads_requestText (sound : env.Safe promised earlier machine) {request : Call.Request}
    (held : ∀ value ∈ request.values, value.owned ≤ machine.owned) :
    Leads (env.Safe promised earlier) (requestText env request) (unmoved machine) machine := by
  unfold Leads requestText
  rcases sound.callNative held with
    ⟨value, store, leaf, called, answered⟩ | ⟨fault, store, called, failed⟩
  · dsimp only at called ⊢
    rw [called]
    exact ⟨answered.drop, Answered.owned_drop ⟨value, store, _, _, leaf, rfl⟩⟩
  · dsimp only at called ⊢
    rw [called]
    exact ⟨failed, rfl⟩

/-- The text of an instance that something refers to comes from the description of its type. -/
theorem objectText_eq {covenant : Covenant} (sound : machine.Sound covenant 0)
    {reference : Reference} (held : (Value.object reference).owned ≤ machine.owned) :
    ∃ resident descriptor, machine.store.heap.resident? reference.handle = some resident ∧
      covenant.types.types[reference.typeId]? = some descriptor ∧
      machine.objectText covenant.types reference =
        descriptor.render reference.handle resident.content.body := by
  have member : Holding.object reference ∈ 0 + machine.owned := by
    rw [zero_add]
    exact Multiset.mem_of_le held (Multiset.mem_singleton_self _)
  obtain ⟨resident, found, sameType⟩ := sound.accounts.resolved member
  obtain ⟨descriptor, registered, _⟩ := sound.accounts.typed found
  rw [sameType] at registered
  refine ⟨resident, descriptor, found, registered, ?_⟩
  unfold Machine.objectText
  rw [found, registered]

theorem leads_objectText (sound : env.Safe promised earlier machine) {reference : Reference}
    (held : (Value.object reference).owned ≤ machine.owned) :
    Leads (env.Safe promised earlier) (objectText env reference) (unmoved machine) machine := by
  apply Leads.get_bind
  have noted : env.Safe promised earlier (machine.record
      (.description reference (machine.objectText env.types reference))) := by
    refine sound.record ⟨fun value member => ?_, nofun, fun other text same => ?_⟩
    · rw [List.mem_singleton.mp member]
      exact holdings_subset held
    · injection same with sameReference sameText
      rw [← sameReference, ← sameText]
      exact objectText_eq sound held
  exact Leads.modify_bind (Leads.of_ok noted rfl)

theorem leads_leafText (sound : env.Safe promised earlier machine) (name : String)
    {value : Value} (held : value.owned ≤ machine.owned) :
    Leads (env.Safe promised earlier) (leafText env name value) (unmoved machine) machine := by
  unfold leafText
  split
  · exact Leads.of_ok sound rfl
  · split
    · exact Leads.of_ok sound rfl
    · exact leads_objectText sound held
    · split
      · rename_i request found
        refine (leads_requestText sound fun other member => ?_).bind fun _ after kept same => ?_
        · rw [List.mem_singleton.mp (Native.mem_of_request? found member)]
          exact held
        · exact Leads.of_ok kept same
      · exact Leads.of_ok sound rfl

mutual

theorem leads_textOf (name : String) (value : Value) {machine : Machine}
    (sound : env.Safe promised earlier machine) (held : value.owned ≤ machine.owned) :
    Leads (env.Safe promised earlier) (textOf env name value) (unmoved machine) machine := by
  match value with
  | .list ⟨items⟩ =>
      rw [owned_list] at held
      unfold textOf arrayTexts
      exact (leads_itemTexts items sound held).bind fun _ _ kept same => Leads.of_ok kept same
  | .table entries =>
      rw [owned_table] at held
      unfold textOf
      exact (leads_entryTexts entries sound held).bind fun _ _ kept same => Leads.of_ok kept same
  | .datum _ => exact leads_leafText sound name held
  | .object _ => exact leads_leafText sound name held
  | .function _ _ => exact leads_leafText sound name held
  | .shared _ => exact leads_leafText sound name held

theorem leads_itemTexts (items : List Value) {machine : Machine}
    (sound : env.Safe promised earlier machine) (held : ownedAll items ≤ machine.owned) :
    Leads (env.Safe promised earlier) (itemTexts env items) (unmoved machine) machine := by
  match items with
  | [] => exact Leads.of_ok sound rfl
  | item :: rest =>
      rw [ownedAll_cons] at held
      unfold itemTexts
      apply (leads_textOf "to_debug" item sound ((Multiset.le_add_right _ _).trans held)).bind
      intro text after kept same
      refine (leads_itemTexts rest kept ?_).bind fun _ last keptLast sameLast => ?_
      · rw [same]
        exact (Multiset.le_add_left _ _).trans held
      · exact Leads.of_ok keptLast (Eq.trans sameLast same)

theorem leads_entryTexts (entries : List (String × Value)) {machine : Machine}
    (sound : env.Safe promised earlier machine) (held : ownedEntries entries ≤ machine.owned) :
    Leads (env.Safe promised earlier) (entryTexts env entries) (unmoved machine) machine := by
  match entries with
  | [] => exact Leads.of_ok sound rfl
  | (name, value) :: rest =>
      rw [ownedEntries_cons] at held
      unfold entryTexts
      apply (leads_textOf "to_debug" value sound ((Multiset.le_add_right _ _).trans held)).bind
      intro text after kept same
      refine (leads_entryTexts rest kept ?_).bind fun _ last keptLast sameLast => ?_
      · rw [same]
        exact (Multiset.le_add_left _ _).trans held
      · exact Leads.of_ok keptLast (Eq.trans sameLast same)

end

theorem leads_display {value : Value} (sound : env.Safe promised earlier machine)
    (held : value.owned ≤ machine.owned) :
    Leads (env.Safe promised earlier) (display env value) (unmoved machine) machine := by
  unfold display
  split
  · exact Leads.of_ok sound rfl
  · exact leads_textOf "to_string" value sound held

theorem leads_sameLeaf {left right : Value} (position : Position)
    (sound : env.Safe promised earlier machine) (leftHeld : left.owned ≤ machine.owned)
    (rightHeld : right.owned ≤ machine.owned) :
    Leads (env.Safe promised earlier) (sameLeaf env position left right) (unmoved machine)
      machine := by
  unfold sameLeaf
  dsimp only
  split
  · rename_i request found
    obtain ⟨native, _, asked⟩ := Option.bind_eq_some_iff.mp found
    have held : ∀ value ∈ request.values, value.owned ≤ machine.owned := by
      intro value member
      rcases List.mem_pair.mp (Native.mem_of_request? asked member) with rfl | rfl
      · exact leftHeld
      · exact rightHeld
    apply (leads_native sound held [] position).bind
    intro _ after kept answered
    apply Leads.get_bind
    apply Leads.modify_bind
    have same := (answered rfl).owned_drop
    split
    · exact Leads.of_ok kept.drop same
    · exact Leads.of_ok kept.drop same
  · split
    · exact Leads.of_ok sound rfl
    · exact leads_fail sound _ position _

mutual

theorem leads_sameValue (position : Position) (left right : Value) {machine : Machine}
    (sound : env.Safe promised earlier machine) (leftHeld : left.owned ≤ machine.owned)
    (rightHeld : right.owned ≤ machine.owned) :
    Leads (env.Safe promised earlier) (sameValue env position left right) (unmoved machine)
      machine := by
  match left with
  | .list ⟨items⟩ =>
      unfold sameValue
      split
      · rename_i given others same
        injection same with itemsEq
        subst itemsEq
        rw [owned_list] at leftHeld rightHeld
        split
        · unfold sameArray
          exact leads_sameItems position items others.toList sound leftHeld rightHeld
        · exact Leads.of_ok sound rfl
      · rename_i other
        cases other
      · exact leads_sameLeaf position sound leftHeld rightHeld
  | .table entries =>
      unfold sameValue
      split
      · rename_i other
        cases other
      · rename_i given others same
        injection same with entriesEq
        subst entriesEq
        rw [owned_table] at leftHeld rightHeld
        split
        · exact leads_sameEntries position entries others sound leftHeld rightHeld
        · exact Leads.of_ok sound rfl
      · exact leads_sameLeaf position sound leftHeld rightHeld
  | .datum _ =>
      unfold sameValue
      exact leads_sameLeaf position sound leftHeld rightHeld
  | .object _ =>
      unfold sameValue
      exact leads_sameLeaf position sound leftHeld rightHeld
  | .function _ _ =>
      unfold sameValue
      exact leads_sameLeaf position sound leftHeld rightHeld
  | .shared _ =>
      unfold sameValue
      exact leads_sameLeaf position sound leftHeld rightHeld

theorem leads_sameItems (position : Position) (items others : List Value) {machine : Machine}
    (sound : env.Safe promised earlier machine) (held : ownedAll items ≤ machine.owned)
    (othersHeld : ownedAll others ≤ machine.owned) :
    Leads (env.Safe promised earlier) (sameItems env position others items) (unmoved machine)
      machine := by
  match items with
  | [] =>
      unfold sameItems
      exact Leads.of_ok sound rfl
  | item :: rest =>
      unfold sameItems
      cases others with
      | nil => exact Leads.of_ok sound rfl
      | cons other others =>
          rw [ownedAll_cons] at held othersHeld
          refine (leads_sameValue position item other sound
            ((Multiset.le_add_right _ _).trans held)
            ((Multiset.le_add_right _ _).trans othersHeld)).bind fun equal after kept same => ?_
          cases equal with
          | false => exact Leads.of_ok kept same
          | true =>
              refine (leads_sameItems position rest others kept ?_ ?_).mono
                fun _ _ _ sameLast => Eq.trans sameLast same
              · rw [same]
                exact (Multiset.le_add_left _ _).trans held
              · rw [same]
                exact (Multiset.le_add_left _ _).trans othersHeld

theorem leads_sameEntries (position : Position) (entries others : List (String × Value))
    {machine : Machine} (sound : env.Safe promised earlier machine)
    (held : ownedEntries entries ≤ machine.owned)
    (othersHeld : ownedEntries others ≤ machine.owned) :
    Leads (env.Safe promised earlier) (sameEntries env position others entries)
      (unmoved machine) machine := by
  match entries with
  | [] =>
      unfold sameEntries
      exact Leads.of_ok sound rfl
  | (name, value) :: rest =>
      unfold sameEntries
      cases found : others.lookup name with
      | none => exact Leads.of_ok sound rfl
      | some other =>
          rw [ownedEntries_cons] at held
          refine (leads_sameValue position value other sound
            ((Multiset.le_add_right _ _).trans held)
            ((owned_lookup_le found).trans othersHeld)).bind fun equal after kept same => ?_
          cases equal with
          | false => exact Leads.of_ok kept same
          | true =>
              refine (leads_sameEntries position rest others kept ?_ ?_).mono
                fun _ _ _ sameLast => Eq.trans sameLast same
              · rw [same]
                exact (Multiset.le_add_left _ _).trans held
              · rw [same]
                exact othersHeld

end

end Run
end ScriptHost.Script
