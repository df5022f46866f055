/-!
Invariants of computations with a state.

A computation leads to a condition if it keeps an invariant, whether it gives a result or fails, and
what it gives meets the condition. What a computation leads to follows from what its parts lead to,
in the state that each of them begins in.
-/

set_option autoImplicit false

namespace ScriptHost

variable {ε σ α β : Type} {inv : σ → Prop} {state : σ}

theorem bind_apply (work : EStateM ε σ α) (rest : α → EStateM ε σ β) (state : σ) :
    (work >>= rest) state =
      match work state with
      | .ok result after => rest result after
      | .error fault after => .error fault after := by
  change EStateM.bind work rest state = _
  unfold EStateM.bind
  rfl

theorem get_bind_apply (rest : σ → EStateM ε σ β) (state : σ) :
    (get >>= rest) state = rest state state :=
  rfl

/-- The invariant holds afterwards in any case, and a result meets the condition. -/
def Leads (inv : σ → Prop) (work : EStateM ε σ α) (post : α → σ → Prop) (state : σ) : Prop :=
  match work state with
  | .ok result after => inv after ∧ post result after
  | .error _ after => inv after

def Keeps (inv : σ → Prop) (work : EStateM ε σ α) : Prop :=
  ∀ state, inv state → Leads inv work (fun _ _ => True) state

namespace Leads

variable {work : EStateM ε σ α} {rest : α → EStateM ε σ β} {post : α → σ → Prop}
  {final : β → σ → Prop}

theorem of_ok (kept : inv state) {result : α} (meets : post result state) :
    Leads inv (pure result : EStateM ε σ α) post state :=
  ⟨kept, meets⟩

theorem of_error (kept : inv state) (fault : ε) :
    Leads inv (throw fault : EStateM ε σ α) post state :=
  kept

theorem mono {weaker : α → σ → Prop} (leads : Leads inv work post state)
    (weaken : ∀ result after, inv after → post result after → weaker result after) :
    Leads inv work weaker state := by
  unfold Leads at leads ⊢
  cases ended : work state with
  | ok result after =>
      rw [ended] at leads
      exact ⟨leads.1, weaken result after leads.1 leads.2⟩
  | error fault after =>
      rw [ended] at leads
      exact leads

theorem bind (first : Leads inv work post state)
    (later : ∀ result after, inv after → post result after →
      Leads inv (rest result) final after) : Leads inv (work >>= rest) final state := by
  unfold Leads at first ⊢
  rw [bind_apply]
  cases ended : work state with
  | ok result after =>
      rw [ended] at first
      exact later result after first.1 first.2
  | error fault after =>
      rw [ended] at first
      exact first

theorem outcome {whole : EStateM ε σ β} (part : Leads inv work post state)
    (ended : ∀ result after, work state = .ok result after → inv after → post result after →
      Leads inv whole final state)
    (failed : ∀ fault after, work state = .error fault after → inv after →
      Leads inv whole final state) : Leads inv whole final state := by
  unfold Leads at part
  cases found : work state with
  | ok result after =>
      rw [found] at part
      exact ended result after found part.1 part.2
  | error fault after =>
      rw [found] at part
      exact failed fault after found part

theorem get_bind {rest : σ → EStateM ε σ β} (later : Leads inv (rest state) final state) :
    Leads inv (get >>= rest) final state :=
  later

theorem of_modify {change : σ → σ} {final : PUnit → σ → Prop} (kept : inv (change state))
    (meets : final ⟨⟩ (change state)) :
    Leads inv (modify change : EStateM ε σ PUnit) final state :=
  ⟨kept, meets⟩

theorem modify_bind {change : σ → σ} {rest : PUnit → EStateM ε σ β}
    (later : Leads inv (rest ⟨⟩) final (change state)) :
    Leads inv (modify change >>= rest) final state :=
  later

theorem modifyGet_bind {change : σ → α × σ}
    (later : Leads inv (rest (change state).1) final (change state).2) :
    Leads inv (modifyGet change >>= rest) final state :=
  later

theorem map {change : α → β} (first : Leads inv work (fun result => final (change result)) state) :
    Leads inv (change <$> work) final state :=
  bind first fun _ _ kept meets => of_ok kept meets

theorem forM {items : List β} {step : β → EStateM ε σ PUnit}
    (each : ∀ item ∈ items, Keeps inv (step item)) (kept : inv state) :
    Leads inv (items.forM step) (fun _ _ => True) state := by
  induction items generalizing state with
  | nil => exact of_ok kept trivial
  | cons item rest ih =>
      apply bind (each item List.mem_cons_self state kept)
      intro _ after keptAfter _
      exact ih (fun other member => each other (List.mem_cons_of_mem _ member)) keptAfter

end Leads

namespace Keeps

variable {work : EStateM ε σ α} {rest : α → EStateM ε σ β}

theorem bind (first : Keeps inv work) (later : ∀ result, Keeps inv (rest result)) :
    Keeps inv (work >>= rest) := fun state kept =>
  (first state kept).bind fun result after keptAfter _ => later result after keptAfter

theorem checked {condition : Prop} [Decidable condition] {check : EStateM ε σ β}
    (checks : Keeps inv check) (works : Keeps inv work) :
    Keeps inv (if condition then check >>= fun _ => work else work) := by
  split
  · exact checks.bind fun _ => works
  · exact works

theorem of_ok (result : α) : Keeps inv (pure result : EStateM ε σ α) := fun _ kept =>
  Leads.of_ok kept trivial

theorem of_error (fault : ε) : Keeps inv (throw fault : EStateM ε σ α) := fun _ kept =>
  Leads.of_error kept fault

theorem of_modify {change : σ → σ} (kept : ∀ state, inv state → inv (change state)) :
    Keeps inv (modify change : EStateM ε σ PUnit) := fun state holds =>
  Leads.of_modify (kept state holds) trivial

end Keeps

def changed (change : σ → σ) : EStateM.Result ε σ α → EStateM.Result ε σ α
  | .ok result state => .ok result (change state)
  | .error fault state => .error fault (change state)

/-- It makes no difference whether the state is changed before the computation or after it. -/
def Commutes (change : σ → σ) (work : EStateM ε σ α) : Prop :=
  ∀ state, work (change state) = changed change (work state)

namespace Commutes

variable {change : σ → σ} {work : EStateM ε σ α} {rest : α → EStateM ε σ β}

theorem of_ok (result : α) : Commutes change (pure result : EStateM ε σ α) := fun _ => rfl

theorem of_error (fault : ε) : Commutes change (throw fault : EStateM ε σ α) := fun _ => rfl

theorem bind (first : Commutes change work) (later : ∀ result, Commutes change (rest result)) :
    Commutes change (work >>= rest) := by
  intro state
  rw [bind_apply, bind_apply, first state]
  cases work state with
  | ok result after => exact later result after
  | error fault after => rfl

/-- What comes after a look at the state must not depend on the change. -/
theorem get_bind {rest : σ → EStateM ε σ β} (same : ∀ state, rest (change state) = rest state)
    (later : ∀ state, Commutes change (rest state)) : Commutes change (get >>= rest) := by
  intro state
  have looked : (get >>= rest) (change state) = rest (change state) (change state) := rfl
  rw [looked, same]
  exact later state state

theorem of_modify {move : σ → σ} (same : ∀ state, move (change state) = change (move state)) :
    Commutes change (modify move : EStateM ε σ PUnit) := fun state =>
  congrArg (EStateM.Result.ok PUnit.unit) (same state)

theorem of_modifyGet {step : σ → α × σ}
    (same : ∀ state, step (change state) = ((step state).1, change (step state).2)) :
    Commutes change (modifyGet step : EStateM ε σ α) := fun state =>
  congrArg (fun stepped : α × σ => EStateM.Result.ok stepped.1 stepped.2) (same state)

theorem forM {items : List β} {step : β → EStateM ε σ PUnit}
    (each : ∀ item, Commutes change (step item)) : Commutes change (items.forM step) := by
  induction items with
  | nil => exact of_ok _
  | cons item rest ih => exact (each item).bind fun _ => ih

end Commutes
end ScriptHost
