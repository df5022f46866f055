import Mathlib.Data.List.Sort
import ScriptHost.Proofs.Native.Admission

/-!
Which of several constructors makes a new instance.

A type may have any number of constructors, and they may overlap. The first one that takes the
arguments makes the instance. Arguments that none of them takes are refused for their number, if no
constructor has as many parameters, and otherwise for the first argument that does not suit the
first constructor with the right number. There is no other way to be refused.
-/

set_option autoImplicit false

namespace ScriptHost

/-- As many values as kinds, each of them accepted at its place. -/
def Accept : List Kind → List HostValue → Prop :=
  List.Forall₂ fun kind value => kind.accepts value.kind = true

/-- The first value that is not accepted at its place. -/
def Rejects (kinds : List Kind) (values : List HostValue) (expected : Kind)
    (rejected : HostValue) : Prop :=
  ∃ passedKinds passed laterKinds later,
    kinds = passedKinds ++ expected :: laterKinds ∧ values = passed ++ rejected :: later ∧
      Accept passedKinds passed ∧ expected.accepts rejected.kind = false

theorem Accept.length_eq {kinds : List Kind} {values : List HostValue}
    (accept : Accept kinds values) : kinds.length = values.length :=
  List.Forall₂.length_eq accept

theorem expectKind_eq (value : HostValue) (kind : Kind) :
    value.expectKind kind = if kind.accepts value.kind = true then .ok ()
      else .error (.typeMismatch kind value.kind.name) :=
  rfl

theorem checkKinds_of_accept {kinds : List Kind} {values : List HostValue}
    (accept : Accept kinds values) : checkKinds kinds values = .ok () := by
  induction accept with
  | nil => rfl
  | cons accepted _ ih =>
      unfold checkKinds
      rw [expectKind_eq, if_pos accepted]
      exact ih

theorem checkKinds_of_rejects {kinds : List Kind} {values : List HostValue} {expected : Kind}
    {rejected : HostValue} (rejects : Rejects kinds values expected rejected) :
    checkKinds kinds values = .error (.typeMismatch expected rejected.kind.name) := by
  obtain ⟨passedKinds, passed, laterKinds, later, rfl, rfl, accept, refused⟩ := rejects
  induction accept with
  | nil =>
      change rejected.expectKind expected >>= _ = _
      rw [expectKind_eq, if_neg (Bool.eq_false_iff.mp refused)]
      rfl
  | cons accepted _ ih =>
      change HostValue.expectKind _ _ >>= _ = _
      rw [expectKind_eq, if_pos accepted]
      exact ih

theorem accept_or_rejects {kinds : List Kind} {values : List HostValue}
    (same : kinds.length = values.length) :
    Accept kinds values ∨ ∃ expected rejected, Rejects kinds values expected rejected := by
  induction kinds generalizing values with
  | nil =>
      rw [List.length_nil] at same
      rw [List.eq_nil_of_length_eq_zero same.symm]
      exact .inl .nil
  | cons kind kinds ih =>
      obtain ⟨value, values, rfl⟩ := List.exists_cons_of_length_eq_add_one same.symm
      cases accepted : kind.accepts value.kind with
      | false => exact .inr ⟨kind, value, [], [], kinds, values, rfl, rfl, .nil, accepted⟩
      | true =>
          rcases ih (Nat.succ.inj same) with accept | ⟨expected, rejected, rejects⟩
          · exact .inl (.cons accepted accept)
          · obtain ⟨passedKinds, passed, laterKinds, later, rfl, rfl, accept, refused⟩ := rejects
            exact .inr ⟨expected, rejected, kind :: passedKinds, value :: passed, laterKinds,
              later, rfl, rfl, .cons accepted accept, refused⟩

theorem ascending_eraseDups {numbers : List Nat} (sorted : numbers.Pairwise (· ≤ ·)) :
    numbers.eraseDups.Pairwise (· < ·) := by
  match numbers with
  | [] => exact List.Pairwise.nil
  | number :: rest =>
      obtain ⟨least, ordered⟩ := List.pairwise_cons.mp sorted
      rw [List.eraseDups_cons, List.pairwise_cons]
      refine ⟨fun other member => ?_, ascending_eraseDups (ordered.filter _)⟩
      obtain ⟨inside, different⟩ := List.mem_filter.mp (List.mem_eraseDups.mp member)
      have apart : other ≠ number := by simpa using different
      exact Nat.lt_of_le_of_ne (least other inside) apart.symm
termination_by numbers.length
decreasing_by exact Nat.lt_succ_of_le (List.length_filter_le _ _)

/-- A choice of numbers names each of them once, the smallest first. -/
theorem choiceText_ascending (numbers : List Nat) :
    ∃ ascending : List Nat, ascending.Pairwise (· < ·) ∧
      (∀ number, number ∈ ascending ↔ number ∈ numbers) ∧
      choiceText numbers = " or ".intercalate (ascending.map Nat.repr) := by
  have sorted := @List.pairwise_mergeSort _ (fun left right : Nat => decide (left ≤ right))
    (by simp; omega) (by simp; omega) numbers
  refine ⟨_, ascending_eraseDups (sorted.imp of_decide_eq_true), fun number => ?_, rfl⟩
  rw [List.mem_eraseDups, List.mem_mergeSort]

theorem choiceText_eq {numbers ascending : List Nat} (sorted : ascending.Pairwise (· < ·))
    (same : ∀ number, number ∈ ascending ↔ number ∈ numbers) :
    choiceText numbers = " or ".intercalate (ascending.map Nat.repr) := by
  obtain ⟨other, sortedOther, sameOther, text⟩ := choiceText_ascending numbers
  have equal : other = ascending := sortedOther.eq_of_mem_iff sorted fun number =>
    (sameOther number).trans (same number).symm
  rw [text, equal]

theorem choice_letters (numbers : List Nat) {letter : Char}
    (member : letter ∈ (" or ".intercalate (numbers.map Nat.repr)).toList) :
    letter.isDigit = true ∨ letter ∈ [' ', 'o', 'r'] := by
  have digits (number : Nat) (inside : letter ∈ number.repr.toList) : letter.isDigit = true := by
    rw [Nat.toList_repr] at inside
    exact Nat.isDigit_of_mem_toDigits (by decide) (by decide) inside
  induction numbers with
  | nil => cases member
  | cons number rest ih =>
      cases rest with
      | nil => exact .inl (digits number (by simpa using member))
      | cons next rest =>
          rw [List.map_cons, List.map_cons, String.intercalate_cons_cons, String.toList_append,
            String.toList_append, List.mem_append, List.mem_append] at member
          rcases member with (here | between) | after
          · exact .inl (digits number here)
          · exact .inr (by revert between; simp; tauto)
          · exact ih after

namespace TypeDescriptor

variable {descriptor : TypeDescriptor} {arguments : List HostValue}

/-- What the arguments for a new instance select. -/
inductive Selects (descriptor : TypeDescriptor) (arguments : List HostValue) :
    Except Fault (Constructor descriptor.type) → Prop
  /-- The first constructor that takes them. -/
  | first {before after : List (Constructor descriptor.type)}
      {constructor : Constructor descriptor.type}
      (declared : descriptor.constructors = before ++ constructor :: after)
      (accepts : Accept constructor.parameters arguments)
      (others : ∀ earlier ∈ before, ¬ Accept earlier.parameters arguments) :
      Selects descriptor arguments (.ok constructor)
  /-- None, for their number. -/
  | otherCount {counts : List Nat}
      (none : ∀ constructor ∈ descriptor.constructors,
        constructor.parameters.length ≠ arguments.length)
      (ascending : counts.Pairwise (· < ·))
      (all : ∀ count, count ∈ counts ↔
        ∃ constructor ∈ descriptor.constructors, constructor.parameters.length = count) :
      Selects descriptor arguments (.error (.arityMismatch descriptor.name
        (" or ".intercalate (counts.map Nat.repr)) arguments.length))
  /-- None, for the kind of one that does not suit the first constructor with as many
  parameters. -/
  | otherKind {before after : List (Constructor descriptor.type)}
      {constructor : Constructor descriptor.type} {expected : Kind} {rejected : HostValue}
      (declared : descriptor.constructors = before ++ constructor :: after)
      (count : constructor.parameters.length = arguments.length)
      (others : ∀ earlier ∈ before, earlier.parameters.length ≠ arguments.length)
      (none : ∀ constructor ∈ descriptor.constructors, ¬ Accept constructor.parameters arguments)
      (rejects : Rejects constructor.parameters arguments expected rejected) :
      Selects descriptor arguments (.error (.typeMismatch expected rejected.kind.name))

theorem accepting_iff {constructor : Constructor descriptor.type} :
    descriptor.accepting arguments constructor = true ↔
      Accept constructor.parameters arguments := by
  unfold accepting checkArguments
  by_cases same : constructor.parameters.length = arguments.length
  · rw [if_pos same]
    rcases accept_or_rejects same with accept | ⟨expected, rejected, rejects⟩
    · rw [checkKinds_of_accept accept]
      exact iff_of_true rfl accept
    · have refused := checkKinds_of_rejects rejects
      rw [refused]
      refine iff_of_false nofun fun accept => ?_
      rw [checkKinds_of_accept accept] at refused
      cases refused
  · rw [if_neg same]
    exact iff_of_false nofun fun accept => same accept.length_eq

theorem find?_accepting_eq_none :
    descriptor.constructors.find? (descriptor.accepting arguments) = none ↔
      ∀ constructor ∈ descriptor.constructors, ¬ Accept constructor.parameters arguments := by
  rw [List.find?_eq_none]
  exact forall₂_congr fun constructor _ => not_congr accepting_iff

theorem exists_selects (descriptor : TypeDescriptor) (arguments : List HostValue) :
    ∃ outcome, descriptor.Selects arguments outcome := by
  cases found : descriptor.constructors.find? (descriptor.accepting arguments) with
  | some constructor =>
      obtain ⟨accepts, before, after, declared, others⟩ := List.find?_eq_some_iff_append.mp found
      refine ⟨_, .first declared (accepting_iff.mp accepts) fun earlier member accept => ?_⟩
      have refused := others earlier member
      rw [accepting_iff.mpr accept] at refused
      cases refused
  | none =>
      have none := find?_accepting_eq_none.mp found
      cases candidate : descriptor.constructors.find? fun constructor =>
          constructor.parameters.length == arguments.length with
      | some constructor =>
          obtain ⟨count, before, after, declared, others⟩ :=
            List.find?_eq_some_iff_append.mp candidate
          have inside : constructor ∈ descriptor.constructors :=
            List.mem_of_find?_eq_some candidate
          have counted : constructor.parameters.length = arguments.length := beq_iff_eq.mp count
          obtain accept | ⟨expected, rejected, rejects⟩ := accept_or_rejects counted
          · exact absurd accept (none constructor inside)
          · refine ⟨_, .otherKind declared counted (fun earlier member => ?_) none rejects⟩
            simpa using others earlier member
      | none =>
          obtain ⟨counts, ascending, all, _⟩ := choiceText_ascending
            (descriptor.constructors.map fun constructor => constructor.parameters.length)
          refine ⟨_, .otherCount (fun constructor member => ?_) ascending fun count => ?_⟩
          · simpa using List.find?_eq_none.mp candidate constructor member
          · rw [all, List.mem_map]

theorem Selects.selected {outcome : Except Fault (Constructor descriptor.type)}
    (selects : descriptor.Selects arguments outcome) :
    descriptor.selectConstructor arguments = outcome := by
  cases selects with
  | first declared accepts others =>
      refine selectConstructor_accepted (List.find?_eq_some_iff_append.mpr
        ⟨accepting_iff.mpr accepts, _, _, declared, fun earlier member => ?_⟩)
      rw [Bool.not_eq_true', Bool.eq_false_iff]
      exact fun accepting => others earlier member (accepting_iff.mp accepting)
  | otherCount none ascending all =>
      rw [selectConstructor_undeclared fun ⟨constructor, member, count⟩ =>
        none constructor member count]
      rw [choiceText_eq ascending fun count => (all count).trans List.mem_map.symm]
  | @otherKind before after constructor expected rejected declared count others none rejects =>
      have candidates : (descriptor.constructors.filter fun constructor =>
          constructor.parameters.length == arguments.length) =
            constructor :: after.filter fun constructor =>
              constructor.parameters.length == arguments.length := by
        have skipped : (before.filter fun constructor =>
            constructor.parameters.length == arguments.length) = [] :=
          List.filter_eq_nil_iff.mpr fun earlier member same =>
            others earlier member (beq_iff_eq.mp same)
        have kept : (constructor.parameters.length == arguments.length) = true :=
          beq_iff_eq.mpr count
        rw [declared, List.filter_append, skipped, List.nil_append, List.filter_cons, if_pos kept]
      have refused := find?_candidates.trans (find?_accepting_eq_none.mpr none)
      have checked : checkArguments descriptor.name constructor.parameters arguments =
          .error (.typeMismatch expected rejected.kind.name) :=
        (if_pos count).trans (checkKinds_of_rejects rejects)
      unfold selectConstructor
      dsimp only
      rw [refused, candidates]
      dsimp only
      rw [checked]

/-- The selection is what the arguments select, and nothing else. -/
theorem selectConstructor_iff {outcome : Except Fault (Constructor descriptor.type)} :
    descriptor.selectConstructor arguments = outcome ↔ descriptor.Selects arguments outcome := by
  constructor
  · rintro rfl
    obtain ⟨outcome, selects⟩ := descriptor.exists_selects arguments
    exact selects.selected ▸ selects
  · exact Selects.selected

theorem Selects.ne_unknown {outcome : Except Fault (Constructor descriptor.type)}
    (selects : descriptor.Selects arguments outcome) (callable : String) (got : Nat) :
    outcome ≠ .error (.arityMismatch callable "?" got) := by
  cases selects with
  | first declared accepts others => nofun
  | otherKind declared count others none rejects => nofun
  | @otherCount counts none ascending all =>
      intro same
      injection same with same
      injection same with _ text _
      have member : '?' ∈ (" or ".intercalate (counts.map Nat.repr)).toList := by
        rw [text]
        decide
      exact absurd (choice_letters counts member) (by decide)

/-- The body of the constructor that is selected, or the refusal. -/
def bodyOf (arguments : List HostValue) :
    Except Fault (Constructor descriptor.type) → Routine descriptor.type.Content
  | .ok constructor => constructor.build arguments
  | .error fault => .fail fault

/-- What is selected is all there is to the making of an instance. -/
theorem construct_of_selects {outcome : Except Fault (Constructor descriptor.type)}
    (selects : descriptor.Selects arguments outcome) :
    descriptor.construct arguments = bodyOf arguments outcome := by
  unfold construct
  rw [selects.selected]
  cases outcome <;> rfl

end TypeDescriptor
end ScriptHost
