import ScriptHost.Proofs.Decimal.Finite
import ScriptHost.Proofs.Random.Integers

/-!
Random doubles.

A sample is the first candidate below the upper bound, so no sample reaches it. The bounds are
checked through their difference. A difference that is finite has finite bounds, but finite bounds
may be too far apart for a difference: between them nothing is drawn, although they are in order.
-/

set_option autoImplicit false

namespace ScriptHost.Random

open Script Decimal

variable {low high : Float} {generator : Generator}

theorem Generator.skip_skip (generator : Generator) (first second : Nat) :
    (generator.skip first).skip second = generator.skip (first + second) := by
  unfold Generator.skip
  rw [Nat.add_assoc]

/-- What the word after some others stands for. -/
def candidate (low high : Float) (generator : Generator) (earlier : Nat) : Float :=
  unitInterval (generator.skip earlier).next.1 * (high - low) + low

/-- A sample and how many words are drawn for it. -/
inductive Sampled (low high : Float) (generator : Generator) (limit : Nat) : Float → Nat → Prop where
  | accepted (earlier : Nat) (within : earlier < limit)
      (rejected : ∀ index < earlier, ¬candidate low high generator index < high)
      (below : candidate low high generator earlier < high) :
      Sampled low high generator limit (candidate low high generator earlier) (earlier + 1)
  | exhausted (rejected : ∀ index < limit, ¬candidate low high generator index < high) :
      Sampled low high generator limit low limit

theorem candidate_skip (earlier : Nat) :
    candidate low high (generator.skip 1) earlier = candidate low high generator (earlier + 1) := by
  unfold candidate
  rw [generator.skip_skip, Nat.add_comm 1 earlier]

theorem rejected_succ {count : Nat} (first : ¬candidate low high generator 0 < high)
    (rejected : ∀ index < count, ¬candidate low high (generator.skip 1) index < high) :
    ∀ index < count + 1, ¬candidate low high generator index < high := by
  intro index below
  cases index with
  | zero => exact first
  | succ index =>
      rw [← candidate_skip]
      exact rejected index (Nat.lt_of_succ_lt_succ below)

theorem Sampled.succ {limit count : Nat} {sample : Float}
    (first : ¬candidate low high generator 0 < high)
    (sampled : Sampled low high (generator.skip 1) limit sample count) :
    Sampled low high generator (limit + 1) sample (count + 1) := by
  cases sampled with
  | accepted earlier within rejected below =>
      rw [candidate_skip] at below ⊢
      exact .accepted (earlier + 1) (Nat.succ_lt_succ within) (rejected_succ first rejected) below
  | exhausted rejected => exact .exhausted (rejected_succ first rejected)

theorem sampleFloat_spec (low high : Float) (limit : Nat) (generator : Generator) :
    ∃ sample count, sampleFloat low high limit generator = (sample, generator.skip count) ∧
      Sampled low high generator limit sample count := by
  induction limit generalizing generator with
  | zero => exact ⟨low, 0, rfl, .exhausted nofun⟩
  | succ limit ih =>
      obtain ⟨word, next, -⟩ := generator.next_eq
      have first : candidate low high generator 0 = unitInterval word * (high - low) + low := by
        unfold candidate
        rw [show generator.skip 0 = generator from rfl, next]
      unfold sampleFloat
      rw [next]
      dsimp only
      rw [← first]
      split
      case isTrue below => exact ⟨_, 1, rfl, .accepted 0 limit.succ_pos nofun below⟩
      case isFalse refused =>
        obtain ⟨sample, count, drawn, sampled⟩ := ih (generator.skip 1)
        refine ⟨sample, count + 1, drawn.trans ?_, sampled.succ refused⟩
        rw [generator.skip_skip, Nat.add_comm 1 count]

theorem Sampled.lt {limit count : Nat} {sample : Float} (ordered : low < high)
    (sampled : Sampled low high generator limit sample count) : sample < high := by
  cases sampled with
  | accepted earlier within rejected below => exact below
  | exhausted rejected => exact ordered

theorem Sampled.count_pos {limit count : Nat} {sample : Float} (positive : 0 < limit)
    (sampled : Sampled low high generator limit sample count) : 0 < count := by
  cases sampled with
  | accepted earlier within rejected below => exact earlier.succ_pos
  | exhausted rejected => exact positive

def TooFar (low high : Float) : Prop :=
  low.isFinite = true ∧ high.isFinite = true ∧ low < high ∧ (high - low).isFinite = false

/-- The samplers refuse what is no interval, and an interval that is too wide. -/
def Refused (low high : Float) : Prop :=
  low.isFinite = false ∨ high.isFinite = false ∨ high < low ∨ TooFar low high

theorem float_refused (refused : Refused low high) (generator : Generator) :
    ∃ text, float low high generator = .error (.domain text) := by
  unfold float
  by_cases finite : (high - low).isFinite = true
  · obtain ⟨isHigh, isLow⟩ := finite_of_sub finite
    have inverted : high < low := by
      rcases refused with infinite | infinite | inverted | far
      · exact absurd (isLow.symm.trans infinite) nofun
      · exact absurd (isHigh.symm.trans infinite) nofun
      · exact inverted
      · exact absurd (finite.symm.trans far.2.2.2) nofun
    rw [finite, if_neg (by decide), if_pos inverted]
    exact ⟨_, rfl⟩
  · rw [Bool.not_eq_true _ |>.mp finite, if_pos (by decide)]
    exact ⟨_, rfl⟩

theorem float_equal (isLow : low.isFinite = true) (isHigh : high.isFinite = true)
    (same : (low == high) = true) (generator : Generator) :
    float low high generator = .ok (low, generator) := by
  have inOrder : ¬low > high := by
    rcases finite_trichotomy isLow isHigh with ⟨-, -, different⟩ | ⟨-, inOrder, -⟩ | ⟨-, -, different⟩
    · exact absurd (same.symm.trans different) nofun
    · exact inOrder
    · exact absurd (same.symm.trans different) nofun
  unfold float
  rw [finite_sub_of_beq isLow same, if_neg (by decide), if_neg inOrder, if_pos same]

theorem float_sampled (isLow : low.isFinite = true) (isHigh : high.isFinite = true)
    (ordered : low < high) (near : ¬TooFar low high) (generator : Generator) :
    ∃ sample count, float low high generator = .ok (sample, generator.skip count) ∧
      Sampled low high generator attempts sample count := by
  have finite : (high - low).isFinite = true := by
    by_contra far
    exact near ⟨isLow, isHigh, ordered, Bool.not_eq_true _ |>.mp far⟩
  obtain ⟨inOrder, different⟩ : ¬low > high ∧ (low == high) = false := by
    rcases finite_trichotomy isLow isHigh with ⟨-, less⟩ | ⟨notLess, -⟩ | ⟨notLess, -⟩
    · exact less
    · exact absurd ordered notLess
    · exact absurd ordered notLess
  obtain ⟨sample, count, drawn, sampled⟩ := sampleFloat_spec low high attempts generator
  refine ⟨sample, count, ?_, sampled⟩
  unfold float
  rw [finite, if_neg (by decide), if_neg inOrder, different, if_neg (by decide), drawn]

theorem call_random (types : TypeRegistry) (state : CallState) (low high : Float) :
    Call.scriptFunction types Extension.Math.functions[4]
        [.datum (.float low), .datum (.float high)] state =
      match float low high state.store.generator with
      | .ok (sample, generator) => .ok (.number sample) ⟨⟨state.store.heap, generator⟩, state.fresh⟩
      | .error fault => .error fault state :=
  perform_draw types (.float low high) state

/-- The function `random` of the module refuses bounds that are not finite, inverted or too far
apart, and then draws nothing; nor does it for equal bounds, and answers them with the lower one.
Between all others it draws, and whatever it draws is below the upper bound. -/
theorem samples_stay_below (types : TypeRegistry) (state : CallState) (low high : Float) :
    ∃ function, Extension.Math.functions.find? (·.name == "random") = some function ∧
      let outcome := Call.scriptFunction types function
        [.datum (.float low), .datum (.float high)] state
      ((∃ text, outcome = .error (.domain text) state) ↔ Refused low high) ∧
      (low.isFinite = true → high.isFinite = true → (low == high) = true →
        outcome = .ok (.number low) state) ∧
      (low.isFinite = true → high.isFinite = true → low < high → ¬TooFar low high →
        ∃ sample count, outcome = .ok (.number sample)
            ⟨⟨state.store.heap, state.store.generator.skip count⟩, state.fresh⟩ ∧
          Sampled low high state.store.generator attempts sample count ∧
          0 < count ∧ sample < high) := by
  refine ⟨Extension.Math.functions[4], rfl, ⟨?refuses, ?refused⟩, ?equal, ?drawn⟩
  case refused =>
    intro refused
    obtain ⟨text, failed⟩ := float_refused refused state.store.generator
    refine ⟨text, ?_⟩
    rw [call_random, failed]
  case equal =>
    intro isLow isHigh same
    rw [call_random, float_equal isLow isHigh same]
  case drawn =>
    intro isLow isHigh ordered near
    obtain ⟨sample, count, drawn, sampled⟩ :=
      float_sampled isLow isHigh ordered near state.store.generator
    refine ⟨sample, count, ?_, sampled, sampled.count_pos (by decide), sampled.lt ordered⟩
    rw [call_random, drawn]
  case refuses =>
    rintro ⟨text, failed⟩
    by_contra usable
    obtain ⟨isLow, isHigh, inOrder, near⟩ := not_or.mp usable |>.imp_right not_or.mp
      |>.imp_right (And.imp_right not_or.mp)
    rw [Bool.not_eq_false] at isLow isHigh
    rw [call_random] at failed
    rcases finite_trichotomy isLow isHigh with ⟨ordered, -⟩ | ⟨-, -, same⟩ | ⟨-, inverted, -⟩
    · obtain ⟨sample, count, drawn, -⟩ :=
        float_sampled isLow isHigh ordered near state.store.generator
      rw [drawn] at failed
      cases failed
    · rw [float_equal isLow isHigh same] at failed
      cases failed
    · exact inOrder inverted

/-- A share is below one, and of one number there is nothing to draw. -/
theorem share_is_below_one :
    ∃ function sample count,
      Extension.Math.functions.find? (·.name == "random") = some function ∧
      Call.scriptFunction .empty function [.datum (.float 0.0), .datum (.float 1.0)]
          ⟨⟨.empty, .ofSeed 1⟩, #[]⟩ =
        .ok (.number sample) ⟨⟨.empty, (Generator.ofSeed 1).skip count⟩, #[]⟩ ∧
      0 < count ∧ sample < 1.0 ∧
      Call.scriptFunction .empty function [.datum (.float 0.5), .datum (.float 0.5)]
          ⟨⟨.empty, .ofSeed 1⟩, #[]⟩ =
        .ok (.number 0.5) ⟨⟨.empty, .ofSeed 1⟩, #[]⟩ := by
  obtain ⟨function, found, -, -, drawn⟩ :=
    samples_stay_below .empty ⟨⟨.empty, .ofSeed 1⟩, #[]⟩ 0.0 1.0
  obtain ⟨again, same, -, equal, -⟩ :=
    samples_stay_below .empty ⟨⟨.empty, .ofSeed 1⟩, #[]⟩ 0.5 0.5
  obtain rfl := Option.some.inj (found.symm.trans same)
  have near : ¬TooFar 0.0 1.0 := fun far => absurd far.2.2.2 (by decide +kernel)
  obtain ⟨sample, count, answered, -, draws, below⟩ :=
    drawn (by decide +kernel) (by decide +kernel) (by decide +kernel) near
  exact ⟨function, sample, count, found, answered, draws, below,
    equal (by decide +kernel) (by decide +kernel) (by decide +kernel)⟩

/-- Two finite bounds in order between which nothing is drawn: they are said not to be finite. -/
theorem wide_interval_is_refused :
    ∃ function, Extension.Math.functions.find? (·.name == "random") = some function ∧
      (-1.7e308 : Float).isFinite = true ∧ (1.7e308 : Float).isFinite = true ∧
      (-1.7e308 : Float) < 1.7e308 ∧
      Call.scriptFunction .empty function [.datum (.float (-1.7e308)), .datum (.float 1.7e308)]
          ⟨⟨.empty, .ofSeed 1⟩, #[]⟩ =
        .error (.domain "random bounds must be finite") ⟨⟨.empty, .ofSeed 1⟩, #[]⟩ := by
  refine ⟨Extension.Math.functions[4], rfl, by decide +kernel, by decide +kernel,
    by decide +kernel, ?_⟩
  have infinite : ((1.7e308 : Float) - -1.7e308).isFinite = false := by decide +kernel
  rw [call_random]
  unfold float
  rw [infinite, if_pos (by decide)]

end ScriptHost.Random
