import Mathlib
import ScriptHost.Json.Document

/-!
Texts and numerals in documents.

A quoted text is read as the text it was made from, whatever letters that has, and a numeral of a
natural number as its number. What follows them is left alone.
-/

set_option autoImplicit false

namespace ScriptHost.Json

variable {fuel : Nat} {done rest : List Char} {letter : Char}

theorem hexValue?_hexDigit {value : Nat} (small : value < 16) :
    hexValue? (hexDigit value) = some value := by
  have digits : ∀ value < 16, hexValue? (hexDigit value) = some value := by decide
  exact digits value small

theorem readUnit?_control (control : letter.toNat < 0x20) :
    readUnit? ('0' :: '0' :: hexDigit (letter.toNat / 16) :: hexDigit (letter.toNat % 16) :: rest) =
      some (letter.toNat, rest) := by
  simp only [readUnit?]
  rw [show hexValue? '0' = some 0 from rfl, hexValue?_hexDigit (by omega),
    hexValue?_hexDigit (Nat.mod_lt _ (by decide))]
  change some (((0 * 16 + 0) * 16 + letter.toNat / 16) * 16 + letter.toNat % 16, rest) = _
  rw [show ((0 * 16 + 0) * 16 + letter.toNat / 16) * 16 + letter.toNat % 16 = letter.toNat by omega]

theorem readUnicode?_control (control : letter.toNat < 0x20) :
    readUnicode?
        ('0' :: '0' :: hexDigit (letter.toNat / 16) :: hexDigit (letter.toNat % 16) :: rest) =
      some (letter, rest) := by
  have plain : isHighSurrogate letter.toNat = false ∧ isLowSurrogate letter.toNat = false := by
    simp only [isHighSurrogate, isLowSurrogate, Bool.and_eq_false_iff, decide_eq_false_iff_not]
    omega
  unfold readUnicode?
  rw [readUnit?_control control]
  simp only [Option.bind_eq_bind, Option.bind_some, plain, Bool.false_eq_true, if_false,
    Char.ofNat_toNat]

theorem readText?_plain (unquoted : letter ≠ '"') (unescaped : letter ≠ '\\')
    (printable : ¬letter.toNat < 0x20) :
    readText? (fuel + 1) done (letter :: rest) = readText? fuel (letter :: done) rest := by
  rw [readText?]
  · exact if_neg printable
  · exact unquoted
  · exact unescaped

theorem readText?_letter (letter : Char) :
    readText? (fuel + 1) done (escaped letter ++ rest) = readText? fuel (letter :: done) rest := by
  fun_cases escaped letter with
  | case1 | case2 | case3 | case4 | case5 | case6 | case7 => rfl
  | case8 letter unquoted unescaped _ _ _ _ _ control =>
      change (readUnicode? ('0' :: '0' :: hexDigit (letter.toNat / 16) ::
        hexDigit (letter.toNat % 16) :: rest) >>= _) = _
      rw [readUnicode?_control control]
      rfl
  | case9 letter unquoted unescaped _ _ _ _ _ printable =>
      exact readText?_plain unquoted unescaped printable

theorem readText?_quoted (letters : List Char) (enough : letters.length < fuel) :
    readText? fuel done (letters.flatMap escaped ++ '"' :: rest) =
      some (String.ofList (done.reverse ++ letters), rest) := by
  induction letters generalizing fuel done with
  | nil =>
      obtain ⟨fuel, rfl⟩ := Nat.exists_eq_add_one.mpr enough
      rw [List.append_nil]
      rfl
  | cons letter letters ih =>
      obtain ⟨fuel, rfl⟩ := Nat.exists_eq_add_one.mpr (Nat.zero_lt_of_lt enough)
      rw [List.flatMap_cons, List.append_assoc, readText?_letter,
        ih (Nat.lt_of_succ_lt_succ enough), List.reverse_cons, List.append_assoc]
      rfl

theorem length_escaped_pos (letter : Char) : 0 < (escaped letter).length := by
  fun_cases escaped letter <;> exact Nat.succ_pos _

theorem length_le_escaped (letters : List Char) :
    letters.length ≤ (letters.flatMap escaped).length := by
  induction letters with
  | nil => exact Nat.le_refl 0
  | cons letter letters ih =>
      have := length_escaped_pos letter
      rw [List.flatMap_cons, List.length_append, List.length_cons]
      omega

def quotedTail (value : String) : List Char :=
  value.toList.flatMap escaped ++ ['"']

theorem toList_quote (value : String) : (quote value).toList = '"' :: quotedTail value :=
  String.toList_ofList

theorem readText?_quotedTail (value : String) :
    readText? ((quotedTail value ++ rest).length + 1) [] (quotedTail value ++ rest) =
      some (value, rest) := by
  have enough := length_le_escaped value.toList
  unfold quotedTail
  rw [List.append_assoc, List.singleton_append, readText?_quoted]
  · rw [List.reverse_nil, List.nil_append, String.ofList_toList]
  · rw [List.length_append]
    omega

theorem natOfDigits_repr (number : Nat) : Decimal.natOfDigits number.repr.toList = number := by
  rw [Nat.toList_repr]
  exact Nat.ofDigitChars_ten_toDigits

theorem isDigit_repr {number : Nat} (digit : letter ∈ number.repr.toList) :
    letter.isDigit = true := by
  rw [Nat.toList_repr] at digit
  exact Nat.isDigit_of_mem_toDigits (by decide) (by decide) digit

theorem repr_ne_nil (number : Nat) : number.repr.toList ≠ [] := by
  rw [Nat.toList_repr]
  exact Nat.toDigits_ne_nil

theorem head_repr {number : Nat} (positive : 0 < number) :
    number.repr.toList.head? ≠ some '0' := by
  induction number using Nat.strong_induction_on with
  | h number ih =>
      by_cases small : number < 10
      · have digits : ∀ digit < 10, 0 < digit → (Nat.repr digit).toList.head? ≠ some '0' := by
          decide
        exact digits number small positive
      · have earlier := ih (number / 10) (Nat.div_lt_self positive (by decide)) (by omega)
        rw [Nat.toList_repr] at earlier ⊢
        rw [Nat.toDigits_of_base_le (by decide) (Nat.le_of_not_lt small),
          List.head?_append_of_ne_nil _ Nat.toDigits_ne_nil]
        exact earlier

/-- Digits without a needless zero at their head. -/
def Canonical (digits : List Char) : Prop :=
  (∀ letter ∈ digits, letter.isDigit = true) ∧ digits ≠ [] ∧
    (digits.length = 1 ∨ digits.head? ≠ some '0')

theorem canonical_repr (number : Nat) : Canonical number.repr.toList := by
  refine ⟨fun _ => isDigit_repr, repr_ne_nil number, ?_⟩
  rcases Nat.eq_zero_or_pos number with rfl | positive
  · exact .inl rfl
  · exact .inr (head_repr positive)

theorem Canonical.guarded {digits : List Char} (canonical : Canonical digits) :
    (!digits.isEmpty && (digits.length == 1 || digits.head? != some '0')) = true := by
  obtain ⟨-, filled, leading⟩ := canonical
  rw [Bool.and_eq_true, Bool.or_eq_true, Bool.not_eq_true', bne_iff_ne, beq_iff_eq,
    List.isEmpty_eq_false_iff]
  exact ⟨filled, leading⟩

theorem Canonical.head {digits : List Char} (canonical : Canonical digits) :
    ∃ first others, digits = first :: others ∧ first.isDigit = true := by
  obtain ⟨first, others, rfl⟩ := List.exists_cons_of_ne_nil canonical.2.1
  exact ⟨first, others, rfl, canonical.1 first List.mem_cons_self⟩

theorem span_digits {digits : List Char} (all : ∀ letter ∈ digits, letter.isDigit = true)
    (stop : ∀ letter ∈ rest.head?, letter.isDigit = false) :
    (digits ++ rest).takeWhile Char.isDigit = digits ∧
      (digits ++ rest).dropWhile Char.isDigit = rest := by
  rw [List.takeWhile_append_of_pos all, List.dropWhile_append_of_pos all]
  cases rest with
  | nil => exact ⟨List.append_nil digits, rfl⟩
  | cons letter rest =>
      have refused : ¬letter.isDigit = true := Bool.not_eq_true _ ▸ stop letter rfl
      rw [List.takeWhile_cons_of_neg refused, List.dropWhile_cons_of_neg refused]
      exact ⟨List.append_nil digits, rfl⟩

theorem readSign_digit (digit : letter.isDigit = true) :
    readSign (letter :: rest) = (false, letter :: rest) := by
  unfold readSign
  split
  next tail same =>
    obtain ⟨rfl, -⟩ := List.cons.inj same
    exact absurd digit (by decide)
  next => rfl

/-- What is read once the whole part is known. -/
def readScale? (negative : Bool) (digits rest : List Char) : Option (JsonNumber × List Char) := do
  let (fraction, input) ← readFraction? rest
  let (power, input) ← readPower? input
  some (⟨negative, ⟨digits, fraction.getD [], power.getD 0⟩, fraction.isNone && power.isNone⟩,
    input)

theorem readNumber?_append {digits : List Char} (negative : Bool) (canonical : Canonical digits)
    (stop : ∀ letter ∈ rest.head?, letter.isDigit = false) :
    readNumber? ((if negative then ['-'] else []) ++ (digits ++ rest)) =
      readScale? negative digits rest := by
  obtain ⟨taken, left⟩ := span_digits canonical.1 stop
  have signed : readSign ((if negative then ['-'] else []) ++ (digits ++ rest)) =
      (negative, digits ++ rest) := by
    obtain ⟨first, others, rfl, digit⟩ := canonical.head
    cases negative with
    | true => rfl
    | false => exact readSign_digit digit
  unfold readNumber? readScale?
  rw [signed]
  dsimp only
  rw [taken, left, canonical.guarded]
  rfl

/-- What may follow a numeral without being taken for a part of it. -/
def EndsNumeral (rest : List Char) : Prop :=
  ∀ letter ∈ rest.head?, letter.isDigit = false ∧ letter ≠ '.' ∧ letter ≠ 'e' ∧ letter ≠ 'E'

theorem readFraction?_none (ends : EndsNumeral rest) :
    readFraction? rest = some (none, rest) := by
  fun_cases readFraction? rest with
  | case1 | case2 => exact absurd rfl (ends '.' rfl).2.1
  | case3 => rfl

theorem readPower?_none (ends : EndsNumeral rest) : readPower? rest = some (none, rest) := by
  fun_cases readPower? rest with
  | case1 | case3 | case5 => exact absurd rfl (ends 'e' rfl).2.2.1
  | case2 | case4 | case6 => exact absurd rfl (ends 'E' rfl).2.2.2
  | case7 => rfl

theorem readNumber?_natural (number : Nat) (ends : EndsNumeral rest) :
    readNumber? (number.repr.toList ++ rest) =
      some (⟨false, ⟨number.repr.toList, [], 0⟩, true⟩, rest) := by
  have parted := readNumber?_append false (canonical_repr number) fun letter head =>
    (ends letter head).1
  rw [if_neg Bool.false_ne_true, List.nil_append] at parted
  rw [parted, readScale?, readFraction?_none ends]
  change (readPower? rest >>= _) = _
  rw [readPower?_none ends]
  rfl

end ScriptHost.Json
