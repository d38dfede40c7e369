import Mathlib.Data.Nat.Digits.Lemmas
import Reckoner.Decimal.Integer
import Reckoner.Proofs.Text.Classes

namespace Reckoner.Decimal

/-- The digit that a character shows. -/
def digit (c : Char) : Nat :=
  c.toNat - '0'.toNat

/-- What digits stand for: each one counts ten times as much as the next. -/
def positional (ds : List Char) : Nat :=
  Nat.ofDigits 10 (ds.map digit).reverse

/-- The decimal numeral of a number: its digits, of which the first is zero only if it is alone. -/
structure IsNumeralOf (n : Nat) (ds : List Char) : Prop where
  digits : ∀ c ∈ ds, c.isDigit
  ne_nil : ds ≠ []
  front : ds.head? = some '0' → ds = ['0']
  value : positional ds = n

/-- Digits without the zeros in front, of which one is left if there is nothing else. -/
def withoutZeros (ds : List Char) : List Char :=
  match ds.dropWhile (· = '0') with
  | [] => ['0']
  | rest => rest

variable {n : Nat} {c : Char} {ds : List Char}

theorem digit_lt (h : c.isDigit) : digit c < 10 := by
  have := Text.isDigit_iff.mp h
  change c.toNat - 48 < 10
  omega

theorem digitChar_digit (h : c.isDigit) : Nat.digitChar (digit c) = c := by
  have range := Text.isDigit_iff.mp h
  refine Char.toNat_inj.mp ?_
  rw [Nat.toNat_digitChar_of_lt_ten (digit_lt h)]
  change 48 + (c.toNat - 48) = c.toNat
  omega

theorem digit_pos (h : c.isDigit) (not_zero : c ≠ '0') : 0 < digit c := by
  refine Nat.pos_of_ne_zero fun zero => not_zero ?_
  rw [← digitChar_digit h, zero]
  rfl

theorem ofDigitChars_eq_positional (ds : List Char) : Nat.ofDigitChars 10 ds 0 = positional ds := by
  induction ds using List.reverseRecOn with
  | nil => rfl
  | append_singleton ds d ih =>
    rw [Nat.ofDigitChars_append, ih, positional, positional, List.map_append, List.reverse_append,
      List.map_singleton, List.reverse_singleton, List.singleton_append, Nat.ofDigits_cons,
      Nat.ofDigitChars_cons, Nat.ofDigitChars_nil, Nat.add_comm]
    rfl

theorem positional_zero_cons (ds : List Char) : positional ('0' :: ds) = positional ds := by
  rw [← ofDigitChars_eq_positional, ← ofDigitChars_eq_positional, Nat.ofDigitChars_cons]
  rfl

/-- Digits behind the numeral of a positive number make up the numeral of the number that they are
read as behind it. -/
theorem toDigits_append_digits (positive : 0 < n) (digits : ∀ d ∈ ds, d.isDigit) :
    Nat.toDigits 10 n ++ ds = Nat.toDigits 10 (Nat.ofDigitChars 10 ds n) := by
  induction ds generalizing n with
  | nil => rw [List.append_nil, Nat.ofDigitChars_nil]
  | cons d ds ih =>
    obtain ⟨hd, hds⟩ := List.forall_mem_cons.mp digits
    have next := Nat.toDigits_append_toDigits (by decide) positive (digit_lt hd)
    rw [Nat.toDigits_of_lt_base (digit_lt hd), digitChar_digit hd] at next
    calc Nat.toDigits 10 n ++ d :: ds
        = (Nat.toDigits 10 n ++ [d]) ++ ds := by rw [List.append_assoc, List.singleton_append]
      _ = Nat.toDigits 10 (10 * n + digit d) ++ ds := by rw [next]
      _ = Nat.toDigits 10 (Nat.ofDigitChars 10 ds (10 * n + digit d)) := ih (by omega) hds
      _ = Nat.toDigits 10 (Nat.ofDigitChars 10 (d :: ds) n) := by rw [Nat.ofDigitChars_cons]; rfl

section Numerals

theorem positional_toDigits (n : Nat) : positional (Nat.toDigits 10 n) = n := by
  rw [← ofDigitChars_eq_positional, Nat.ofDigitChars_ten_toDigits]

/-- The numeral of a positive number does not start with a zero. -/
theorem head?_toDigits_ne_zero (positive : 0 < n) : (Nat.toDigits 10 n).head? ≠ some '0' := by
  induction n using Nat.strong_induction_on with
  | _ n ih =>
    by_cases small : n < 10
    · rw [Nat.toDigits_of_lt_base small, List.head?_cons, Ne, Option.some_inj,
        Nat.digitChar_eq_zero]
      omega
    · rw [Nat.toDigits_of_base_le (by decide) (Nat.le_of_not_lt small),
        List.head?_append_of_ne_nil _ Nat.toDigits_ne_nil]
      exact ih (n / 10) (by omega) (by omega)

theorem isNumeralOf_toDigits (n : Nat) : IsNumeralOf n (Nat.toDigits 10 n) where
  digits _ hc := Nat.isDigit_of_mem_toDigits (by decide) (by decide) hc
  ne_nil := Nat.toDigits_ne_nil
  front zero := by
    cases n with
    | zero => rw [Nat.toDigits_zero]
    | succ n => exact absurd zero (head?_toDigits_ne_zero n.succ_pos)
  value := positional_toDigits n

/-- **A number has one numeral**, the digits of its repeated division by ten. -/
theorem isNumeralOf_iff : IsNumeralOf n ds ↔ ds = Nat.toDigits 10 n := by
  refine ⟨fun h => ?_, fun h => h ▸ isNumeralOf_toDigits n⟩
  obtain ⟨d, ds, rfl⟩ := List.exists_cons_of_ne_nil h.ne_nil
  obtain ⟨hd, hds⟩ := List.forall_mem_cons.mp h.digits
  rw [← h.value]
  by_cases zero : d = '0'
  · rw [h.front (congrArg some zero)]
    decide
  · have numeral := toDigits_append_digits (digit_pos hd zero) hds
    rw [Nat.toDigits_of_lt_base (digit_lt hd), digitChar_digit hd, List.singleton_append] at numeral
    rw [← ofDigitChars_eq_positional, Nat.ofDigitChars_cons, Nat.mul_zero, Nat.zero_add]
    exact numeral

/-- Digits without the zeros in front are the numeral of what the digits stand for. -/
theorem isNumeralOf_withoutZeros (digits : ∀ d ∈ ds, d.isDigit) :
    IsNumeralOf (positional ds) (withoutZeros ds) := by
  induction ds with
  | nil => exact ⟨List.forall_mem_singleton.mpr rfl, by decide, fun _ => rfl, by decide⟩
  | cons d ds ih =>
    obtain ⟨hd, hds⟩ := List.forall_mem_cons.mp digits
    by_cases zero : d = '0'
    · subst zero
      rw [positional_zero_cons]
      exact ih hds
    · have whole : withoutZeros (d :: ds) = d :: ds := by
        rw [withoutZeros, List.dropWhile_cons_of_neg (by simpa using zero)]
      rw [whole]
      exact ⟨digits, List.cons_ne_nil _ _, fun front => absurd (Option.some.inj front) zero, rfl⟩

end Numerals

section Reading

/-- Nothing is lost where digits are cut. -/
theorem flatten_cutBehind (skipped : Nat) (ds : List Char) :
    (cutBehind skipped ds).flatten = ds.drop skipped := by
  induction ds generalizing skipped with
  | nil => rw [cutBehind, List.flatten_nil, List.drop_nil]
  | cons d ds ih =>
    cases skipped with
    | zero =>
      have rest : ds.drop (chunkLength - 1) = (d :: ds).drop chunkLength := rfl
      rw [cutBehind, List.flatten_cons, ih, rest, List.take_append_drop, List.drop_zero]
    | succ k => rw [cutBehind, ih, List.drop_succ_cons]

theorem readChunk_eq (front : Nat) (chunk : List Char) :
    readChunk front chunk = Nat.ofDigitChars 10 chunk front := by
  rw [Nat.ofDigitChars_eq_ofDigitChars_zero, Nat.mul_comm]
  rfl

/-- Whatever chunks digits are cut into, they are read as one. -/
theorem foldl_readChunk (front : Nat) (chunks : List (List Char)) :
    chunks.foldl readChunk front = Nat.ofDigitChars 10 chunks.flatten front := by
  induction chunks generalizing front with
  | nil => rfl
  | cons chunk chunks ih =>
    rw [List.foldl_cons, ih, readChunk_eq, List.flatten_cons, Nat.ofDigitChars_append]

/-- **Digits are read as what they stand for**, however many they are. -/
theorem natOfDigits_eq_positional (ds : List Char) : natOfDigits ds = positional ds := by
  rw [natOfDigits, foldl_readChunk, flatten_cutBehind, List.drop_zero, ofDigitChars_eq_positional]

end Reading

section Writing

theorem chunkBase_eq : chunkBase = 10 ^ chunkLength := by
  have same (k : Nat) : Nat.pow 10 k = 10 ^ k := rfl
  unfold chunkBase
  exact same chunkLength

theorem isDigit_of_mem_chunkDigits {r : Nat} : ∀ d ∈ chunkDigits r, d.isDigit := by
  refine List.forall_mem_append.mpr ⟨fun d hd => ?_, (isNumeralOf_toDigits r).digits⟩
  rw [(List.mem_replicate.mp hd).2]
  rfl

theorem length_chunkDigits {r : Nat} (h : r < chunkBase) :
    (chunkDigits r).length = chunkLength := by
  have fits : (Nat.toDigits 10 r).length ≤ chunkLength :=
    (Nat.length_toDigits_le_iff (by decide) chunkLength_pos).mpr (chunkBase_eq ▸ h)
  rw [chunkDigits, List.length_append, List.length_replicate]
  omega

theorem ofDigitChars_chunkDigits {r : Nat} (h : r < chunkBase) (front : Nat) :
    Nat.ofDigitChars 10 (chunkDigits r) front = chunkBase * front + r := by
  have value : Nat.ofDigitChars 10 (chunkDigits r) 0 = r := by
    rw [chunkDigits, Nat.ofDigitChars_append, Nat.ofDigitChars_replicate_zero, Nat.mul_zero,
      Nat.ofDigitChars_ten_toDigits]
  rw [Nat.ofDigitChars_eq_ofDigitChars_zero, length_chunkDigits h, value, chunkBase_eq]

theorem chunks_of_pos (positive : 0 < n) : chunks n = n % chunkBase :: chunks (n / chunkBase) := by
  rw [chunks, if_neg positive.ne']

theorem joinChunks_append_singleton {first : Nat} {others : List Nat} (r : Nat) :
    joinChunks (first :: others ++ [r]) = joinChunks (first :: others) ++ chunkDigits r := by
  simp only [List.cons_append, joinChunks, List.flatMap_append, List.flatMap_singleton,
    List.append_assoc]

/-- The chunks of a positive number make up its numeral. -/
theorem joinChunks_chunks (positive : 0 < n) :
    joinChunks (chunks n).reverse = Nat.toDigits 10 n := by
  induction n using Nat.strong_induction_on with
  | _ n ih =>
    rw [chunks_of_pos positive, List.reverse_cons]
    by_cases last : n < chunkBase
    · rw [Nat.div_eq_of_lt last, Nat.mod_eq_of_lt last, chunks, if_pos rfl]
      exact List.append_nil _
    · have base := one_lt_chunkBase
      have front_pos : 0 < n / chunkBase := Nat.div_pos (Nat.le_of_not_lt last) (by omega)
      have front_digits := ih _ (Nat.div_lt_self positive base) front_pos
      have small : n % chunkBase < chunkBase := Nat.mod_lt _ (by omega)
      obtain ⟨first, others, front⟩ : ∃ first others,
          (chunks (n / chunkBase)).reverse = first :: others := by
        refine List.exists_cons_of_ne_nil (List.reverse_ne_nil_iff.mpr ?_)
        rw [chunks_of_pos front_pos]
        exact List.cons_ne_nil _ _
      rw [front] at front_digits ⊢
      rw [joinChunks_append_singleton, front_digits,
        toDigits_append_digits front_pos isDigit_of_mem_chunkDigits,
        ofDigitChars_chunkDigits small, Nat.div_add_mod]

theorem toList_toString (n : Int) :
    (toString n).toList = (if n < 0 then ['-'] else []) ++ Nat.toDigits 10 n.natAbs := by
  cases n with
  | ofNat n => exact Nat.toList_repr
  | negSucc n =>
    change ("-" ++ (n + 1).repr).toList = _
    rw [String.toList_append, Nat.toList_repr, if_pos (Int.negSucc_lt_zero n)]
    rfl

/-- **The text of an integer is its numeral**, behind a minus if the integer is negative. -/
theorem toList_ofInt (n : Int) :
    (ofInt n).toList = (if n < 0 then ['-'] else []) ++ Nat.toDigits 10 n.natAbs := by
  unfold ofInt
  split
  · exact toList_toString n
  · rename_i long
    have positive : 0 < n.natAbs :=
      Nat.lt_of_lt_of_le (Nat.lt_trans Nat.zero_lt_one one_lt_chunkBase) (Nat.le_of_not_lt long)
    rw [String.toList_append, String.toList_ofList, joinChunks_chunks positive]
    split <;> rfl

end Writing

end Reckoner.Decimal
