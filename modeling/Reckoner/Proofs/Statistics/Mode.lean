import Mathlib.Data.List.Induction
import Mathlib.Data.List.Basic
import Reckoner.Proofs.Builtin.Integers

/-!
The most frequent of integers. The tally has every number once, in the order of first occurrence,
with the number of its occurrences (`tally_map`). The first of the greatest counts belongs to the
number that occurs first among those that occur most often (`mode_first_most_frequent`).
-/
namespace Reckoner

namespace Statistics

section Distinct

variable {κ : Type} [DecidableEq κ]

theorem eraseDups_concat (ns : List κ) (n : κ) :
    (ns ++ [n]).eraseDups = if n ∈ ns then ns.eraseDups else ns.eraseDups ++ [n] := by
  rw [List.eraseDups_append]
  by_cases seen : n ∈ ns
  · simp [List.removeAll, seen]
  · simp [List.removeAll, List.eraseDups_cons, seen]

/-- The distinct numbers stand in the order of first occurrence. -/
theorem pairwise_idxOf_eraseDups (ns : List κ) :
    ns.eraseDups.Pairwise fun m n => ns.idxOf m < ns.idxOf n := by
  induction ns using List.reverseRecOn with
  | nil => simp
  | append_singleton ns n ih =>
    have kept : ns.eraseDups.Pairwise fun k m => (ns ++ [n]).idxOf k < (ns ++ [n]).idxOf m := by
      refine ih.imp_of_mem fun {k m} hk hm less => ?_
      rw [List.idxOf_append_of_mem (List.mem_eraseDups.mp hk),
        List.idxOf_append_of_mem (List.mem_eraseDups.mp hm)]
      exact less
    rw [eraseDups_concat]
    split
    case isTrue => exact kept
    case isFalse new =>
      refine List.pairwise_append.mpr ⟨kept, List.pairwise_singleton _ _, fun k hk m hm => ?_⟩
      have seen := List.mem_eraseDups.mp hk
      rw [List.mem_singleton.mp hm, List.idxOf_append_of_mem seen,
        List.idxOf_append_of_notMem new]
      exact Nat.lt_add_right _ (List.idxOf_lt_length_of_mem seen)

theorem nodup_eraseDups (ns : List κ) : ns.eraseDups.Nodup :=
  (pairwise_idxOf_eraseDups ns).imp fun less same => by
    rw [same] at less
    exact Nat.lt_irrefl _ less

end Distinct

section Tally

variable {κ : Type} [DecidableEq κ] {f : κ → Marked Scalar}
  (apart : ∀ m n, isOne (f m) (f n) = decide (m = n))

include apart

/-- One more occurrence of a number that has been counted. -/
theorem count_seen {ds : List κ} (counts : κ → Nat) {n : κ} (distinct : ds.Nodup) (seen : n ∈ ds) :
    count (f n) (ds.map fun d => (f d, counts d)) =
      ds.map fun d => (f d, if d = n then counts d + 1 else counts d) := by
  induction ds with
  | nil => cases seen
  | cons d ds ih =>
    obtain ⟨new, distinct⟩ := List.nodup_cons.mp distinct
    rw [List.map_cons, List.map_cons, count, apart]
    by_cases same : d = n
    · have others : ∀ e ∈ ds, e ≠ n := fun e he h => new (same ▸ h ▸ he)
      rw [if_pos (by simpa using same), if_pos same]
      congr 1
      exact List.map_congr_left fun e he => by rw [if_neg (others e he)]
    · have later : n ∈ ds := (List.mem_cons.mp seen).resolve_left (Ne.symm same)
      rw [if_neg (by simpa using same), if_neg same, ih distinct later]

/-- The first occurrence of a number. -/
theorem count_new {ds : List κ} (counts : κ → Nat) {n : κ} (new : n ∉ ds) :
    count (f n) (ds.map fun d => (f d, counts d)) =
      (ds.map fun d => (f d, counts d)) ++ [(f n, 1)] := by
  induction ds with
  | nil => rfl
  | cons d ds ih =>
    obtain ⟨other, new⟩ := not_or.mp (List.mem_cons.not.mp new)
    rw [List.map_cons, count, apart, if_neg (by simpa using Ne.symm other), ih new]
    rfl

/-- **The tally** has every number once, in the order of first occurrence, and counts it. -/
theorem tally_map (ns : List κ) :
    tally (ns.map f) = ns.eraseDups.map fun n => (f n, ns.count n) := by
  induction ns using List.reverseRecOn with
  | nil => rfl
  | append_singleton ns n ih =>
    have step : tally ((ns ++ [n]).map f) = count (f n) (tally (ns.map f)) := by
      rw [List.map_append, tally, List.foldl_append]
      rfl
    have counted (d : κ) : (ns ++ [n]).count d = if d = n then ns.count d + 1 else ns.count d := by
      rw [List.count_append, List.count_singleton]
      by_cases same : d = n
      · simp [same]
      · simp [same, Ne.symm same]
    rw [step, ih, eraseDups_concat]
    by_cases seen : n ∈ ns
    · rw [if_pos seen, count_seen apart _ (nodup_eraseDups ns) (List.mem_eraseDups.mpr seen)]
      exact List.map_congr_left fun d _ => by rw [counted]
    · have old : ∀ d ∈ ns.eraseDups, d ≠ n := fun d hd h => seen (h ▸ List.mem_eraseDups.mp hd)
      rw [if_neg seen, count_new apart _ (mt List.mem_eraseDups.mp seen), List.map_append]
      congr 1
      · exact List.map_congr_left fun d hd => by rw [counted, if_neg (old d hd)]
      · rw [List.map_singleton, counted, if_pos rfl, List.count_eq_zero_of_not_mem seen]

end Tally

/-- An entry with the greatest count, and no other with that count before it. -/
def Leads (entries : List (Marked Scalar × Nat)) (best : Marked Scalar × Nat) : Prop :=
  ∃ before after, entries = before ++ best :: after ∧
    (∀ entry ∈ before, entry.2 < best.2) ∧ ∀ entry ∈ after, entry.2 ≤ best.2

theorem Leads.le {entries : List (Marked Scalar × Nat)} {best : Marked Scalar × Nat}
    (h : Leads entries best) : ∀ entry ∈ entries, entry.2 ≤ best.2 := by
  obtain ⟨before, after, rfl, less, most⟩ := h
  intro entry he
  obtain he | he := List.mem_append.mp he
  · exact Nat.le_of_lt (less entry he)
  · obtain rfl | he := List.mem_cons.mp he
    · exact Nat.le_refl _
    · exact most entry he

/-- The choice goes through the entries once and keeps the best that it has seen. -/
theorem leads_mostFrequent (best : Marked Scalar × Nat) (rest : List (Marked Scalar × Nat)) :
    Leads (best :: rest) (mostFrequent best rest) := by
  induction rest generalizing best with
  | nil => exact ⟨[], [], rfl, List.forall_mem_nil _, List.forall_mem_nil _⟩
  | cons entry rest ih =>
    rw [mostFrequent]
    split
    case isTrue less =>
      have most := (ih entry).le entry List.mem_cons_self
      obtain ⟨before, after, split, first, last⟩ := ih entry
      refine ⟨best :: before, after, by rw [split]; rfl, ?_, last⟩
      exact List.forall_mem_cons.mpr ⟨Nat.lt_of_lt_of_le less most, first⟩
    case isFalse kept =>
      have most := (ih best).le best List.mem_cons_self
      obtain ⟨before, after, split, first, last⟩ := ih best
      cases before with
      | nil =>
        -- the first entry leads, and so the next one comes after it
        obtain ⟨same, rfl⟩ := List.cons.inj split
        refine ⟨[], entry :: rest, ?_, List.forall_mem_nil _, ?_⟩
        · rw [← same]
          rfl
        · rw [← same] at last ⊢
          exact List.forall_mem_cons.mpr ⟨by omega, last⟩
      | cons _ before =>
        obtain ⟨rfl, tail⟩ := List.cons.inj split
        obtain ⟨less, first⟩ := List.forall_mem_cons.mp first
        refine ⟨best :: entry :: before, after, congrArg (best :: entry :: ·) tail, ?_, last⟩
        exact List.forall_mem_cons.mpr ⟨less, List.forall_mem_cons.mpr ⟨by omega, first⟩⟩

section IsMode

variable {κ : Type} [DecidableEq κ] {ns l r : List κ} {m n : κ}

/-- None occurs more often, and those that occur as often occur first behind it. -/
structure IsMode (ns : List κ) (m : κ) : Prop where
  mem : m ∈ ns
  most : ∀ n, ns.count n ≤ ns.count m
  first : ∀ n ∈ ns, n ≠ m → ns.count n = ns.count m → ns.idxOf m < ns.idxOf n

theorem IsMode.eq (hm : IsMode ns m) (hn : IsMode ns n) : m = n := by
  by_contra other
  have same : ns.count n = ns.count m := Nat.le_antisymm (hm.most n) (hn.most m)
  have before := hm.first n hn.mem (Ne.symm other) same
  have behind := hn.first m hm.mem other same.symm
  omega

/-- With one more occurrence it occurs more often than all others. -/
theorem IsMode.insert (h : IsMode (l ++ r) m) : IsMode (l ++ m :: r) m := by
  have counted (n : κ) : (l ++ m :: r).count n = (l ++ r).count n + if m = n then 1 else 0 := by
    rw [List.count_append, List.count_append, List.count_cons]
    by_cases same : m = n
    · simp [same, Nat.add_assoc]
    · simp [same]
  have more : (l ++ m :: r).count m = (l ++ r).count m + 1 := by rw [counted, if_pos rfl]
  refine ⟨List.mem_append_right _ List.mem_cons_self, fun n => ?_, fun n _ other same => ?_⟩
  · have := h.most n
    rw [counted n, more]
    split <;> omega
  · have := h.most n
    rw [counted n, more, if_neg (Ne.symm other)] at same
    omega

/-- In the tally the entry that leads is that of the mode. -/
theorem isMode_of_leads {f : κ → Marked Scalar} {best : Marked Scalar × Nat}
    (h : Leads (ns.eraseDups.map fun n => (f n, ns.count n)) best) :
    ∃ m, IsMode ns m ∧ best = (f m, ns.count m) := by
  have most := h.le
  obtain ⟨before, after, split, less, -⟩ := h
  obtain ⟨earlier, rest, distinct, rfl, ends⟩ := List.map_eq_append_iff.mp split
  obtain ⟨m, later, rfl, rfl, rfl⟩ := List.map_eq_cons_iff.mp ends
  have ordered := pairwise_idxOf_eraseDups ns
  rw [distinct] at ordered
  have behind := (List.pairwise_cons.mp (List.pairwise_append.mp ordered).2.1).1
  have seen (n : κ) : n ∈ ns ↔ n ∈ earlier ++ m :: later := by
    rw [← distinct, List.mem_eraseDups]
  refine ⟨m, ⟨(seen m).mpr (List.mem_append_right _ List.mem_cons_self), fun n => ?_,
    fun n hn other same => ?_⟩, rfl⟩
  · by_cases hn : n ∈ ns
    · exact most _ (List.mem_map_of_mem (List.mem_eraseDups.mpr hn))
    · rw [List.count_eq_zero_of_not_mem hn]
      exact Nat.zero_le _
  · obtain hn | hn := List.mem_append.mp ((seen n).mp hn)
    · have := less _ (List.mem_map_of_mem hn)
      dsimp only at this
      omega
    · exact behind n ((List.mem_cons.mp hn).resolve_left other)

/-- What is chosen from numbers that are told apart by a key is the mode of the keys. -/
theorem mode_map {f : κ → Marked Scalar} (apart : ∀ m n, isOne (f m) (f n) = decide (m = n))
    (filled : ns ≠ []) : ∃ m, IsMode ns m ∧ mode (ns.map f) = .ok (f m) := by
  rw [mode, tally_map apart]
  cases distinct : ns.eraseDups with
  | nil =>
    obtain ⟨n, hn⟩ := List.exists_mem_of_ne_nil ns filled
    rw [← List.mem_eraseDups, distinct] at hn
    cases hn
  | cons d ds =>
    have leads := leads_mostFrequent (f d, ns.count d) (ds.map fun n => (f n, ns.count n))
    rw [← List.map_cons (f := fun n => (f n, ns.count n)), ← distinct] at leads
    obtain ⟨m, isMode, best⟩ := isMode_of_leads leads
    refine ⟨m, isMode, ?_⟩
    rw [List.map_cons]
    dsimp only
    rw [best]

end IsMode

end Statistics

namespace Variadic

open Statistics (IsMode)

variable {ns : List Int} {m : Int}

theorem isOne_integers (m n : Int) :
    Statistics.isOne (.plain (.integer m)) (.plain (.integer n)) = decide (m = n) := by
  by_cases same : m = n
  · simp [Statistics.isOne, Marked.isSame, Marked.plain, Scalar.eq, Scalar.compare?, same]
  · simp [Statistics.isOne, Marked.isSame, Marked.plain, Scalar.eq, Scalar.compare?, same]

theorem mode_ofIntegers (isMode : IsMode ns m) :
    mode.ofIntegers ns = .ok (.plain (.integer m)) := by
  have filled : ns ≠ [] := List.ne_nil_of_mem isMode.mem
  obtain ⟨k, found, chosen⟩ := Statistics.mode_map isOne_integers filled
  change modeCall _ = _
  rw [modeCall, mapM_real_integers]
  change ((Statistics.mode _).mapError Fault.uncaught >>= _) = _
  rw [chosen, found.eq isMode]
  rfl

theorem exists_isMode (filled : ns ≠ []) : ∃ m, IsMode ns m :=
  (Statistics.mode_map isOne_integers filled).imp fun _ => And.left

/-- **The mode of integers** is one of them. None occurs more often, and all that occur as often
have their first occurrence behind its own. With one more occurrence, wherever it is, it stays the
mode. -/
theorem mode_first_most_frequent (ns : List Int) (filled : ns ≠ []) :
    ∃ m, mode.ofIntegers ns = .ok (.plain (.integer m)) ∧ m ∈ ns ∧
      (∀ n, ns.count n ≤ ns.count m) ∧
      (∀ n ∈ ns, n ≠ m → ns.count n = ns.count m → ns.idxOf m < ns.idxOf n) ∧
      ∀ l r, ns = l ++ r → mode.ofIntegers (l ++ m :: r) = .ok (.plain (.integer m)) := by
  obtain ⟨m, isMode⟩ := exists_isMode filled
  refine ⟨m, mode_ofIntegers isMode, isMode.mem, isMode.most, isMode.first, ?_⟩
  rintro l r rfl
  exact mode_ofIntegers isMode.insert

theorem mode_first_most_frequent_tie :
    mode.ofIntegers [2, 5, 5, 2] = .ok (.plain (.integer 2)) := by
  obtain ⟨m, made, seen, _, first, _⟩ := mode_first_most_frequent [2, 5, 5, 2] (by decide)
  have two : m = 2 := by
    by_contra other
    have five : m = 5 := by
      simp only [List.mem_cons, List.not_mem_nil, or_false] at seen
      omega
    subst five
    exact absurd (first 2 (by decide) (by decide) (by decide)) (by decide)
  rw [made, two]

end Variadic
end Reckoner
