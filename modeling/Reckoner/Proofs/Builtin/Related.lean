import Reckoner.Builtin.Call
import Reckoner.Proofs.Fault.Related
import Reckoner.Proofs.Sorting.Naturality

/-!
Calls that cannot tell two evaluations apart. Functions look at the values of their arguments, and
at where undefined ones were kept only to see which of them are one and the same. Arguments that are
equal, and the same as one another in both evaluations alike, lead to results of which this holds
again.
-/
namespace Reckoner

/-- Which marks of one evaluation belong together with which marks of another one. Both evaluations
draw the same random numbers, and what is one and the same number in one of them is so in the other.
-/
structure Pairing where
  rel : Option Mark → Option Mark → Prop
  unmarked : rel none none
  drawn (place : Nat) : rel (some (.drawn place)) (some (.drawn place))
  same_iff {m m' n n' : Option Mark} (hm : rel m m') (hn : rel n n') :
    (m.isSome ∧ m = n) ↔ (m'.isSome ∧ m' = n')

variable {p : Pairing} {α β : Type}

namespace Marked

/-- Equal contents with marks that belong together. -/
structure Paired (p : Pairing) (x x' : Marked α) : Prop where
  content_eq : x.content = x'.content
  mark_rel : p.rel x.mark x'.mark

theorem paired_plain (a : α) : (plain a).Paired p (plain a) :=
  ⟨rfl, p.unmarked⟩

variable {x x' y y' : Marked α}

theorem Paired.map (h : x.Paired p x') (f : α → β) : (x.map f).Paired p (x'.map f) :=
  ⟨congrArg f h.content_eq, h.mark_rel⟩

theorem Paired.isSame_eq (hx : x.Paired p x') (hy : y.Paired p y') :
    x.isSame y = x'.isSame y' := by
  rw [Bool.eq_iff_iff, isSame, isSame, Bool.and_eq_true, Bool.and_eq_true, beq_iff_eq, beq_iff_eq]
  exact p.same_iff hx.mark_rel hy.mark_rel

theorem map_content_eq {xs xs' : List (Marked α)} (h : List.Forall₂ (Paired p) xs xs') :
    xs.map content = xs'.map content := by
  induction h with
  | nil => rfl
  | cons first _ ih => rw [List.map_cons, List.map_cons, first.content_eq, ih]

theorem Paired.real {x x' : Operand} (h : x.Paired p x') (function : String) :
    Related Eq (Paired p) (x.real function) (x'.real function) := by
  unfold Marked.real
  rw [h.content_eq]
  exact .bind_same _ fun _ => .bind_same _ fun _ => .ok ⟨rfl, h.mark_rel⟩

theorem Paired.nearest {x x' : Operand} (h : x.Paired p x') (function : String) :
    Related Eq (Paired p) (x.nearest function) (x'.nearest function) := by
  refine (h.real function).bind fun a a' real => ?_
  rw [real.content_eq]
  exact .bind_same _ fun _ => .ok ⟨rfl, real.mark_rel⟩

theorem Paired.least {a a' b b' : Marked Scalar} (ha : a.Paired p a') (hb : b.Paired p b') :
    (a.least b).Paired p (a'.least b') := by
  unfold Marked.least
  rw [ha.content_eq, hb.content_eq]
  split
  · exact hb
  · exact ha

theorem Paired.greatest {a a' b b' : Marked Scalar} (ha : a.Paired p a') (hb : b.Paired p b') :
    (a.greatest b).Paired p (a'.greatest b') := by
  unfold Marked.greatest
  rw [ha.content_eq, hb.content_eq]
  split
  · exact hb
  · exact ha

theorem Paired.among {xs xs' : List (Marked Scalar)} {chosen chosen' : Marked Scalar}
    (hxs : List.Forall₂ (Paired p) xs xs') (h : chosen.Paired p chosen') :
    Related Eq (Paired p) (chosen.among xs) (chosen'.among xs') := by
  have integers : (xs.all fun x => x.content.isInteger) = xs'.all fun x => x.content.isInteger := by
    have all (ys : List (Marked Scalar)) : (ys.all fun x => x.content.isInteger) =
        (ys.map content).all Scalar.isInteger := by
      rw [List.all_map]
      rfl
    rw [all, all, map_content_eq hxs]
  unfold Marked.among
  rw [h.content_eq, integers]
  split
  · exact .ok ⟨rfl, h.mark_rel⟩
  · split
    · exact .ok (paired_plain _)
    · exact .bind_same _ fun _ => .ok (paired_plain _)

end Marked

open Marked

namespace Statistics

theorem related_median {xs xs' : List (Marked Float)} (h : List.Forall₂ (Paired p) xs xs') :
    Related Eq (Paired p) (median xs) (median xs') := by
  have sorted : List.Forall₂ (Paired p)
      (Sorting.sort (fun x y : Marked Float => decide (x.content < y.content)) xs)
      (Sorting.sort (fun x y : Marked Float => decide (x.content < y.content)) xs') :=
    Sorting.sort_rel (fun _ _ _ _ ha hb => by rw [ha.content_eq, hb.content_eq]) h
  unfold median
  dsimp only
  rw [sorted.length_eq]
  generalize Sorting.sort _ xs = ys at sorted ⊢
  generalize Sorting.sort _ xs' = ys' at sorted ⊢
  have middle := List.forall₂_drop ((ys'.length - 1) / 2) sorted
  generalize ys.drop ((ys'.length - 1) / 2) = zs at middle ⊢
  generalize ys'.drop ((ys'.length - 1) / 2) = zs' at middle ⊢
  cases middle with
  | nil => exact .error rfl
  | cons hx rest =>
    cases rest with
    | nil => exact .ok hx
    | cons hy _ =>
      dsimp only
      split
      · exact .ok hx
      · rw [hx.content_eq, hy.content_eq]
        exact .ok (paired_plain _)

/-- Entries that belong together: paired numbers that occur equally often. -/
def PairedEntries (p : Pairing) (e e' : Marked Scalar × Nat) : Prop :=
  e.1.Paired p e'.1 ∧ e.2 = e'.2

theorem isOne_eq {x x' y y' : Marked Scalar} (hx : x.Paired p x') (hy : y.Paired p y') :
    isOne x y = isOne x' y' := by
  rw [isOne, isOne, hx.content_eq, hy.content_eq, hx.isSame_eq hy]

theorem forall₂_count {x x' : Marked Scalar} (hx : x.Paired p x')
    {counts counts' : List (Marked Scalar × Nat)}
    (h : List.Forall₂ (PairedEntries p) counts counts') :
    List.Forall₂ (PairedEntries p) (count x counts) (count x' counts') := by
  induction h with
  | nil => exact .cons ⟨hx, rfl⟩ .nil
  | cons entry rest ih =>
    rw [count, count, isOne_eq entry.1 hx, entry.2]
    split
    · exact .cons ⟨entry.1, rfl⟩ rest
    · exact .cons ⟨entry.1, rfl⟩ ih

theorem paired_mostFrequent {best best' : Marked Scalar × Nat} (hb : PairedEntries p best best')
    {counts counts' : List (Marked Scalar × Nat)}
    (h : List.Forall₂ (PairedEntries p) counts counts') :
    PairedEntries p (mostFrequent best counts) (mostFrequent best' counts') := by
  induction h generalizing best best' with
  | nil => exact hb
  | cons entry _ ih =>
    refine ih ?_
    rw [hb.2, entry.2]
    split
    · exact entry
    · exact hb

theorem related_mode {xs xs' : List (Marked Scalar)} (h : List.Forall₂ (Paired p) xs xs') :
    Related Eq (Paired p) (mode xs) (mode xs') := by
  have tallied : List.Forall₂ (PairedEntries p) (tally xs) (tally xs') :=
    List.rel_foldl (P := List.Forall₂ (PairedEntries p)) (R := Paired p)
      (fun _ _ counts _ _ hx => forall₂_count hx counts) .nil h
  unfold mode
  generalize tally xs = counts at tallied ⊢
  generalize tally xs' = counts' at tallied ⊢
  cases tallied with
  | nil => exact .error rfl
  | cons entry rest => exact .ok (paired_mostFrequent entry rest).1

end Statistics

namespace Variadic

variable {arguments arguments' : List Operand} (f : Variadic)

theorem related_choice {prefer : Marked Scalar → Marked Scalar → Marked Scalar}
    (preferred : ∀ {a a' b b'}, a.Paired p a' → b.Paired p b' →
      (prefer a b).Paired p (prefer a' b'))
    (h : List.Forall₂ (Paired p) arguments arguments') :
    Related Eq (Paired p) (f.choice prefer arguments) (f.choice prefer arguments') := by
  refine (Related.mapM h fun _ _ hx => hx.real f.name).bind fun xs xs' hxs => ?_
  cases hxs with
  | nil => exact .error rfl
  | cons hx rest =>
    have chosen := List.rel_foldl (P := Paired p) (R := Paired p)
      (fun _ _ ha _ _ hb => preferred ha hb) hx rest
    exact (chosen.among (.cons hx rest)).mapError _

theorem related_statistic {measure : List (Marked Float) → Except Trap (Marked Float)}
    (measured : ∀ {xs xs'}, List.Forall₂ (Paired p) xs xs' →
      Related Eq (Paired p) (measure xs) (measure xs'))
    (h : List.Forall₂ (Paired p) arguments arguments') :
    Related Eq (Paired p) (f.statistic measure arguments) (f.statistic measure arguments') := by
  refine (Related.mapM h fun _ _ hx => hx.nearest f.name).bind fun xs xs' hxs => ?_
  exact ((measured hxs).mapError _).bind fun _ _ hx => .ok (hx.map _)

/-- A statistic that is reckoned anew depends on the values alone. -/
theorem related_reckoned (measure : List Float → Except Trap Float)
    (h : List.Forall₂ (Paired p) arguments arguments') :
    Related Eq (Paired p) (f.reckoned measure arguments) (f.reckoned measure arguments') := by
  refine f.related_statistic (fun hxs => ?_) h
  rw [map_content_eq hxs]
  exact .bind_same _ fun _ => .ok (paired_plain _)

theorem related_modeCall (h : List.Forall₂ (Paired p) arguments arguments') :
    Related Eq (Paired p) (modeCall arguments) (modeCall arguments') := by
  refine (Related.mapM h fun _ _ hx => hx.real mode.name).bind fun xs xs' hxs => ?_
  refine ((Statistics.related_mode hxs).mapError _).bind fun x x' hx => ?_
  rw [hx.content_eq]
  split
  · exact .ok (paired_plain _)
  · exact .ok (hx.map _)

theorem related_call (h : List.Forall₂ (Paired p) arguments arguments') :
    Related Eq (Paired p) (f.call arguments) (f.call arguments') := by
  cases f with
  | max => exact max.related_choice Paired.greatest h
  | min => exact min.related_choice Paired.least h
  | median => exact median.related_statistic Statistics.related_median h
  | mode => exact related_modeCall h
  | average => exact average.related_reckoned _ h
  | stdev => exact stdev.related_reckoned (fun xs => Float.sqrt <$> Statistics.variance xs) h
  | variance => exact variance.related_reckoned _ h

end Variadic

namespace Builtin

theorem related_clampValue {x x' low low' high high' : Marked Scalar} (hx : x.Paired p x')
    (hlow : low.Paired p low') (hhigh : high.Paired p high') :
    Related Eq (Paired p) (clampValue x low high) (clampValue x' low' high') := by
  unfold clampValue
  rw [hlow.content_eq, hhigh.content_eq]
  split
  · exact .error rfl
  · exact ((hx.greatest hlow).least hhigh).among (.cons hx (.cons hlow (.cons hhigh .nil)))

theorem related_clampCall {arguments arguments' : List Operand}
    (h : List.Forall₂ (Paired p) arguments arguments') :
    Related Eq (Paired p) (clampCall arguments) (clampCall arguments') := by
  have checked := Related.mapM (List.forall₂_take 4 h) fun _ _ hx => hx.real "clamp"
  refine checked.bind fun xs xs' hxs => ?_
  have length := hxs.length_eq
  -- Of any other number than three, the fault only shows how many there are.
  match xs, xs', hxs with
  | _, _, .cons hx (.cons hlow (.cons hhigh .nil)) =>
    exact (related_clampValue hx hlow hhigh).mapError _
  | _, _, .nil | _, _, .cons _ .nil | _, _, .cons _ (.cons _ .nil) => exact .error rfl
  | _, _, .cons _ (.cons _ (.cons _ (.cons _ rest))) =>
    dsimp only
    rw [length]
    exact .error rfl

end Builtin

end Reckoner
