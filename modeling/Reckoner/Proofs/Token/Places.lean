import Mathlib.Algebra.Ring.Int.Defs
import Reckoner.Proofs.Token.Nesting

namespace Reckoner.Token

/-- How many operands start with the token beyond the one that has to come right behind it. -/
def lead (t : Token) : Int :=
  (if t.kind.startsOperand then 1 else 0) - if t.kind.endsOperand then 0 else 1

theorem Place.eq_of_isHollow {p : Place} (h : p.isHollow) :
    p = (some .leftParen, some .rightParen) := by
  obtain ⟨before, behind⟩ := p
  simp only [isHollow, Bool.and_eq_true, beq_iff_eq] at h
  rw [h.1, h.2]

/-- On one place an operand starts, or is missing, as the tokens on both sides say. -/
theorem Place.count_isCrowded (p : Place) :
    ((if p.isCrowded then 1 else 0 : Nat) : Int) + (if p.1.any Kind.endsOperand then 0 else 1) =
      (if p.isGap then 1 else 0 : Nat) + (if p.isHollow then 1 else 0 : Nat) +
        if p.2.any Kind.startsOperand then 1 else 0 := by
  by_cases hollow : p.isHollow
  · cases eq_of_isHollow hollow
    rfl
  · by_cases ends : p.1.any Kind.endsOperand <;> by_cases starts : p.2.any Kind.startsOperand <;>
      simp [isCrowded, isGap, ends, starts, hollow]

theorem countP_places (previous : Option Kind) (ts : List Token) :
    ((places previous ts).countP Place.isCrowded : Int) +
        (if previous.any Kind.endsOperand then 0 else 1) =
      (places previous ts).countP Place.isGap + (places previous ts).countP Place.isHollow +
        (ts.map lead).sum := by
  induction ts generalizing previous with
  | nil =>
    have last := Place.count_isCrowded (previous, none)
    simp only [places, List.countP_cons, List.countP_nil, List.map_nil, List.sum_nil,
      Nat.zero_add, Option.any_none, Bool.false_eq_true, if_false] at last ⊢
    omega
  | cons t ts ih =>
    have first := Place.count_isCrowded (previous, some t.kind)
    have rest := ih (some t.kind)
    simp only [Option.any_some] at first rest
    simp only [places, List.countP_cons, List.map_cons, List.sum_cons, lead, Int.natCast_add]
    omega

/-- **Operands in excess and operands that are missing** differ in number by one less than the lead
of all tokens. -/
theorem countPlaces_isCrowded (ts : List Token) :
    (countPlaces Place.isCrowded ts : Int) + 1 =
      countPlaces Place.isGap ts + countPlaces Place.isHollow ts + (ts.map lead).sum :=
  countP_places none ts

theorem mem_places_front (previous : Option Kind) (before : List Token) (t : Token)
    (behind : List Token) :
    ((before.getLast?.map Token.kind).or previous, some t.kind) ∈
      places previous (before ++ t :: behind) := by
  induction before generalizing previous with
  | nil => exact List.mem_cons_self
  | cons b before ih =>
    have last : ((b :: before).getLast?.map Token.kind).or previous =
        (before.getLast?.map Token.kind).or (some b.kind) := by
      rw [List.getLast?_cons]
      cases before.getLast? <;> rfl
    rw [last]
    exact List.mem_cons_of_mem _ (ih (some b.kind))

theorem mem_places_behind (previous : Option Kind) (before : List Token) (t : Token)
    (behind : List Token) :
    (some t.kind, behind.head?.map Token.kind) ∈ places previous (before ++ t :: behind) := by
  induction before generalizing previous with
  | nil =>
    refine List.mem_cons_of_mem _ ?_
    cases behind with
    | nil => exact List.mem_cons_self
    | cons n behind => exact List.mem_cons_self
  | cons b before ih => exact List.mem_cons_of_mem _ (ih (some b.kind))

/-- Where no operand is missing, every operator has one on both sides. -/
theorem operatorsBetween_of_no_gap {ts : List Token} (h : countPlaces Place.isGap ts = 0) :
    OperatorsBetween ts := by
  have no_gap : ∀ p ∈ places none ts, ¬ p.isGap := List.countP_eq_zero.mp h
  intro before t behind split hk
  have front := no_gap _ (split ▸ mem_places_front none before t behind)
  have back := no_gap _ (split ▸ mem_places_behind none before t behind)
  rw [hk] at front back
  constructor
  · cases last : before.getLast? with
    | none => simp [last, Place.isGap, Place.isHollow, Kind.startsOperand] at front
    | some p =>
      refine ⟨p, rfl, ?_⟩
      simpa [last, Place.isGap, Place.isHollow, Kind.startsOperand] using front
  · cases next : behind.head? with
    | none => simp [next, Place.isGap, Place.isHollow, Kind.endsOperand] at back
    | some n =>
      refine ⟨n, rfl, ?_⟩
      simpa [next, Place.isGap, Place.isHollow, Kind.endsOperand] using back

theorem countP_isCrowded_eq_zero {previous : Option Kind} {ts : List Token}
    (front : previous.any Kind.endsOperand → ∀ t ∈ ts.head?, ¬ t.kind.startsOperand)
    (separate : ts.IsChain fun p t => p.kind.endsOperand → ¬ t.kind.startsOperand) :
    (places previous ts).countP Place.isCrowded = 0 := by
  induction ts generalizing previous with
  | nil => simp [places, Place.isCrowded]
  | cons t ts ih =>
    obtain ⟨next, later⟩ := List.isChain_cons.mp separate
    have rest : (places (some t.kind) ts).countP Place.isCrowded = 0 :=
      ih (fun ends u hu => next u hu (by simpa using ends)) later
    have first : ¬ Place.isCrowded (previous, some t.kind) := by
      intro crowded
      obtain ⟨ends, starts⟩ := Bool.and_eq_true_iff.mp crowded
      exact front ends t rfl (by simpa using starts)
    rw [places, List.countP_cons, rest, if_neg first]

/-- In a text in which no number stands right behind an operand no operand does. -/
theorem countPlaces_isCrowded_eq_zero {ts : List Token} (apart : ts.IsChain Apart)
    (numbers : NumbersApart ts) : countPlaces Place.isCrowded ts = 0 := by
  refine countP_isCrowded_eq_zero nofun ?_
  rw [List.isChain_iff_forall_rel_of_append_cons_cons] at apart ⊢
  intro p t before behind split ends starts
  exact numbers before p t behind split ends (apart split ends starts)

theorem numbersApart_of_isCrowded {ts : List Token} (h : countPlaces Place.isCrowded ts = 0) :
    NumbersApart ts := by
  have no_crowd : ∀ p ∈ places none ts, ¬ p.isCrowded := List.countP_eq_zero.mp h
  intro before p t behind split ends number
  rw [List.append_cons] at split
  have place := split ▸ mem_places_front none (before ++ [p]) t behind
  have crowded :
      Place.isCrowded (((before ++ [p]).getLast?.map Token.kind).or none, some t.kind) := by
    simp [Place.isCrowded, ends, number, Kind.startsOperand]
  exact no_crowd _ place crowded

end Reckoner.Token
