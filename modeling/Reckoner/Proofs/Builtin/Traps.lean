import Reckoner.Builtin.Call
import Reckoner.Proofs.Builtin.Factorials
import Reckoner.Proofs.Evaluation.Outcome
import Reckoner.Proofs.Statistics.Traps

namespace Reckoner

namespace Datum

def IsNumber (d : Datum) : Prop :=
  ∃ v, d = .number v

/-- The datum is a real number, and the double the nearest one to it. -/
inductive IsNearest : Datum → Float → Prop where
  | double (x : Float) : IsNearest (.number (.double x)) x
  | integer {n : Int} {x : Float} (nearest : Binary64.ofInt? n = some x) :
      IsNearest (.number (.integer n)) x

theorem caught_withPart {d : Datum} (h : d.IsNumber) (part : String) :
    Caught (d.withPart part) := by
  obtain ⟨v, rfl⟩ := h
  exact caught_ok v

theorem caught_argument {ds : List Datum} (numbers : ∀ d ∈ ds, d.IsNumber) (place : Nat)
    (h : place < ds.length) : Caught (argument ds place) := by
  rw [argument, List.getElem?_eq_getElem h]
  exact caught_withPart (numbers _ (List.getElem_mem h)) "value"

end Datum

/-- All operands are numbers. -/
def AreNumbers (xs : List Operand) : Prop :=
  ∀ x ∈ xs, x.content.IsNumber

theorem AreNumbers.contents {xs : List Operand} (h : AreNumbers xs) :
    ∀ d ∈ xs.map Marked.content, d.IsNumber := by
  intro d hd
  obtain ⟨x, hx, rfl⟩ := List.mem_map.mp hd
  exact h x hx

namespace Marked

theorem caught_real {x : Operand} (h : x.content.IsNumber) (function : String) :
    Caught (x.real function) := by
  refine (Datum.caught_withPart h "value").bind fun v _ => ?_
  exact (caught_domain (v.real function)).bind fun a _ => caught_ok _

theorem caught_nearest {x : Operand} (h : x.content.IsNumber) (function : String) :
    Caught (x.nearest function) := by
  refine (caught_real h function).bind fun a _ => ?_
  exact (caught_domain a.content.nearest).bind fun _ _ => caught_ok _

/-- An argument that is a real number is taken as the double next to it. -/
theorem nearest_of_isNearest {x : Operand} {y : Float} (h : x.content.IsNearest y)
    (function : String) : x.nearest function = .ok ⟨y, x.mark⟩ := by
  obtain ⟨d, mark⟩ := x
  cases h with
  | double y => rfl
  | @integer n y found =>
    have nearest : (Scalar.integer n).nearest = .ok y := by rw [Scalar.nearest, found]
    simp only [Marked.nearest, Marked.real, Datum.withPart, Datum.need, Value.real, Value.scalar?,
      bind, Except.bind, pure, Except.pure, mapError_ok, nearest]

theorem isNearest_of_nearest {x : Operand} {function : String} {y : Marked Float}
    (h : x.nearest function = .ok y) : x.content.IsNearest y.content := by
  obtain ⟨d, mark⟩ := x
  cases d with
  | foreign stranger => cases h
  | number v =>
    cases v with
    | double z =>
      cases h
      exact .double z
    | complex z => cases h
    | integer n =>
      cases found : Binary64.ofInt? n with
      | none =>
        simp [Marked.nearest, Marked.real, Datum.withPart, Datum.need, Value.real, Value.scalar?,
          bind, Except.bind, pure, Except.pure, mapError_ok, mapError_error, Scalar.nearest,
          found] at h
      | some z =>
        rw [nearest_of_isNearest (x := ⟨.number (.integer n), mark⟩) (.integer found)] at h
        cases h
        exact .integer found

theorem mapM_nearest_of_isNearest {xs : List Operand} {ys : List Float}
    (h : List.Forall₂ (fun x y => Datum.IsNearest (Marked.content x) y) xs ys) (function : String) :
    ∃ zs, xs.mapM (Marked.nearest function) = .ok zs ∧ zs.map Marked.content = ys := by
  induction h with
  | nil => exact ⟨[], rfl, rfl⟩
  | @cons x y xs ys hx _ ih =>
    obtain ⟨zs, hzs, hys⟩ := ih
    refine ⟨⟨y, x.mark⟩ :: zs, ?_, by rw [List.map_cons, hys]⟩
    rw [List.mapM_cons, nearest_of_isNearest hx, hzs]
    rfl

theorem isNearest_of_mapM_nearest {xs : List Operand} {function : String}
    {zs : List (Marked Float)} (h : xs.mapM (Marked.nearest function) = .ok zs) :
    List.Forall₂ (fun x y => Datum.IsNearest (Marked.content x) y) xs (zs.map Marked.content) := by
  rw [List.forall₂_map_right_iff]
  exact (mapM_eq_ok_iff.mp h).imp fun _ _ => isNearest_of_nearest

end Marked

/-- The arguments are taken as doubles of which a deviation has too large a square. -/
def SpreadOverflows (arguments : List Operand) : Prop :=
  ∃ xs, List.Forall₂ (fun x y => Datum.IsNearest (Marked.content x) y) arguments xs ∧
    Statistics.SquaresOverflow xs

/-- The first argument has a factorial, but does not fit into a word. -/
def WideFactorial (limit : Int) (arguments : List Operand) : Prop :=
  ∃ x rest v, arguments = x :: rest ∧ x.content = .number v ∧ Unary.FactorialOverflows limit v

section Calls

variable {arguments : List Operand}

/-- Only a factorial fails with a trap. -/
theorem Unary.call_eq_uncaught_iff {limit : Int} {f : Unary} (numbers : AreNumbers arguments)
    (h : 0 < arguments.length) {trap : Trap} :
    f.call limit (arguments.map Marked.content) = .error (.uncaught trap) ↔
      trap = .wideFactorial ∧ f = fact ∧ WideFactorial limit arguments := by
  obtain ⟨x, rest, rfl⟩ := List.exists_cons_of_length_pos h
  obtain ⟨v, number⟩ := numbers x List.mem_cons_self
  rw [List.map_cons, number, call_number]
  have overflows : WideFactorial limit (x :: rest) ↔ FactorialOverflows limit v := by
    constructor
    · rintro ⟨_, _, w, split, same, wide⟩
      cases split
      cases number.symm.trans same
      exact wide
    · exact fun wide => ⟨x, rest, v, rfl, number, wide⟩
  rw [overflows]
  by_cases hf : f = fact
  · subst hf
    rw [apply, factValue_eq_uncaught_iff, eq_self, true_and]
  · obtain ⟨result, reports⟩ := exists_apply_eq_reported limit hf v
    rw [reports]
    exact ⟨fun trapped => absurd trapped (caught_domain _ trap), fun same => absurd same.2.1 hf⟩

theorem Binary.caught_call (f : Binary) (numbers : AreNumbers arguments)
    (h : 1 < arguments.length) : Caught (f.call (arguments.map Marked.content)) := by
  have first := Datum.caught_argument numbers.contents 0
    (by rw [List.length_map]; omega)
  have second := Datum.caught_argument numbers.contents 1 (by rwa [List.length_map])
  refine first.bind fun v _ => (caught_domain _).bind fun _ _ => ?_
  exact second.bind fun w _ => caught_domain _

theorem Builtin.caught_clampCall (numbers : AreNumbers arguments) (h : arguments.length = 3) :
    Caught (clampCall arguments) := by
  have four : arguments.take 4 = arguments := List.take_of_length_le (by omega)
  unfold clampCall
  rw [four]
  refine (caught_mapM fun x hx => Marked.caught_real (numbers x hx) "clamp").bind fun xs hxs => ?_
  have length := length_of_mapM_eq_ok hxs
  match xs, length with
  | [x, low, high], _ => exact caught_domain _
  | [], length => rw [h] at length; cases length
  | [_], length => rw [h] at length; cases length
  | [_, _], length => rw [h] at length; cases length
  | _ :: _ :: _ :: _ :: _, length => rw [h] at length; cases length

namespace Variadic

theorem caught_choice (f : Variadic) (prefer : Marked Scalar → Marked Scalar → Marked Scalar)
    (numbers : AreNumbers arguments) (h : 0 < arguments.length) :
    Caught (f.choice prefer arguments) := by
  refine (caught_mapM fun x hx => Marked.caught_real (numbers x hx) f.name).bind fun xs hxs => ?_
  have length := length_of_mapM_eq_ok hxs
  cases xs with
  | nil =>
    rw [List.length_nil] at length
    omega
  | cons x xs => exact caught_domain _

theorem caught_statistic (f : Variadic) {measure : List (Marked Float) → Except Trap (Marked Float)}
    (numbers : AreNumbers arguments)
    (h : ∀ xs, xs.length = arguments.length → ∃ x, measure xs = .ok x) :
    Caught (f.statistic measure arguments) := by
  refine (caught_mapM fun x hx => Marked.caught_nearest (numbers x hx) f.name).bind fun xs hxs => ?_
  obtain ⟨x, hx⟩ := h xs (length_of_mapM_eq_ok hxs)
  rw [hx]
  exact caught_ok _

theorem caught_modeCall (numbers : AreNumbers arguments) (h : 0 < arguments.length) :
    Caught (modeCall arguments) := by
  refine (caught_mapM fun x hx => Marked.caught_real (numbers x hx) mode.name).bind fun xs hxs => ?_
  have filled : 0 < xs.length := length_of_mapM_eq_ok hxs ▸ h
  obtain ⟨x, hx⟩ := Statistics.exists_mode filled
  rw [hx, mapError_ok]
  dsimp only [bind, Except.bind]
  split <;> exact caught_ok _

/-- A statistic fails with a trap if its arguments are real numbers in the range of the doubles for
which it has none. -/
theorem reckoned_eq_uncaught_iff (f : Variadic) (measure : List Float → Except Trap Float)
    (numbers : AreNumbers arguments) {trap : Trap} :
    f.reckoned measure arguments = .error (.uncaught trap) ↔
      ∃ xs, List.Forall₂ (fun x y => Datum.IsNearest (Marked.content x) y) arguments xs ∧
        measure xs = .error trap := by
  constructor
  · intro h
    obtain refused | ⟨zs, taken, h⟩ := bind_eq_error_iff.mp h
    · have caught := caught_mapM fun x hx => Marked.caught_nearest (numbers x hx) f.name
      exact absurd refused (caught trap)
    obtain failed | ⟨x, _, h⟩ := bind_eq_error_iff.mp h
    · exact ⟨zs.map Marked.content, Marked.isNearest_of_mapM_nearest taken,
        map_eq_error_iff.mp (mapError_eq_uncaught_iff.mp failed)⟩
    · cases h
  · rintro ⟨xs, hnearest, hmeasure⟩
    obtain ⟨zs, taken, rfl⟩ := Marked.mapM_nearest_of_isNearest hnearest f.name
    refine bind_eq_error_iff.mpr (.inr ⟨zs, taken, bind_eq_error_iff.mpr (.inl ?_)⟩)
    exact mapError_eq_uncaught_iff.mpr (map_eq_error_iff.mpr hmeasure)

/-- Variance and standard deviation fail with a trap if a deviation has too large a square, and with
no other. -/
theorem spread_eq_uncaught_iff (f : Variadic) {measure : List Float → Except Trap Float}
    (spread : ∀ xs trap, measure xs = .error trap ↔ Statistics.variance xs = .error trap)
    (numbers : AreNumbers arguments) (h : 2 ≤ arguments.length) {trap : Trap} :
    f.reckoned measure arguments = .error (.uncaught trap) ↔
      trap = .square ∧ SpreadOverflows arguments := by
  rw [reckoned_eq_uncaught_iff f measure numbers]
  constructor
  · rintro ⟨xs, nearest, failed⟩
    have length : 2 ≤ xs.length := nearest.length_eq ▸ h
    obtain ⟨htrap, overflow⟩ :=
      (Statistics.variance_eq_error_iff length).mp ((spread _ _).mp failed)
    exact ⟨htrap, xs, nearest, overflow⟩
  · rintro ⟨rfl, xs, nearest, overflow⟩
    have length : 2 ≤ xs.length := nearest.length_eq ▸ h
    exact ⟨xs, nearest, (spread _ _).mpr
      ((Statistics.variance_eq_error_iff length).mpr ⟨rfl, overflow⟩)⟩

/-- The functions whose traps are not caught. -/
def IsSpread (f : Variadic) : Prop :=
  f = variance ∨ f = stdev

theorem call_eq_uncaught_iff {f : Variadic} (numbers : AreNumbers arguments)
    (h : f.least ≤ arguments.length) {trap : Trap} :
    f.call arguments = .error (.uncaught trap) ↔
      trap = .square ∧ f.IsSpread ∧ SpreadOverflows arguments := by
  have caught (not : ¬ f.IsSpread) (hc : Caught (f.call arguments)) :
      f.call arguments = .error (.uncaught trap) ↔
        trap = .square ∧ f.IsSpread ∧ SpreadOverflows arguments :=
    ⟨fun hu => absurd hu (hc trap), fun ⟨_, spread, _⟩ => absurd spread not⟩
  cases f with
  | average =>
    refine caught (by simp [IsSpread]) (caught_statistic average numbers fun xs hxs => ?_)
    rw [Statistics.mean_eq (by rw [List.length_map, hxs]; exact h)]
    exact ⟨_, rfl⟩
  | max => exact caught (by simp [IsSpread]) (caught_choice max _ numbers h)
  | min => exact caught (by simp [IsSpread]) (caught_choice min _ numbers h)
  | median =>
    refine caught (by simp [IsSpread]) (caught_statistic median numbers fun xs hxs => ?_)
    exact Statistics.exists_median (hxs ▸ h)
  | mode => exact caught (by simp [IsSpread]) (caught_modeCall numbers h)
  | stdev =>
    refine (spread_eq_uncaught_iff stdev (fun _ _ => map_eq_error_iff) numbers h).trans ?_
    simp [IsSpread]
  | variance =>
    refine (spread_eq_uncaught_iff variance (fun _ _ => Iff.rfl) numbers h).trans ?_
    simp [IsSpread]

end Variadic

/-- The call of a function fails with a trap that nothing catches. -/
inductive Builtin.TrapsOn (limit : Int) (arguments : List Operand) : Builtin → Trap → Prop where
  | square {f : Variadic} (spread : f.IsSpread) (overflows : SpreadOverflows arguments) :
      TrapsOn limit arguments (variadic f) .square
  | wideFactorial (wide : WideFactorial limit arguments) :
      TrapsOn limit arguments (unary .fact) .wideFactorial

/-- **Traps of calls.** A function that gets as many numbers as it takes fails with a trap only if
it is the variance or the standard deviation, and a deviation has too large a square, or if it is
the factorial, and the limit admits an argument that does not fit into a word. -/
theorem Builtin.call_eq_uncaught_iff {limit : Int} {f : Builtin} (numbers : AreNumbers arguments)
    (admits : f.arity.Admits arguments.length) (least : f.arity.least ≤ arguments.length)
    {trap : Trap} {random later : RandomSource} :
    Evaluation.outcome (f.call limit arguments) random = (.error (.uncaught trap), later) ↔
      later = random ∧ f.TrapsOn limit arguments trap := by
  cases f with
  | unary f =>
    have called : Evaluation.outcome ((unary f).call limit arguments) random =
        (.plain <$> f.call limit (arguments.map Marked.content), random) :=
      Evaluation.outcome_ofExcept_bind_pure _ _ random
    rw [called, Prod.mk.injEq, map_eq_error_iff, Unary.call_eq_uncaught_iff numbers least]
    constructor
    · rintro ⟨⟨rfl, rfl, wide⟩, rfl⟩
      exact ⟨rfl, .wideFactorial wide⟩
    · rintro ⟨rfl, traps⟩
      cases traps with
      | wideFactorial wide => exact ⟨⟨rfl, rfl, wide⟩, rfl⟩
  | binary f =>
    have caught := (Binary.caught_call f numbers least).map Marked.plain
    have called : Evaluation.outcome ((binary f).call limit arguments) random =
        (.plain <$> f.call (arguments.map Marked.content), random) :=
      Evaluation.outcome_ofExcept_bind_pure _ _ random
    rw [called, Prod.mk.injEq]
    exact ⟨fun h => absurd h.1 (caught trap), fun h => by cases h.2⟩
  | variadic f =>
    have failed : f.call arguments = .error (.uncaught trap) ↔ _ :=
      Variadic.call_eq_uncaught_iff numbers least
    rw [call, Evaluation.outcome_ofExcept, Prod.mk.injEq, failed]
    constructor
    · rintro ⟨⟨rfl, spread, overflows⟩, rfl⟩
      exact ⟨rfl, .square spread overflows⟩
    · rintro ⟨rfl, traps⟩
      cases traps with
      | square spread overflows => exact ⟨⟨rfl, spread, overflows⟩, rfl⟩
  | clamp =>
    have caught := Builtin.caught_clampCall numbers admits
    rw [call, Evaluation.outcome_ofExcept, Prod.mk.injEq]
    exact ⟨fun h => absurd h.1 (caught trap), fun h => by cases h.2⟩
  | random =>
    constructor
    · intro h
      cases h
    · rintro ⟨_, traps⟩
      cases traps

end Calls

end Reckoner
