import Reckoner.Proofs.Builtin.Integers

namespace Reckoner

/-- The outcome of a call of `clamp` with three integers. -/
def Builtin.clampIntegers (x low high : Int) : Except Fault (Marked Value) :=
  clampCall [.plain (.number (.integer x)), .plain (.number (.integer low)),
    .plain (.number (.integer high))]

theorem Scalar.lt_integers (m n : Int) : (integer m).lt (.integer n) = decide (m < n) := by
  change (some (compare m n) == some Ordering.lt) = _
  rw [Bool.eq_iff_iff, beq_iff_eq, Option.some.injEq, Std.compare_eq_lt, decide_eq_true_iff]

namespace Marked

theorem least_integers (m n : Int) :
    (plain (Scalar.integer m)).least (plain (.integer n)) = plain (.integer (min m n)) := by
  unfold least
  simp only [plain, Scalar.lt_integers, decide_eq_true_eq]
  split
  case isTrue less => rw [Int.min_eq_right (Int.le_of_lt less)]
  case isFalse not_less => rw [Int.min_eq_left (Int.not_lt.mp not_less)]

theorem greatest_integers (m n : Int) :
    (plain (Scalar.integer m)).greatest (plain (.integer n)) = plain (.integer (max m n)) := by
  unfold greatest
  simp only [plain, Scalar.lt_integers, decide_eq_true_eq]
  split
  case isTrue less => rw [Int.max_eq_right (Int.le_of_lt less)]
  case isFalse not_less => rw [Int.max_eq_left (Int.not_lt.mp not_less)]

/-- An integer that is chosen among integers stays one. -/
theorem among_integers (ns : List Int) (n : Int) :
    (plain (Scalar.integer n)).among (ns.map fun n => plain (.integer n)) =
      .ok (plain (.integer n)) := by
  have integers : ((ns.map fun n => plain (Scalar.integer n)).all fun x => x.content.isInteger) =
      true := by
    simp [plain, Scalar.isInteger]
  simp only [among, integers]
  rfl

/-- What is chosen among numbers of which one is a double becomes a double. -/
theorem variant_of_among {arguments : List (Marked Scalar)} {x chosen : Marked Scalar}
    {v : Marked Value} (mem : x ∈ arguments) (double : x.content.isInteger = false)
    (made : chosen.among arguments = .ok v) : v.content.variant = .double := by
  obtain ⟨content, mark⟩ := chosen
  cases content with
  | double y =>
    cases made
    rfl
  | integer n =>
    have mixed : ¬ (arguments.all fun x => x.content.isInteger) := by
      intro all
      rw [List.all_eq_true.mp all x mem] at double
      cases double
    simp only [among, if_neg mixed] at made
    obtain ⟨y, _, made⟩ := bind_eq_ok_iff.mp made
    cases made
    rfl

theorem isInteger_of_real {x : Operand} {function : String} {y : Float} {a : Marked Scalar}
    (double : x.content = .number (.double y)) (checked : x.real function = .ok a) :
    a.content.isInteger = false := by
  obtain ⟨content, mark⟩ := x
  cases double
  cases checked
  rfl

end Marked

/-- The least and the greatest of integers. -/
structure Extremes (ns : List Int) (least greatest : Int) : Prop where
  least_mem : least ∈ ns
  greatest_mem : greatest ∈ ns
  bounds : ∀ n ∈ ns, least ≤ n ∧ n ≤ greatest

namespace Extremes

variable {ns ms : List Int} {least greatest : Int}

theorem exists_of_ne_nil (filled : ns ≠ []) : ∃ least greatest, Extremes ns least greatest := by
  obtain ⟨least, first⟩ := Option.isSome_iff_exists.mp (List.isSome_min?_of_ne_nil filled)
  obtain ⟨greatest, last⟩ := Option.isSome_iff_exists.mp (List.isSome_max?_of_ne_nil filled)
  obtain ⟨least_mem, lower⟩ := List.min?_eq_some_iff.mp first
  obtain ⟨greatest_mem, upper⟩ := List.max?_eq_some_iff.mp last
  exact ⟨least, greatest, least_mem, greatest_mem, fun n hn => ⟨lower n hn, upper n hn⟩⟩

theorem perm (h : Extremes ns least greatest) (hp : ms.Perm ns) : Extremes ms least greatest :=
  ⟨hp.mem_iff.mpr h.least_mem, hp.mem_iff.mpr h.greatest_mem,
    fun n hn => h.bounds n (hp.mem_iff.mp hn)⟩

/-- The opposite numbers lie the other way round. -/
theorem neg (h : Extremes ns least greatest) :
    Extremes (ns.map fun n => -n) (-greatest) (-least) := by
  refine ⟨List.mem_map_of_mem h.greatest_mem, List.mem_map_of_mem h.least_mem, fun m hm => ?_⟩
  obtain ⟨n, hn, rfl⟩ := List.mem_map.mp hm
  obtain ⟨lower, upper⟩ := h.bounds n hn
  exact ⟨Int.neg_le_neg upper, Int.neg_le_neg lower⟩

theorem min?_eq (h : Extremes ns least greatest) : ns.min? = some least :=
  List.min?_eq_some_iff.mpr ⟨h.least_mem, fun n hn => (h.bounds n hn).1⟩

theorem max?_eq (h : Extremes ns least greatest) : ns.max? = some greatest :=
  List.max?_eq_some_iff.mpr ⟨h.greatest_mem, fun n hn => (h.bounds n hn).2⟩

end Extremes

namespace Variadic

variable {ns : List Int} {least greatest : Int}

/-- A choice among integers is the same choice without variants and marks. -/
theorem choice_integers (f : Variadic) {prefer : Marked Scalar → Marked Scalar → Marked Scalar}
    {better : Int → Int → Int}
    (prefers : ∀ m n, prefer (.plain (.integer m)) (.plain (.integer n)) =
      .plain (.integer (better m n)))
    (n : Int) (ns : List Int) :
    f.choice prefer ((n :: ns).map fun n => .plain (.number (.integer n))) =
      .ok (.plain (.integer (ns.foldl better n))) := by
  have chosen : (ns.map fun n => Marked.plain (Scalar.integer n)).foldl prefer
      (.plain (.integer n)) = .plain (.integer (ns.foldl better n)) := by
    rw [List.foldl_map]
    exact List.foldl_hom (fun n => Marked.plain (Scalar.integer n)) prefers
  rw [choice, mapM_real_integers]
  change (Marked.among (((n :: ns).map fun n => Marked.plain (Scalar.integer n)))
    ((ns.map fun n => Marked.plain (Scalar.integer n)).foldl prefer (.plain (.integer n)))).mapError
      Fault.domain = _
  rw [chosen, Marked.among_integers, mapError_ok]

theorem min_ofIntegers (h : Extremes ns least greatest) :
    min.ofIntegers ns = .ok (.plain (.integer least)) := by
  have found := h.min?_eq
  cases ns with
  | nil => cases found
  | cons n ns =>
    rw [List.min?_cons'] at found
    cases found
    exact choice_integers min Marked.least_integers n ns

theorem max_ofIntegers (h : Extremes ns least greatest) :
    max.ofIntegers ns = .ok (.plain (.integer greatest)) := by
  have found := h.max?_eq
  cases ns with
  | nil => cases found
  | cons n ns =>
    rw [List.max?_cons'] at found
    cases found
    exact choice_integers max Marked.greatest_integers n ns

/-- A choice among arguments of which one is a double is a double. -/
theorem variant_of_choice {f : Variadic} {prefer : Marked Scalar → Marked Scalar → Marked Scalar}
    {arguments : List Operand} {x : Operand} {y : Float} {v : Marked Value} (mem : x ∈ arguments)
    (double : x.content = .number (.double y)) (made : f.choice prefer arguments = .ok v) :
    v.content.variant = .double := by
  obtain ⟨as, all_checked, made⟩ := bind_eq_ok_iff.mp made
  obtain ⟨a, ha, checked⟩ := exists_of_mapM_eq_ok all_checked x mem
  cases as with
  | nil => cases ha
  | cons first rest =>
    have chosen := mapError_eq_ok_iff.mp made
    exact Marked.variant_of_among ha (Marked.isInteger_of_real double checked) chosen

end Variadic

namespace Builtin

/-- The greater of the first and the lower bound, and then the lesser of that and the upper one. -/
theorem clampIntegers_eq (x low high : Int) :
    clampIntegers x low high =
      if high < low then .error (.domain (.clampBounds (.integer low) (.integer high)))
      else .ok (.plain (.integer (min (max x low) high))) := by
  have chosen : ((Marked.plain (Scalar.integer x)).greatest (.plain (.integer low))).least
      (.plain (.integer high)) = .plain (.integer (min (max x low) high)) := by
    rw [Marked.greatest_integers, Marked.least_integers]
  change (clampValue (.plain (.integer x)) (.plain (.integer low))
    (.plain (.integer high))).mapError Fault.domain = _
  rw [clampValue, chosen]
  simp only [Marked.plain, Scalar.lt_integers, decide_eq_true_eq]
  split
  case isTrue => rfl
  case isFalse => exact congrArg _ (Marked.among_integers [x, low, high] (min (max x low) high))

theorem variant_of_clampCall {arguments : List Operand} {x : Operand} {y : Float} {v : Marked Value}
    (mem : x ∈ arguments) (double : x.content = .number (.double y))
    (made : clampCall arguments = .ok v) : v.content.variant = .double := by
  obtain ⟨as, all_checked, made⟩ := bind_eq_ok_iff.mp made
  have length := length_of_mapM_eq_ok all_checked
  match as with
  | [first, low, high] =>
    have three : arguments.take 4 = arguments := by
      simp only [List.length_take, List.length_cons, List.length_nil] at length
      exact List.take_of_length_le (by omega)
    rw [three] at all_checked
    obtain ⟨a, ha, checked⟩ := exists_of_mapM_eq_ok all_checked x mem
    have chosen := mapError_eq_ok_iff.mp made
    unfold clampValue at chosen
    split at chosen
    · cases chosen
    · exact Marked.variant_of_among ha (Marked.isInteger_of_real double checked) chosen
  | [] | [_] | [_, _] | _ :: _ :: _ :: _ :: _ => cases made

/-- **Choices are exact.** Of any integers, the least and the greatest are among them and bound them
all. They do not depend on the order, and the one is the opposite of the other for the opposite
integers. An integer is clamped unless the bounds are the wrong way round: to itself if it is within
them, and else to the one that it is beyond. With a double among the arguments the value, if there
is one, is a double. -/
theorem choices_exact :
    (∀ ns : List Int, ns ≠ [] → ∃ least greatest,
      Variadic.min.ofIntegers ns = .ok (.plain (.integer least)) ∧
      Variadic.max.ofIntegers ns = .ok (.plain (.integer greatest)) ∧
      least ∈ ns ∧ greatest ∈ ns ∧ (∀ n ∈ ns, least ≤ n ∧ n ≤ greatest) ∧
      (∀ ms : List Int, ms.Perm ns →
        Variadic.min.ofIntegers ms = .ok (.plain (.integer least)) ∧
        Variadic.max.ofIntegers ms = .ok (.plain (.integer greatest))) ∧
      Variadic.min.ofIntegers (ns.map fun n => -n) = .ok (.plain (.integer (-greatest))) ∧
      Variadic.max.ofIntegers (ns.map fun n => -n) = .ok (.plain (.integer (-least)))) ∧
    (∀ x low high : Int,
      ((∃ fault, clampIntegers x low high = .error (.domain fault)) ↔ high < low) ∧
      (low ≤ high → ∃ r, clampIntegers x low high = .ok (.plain (.integer r)) ∧
        low ≤ r ∧ r ≤ high ∧ (low ≤ x → x ≤ high → r = x) ∧ (x < low → r = low) ∧
        (high < x → r = high))) ∧
    ∀ arguments : List Operand, (∃ x ∈ arguments, ∃ y, x.content = .number (.double y)) →
      ∀ v, Variadic.min.call arguments = .ok v ∨ Variadic.max.call arguments = .ok v ∨
        clampCall arguments = .ok v → v.content.variant = .double := by
  refine ⟨fun ns filled => ?_, fun x low high => ⟨?_, fun within => ?_⟩, ?_⟩
  · obtain ⟨least, greatest, h⟩ := Extremes.exists_of_ne_nil filled
    refine ⟨least, greatest, Variadic.min_ofIntegers h, Variadic.max_ofIntegers h, h.least_mem,
      h.greatest_mem, h.bounds, fun ms hp => ?_, ?_, ?_⟩
    · exact ⟨Variadic.min_ofIntegers (h.perm hp), Variadic.max_ofIntegers (h.perm hp)⟩
    · exact Variadic.min_ofIntegers h.neg
    · exact Variadic.max_ofIntegers h.neg
  · rw [clampIntegers_eq]
    split
    case isTrue crossed => simp [crossed]
    case isFalse within => simp [within]
  · refine ⟨min (max x low) high, ?_, by omega, by omega, by omega, by omega, by omega⟩
    rw [clampIntegers_eq, if_neg (Int.not_lt.mpr within)]
  · rintro arguments ⟨x, mem, y, double⟩ v (made | made | made)
    · exact Variadic.variant_of_choice mem double made
    · exact Variadic.variant_of_choice mem double made
    · exact variant_of_clampCall mem double made

theorem choices_exact_mixed :
    Variadic.min.ofIntegers [3, -5, 3] = .ok (.plain (.integer (-5))) ∧
    Variadic.max.ofIntegers [-3, 5, -3] = .ok (.plain (.integer 5)) ∧
    (∃ fault, clampIntegers 4 9 2 = .error (.domain fault)) ∧
    clampIntegers 4 6 9 = .ok (.plain (.integer 6)) ∧
    ∃ v, Variadic.max.call [.plain (.number (.integer 1)), .plain (.number (.double 0.5))] = .ok v ∧
      v.content.variant = .double := by
  obtain ⟨integers, clamped, doubles⟩ := choices_exact
  obtain ⟨least, greatest, least_eq, _, least_mem, _, bounds, _, _, opposite⟩ :=
    integers [3, -5, 3] (by decide)
  have first : least = -5 := by
    have lower := (bounds (-5) (by decide)).1
    simp only [List.mem_cons, List.not_mem_nil, or_false] at least_mem
    omega
  subst first
  obtain ⟨r, made, _, _, _, below, _⟩ := (clamped 4 6 9).2 (by decide)
  cases below (by decide)
  have double :
      Variadic.max.call [.plain (.number (.integer 1)), .plain (.number (.double 0.5))] =
        .ok ⟨.double 1.0, none⟩ := by
    decide +kernel
  refine ⟨least_eq, opposite, (clamped 4 9 2).1.mpr (by decide), made, _, double, ?_⟩
  exact doubles _ ⟨_, List.mem_cons_of_mem _ List.mem_cons_self, _, rfl⟩ _ (.inr (.inl double))

end Builtin

end Reckoner
