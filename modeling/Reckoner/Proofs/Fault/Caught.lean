import Mathlib.Data.List.Forall2
import Reckoner.Fault.Basic

namespace Reckoner

variable {α β ε : Type}

theorem mapError_ok {δ : Type} (f : ε → δ) (a : α) :
    (Except.ok a : Except ε α).mapError f = .ok a := rfl

theorem mapError_error {δ : Type} (f : ε → δ) (e : ε) :
    (Except.error e : Except ε α).mapError f = .error (f e) := rfl

theorem mapError_eq_ok_iff {δ : Type} {f : ε → δ} {m : Except ε α} {a : α} :
    m.mapError f = .ok a ↔ m = .ok a := by
  cases m with
  | error e => simp [mapError_error]
  | ok b => simp [mapError_ok]

theorem mapError_eq_uncaught_iff {m : Except Trap α} {trap : Trap} :
    m.mapError Fault.uncaught = .error (.uncaught trap) ↔ m = .error trap := by
  cases m with
  | error e => simp [mapError_error]
  | ok a => simp [mapError_ok]

theorem map_eq_error_iff {f : α → β} {m : Except ε α} {e : ε} :
    f <$> m = .error e ↔ m = .error e := by
  cases m with
  | error e' => simp [Functor.map, Except.map]
  | ok a => simp [Functor.map, Except.map]

/-- The result is no trap that nothing has caught. -/
def Caught (result : Except Fault α) : Prop :=
  ∀ trap, result ≠ .error (.uncaught trap)

theorem caught_ok (a : α) : Caught (.ok a) := nofun

/-- Every failure of an operation on numbers is a fault of the domain. -/
theorem caught_domain (result : Except DomainFault α) : Caught (result.mapError .domain) := by
  cases result with
  | error fault => nofun
  | ok a => nofun

theorem Caught.bind {m : Except Fault α} {f : α → Except Fault β} (h : Caught m)
    (hf : ∀ a, m = .ok a → Caught (f a)) : Caught (m >>= f) := by
  cases hm : m with
  | error fault =>
    intro trap hb
    cases hb
    exact h trap hm
  | ok a => exact hf a hm

theorem Caught.map {m : Except Fault α} (h : Caught m) (f : α → β) : Caught (f <$> m) := by
  cases hm : m with
  | error fault =>
    intro trap hb
    cases hb
    exact h trap hm
  | ok a => nofun

theorem caught_mapM {f : α → Except Fault β} {xs : List α} (h : ∀ x ∈ xs, Caught (f x)) :
    Caught (xs.mapM f) := by
  induction xs with
  | nil => nofun
  | cons x xs ih =>
    obtain ⟨hx, hxs⟩ := List.forall_mem_cons.mp h
    rw [List.mapM_cons]
    exact hx.bind fun y _ => (ih hxs).bind fun ys _ => caught_ok _

/-- Of two computations, one after the other, both succeed or neither. -/
theorem bind_eq_ok_iff {m : Except ε α} {f : α → Except ε β} {b : β} :
    m >>= f = .ok b ↔ ∃ a, m = .ok a ∧ f a = .ok b := by
  cases m with
  | error e => simp [bind, Except.bind]
  | ok a => simp [bind, Except.bind]

/-- Of two computations, one after the other, the first fails or the second does. -/
theorem bind_eq_error_iff {m : Except ε α} {f : α → Except ε β} {e : ε} :
    m >>= f = .error e ↔ m = .error e ∨ ∃ a, m = .ok a ∧ f a = .error e := by
  cases m with
  | error e' => simp [bind, Except.bind]
  | ok a => simp [bind, Except.bind]

/-- The computations of a list succeed one by one. -/
theorem mapM_eq_ok_iff {f : α → Except ε β} {xs : List α} {ys : List β} :
    xs.mapM f = .ok ys ↔ List.Forall₂ (fun x y => f x = .ok y) xs ys := by
  induction xs generalizing ys with
  | nil =>
    rw [List.mapM_nil, List.forall₂_nil_left_iff]
    exact ⟨fun h => (Except.ok.inj h).symm, fun h => congrArg Except.ok h.symm⟩
  | cons x xs ih =>
    rw [List.mapM_cons, List.forall₂_cons_left_iff]
    constructor
    · intro h
      obtain ⟨y, hx, h⟩ := bind_eq_ok_iff.mp h
      obtain ⟨rest, hxs, h⟩ := bind_eq_ok_iff.mp h
      exact ⟨y, rest, hx, ih.mp hxs, (Except.ok.inj h).symm⟩
    · rintro ⟨y, rest, hx, hxs, rfl⟩
      simp only [hx, ih.mpr hxs, bind, Except.bind, pure, Except.pure]

theorem length_of_mapM_eq_ok {f : α → Except ε β} {xs : List α} {ys : List β}
    (h : xs.mapM f = .ok ys) : ys.length = xs.length :=
  (mapM_eq_ok_iff.mp h).length_eq.symm

/-- Each of them has its result among the results. -/
theorem exists_of_mapM_eq_ok {f : α → Except ε β} {xs : List α} {ys : List β}
    (h : xs.mapM f = .ok ys) : ∀ x ∈ xs, ∃ y ∈ ys, f x = .ok y := by
  induction mapM_eq_ok_iff.mp h with
  | nil => exact List.forall_mem_nil _
  | cons hx hxs ih =>
    intro z hz
    obtain rfl | hz := List.mem_cons.mp hz
    · exact ⟨_, List.mem_cons_self, hx⟩
    · obtain ⟨y, hy, found⟩ := ih (mapM_eq_ok_iff.mpr hxs) z hz
      exact ⟨y, List.mem_cons_of_mem _ hy, found⟩

/-- The computations of a list fail with the first that does. -/
theorem mem_of_mapM_eq_error {f : α → Except ε β} {xs : List α} {e : ε}
    (h : xs.mapM f = .error e) : ∃ x ∈ xs, f x = .error e := by
  induction xs with
  | nil => cases h
  | cons x xs ih =>
    rw [List.mapM_cons] at h
    cases hx : f x with
    | error e' =>
      simp only [hx, bind, Except.bind, Except.error.injEq] at h
      exact ⟨x, List.mem_cons_self, h ▸ hx⟩
    | ok y =>
      cases hxs : xs.mapM f with
      | error e' =>
        simp only [hx, hxs, bind, Except.bind, Except.error.injEq] at h
        obtain ⟨z, hz, hfz⟩ := ih (h ▸ hxs)
        exact ⟨z, List.mem_cons_of_mem _ hz, hfz⟩
      | ok ys => simp [hx, hxs, bind, Except.bind, pure, Except.pure] at h

end Reckoner
