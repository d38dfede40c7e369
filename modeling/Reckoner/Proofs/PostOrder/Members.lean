import Mathlib.Data.List.TakeWhile
import Reckoner.Proofs.PostOrder.Feeding

namespace Reckoner.PostOrder

variable {p : Token → Prop}

namespace State

/-- All that waits to come out has the property. Parentheses only wait to be closed. -/
def AllWaiting (p : Token → Prop) (s : State) : Prop :=
  ∀ t ∈ s.waiting, t.kind ≠ .leftParen → p t

theorem AllWaiting.above {s : State} (h : s.AllWaiting p) : ∀ t ∈ s.above, p t := by
  intro t ht
  have not_paren : t.kind ≠ .leftParen := by simpa using List.mem_takeWhile_imp ht
  exact h t ((List.takeWhile_sublist _).mem ht) not_paren

theorem AllWaiting.fromParen {s : State} (h : s.AllWaiting p) :
    ∀ t ∈ s.fromParen, t.kind ≠ .leftParen → p t :=
  fun t ht => h t ((List.dropWhile_sublist _).mem ht)

theorem AllWaiting.noteContent {s : State} (h : s.AllWaiting p) (t : Token) :
    (s.noteContent t).AllWaiting p := by
  unfold State.noteContent
  split <;> exact h

theorem AllWaiting.applied {s : State} (h : s.AllWaiting p) (t : Token) :
    ∀ u ∈ s.waiting.takeWhile t.appliedBefore, p u := by
  intro u hu
  have applied : t.appliedBefore u := List.mem_takeWhile_imp hu
  exact h u ((List.takeWhile_sublist _).mem hu) (kind_ne_of_appliedBefore applied)

variable (counted : ∀ t n, p t → p { t with argCount := some n })
include counted

theorem forall_mem_takeFunction (paren : Option Paren) {waiting : List Token}
    (h : ∀ t ∈ waiting, t.kind ≠ .leftParen → p t) :
    (∀ t ∈ (takeFunction paren waiting).1, p t) ∧
      ∀ t ∈ (takeFunction paren waiting).2, t.kind ≠ .leftParen → p t := by
  cases waiting with
  | nil => exact ⟨List.forall_mem_nil _, List.forall_mem_nil _⟩
  | cons f rest =>
    obtain ⟨hf, hrest⟩ := List.forall_mem_cons.mp h
    by_cases hk : f.kind = .function
    · have hf : p f := hf (by rw [hk]; nofun)
      cases paren with
      | none =>
        simp only [takeFunction, if_pos hk]
        exact ⟨List.forall_mem_singleton.mpr hf, hrest⟩
      | some paren =>
        simp only [takeFunction, if_pos hk]
        refine ⟨List.forall_mem_singleton.mpr ?_, hrest⟩
        split
        · exact counted f _ hf
        · exact hf
    · simp only [takeFunction, if_neg hk]
      exact ⟨List.forall_mem_nil _, h⟩

theorem feedClose_members {s s' : State} {t : Token} {out : List Token} (h : s.AllWaiting p)
    (fed : s.feedClose t = .ok (out, s')) : (∀ u ∈ out, p u) ∧ s'.AllWaiting p := by
  have rest := h.fromParen
  unfold feedClose at fed
  split at fed
  · cases fed
  · rename_i paren below front
    cases fed
    rw [front] at rest
    obtain ⟨applied, waits⟩ := forall_mem_takeFunction counted s.parens.head?
      (List.forall_mem_cons.mp rest).2
    exact ⟨List.forall_mem_append.mpr ⟨h.above, applied⟩, waits⟩

/-- What a token makes come out, and what waits to come out then, has the property if all before had
it. -/
theorem feed_members {s s' : State} {t : Token} {out : List Token} (h : s.AllWaiting p)
    (ht : ¬ t.IsMark → p t) (fed : s.feed t = .ok (out, s')) :
    (∀ u ∈ out, p u) ∧ s'.AllWaiting p := by
  have noted := h.noteContent t
  unfold feed at fed
  cases hk : t.kind <;> simp only [hk] at fed
  case number | variableName | constant =>
    cases fed
    exact ⟨List.forall_mem_singleton.mpr (ht (by simp [Token.IsMark, hk])), noted⟩
  case function =>
    cases fed
    have waits : p t := ht (by simp [Token.IsMark, hk])
    exact ⟨List.forall_mem_nil _, List.forall_mem_cons.mpr ⟨fun _ => waits, noted⟩⟩
  case leftParen =>
    cases fed
    exact ⟨List.forall_mem_nil _, List.forall_mem_cons.mpr ⟨fun open_ => absurd hk open_, noted⟩⟩
  case operator | unaryMinus =>
    cases fed
    have waits : p t := ht (by simp [Token.IsMark, hk])
    refine ⟨noted.applied t, List.forall_mem_cons.mpr ⟨fun _ => waits, fun u hu => ?_⟩⟩
    exact noted u ((List.dropWhile_sublist _).mem hu)
  case comma =>
    have rest := noted.fromParen
    unfold feedComma at fed
    split at fed
    · cases fed
    · cases fed
      exact ⟨noted.above, rest⟩
  case rightParen => exact feedClose_members counted noted fed

theorem feedAll_members {s s' : State} {ts out : List Token} (h : s.AllWaiting p)
    (hts : ∀ t ∈ ts, ¬ t.IsMark → p t) (fed : s.feedAll ts = .ok (out, s')) :
    (∀ u ∈ out, p u) ∧ s'.AllWaiting p := by
  induction ts generalizing s s' out with
  | nil =>
    cases fed
    exact ⟨List.forall_mem_nil _, h⟩
  | cons t ts ih =>
    obtain ⟨ht, hts⟩ := List.forall_mem_cons.mp hts
    obtain ⟨first, next, rest, fedFirst, fedRest, rfl⟩ := feedAll_cons_eq_ok.mp fed
    obtain ⟨hfirst, hnext⟩ := feed_members counted h ht fedFirst
    obtain ⟨hrest, hlast⟩ := ih hnext hts fedRest
    exact ⟨List.forall_mem_append.mpr ⟨hfirst, hrest⟩, hlast⟩

end State

/-- **No token comes from nowhere, and no comma or parenthesis comes out.** What all others have in
common, whatever number of arguments they have, all tokens of the post-order have. -/
theorem forall_mem_ofTokens_of_unmarked (counted : ∀ t n, p t → p { t with argCount := some n })
    {ts post : List Token} (h : ofTokens ts = .ok post) (hts : ∀ t ∈ ts, ¬ t.IsMark → p t) :
    ∀ t ∈ post, p t := by
  obtain ⟨out, s, fed, closed, rfl⟩ := ofTokens_eq_ok_iff.mp h
  have empty : State.empty.AllWaiting p := List.forall_mem_nil _
  obtain ⟨given, waits⟩ := State.feedAll_members counted empty hts fed
  exact List.forall_mem_append.mpr ⟨given, fun t ht => waits t ht (closed t ht)⟩

/-- What all tokens of a list have in common all tokens of its post-order have. -/
theorem forall_mem_ofTokens (counted : ∀ t n, p t → p { t with argCount := some n })
    {ts post : List Token} (h : ofTokens ts = .ok post) (hts : ∀ t ∈ ts, p t) :
    ∀ t ∈ post, p t :=
  forall_mem_ofTokens_of_unmarked counted h fun t ht _ => hts t ht

end Reckoner.PostOrder
