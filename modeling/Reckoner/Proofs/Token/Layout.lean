import Reckoner.Proofs.Token.Reading

namespace Reckoner.Token

namespace Kind

/-- At the front or behind such a token an operand has to come. -/
def Opens (previous : Option Kind) : Prop :=
  minusKind previous = .unaryMinus

/-- A token of this kind may come next: an operator behind an operand, all that starts an operand
where one has to come. -/
structure Follows (previous : Option Kind) (kind : Kind) : Prop where
  of_operator (h : kind = .operator) : previous.any endsOperand
  of_unaryMinus (h : kind = .unaryMinus) : Opens previous
  of_startsFactor (h : kind.startsFactor) : ¬ previous.any endsOperand

theorem opens_some {k : Kind} : Opens (some k) ↔ k.opensOperand := by
  cases k <;> simp [Opens, minusKind, opensOperand]

theorem Opens.not_endsOperand {previous : Option Kind} (h : Opens previous) :
    ¬ previous.any endsOperand := by
  cases previous with
  | none => decide
  | some k => cases k <;> simp_all [opens_some, opensOperand, endsOperand]

theorem minusKind_of_endsOperand {previous : Option Kind} (h : previous.any endsOperand) :
    minusKind previous = .operator := by
  cases previous with
  | none => cases h
  | some k => cases k <;> simp_all [minusKind, opensOperand, endsOperand]

/-- Everything but a binary operator may come where an operand has to come. -/
theorem Opens.follows {previous : Option Kind} (h : Opens previous) {kind : Kind}
    (hk : kind ≠ .operator) : Follows previous kind :=
  ⟨fun ho => absurd ho hk, fun _ => h, fun _ => h.not_endsOperand⟩

theorem follows_operator {previous : Option Kind} (h : previous.any endsOperand) :
    Follows previous .operator :=
  ⟨fun _ => h, nofun, nofun⟩

theorem follows_rightParen (previous : Option Kind) : Follows previous .rightParen :=
  ⟨nofun, nofun, nofun⟩

theorem follows_comma (previous : Option Kind) : Follows previous .comma :=
  ⟨nofun, nofun, nofun⟩

theorem follows_leftParen_of_function : Follows (some .function) .leftParen :=
  ⟨nofun, nofun, fun _ => by decide⟩

end Kind

open Kind

/-- Every token may stand where it stands. -/
def Alternates (previous : Option Kind) : List Token → Prop
  | [] => True
  | t :: ts => Follows previous t.kind ∧ Alternates (some t.kind) ts

/-- The tokens can stand where an operand has to come, and behind them whatever can stand behind an
operand. -/
def StandsAsOperand (tokens : List Token) : Prop :=
  ∀ previous rest, Opens previous →
    (∀ kind, Kind.endsOperand kind → Alternates (some kind) rest) →
    Alternates previous (tokens ++ rest)

/-- The tokens can stand between the parentheses of a call. -/
def StandsAsArguments (tokens : List Token) : Prop :=
  ∀ previous rest, Opens previous → (∀ kind, Alternates (some kind) rest) →
    Alternates previous rest → Alternates previous (tokens ++ rest)

theorem standsAsOperand_operand {t : Token} (ht : t.isOperand) : StandsAsOperand [t] := by
  intro previous rest opens hrest
  cases hk : t.kind <;> simp only [isOperand, hk, Bool.false_eq_true] at ht
  all_goals
    refine ⟨opens.follows (by simp [hk]), ?_⟩
    rw [hk]
    exact hrest _ rfl

theorem standsAsOperand_negation {sign : Token} {tokens : List Token} (hs : sign.isSign)
    (h : StandsAsOperand tokens) : StandsAsOperand (sign :: tokens) := by
  intro previous rest opens hrest
  have hk : sign.kind = .unaryMinus := eq_of_beq ((Bool.and_eq_true _ _).mp hs).1
  refine ⟨opens.follows (by simp [hk]), ?_⟩
  rw [hk]
  exact h _ rest rfl hrest

theorem standsAsOperand_operation {operator : Token} {before behind : List Token}
    (hb : operator.isBinary) (hl : StandsAsOperand before) (hr : StandsAsOperand behind) :
    StandsAsOperand (before ++ operator :: behind) := by
  intro previous rest opens hrest
  have hk : operator.kind = .operator := eq_of_beq ((Bool.and_eq_true _ _).mp hb).1
  rw [List.append_assoc, List.cons_append]
  refine hl previous _ opens fun kind ends => ?_
  rw [Alternates, hk]
  exact ⟨follows_operator ends, hr _ rest rfl hrest⟩

/-- Behind a parenthesis that is closed at the end stands what stands behind an operand. -/
theorem alternates_rightParen {right : Token} (hr : right.kind = .rightParen) {rest : List Token}
    (hrest : ∀ kind, Kind.endsOperand kind → Alternates (some kind) rest)
    (previous : Option Kind) : Alternates previous ([right] ++ rest) := by
  rw [List.singleton_append, Alternates, hr]
  exact ⟨follows_rightParen previous, hrest _ rfl⟩

theorem standsAsOperand_group {left right : Token} {tokens : List Token}
    (hl : left.kind = .leftParen) (hr : right.kind = .rightParen) (h : StandsAsOperand tokens) :
    StandsAsOperand (left :: (tokens ++ [right])) := by
  intro previous rest opens hrest
  rw [List.cons_append, List.append_assoc, Alternates, hl]
  exact ⟨opens.follows (by decide),
    h _ _ rfl fun kind _ => alternates_rightParen hr hrest (some kind)⟩

theorem standsAsOperand_call {function left right : Token} {tokens : List Token}
    (hf : function.kind = .function) (hl : left.kind = .leftParen)
    (hr : right.kind = .rightParen) (h : StandsAsArguments tokens) :
    StandsAsOperand (function :: left :: (tokens ++ [right])) := by
  intro previous rest opens hrest
  have closed := alternates_rightParen hr hrest
  rw [List.cons_append, List.cons_append, List.append_assoc, Alternates, Alternates, hf, hl]
  exact ⟨opens.follows (by decide), follows_leftParen_of_function,
    h _ _ rfl (fun kind => closed (some kind)) (closed _)⟩

theorem standsAsArguments_more {comma : Token} {tokens behind : List Token}
    (h : StandsAsOperand tokens) (hc : comma.kind = .comma) (hrest : StandsAsArguments behind) :
    StandsAsArguments (tokens ++ comma :: behind) := by
  intro previous rest opens hall _
  rw [List.append_assoc, List.cons_append]
  refine h previous _ opens fun kind _ => ?_
  rw [Alternates, hc]
  exact ⟨follows_comma _, hrest _ rest rfl hall (hall _)⟩

mutual

theorem standsAsOperand_written : ∀ {k : Nat} {tree : Tree} {tokens : List Token},
    Written k tree tokens → StandsAsOperand tokens
  | _, _, _, .operand ht => standsAsOperand_operand ht
  | _, _, _, .negation hs _ written => standsAsOperand_negation hs (standsAsOperand_written written)
  | _, _, _, .operation hb _ left right =>
    standsAsOperand_operation hb (standsAsOperand_written left) (standsAsOperand_written right)
  | _, _, _, .call hf hl hr written =>
    standsAsOperand_call hf hl hr (standsAsArguments_written written)
  | _, _, _, .group hl hr written => standsAsOperand_group hl hr (standsAsOperand_written written)

theorem standsAsArguments_written : ∀ {trees : List Tree} {tokens : List Token},
    WrittenList trees tokens → StandsAsArguments tokens
  | _, _, .none => fun _ _ _ _ hrest => hrest
  | _, _, .one written => fun previous rest opens hall _ =>
    standsAsOperand_written written previous rest opens fun kind _ => hall kind
  | _, _, .more written hc rest =>
    standsAsArguments_more (standsAsOperand_written written) hc (standsAsArguments_written rest)

end

/-- The tokens of a written tree make up a text. -/
theorem alternates_written {k : Nat} {tree : Tree} {tokens : List Token}
    (h : Written k tree tokens) : Alternates none tokens := by
  have stands := standsAsOperand_written h none [] rfl fun _ _ => trivial
  rwa [List.append_nil] at stands

/-- A minus that may stand where it stands is what it is there. -/
theorem signFits_of_follows {previous : Option Kind} {t : Token} (h : Follows previous t.kind) :
    SignFits previous t :=
  ⟨h.of_unaryMinus, fun hk _ => minusKind_of_endsOperand (h.of_operator hk)⟩

theorem impliedProduct_of_follows {previous : Option Kind} {kind : Kind}
    (h : Follows previous kind) (position : Nat) : impliedProduct previous kind position = [] := by
  unfold impliedProduct
  rw [if_neg]
  rw [Bool.and_eq_true, not_and]
  exact fun ends starts => h.of_startsFactor starts ends

theorem Condensed.subset {full short : List Token} (h : Condensed full short) :
    ∀ t ∈ short, t ∈ full := by
  induction h with
  | nil => exact List.forall_mem_nil _
  | keep _ ih =>
    intro u hu
    obtain rfl | hu := List.mem_cons.mp hu
    · exact List.mem_cons_self
    · exact List.mem_cons_of_mem _ (ih u hu)
  | leaveOut _ _ _ _ ih => exact fun u hu => List.mem_cons_of_mem _ (ih u hu)

/-- A readable operator has nothing but its symbol. -/
theorem unplaced_of_readable_operator {lexicon : Lexicon} {t : Token} (ht : Readable lexicon t)
    (hk : t.kind = .operator) : t.unplaced = ⟨.operator, t.lexeme, 0, none, none⟩ := by
  obtain ⟨c, tail, read⟩ := ht
  have h := read.ofLexeme_eq 0
  rw [hk] at h
  have number := congrArg Token.number h
  have argCount := congrArg Token.argCount h
  simp only [ofLexeme] at number argCount
  cases t with
  | mk kind lexeme position n a =>
    subst hk number argCount
    rfl

/-- **Signs of products that are left out are restored.** What is restored in the shorter list are
the tokens of the longer one, and each minus is what it was there. -/
theorem restored_of_condensed {lexicon : Lexicon} {full short : List Token}
    (h : Condensed full short) (readable : ∀ t ∈ full, Readable lexicon t)
    {previous : Option Kind} (alternates : Alternates previous full) :
    (restored previous short).map unplaced = full.map unplaced ∧ SignsFit previous short := by
  induction h generalizing previous with
  | nil => exact ⟨rfl, trivial⟩
  | keep rest ih =>
    obtain ⟨follows, later⟩ := alternates
    obtain ⟨same, fits⟩ := ih (fun u hu => readable u (List.mem_cons_of_mem _ hu)) later
    refine ⟨?_, signFits_of_follows follows, fits⟩
    rw [restored, impliedProduct_of_follows follows, List.nil_append, List.map_cons, same,
      List.map_cons]
  | leaveOut sign_kind sign_lexeme starts rest ih =>
    rename_i sign factor full short
    obtain ⟨follows, later⟩ := alternates
    have ends := follows.of_operator sign_kind
    rw [sign_kind] at later
    obtain ⟨same, fits⟩ := ih (fun u hu => readable u (List.mem_cons_of_mem _ hu)) later
    have implied : impliedProduct previous factor.kind 0 = [⟨.operator, "*", 0, none, none⟩] := by
      have both : (previous.any endsOperand && factor.kind.startsFactor) = true := by
        rw [ends, starts, Bool.and_self]
      exact if_pos both
    have sign_unplaced : sign.unplaced = ⟨.operator, "*", 0, none, none⟩ := by
      rw [unplaced_of_readable_operator (readable _ List.mem_cons_self) sign_kind, sign_lexeme]
      rfl
    rw [restored, impliedProduct_of_follows later.1] at same
    refine ⟨?_, ⟨?_, ?_⟩, fits.2⟩
    · rw [restored, implied, List.map_cons, ← same, sign_unplaced]
      rfl
    · intro hk
      rw [hk] at starts
      cases starts
    · intro hk
      rw [hk] at starts
      cases starts

end Reckoner.Token
