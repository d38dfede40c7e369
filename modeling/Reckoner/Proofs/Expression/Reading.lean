import Reckoner.Session
import Reckoner.Proofs.PostOrder.Written
import Reckoner.Proofs.Token.Layout

namespace Reckoner

namespace Token

namespace Tree

mutual

/-- All tokens of a tree have a property. -/
def All (p : Token → Prop) : Tree → Prop
  | operand t => p t
  | negation sign tree => p sign ∧ tree.All p
  | operation operator left right => p operator ∧ left.All p ∧ right.All p
  | call function arguments => p function ∧ AllList p arguments

/-- All tokens of several trees have a property. -/
def AllList (p : Token → Prop) : List Tree → Prop
  | [] => True
  | tree :: trees => tree.All p ∧ AllList p trees

end

end Tree

section Written

variable {p : Token → Prop}

mutual

/-- A tree is written with its own tokens and with marks. -/
theorem forall_mem_of_written : ∀ {k : Nat} {tree : Tree} {tokens : List Token},
    Written k tree tokens → tree.All p → (∀ t ∈ tokens, t.IsMark → p t) → ∀ t ∈ tokens, p t
  | _, _, _, .operand _, own, _ => by
    intro t ht
    cases List.mem_singleton.mp ht
    exact own
  | _, _, _, .negation _ _ written, ⟨sign, own⟩, marks => by
    rw [List.forall_mem_cons] at marks ⊢
    exact ⟨sign, forall_mem_of_written written own marks.2⟩
  | _, _, _, .operation _ _ left right, ⟨operator, ownL, ownR⟩, marks => by
    rw [List.forall_mem_append, List.forall_mem_cons] at marks ⊢
    exact ⟨forall_mem_of_written left ownL marks.1, operator,
      forall_mem_of_written right ownR marks.2.2⟩
  | _, _, _, .call _ hl hr written, ⟨function, own⟩, marks => by
    rw [List.forall_mem_cons, List.forall_mem_cons, List.forall_mem_append,
      List.forall_mem_singleton] at marks ⊢
    exact ⟨function, marks.2.1 (Or.inl hl), forall_mem_of_writtenList written own marks.2.2.1,
      marks.2.2.2 (Or.inr (Or.inl hr))⟩
  | _, _, _, .group hl hr written, own, marks => by
    rw [List.forall_mem_cons, List.forall_mem_append, List.forall_mem_singleton] at marks ⊢
    exact ⟨marks.1 (Or.inl hl), forall_mem_of_written written own marks.2.1,
      marks.2.2 (Or.inr (Or.inl hr))⟩

theorem forall_mem_of_writtenList : ∀ {trees : List Tree} {tokens : List Token},
    WrittenList trees tokens → Tree.AllList p trees → (∀ t ∈ tokens, t.IsMark → p t) →
    ∀ t ∈ tokens, p t
  | _, _, .none, _, _ => List.forall_mem_nil _
  | _, _, .one written, own, marks => forall_mem_of_written written own.1 marks
  | _, _, .more written hc rest, own, marks => by
    rw [List.forall_mem_append, List.forall_mem_cons] at marks ⊢
    exact ⟨forall_mem_of_written written own.1 marks.1, marks.2.1 (Or.inr (Or.inr hc)),
      forall_mem_of_writtenList rest own.2 marks.2.2⟩

end

end Written

end Token

open Token

namespace Expression

/-- A letter and then letters and digits. -/
def isName : List Char → Bool
  | [] => false
  | c :: rest => Text.isLetter c && rest.all isNameChar

theorem isName_of_builtin : ∀ name ∈ Builtin.names ++ Constant.names, isName name.toList := by
  decide +kernel

theorem readable_name_token {name : String} {kind : Token.Kind} (h : isName name.toList)
    (hk : Lexicon.builtin.kindOf name = kind) : Readable Lexicon.builtin (token kind name) := by
  cases spelled : name.toList with
  | nil => simp [spelled, isName] at h
  | cons c rest =>
    rw [spelled, isName, Bool.and_eq_true, List.all_eq_true] at h
    have hname : name = String.ofList (c :: rest) := by rw [← spelled, String.ofList_toList]
    rw [hname] at hk ⊢
    exact readable_name _ _ h.1 h.2 hk

theorem kindOf_function (f : Builtin) : Lexicon.builtin.kindOf f.name = .function :=
  if_pos (List.contains_iff_mem.mpr (List.mem_map_of_mem (Builtin.mem_all f)))

theorem kindOf_constant (c : Constant) : Lexicon.builtin.kindOf c.name = .constant := by
  cases c <;> decide

theorem readable_function (f : Builtin) : Readable Lexicon.builtin (functionToken f) := by
  have known : f.name ∈ Builtin.names := List.mem_map_of_mem (Builtin.mem_all f)
  exact readable_name_token (isName_of_builtin _ (List.mem_append_left _ known))
    (kindOf_function f)

theorem readable_constant (c : Constant) : Readable Lexicon.builtin (token .constant c.name) := by
  have known : c.name ∈ Constant.names := by cases c <;> decide
  exact readable_name_token (isName_of_builtin _ (List.mem_append_right _ known))
    (kindOf_constant c)

theorem readable_variableName {name : String} (h : IsVariableName name) :
    Readable Lexicon.builtin (token .variableName name) := by
  obtain ⟨⟨c, rest, spelled, hc, hrest⟩, hk⟩ := h
  refine readable_name_token ?_ hk
  rw [spelled, isName, hc, hrest]
  rfl

theorem readable_mark {t : Token} (h : t ∈ marks) : Readable Lexicon.builtin t := by
  obtain rfl | h := List.mem_cons.mp h
  · exact readable_leftParen _ _
  obtain rfl | h := List.mem_cons.mp h
  · exact readable_rightParen _ _
  cases List.mem_singleton.mp h
  exact readable_comma _ _

mutual

/-- Whatever an expression that can be written down consists of is read back. -/
theorem readable_tree : ∀ {e : Expression}, e.IsWritable →
    e.tree.All (Readable Lexicon.builtin)
  | .numeral _, h => readable_numeral _ _ h
  | .variableNamed _, h => readable_variableName h
  | .constant c, _ => readable_constant c
  | .negation _, h => ⟨readable_sign _ _, readable_tree h⟩
  | .operation op _ _, ⟨hl, hr⟩ => ⟨readable_operator _ _ op, readable_tree hl, readable_tree hr⟩
  | .call f _, ⟨_, h⟩ => ⟨readable_function f, readable_treeList h⟩

theorem readable_treeList : ∀ {es : List Expression}, AreWritable es →
    Tree.AllList (Readable Lexicon.builtin) (treeList es)
  | [], _ => trivial
  | _ :: _, ⟨h, hs⟩ => ⟨readable_tree h, readable_treeList hs⟩

end

/-- **A text is read as the expression that it writes down.** The tokens are those of the written
tree, except for their positions. -/
theorem exists_scan_of_writtenAs {e : Expression} {text : List Char} (writable : e.IsWritable)
    (written : e.WrittenAs text) :
    ∃ full tokens, Token.Written 0 e.tree full ∧ scan Lexicon.builtin text = .ok tokens ∧
      tokens.map unplaced = full.map unplaced := by
  obtain ⟨full, short, tree, marked, condensed, spelled⟩ := written
  have readable : ∀ t ∈ full, Readable Lexicon.builtin t :=
    forall_mem_of_written tree (readable_tree writable) fun t ht mark =>
      readable_mark (marked t ht mark)
  obtain ⟨same, fits⟩ := restored_of_condensed condensed readable (alternates_written tree)
  have readable_short : ∀ t ∈ short, Readable Lexicon.builtin t := fun t ht =>
    readable t (condensed.subset t ht)
  obtain ⟨tokens, hscan, hread⟩ := readAs_spelled spelled readable_short fits 0
  exact ⟨full, tokens, tree, hscan, hread.trans same⟩

/-- The post-order of the text is the one of the expression. -/
theorem exists_compile_of_writtenAs {e : Expression} {text : List Char} (writable : e.IsWritable)
    (written : e.WrittenAs text) :
    ∃ tokens post, scan Lexicon.builtin text = .ok tokens ∧ Session.compile text = .ok post ∧
      post.map unplaced = e.tree.postOrder.map unplaced := by
  obtain ⟨full, tokens, tree, hscan, same⟩ := exists_scan_of_writtenAs writable written
  obtain ⟨post, hpost, same⟩ :=
    PostOrder.exists_ofTokens_of_unplaced (PostOrder.ofTokens_written tree) same
  refine ⟨tokens, post, hscan, ?_, same⟩
  rw [Session.compile, hscan]
  exact hpost

end Expression

end Reckoner
