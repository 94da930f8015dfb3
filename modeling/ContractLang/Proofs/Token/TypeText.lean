import ContractLang.Proofs.Token.Apart

namespace ContractLang

open CharSet

theorem count_typeTail {c : Char} (visible : c ≠ ' ') (t : Token) (rest : List Token) :
    (typeTail t rest).count c = (joinTypeLexemes rest).toList.count c := by
  cases rest with
  | nil => rfl
  | cons u rest =>
    have noSpace : [' '].count c = 0 := by simp [visible.symm]
    rw [typeTail, List.count_append]
    split
    · rw [noSpace, Nat.zero_add]
    · rw [List.count_nil, Nat.zero_add]

theorem count_joinTypeLexemes {c : Char} (visible : c ≠ ' ') (tokens : List Token) :
    (joinTypeLexemes tokens).toList.count c
      = (tokens.flatMap (·.lexeme.toList)).count c := by
  induction tokens with
  | nil => rfl
  | cons t rest ih =>
    rw [toList_joinTypeLexemes_cons, List.count_append, count_typeTail visible, ih,
      List.flatMap_cons, List.count_append]

theorem LoneQuotes.not_mem_typeTail {t : Token} {rest : List Token}
    (quotes : LoneQuotes ((t :: rest).map Token.shape)) (quote : t.symbol? = some '"') :
    '"' ∉ typeTail t rest := by
  intro member
  have positive := List.count_pos_iff.mpr member
  rw [count_typeTail (by decide), count_joinTypeLexemes (by decide)] at positive
  rcases List.mem_flatMap.mp (List.count_pos_iff.mp positive) with ⟨u, inRest, inside⟩
  exact quotes.quote_not_mem quote u inRest inside

/-- A comment takes slashes away that were in the lexemes. -/
theorem shapes_ne_of_comment {tokens : List Token} {body after : List Char}
    (split : (joinTypeLexemes tokens).toList = '/' :: '/' :: body ++ after)
    (same : shapes after = tokens.map Token.shape) : False := by
  have kept := (lexemes_sublist after).count_le '/'
  have whole := count_joinTypeLexemes (c := '/') (by decide) tokens
  have lexemes : (tokens.map Token.shape).flatMap (·.2.toList)
      = tokens.flatMap (·.lexeme.toList) := by
    rw [List.flatMap_map]
    rfl
  rw [same, lexemes, ← whole, split, List.cons_append, List.cons_append, List.count_cons_self,
    List.count_cons_self, List.count_append] at kept
  omega

theorem cut_of_shapes {t : Token} {rest : List Token} (cut : t.IsCut)
    (same : shapes (joinTypeLexemes (t :: rest)).toList = (t :: rest).map Token.shape) :
    Cut (some t.kind) t.lexeme.toList (typeTail t rest) := by
  rcases cut.starts with ⟨c, more, spelled, visible, _⟩
  have text : (joinTypeLexemes (t :: rest)).toList = c :: (more ++ typeTail t rest) := by
    rw [toList_joinTypeLexemes_cons, spelled]
    rfl
  rcases exists_cut c (more ++ typeTail t rest) with ⟨kind?, lexeme, after, split, found⟩
  rw [text, split, found.shapes] at same
  cases kind? with
  | none =>
    exfalso
    cases found with
    | blanks fills filled =>
      rcases List.exists_cons_of_ne_nil filled with ⟨d, run, rfl⟩
      rcases List.cons.inj split with ⟨rfl, _⟩
      rw [fills c (List.mem_cons_self ..)] at visible
      cases visible
    | comment fills stops => exact shapes_ne_of_comment (text.trans split) same
  | some kind =>
    rcases List.cons.inj same with ⟨first, _⟩
    rcases Prod.mk.inj first with ⟨sameKind, sameLexeme⟩
    have lexemes : lexeme = t.lexeme.toList := by
      rw [← sameLexeme, String.toList_ofList]
    have whole : t.lexeme.toList ++ typeTail t rest = t.lexeme.toList ++ after := by
      rw [← toList_joinTypeLexemes_cons, text, split, lexemes]
    rw [List.append_cancel_left whole, ← lexemes, ← sameKind]
    exact found

/-- The text of a type is cut into its tokens again exactly if no two of them run together. -/
theorem shapes_joinTypeLexemes_iff {tokens : List Token} (cuts : ∀ t ∈ tokens, t.IsCut)
    (quotes : LoneQuotes (tokens.map Token.shape)) :
    shapes (joinTypeLexemes tokens).toList = tokens.map Token.shape ↔ Apart tokens := by
  induction tokens with
  | nil => exact ⟨fun _ => trivial, fun _ => rfl⟩
  | cons t rest ih =>
    have cut := cuts t (List.mem_cons_self ..)
    have others : ∀ u ∈ rest, u.IsCut := fun u member => cuts u (List.mem_cons_of_mem _ member)
    have inner := ih others (List.pairwise_cons.mp quotes).2
    have here := cut_typeTail_iff cut others quotes.not_mem_typeTail
    have step : Cut (some t.kind) t.lexeme.toList (typeTail t rest) →
        shapes (joinTypeLexemes (t :: rest)).toList
          = t.shape :: shapes (joinTypeLexemes rest).toList := by
      intro found
      rw [toList_joinTypeLexemes_cons, found.shapes, shapes_typeTail]
      simp [Token.shape]
    constructor
    · intro same
      have found := cut_of_shapes cut same
      rw [step found] at same
      exact ⟨here.mp found, inner.mp (List.cons.inj same).2⟩
    · intro h
      rcases h with ⟨apart, restApart⟩
      rw [step (here.mpr apart), inner.mpr restApart]
      rfl

end ContractLang
