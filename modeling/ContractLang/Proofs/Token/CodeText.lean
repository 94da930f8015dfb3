import ContractLang.Proofs.Token.Follow
import ContractLang.Session

namespace ContractLang

open CharSet

/-- What joined code goes on with after its first lexeme. -/
def codeTail : List Token → List Char
  | [] => []
  | t :: rest => ' ' :: (joinLexemes (t :: rest)).toList

theorem toList_joinLexemes_cons (t : Token) (rest : List Token) :
    (joinLexemes (t :: rest)).toList = t.lexeme.toList ++ codeTail rest := by
  cases rest with
  | nil =>
    rw [codeTail, List.append_nil]
    exact congrArg String.toList String.intercalate_singleton
  | cons u rest =>
    have joined : joinLexemes (t :: u :: rest) = t.lexeme ++ " " ++ joinLexemes (u :: rest) :=
      String.intercalate_cons_cons
    rw [joined, String.toList_append, String.toList_append, List.append_assoc, codeTail]
    rfl

theorem shapes_codeTail (rest : List Token) :
    shapes (codeTail rest) = shapes (joinLexemes rest).toList := by
  cases rest with
  | nil => rfl
  | cons t rest => exact shapes_space _

theorem mem_codeTail {c : Char} {rest : List Token} (member : c ∈ codeTail rest) :
    c = ' ' ∨ ∃ t ∈ rest, c ∈ t.lexeme.toList := by
  induction rest with
  | nil => cases member
  | cons t rest ih =>
    rw [codeTail, toList_joinLexemes_cons] at member
    rcases List.mem_cons.mp member with same | member
    · exact .inl same
    rcases List.mem_append.mp member with inside | later
    · exact .inr ⟨t, List.mem_cons_self .., inside⟩
    · rcases ih later with same | ⟨u, inRest, inside⟩
      · exact .inl same
      · exact .inr ⟨u, List.mem_cons_of_mem _ inRest, inside⟩

/-- A space cuts every lexeme off where it ends. Only a lone quotation mark looks further, for
    another one anywhere in what follows. -/
theorem cut_codeTail {t : Token} (alone : t.IsCut) (rest : List Token)
    (quotes : t.symbol? = some '"' → '"' ∉ codeTail rest) :
    Cut (some t.kind) t.lexeme.toList (codeTail rest) := by
  cases rest with
  | nil => exact alone
  | cons u rest =>
    refine alone.append_blank (by decide) fun other quote member => ?_
    exact quotes ((t.symbol?_eq_some_iff _).mpr ⟨other, quote⟩) (List.mem_cons_of_mem _ member)

theorem LoneQuotes.not_mem_codeTail {t : Token} {rest : List Token}
    (quotes : LoneQuotes ((t :: rest).map Token.shape)) (quote : t.symbol? = some '"') :
    '"' ∉ codeTail rest := by
  intro member
  rcases mem_codeTail member with space | ⟨u, inRest, inside⟩
  · cases space
  · exact quotes.quote_not_mem quote u inRest inside

/-- Code is cut into its tokens again. -/
theorem shapes_joinLexemes {tokens : List Token} (cuts : ∀ t ∈ tokens, t.IsCut)
    (quotes : LoneQuotes (tokens.map Token.shape)) :
    shapes (joinLexemes tokens).toList = tokens.map Token.shape := by
  induction tokens with
  | nil => rfl
  | cons t rest ih =>
    have others : ∀ u ∈ rest, u.IsCut := fun u member => cuts u (List.mem_cons_of_mem _ member)
    have first := cut_codeTail (cuts t (List.mem_cons_self ..)) rest quotes.not_mem_codeTail
    have inner := ih others (List.pairwise_cons.mp quotes).2
    rw [toList_joinLexemes_cons, first.shapes, shapes_codeTail, inner]
    simp [Token.shape]

theorem shapes_joinLexemes_infix {source : List Char} {span : List Token}
    (inside : span <:+: tokenize source) :
    shapes (joinLexemes span).toList = span.map Token.shape := by
  apply shapes_joinLexemes
  · exact fun t member => tokenize_cut (inside.subset member)
  · exact (loneQuotes_shapes source).sublist (inside.sublist.map Token.shape)

/-- Consecutive tokens of a source that are joined as code are cut into the same tokens again,
    wherever they begin and end. -/
theorem Session.joined_tokens_kept (settings : Settings) (source : List Char)
    (first last : Nat) :
    ∃ code, (Session.start (tokenize source) settings).answer (.join first last) = .text code ∧
      shapes code.toList = (((tokenize source).take last).drop first).map Token.shape := by
  refine ⟨_, rfl, shapes_joinLexemes ?_ ?_⟩
  · exact fun t member => tokenize_cut (List.mem_of_mem_take (List.mem_of_mem_drop member))
  · have inside : (((tokenize source).take last).drop first).Sublist (tokenize source) :=
      (List.drop_sublist ..).trans (List.take_sublist ..)
    exact (loneQuotes_shapes source).sublist (inside.map Token.shape)

end ContractLang
