import ContractLang.Proofs.Token.Shapes

namespace ContractLang

open CharSet

theorem lexemes_sublist (text : List Char) :
    ((shapes text).flatMap (·.2.toList)).Sublist text := by
  induction text using shapes_induction with
  | nil => exact List.Sublist.refl _
  | cut kind? lexeme rest cut ih =>
    rw [cut.shapes, List.flatMap_append]
    cases kind? with
    | none => exact ih.trans (List.sublist_append_right lexeme rest)
    | some kind => simpa using ih

theorem mem_of_mem_shapes {text : List Char} {kind : Kind} {lexeme : String} {c : Char}
    (member : (kind, lexeme) ∈ shapes text) (inside : c ∈ lexeme.toList) : c ∈ text :=
  (lexemes_sublist text).subset (List.mem_flatMap.mpr ⟨_, member, inside⟩)

theorem Cut.noQuote {lexeme rest : List Char} (cut : Cut (some .other) lexeme rest)
    (quote : lexeme = ['"']) : '"' ∉ rest := by
  cases cut with
  | scope => cases quote
  | symbol visible noDigit noWord noComment noScope noString =>
    cases quote
    exact noString rfl

/-- No lexeme after a lone quotation mark has a quotation mark in it. -/
def LoneQuotes (tokens : List (Kind × String)) : Prop :=
  tokens.Pairwise fun one other => one = (.other, "\"") → '"' ∉ other.2.toList

theorem loneQuotes_shapes (text : List Char) : LoneQuotes (shapes text) := by
  induction text using shapes_induction with
  | nil => exact List.Pairwise.nil
  | cut kind? lexeme rest cut ih =>
    rw [cut.shapes]
    cases kind? with
    | none => exact ih
    | some kind =>
      refine List.Pairwise.cons ?_ ih
      rintro ⟨after, later⟩ member isQuote inside
      rcases Prod.mk.inj isQuote with ⟨rfl, spelled⟩
      have quote : lexeme = ['"'] := by
        rw [← String.toList_ofList (l := lexeme), spelled]
        rfl
      exact cut.noQuote quote (mem_of_mem_shapes member inside)

theorem LoneQuotes.quote_not_mem {t : Token} {rest : List Token}
    (quotes : LoneQuotes ((t :: rest).map Token.shape)) (quote : t.symbol? = some '"') :
    ∀ u ∈ rest, '"' ∉ u.lexeme.toList := by
  rcases (t.symbol?_eq_some_iff _).mp quote with ⟨kind, single⟩
  have shape : t.shape = (.other, "\"") := by
    rw [Token.shape, kind, ← String.ofList_toList (s := t.lexeme), single]
  intro u member
  exact (List.pairwise_cons.mp quotes).1 _ (List.mem_map_of_mem member) shape

theorem shapes_space (text : List Char) : shapes (' ' :: text) = shapes text :=
  shapes_blank (by decide) text

end ContractLang
