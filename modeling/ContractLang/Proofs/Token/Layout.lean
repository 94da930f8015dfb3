import ContractLang.Proofs.Token.Shapes

namespace ContractLang

open CharSet

/-- Blanks and comments before the text `rest`. A comment goes up to the end of its line. -/
inductive Gap (rest : List Char) : List Char → Prop
  | nil : Gap rest []
  | blank {c : Char} {gap : List Char} (isBlank : CharSet.blank.contains c = true)
      (others : Gap rest gap) : Gap rest (c :: gap)
  | comment {body gap : List Char} (fills : anyOnLine.Fills body)
      (stops : anyOnLine.Stops (gap ++ rest)) (others : Gap rest gap) :
      Gap rest ('/' :: '/' :: body ++ gap)

/-- The text is these lexemes in their order, with a gap before each of them and after the last.
    What a lexeme may be depends on its kind and on the text that follows it. -/
inductive Layout : List Char → List (Kind × String) → Prop
  | last {gap : List Char} (blank : Gap [] gap) : Layout gap []
  | token {gap rest : List Char} {kind : Kind} {lexeme : String} {later : List (Kind × String)}
      (front : Gap (lexeme.toList ++ rest) gap) (cut : Cut (some kind) lexeme.toList rest)
      (others : Layout rest later) :
      Layout (gap ++ (lexeme.toList ++ rest)) ((kind, lexeme) :: later)

theorem Gap.append {rest first second : List Char} (left : Gap (second ++ rest) first)
    (right : Gap rest second) : Gap rest (first ++ second) := by
  induction left with
  | nil => exact right
  | blank isBlank others ih => exact .blank isBlank ih
  | @comment body gap fills stops others ih =>
    rw [← List.append_assoc] at stops
    rw [List.append_assoc]
    exact .comment fills stops ih

theorem Gap.of_blanks {run : List Char} (fills : CharSet.blank.Fills run) (rest : List Char) :
    Gap rest run := by
  induction run with
  | nil => exact .nil
  | cons c run ih =>
    rcases (fills_cons _ c run).mp fills with ⟨isBlank, fills⟩
    exact .blank isBlank (ih fills)

theorem Cut.gap {lexeme rest : List Char} (cut : Cut none lexeme rest) : Gap rest lexeme := by
  cases cut with
  | blanks fills => exact .of_blanks fills rest
  | @comment body _ fills stops =>
    rw [← List.append_nil ('/' :: '/' :: body)]
    exact .comment fills stops .nil

theorem Gap.tokensAfter {rest gap : List Char} (front : Gap rest gap) (before : List Char) :
    tokensAfter before (gap ++ rest) = ContractLang.tokensAfter (before ++ gap) rest := by
  induction front generalizing before with
  | nil => rw [List.nil_append, List.append_nil]
  | blank isBlank others ih =>
    rw [List.cons_append, tokensAfter_blank isBlank, ih, List.append_assoc]
    rfl
  | comment fills stops others ih =>
    rw [List.append_assoc, (Cut.comment fills stops).tokensAfter, ih, List.append_assoc]
    rfl

theorem Gap.shapes {rest gap : List Char} (front : Gap rest gap) :
    shapes (gap ++ rest) = ContractLang.shapes rest := by
  rw [← shapes_tokensAfter [], front.tokensAfter, shapes_tokensAfter]

theorem Layout.after {text more : List Char} {pieces : List (Kind × String)}
    (layout : Layout text pieces) (front : Gap text more) : Layout (more ++ text) pieces := by
  cases layout with
  | last gap =>
    rw [← List.append_nil text] at front
    exact .last (front.append gap)
  | token gap cut others =>
    rw [← List.append_assoc]
    exact .token (front.append gap) cut others

theorem layout_shapes (source : List Char) : Layout source (shapes source) := by
  induction source using shapes_induction with
  | nil => exact .last .nil
  | cut kind? lexeme rest cut ih =>
    rw [cut.shapes]
    cases kind? with
    | none => exact ih.after cut.gap
    | some kind =>
      rw [← String.toList_ofList (l := lexeme)] at cut
      have token := Layout.token .nil cut ih
      rw [String.toList_ofList, List.nil_append] at token
      exact token

theorem Layout.shapes {source : List Char} {pieces : List (Kind × String)}
    (layout : Layout source pieces) : pieces = ContractLang.shapes source := by
  induction layout with
  | last gap =>
    have nothing := gap.shapes
    rw [List.append_nil] at nothing
    exact nothing.symm
  | token front cut others ih =>
    rw [front.shapes, cut.shapes, ← ih, String.ofList_toList]
    rfl

/-- Nothing of a source is lost but blanks and comments, and what a lexeme is shows from the lexeme
    and what follows it: the tokens are the only ones that the source can be laid out in. -/
theorem layout_iff (source : List Char) (pieces : List (Kind × String)) :
    Layout source pieces ↔ pieces = (tokenize source).map Token.shape :=
  ⟨Layout.shapes, fun same => same ▸ layout_shapes source⟩

end ContractLang
