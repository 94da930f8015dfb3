import ContractLang.Proofs.Pairing.Contract
import ContractLang.Proofs.Token.CodeText

namespace ContractLang

/-- What is built and traced is the same. Two errors may differ in the line and the column of
    their token, and in nothing else. -/
inductive Attempt.Agree {α : Type} (a b : Attempt α) : Prop
  | failed {built : α} {trace : List String} {e e' : SyntaxError}
      (left : a = .failed built trace e) (right : b = .failed built trace e')
      (message : e'.message = e.message) (expected : e'.expected? = e.expected?)
      (position : e'.place.position = e.place.position)
  | done {built : α} {trace : List String} {c d : Cursor}
      (left : a = .done built trace c) (right : b = .done built trace d)
      (position : d.position = c.position)

theorem counterpart_of_shape {settings : Settings} {t u : Token} (same : u.shape = t.shape) :
    Counterpart settings settings t u := by
  have kind : u.kind = t.kind := congrArg Prod.fst same
  have lexeme : u.lexeme = t.lexeme := congrArg Prod.snd same
  refine ⟨kind, ?_, fun _ _ => by rw [lexeme], fun _ _ => by rw [lexeme]⟩
  rw [Token.symbol?, Token.symbol?, kind, lexeme]

namespace Pairing

/-- Two lists of tokens that differ in lines and columns only. -/
def ofShapes (settings : Settings) {tokens others : List Token}
    (same : others.map Token.shape = tokens.map Token.shape) : Pairing where
  settings := settings
  other := settings
  tokens := tokens
  others := others
  counterparts := by
    have shapes : List.Forall₂ Eq (others.map Token.shape) (tokens.map Token.shape) :=
      List.forall₂_eq_eq_eq.symm ▸ same
    rw [List.forall₂_map_left_iff, List.forall₂_map_right_iff] at shapes
    exact shapes.flip.imp fun _ _ => counterpart_of_shape

theorem exact_ofShapes (settings : Settings) {tokens others : List Token}
    (same : others.map Token.shape = tokens.map Token.shape) :
    (ofShapes settings same).Exact := ⟨rfl, same⟩

theorem Parallel.agree {p : Pairing} {α : Type} {alike : α → α → Prop} {a b : Attempt α}
    (parallel : p.Parallel alike a b) (exactly : p.Exact) : a.Agree b := by
  rcases parallel with ⟨left, right, same, exact⟩ | ⟨left, right, next, _, exact⟩
  · rcases exact exactly with ⟨rfl, rfl⟩
    have complaint := same.complaint exactly
    exact .failed left right (congrArg Complaint.message complaint)
      (congrArg Complaint.expected? complaint) same.position
  · rcases exact exactly with ⟨rfl, rfl⟩
    exact .done left right next.position

end Pairing

theorem agree_of_shapes (settings : Settings) {s t : List Char} (same : shapes s = shapes t) :
    (readSource settings s).Agree (readSource settings t) := by
  let p := Pairing.ofShapes settings same.symm
  have parallel := (Pairing.Abreast.start (p := p)).readContracts
  exact parallel.agree (Pairing.exact_ofShapes settings same.symm)

/-- Blanks, line ends and comments between the tokens do not matter. All that a source says is
    also said by its lexemes with single spaces between them. -/
theorem readSource_agree (settings : Settings) :
    (∀ s t, shapes s = shapes t → (readSource settings s).Agree (readSource settings t)) ∧
    ∀ s, (readSource settings s).Agree
      (readSource settings (joinLexemes (tokenize s)).toList) := by
  refine ⟨fun s t => agree_of_shapes settings, fun s => agree_of_shapes settings ?_⟩
  exact (shapes_joinLexemes (fun t => tokenize_cut) (loneQuotes_shapes s)).symm

theorem readSource_agree_of_comment :
    shapes "contract Aa:Bb{int count}".toList
      = shapes "contract Aa : Bb // members\n  { int count }".toList ∧
    (readSource .standard "contract Aa:Bb{int count}".toList).Agree
      (readSource .standard "contract Aa : Bb // members\n  { int count }".toList) := by
  have same : shapes "contract Aa:Bb{int count}".toList
      = shapes "contract Aa : Bb // members\n  { int count }".toList := by decide +kernel
  exact ⟨same, (readSource_agree .standard).1 _ _ same⟩

end ContractLang
