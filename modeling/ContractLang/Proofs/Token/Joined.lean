import ContractLang.Proofs.Token.Fits

namespace ContractLang

theorem joinLexemes_append {first second : List Token} (left : first ≠ []) (right : second ≠ []) :
    joinLexemes (first ++ second) = joinLexemes first ++ " " ++ joinLexemes second := by
  have leftMap : first.map (·.lexeme) ≠ [] := by simpa using left
  have rightMap : second.map (·.lexeme) ≠ [] := by simpa using right
  rw [joinLexemes, List.map_append, String.intercalate_append_of_ne_nil leftMap rightMap]
  rfl

theorem Token.lexeme_of_symbol? {t : Token} {symbol : Char} (found : t.symbol? = some symbol) :
    t.lexeme = String.singleton symbol := by
  rw [← String.ofList_toList (s := t.lexeme), ((t.symbol?_eq_some_iff symbol).mp found).2]
  rfl

theorem joinLexemes_concat_ne {tokens : List Token} {stop : Token} {symbol : Char}
    (found : stop.symbol? = some symbol) :
    joinLexemes tokens ≠ joinLexemes (tokens ++ [stop]) := by
  intro same
  have sizes := congrArg String.length same
  have last : joinLexemes [stop] = String.singleton symbol := by
    rw [← Token.lexeme_of_symbol? found]
    exact String.intercalate_singleton
  have single : (String.singleton symbol).length = 1 := String.length_singleton
  by_cases filled : tokens = []
  · subst filled
    have empty : (joinLexemes []).length = 0 := rfl
    rw [List.nil_append, last] at sizes
    omega
  · rw [joinLexemes_append filled (List.cons_ne_nil _ _), last] at sizes
    simp only [String.length_append] at sizes
    omega

end ContractLang
