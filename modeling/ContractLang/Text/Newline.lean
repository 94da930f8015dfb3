namespace ContractLang.Text

/-- Every line end, written as a return, a newline or both, becomes one newline. -/
def unifyLineEnds : List Char → List Char
  | '\r' :: '\n' :: rest => '\n' :: unifyLineEnds rest
  | '\r' :: rest => '\n' :: unifyLineEnds rest
  | c :: rest => c :: unifyLineEnds rest
  | [] => []

/-- A return directly before a newline is left out; a return on its own stays. -/
def dropReturnsBeforeNewline : List Char → List Char
  | '\r' :: '\n' :: rest => '\n' :: dropReturnsBeforeNewline rest
  | c :: rest => c :: dropReturnsBeforeNewline rest
  | [] => []

end ContractLang.Text
