import ContractLang.Token.Lexer

namespace ContractLang

namespace Pattern

def blanks : Pattern :=
  plus (.one ⟨false, [(' ', ' '), ('\t', '\t'), ('\n', '\n'), ('\r', '\r')]⟩)

def comment : Pattern := .seq (.seq (literal '/') (literal '/')) (.star (.one .anyOnLine))

/-- Two characters or more: a letter or an underscore, then such characters or digits. -/
def identifier : Pattern :=
  .seq (.one ⟨false, [('a', 'z'), ('A', 'Z'), ('_', '_')]⟩)
    (plus (.one ⟨false, [('a', 'z'), ('A', 'Z'), ('0', '9'), ('_', '_')]⟩))

def digits : Pattern := plus (.one ⟨false, [('0', '9')]⟩)

def number : Pattern := .seq digits (optional (.seq (literal '.') digits))

def string : Pattern :=
  .seq (.seq (literal '"') (.star (.one ⟨true, [('"', '"')]⟩))) (literal '"')

/-- A double colon or any single character but the newline. -/
def symbol : Pattern := .alt (.seq (literal ':') (literal ':')) (.one .anyOnLine)

end Pattern

namespace RuleTable

/-- The rules of contract definitions. Blanks and comments yield no token. -/
def standard : RuleTable :=
  [.ofPattern "Whitespace" "[ \\t\\n\\r]+" .blanks false none,
   .ofPattern "Comment" "//.*" .comment false none,
   .ofPattern "ID" "[a-zA-Z_][a-zA-Z0-9_]+" .identifier true (some .identifier),
   .ofPattern "Number" "[0-9]+(\\.[0-9]+)?" .number true (some .number),
   .ofPattern "String" "\"[^\"]*\"" .string true (some .string),
   .ofPattern "Other" "::|." .symbol true (some .other)]

end RuleTable

theorem Pattern.read?_blanks : read? "[ \\t\\n\\r]+" = some .blanks := by decide
theorem Pattern.read?_comment : read? "//.*" = some .comment := by decide
theorem Pattern.read?_identifier : read? "[a-zA-Z_][a-zA-Z0-9_]+" = some .identifier := by decide
theorem Pattern.read?_number : read? "[0-9]+(\\.[0-9]+)?" = some .number := by decide
theorem Pattern.read?_string : read? "\"[^\"]*\"" = some .string := by decide
theorem Pattern.read?_symbol : read? "::|." = some .symbol := by decide

def tokenize (source : List Char) : List Token := RuleTable.standard.tokens source

end ContractLang
