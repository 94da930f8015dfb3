import ContractLang.Span.Code

namespace ContractLang

/-- A statement is code that ends at a semicolon and is not empty. The complaint is the caller's
    where no semicolon ends the code, and stands where the code stops. -/
def Cursor.statement (c : Cursor) (complaint : Complaint) : Except SyntaxError Stretch :=
  match c.code .statement with
  | .error e => .error e
  | .ok s =>
    if s.ending = .semicolon then
      if s.tokens.isEmpty then .error ⟨.valueExpected, c.place⟩ else .ok s
    else .error ⟨complaint, s.next.place⟩

theorem Cursor.ahead_length_le_of_statement (c : Cursor) (complaint : Complaint) (s : Stretch)
    (h : c.statement complaint = .ok s) : s.next.ahead.length ≤ c.ahead.length := by
  unfold statement at h
  split at h
  · cases h
  · rename_i stretch ran
    split at h
    · split at h
      · cases h
      · cases h; exact c.ahead_length_le_of_code _ _ ran
    · cases h

end ContractLang
