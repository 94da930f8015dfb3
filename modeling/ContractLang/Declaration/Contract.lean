import ContractLang.Declaration.Member
import ContractLang.Token.Standard

namespace ContractLang

/-- Reads members up to the closing brace, which it leaves. -/
def readMembers (settings : Settings) (c : Cursor) : MemberAttempt :=
  if c.symbol? = some '\x7d' then .done [] [] c
  else
    match _ran : readMember settings c with
    | ⟨built, trace, .error e⟩ => .failed built trace e
    | ⟨built, trace, .ok d⟩ => (Attempt.done built trace d).followedBy (readMembers settings d)
termination_by c.ahead.length
decreasing_by exact ahead_length_lt_of_readMember settings c d (by rw [_ran])

/-- Reads on after the opening brace of a contract, of which the name and the base are known. -/
def readContractBody (settings : Settings) (draft : Contract) (trace : List String) (c : Cursor) :
    Attempt Contract :=
  let members := readMembers settings c
  let contract := { draft with members := members.built }
  let traced := trace ++ members.trace
  match members.outcome with
  | .error e => .failed contract traced e
  | .ok brace =>
  match brace.next.passSymbol ';' .contractEnd with
  | .error e => .failed contract traced e
  | .ok next => .done contract traced next

/-- Reads on after the keyword of a contract. The draft holds the name and the base that count
    as long as none have been read. -/
def readContract (settings : Settings) (draft : Contract) (c : Cursor) : Attempt Contract :=
  match c.passIdentifier .contractName with
  | .error e => .failed draft [] e
  | .ok afterName =>
  let draft := { draft with name := c.lexeme }
  match afterName.passSymbol ':' .contractColon with
  | .error e => .failed draft [] e
  | .ok afterColon =>
  match afterColon.passIdentifier .baseName with
  | .error e => .failed draft [] e
  | .ok afterBase =>
  let draft := { draft with base := afterColon.lexeme }
  let trace := [Trace.contract draft.name draft.base]
  match afterBase.passSymbol '\x7b' .contractBody with
  | .error e => .failed draft trace e
  | .ok start => readContractBody settings draft trace start

theorem ahead_length_le_of_readMembers (settings : Settings) (c d : Cursor)
    (h : (readMembers settings c).outcome = .ok d) : d.ahead.length ≤ c.ahead.length := by
  unfold readMembers at h
  split at h
  · cases h
    exact Nat.le_refl _
  · split at h
    · cases h
    · rename_i built trace next ran
      have member := ahead_length_lt_of_readMember settings c next (by rw [ran])
      have rest := ahead_length_le_of_readMembers settings next d h
      omega
termination_by c.ahead.length
decreasing_by omega

theorem ahead_length_le_of_readContractBody (settings : Settings) (draft : Contract)
    (trace : List String) (c d : Cursor)
    (h : (readContractBody settings draft trace c).outcome = .ok d) :
    d.ahead.length ≤ c.ahead.length := by
  simp only [readContractBody] at h
  split at h
  · cases h
  · rename_i brace ran
    have members := ahead_length_le_of_readMembers settings c brace ran
    split at h
    · cases h
    · rename_i next passed
      have closing := brace.ahead_next_length_le
      have semicolon := Cursor.ahead_length_le_of_passSymbol _ _ _ _ passed
      cases h
      omega

theorem ahead_length_lt_of_readContract (settings : Settings) (draft : Contract) (c d : Cursor)
    (h : (readContract settings draft c).outcome = .ok d) : d.ahead.length < c.ahead.length := by
  simp only [readContract] at h
  split at h
  · cases h
  · rename_i afterName named
    have name := Cursor.ahead_length_lt_of_passIdentifier _ _ _ named
    split at h
    · cases h
    · rename_i afterColon passed
      have colon := Cursor.ahead_length_le_of_passSymbol _ _ _ _ passed
      split at h
      · cases h
      · rename_i afterBase based
        have base := Cursor.ahead_length_lt_of_passIdentifier _ _ _ based
        split at h
        · cases h
        · rename_i start opened
          have brace := Cursor.ahead_length_le_of_passSymbol _ _ _ _ opened
          have body := ahead_length_le_of_readContractBody _ _ _ _ _ h
          omega

/-- The contract whose keyword is next, or the complaint that none starts here. -/
def readNextContract (settings : Settings) (c : Cursor) : Attempt (List Contract) :=
  match c.passIdentifier .contractExpected with
  | .error e => .failed [] [] e
  | .ok afterKeyword =>
  if c.lexeme = settings.contractKeyword then
    let contract := readContract settings ⟨"", "", []⟩ afterKeyword
    ⟨[contract.built], contract.trace, contract.outcome⟩
  else .failed [] [] ⟨.unknownKeyword c.lexeme settings.contractKeyword, c.place⟩

theorem ahead_length_lt_of_readNextContract (settings : Settings) (c d : Cursor)
    (h : (readNextContract settings c).outcome = .ok d) : d.ahead.length < c.ahead.length := by
  simp only [readNextContract] at h
  split at h
  · cases h
  · rename_i afterKeyword passed
    have keyword := Cursor.ahead_length_lt_of_passIdentifier _ _ _ passed
    split at h
    · have rest := ahead_length_lt_of_readContract _ _ _ _ h
      omega
    · cases h

/-- Reads contracts up to the end of the tokens. A contract in which reading fails is the last
    one, as far as it was read. -/
def readContracts (settings : Settings) (c : Cursor) : Attempt (List Contract) :=
  if c.ahead.isEmpty then .done [] [] c
  else
    match _ran : readNextContract settings c with
    | ⟨built, trace, .error e⟩ => .failed built trace e
    | ⟨built, trace, .ok d⟩ => (Attempt.done built trace d).followedBy (readContracts settings d)
termination_by c.ahead.length
decreasing_by exact ahead_length_lt_of_readNextContract settings c d (by rw [_ran])

def readSource (settings : Settings) (source : List Char) : Attempt (List Contract) :=
  readContracts settings (.start (tokenize source))

end ContractLang
