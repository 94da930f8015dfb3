import ContractLang.Proofs.Declaration.ContractLookahead
import ContractLang.Proofs.Declaration.Form
import ContractLang.Proofs.Span.Arrival

namespace ContractLang

open Cursor MemberAttempt

section Members

variable {settings : Settings} {m : Method} {trace : List String}

theorem Cursor.arrives_names (c : Cursor) : c.Arrives (.ok c.names.2) := by
  rcases passes_names c with ⟨words, pass, -⟩
  exact .passed pass

theorem arrives_readData (type name : String) (c : Cursor) :
    c.Arrives (readData type name c).outcome := by
  unfold readData
  split
  · rename_i semicolon
    exact arrives_of_symbol? semicolon
  · have value := (c.arrives_skipSymbol '=').after (arrives_statement _ .dataEnd)
    split
    · rename_i failed
      rw [failed] at value
      exact value
    · rename_i read
      rw [read] at value
      exact value

theorem arrives_readAssociatedType (settings : Settings) (c : Cursor) :
    c.Arrives (readAssociatedType settings c).outcome := by
  have type := c.arrives_typeName
  unfold readAssociatedType
  split
  · rename_i e refused
    cases identifier : c.isIdentifier with
    | true =>
      rw [identifier] at refused
      cases refused
    | false =>
      rw [identifier] at refused
      cases refused
      exact .refusal c _
  · rcases spanned : c.typeName with e | span
    · rw [spanned] at type
      exact type
    · rw [spanned] at type
      have sign := type.after (arrives_passSymbol _ '=' .aliasValue)
      simp only
      split
      · rename_i refused
        rw [refused] at sign
        exact sign
      · rename_i start passed
        rw [passed] at sign
        have value := sign.after (start.arrives_statement .aliasEnd)
        split
        · rename_i failed
          rw [failed] at value
          exact value
        · rename_i read
          rw [read] at value
          exact value

theorem arrives_readMarker (c : Cursor) : c.Arrives (readMarker settings m trace c).outcome := by
  rcases markerForm_or_failed settings m trace c with ⟨marker, marked, found, mark⟩ | failed
  · rw [readMarker_of_markerForm trace found mark]
    exact (arrives_next found).after (arrives_passSymbol _ _ _)
  · rw [failed]
    exact .refusal c _

theorem arrives_readBody (c : Cursor) : c.Arrives (readBody m trace c).outcome := by
  have inside := c.arrives_code .body
  unfold readBody
  rcases ran : c.code .body with e | code
  · rw [ran] at inside
    exact inside
  · rw [ran] at inside
    have brace := inside.after (arrives_passSymbol _ '\x7d' (.bodyEnd code.next.lexeme))
    simp only
    split
    · rename_i refused
      rw [refused] at brace
      exact brace
    · rename_i passed
      rw [passed] at brace
      exact brace

theorem arrives_readMethod (returnType name : String) (c : Cursor) :
    c.Arrives (readMethod settings returnType name c).outcome := by
  have inside := c.arrives_code .statement
  unfold readMethod
  rcases ran : c.code .statement with e | arguments
  · rw [ran] at inside
    exact inside
  · rw [ran] at inside
    have parenthesis := inside.after (arrives_passSymbol _ ')' .argumentsEnd)
    simp only
    split
    · rename_i refused
      rw [refused] at parenthesis
      exact parenthesis
    · rename_i afterArguments passed
      rw [passed] at parenthesis
      have attributes := parenthesis.after afterArguments.arrives_names
      split
      · rename_i sign
        exact attributes.after ((arrives_of_symbol? sign).after (arrives_readMarker _))
      · split
        · rename_i opens
          exact attributes.after ((arrives_of_symbol? opens).after (arrives_readBody _))
        · exact attributes.after (.refusal _ _)

theorem arrives_readMember (settings : Settings) (c : Cursor) :
    c.Arrives (readMember settings c).outcome := by
  have keyword := c.arrives_passIdentifier .memberExpected
  have type := c.arrives_typeName
  unfold readMember
  split
  · rename_i refused
    rw [refused] at keyword
    exact keyword
  · rename_i afterKeyword passed
    rw [passed] at keyword
    split
    · exact keyword.after (arrives_readAssociatedType settings _)
    · rcases spanned : c.typeName with e | span
      · rw [spanned] at type
        exact type
      · rw [spanned] at type
        have name := type.after (arrives_passIdentifier _ .memberName)
        simp only
        split
        · rename_i refused
          rw [refused] at name
          exact name
        · rename_i afterName named
          rw [named] at name
          split
          · rename_i opens
            exact name.after ((arrives_of_symbol? opens).after (arrives_readMethod _ _ _))
          · exact name.after (arrives_readData _ _ _)

theorem arrives_readMembers (settings : Settings) (c : Cursor) :
    c.Arrives (readMembers settings c).outcome := by
  have member := arrives_readMember settings c
  by_cases closes : c.symbol? = some '\x7d'
  · rw [readMembers_of_brace closes]
    exact .here c
  · rcases ran : readMember settings c with ⟨built, trace, e | d⟩
    · rw [readMembers_of_failed closes ran]
      rw [ran] at member
      exact member
    · have shorter := ahead_length_lt_of_readMember settings c d (by rw [ran])
      rw [readMembers_of_done closes ran]
      rw [ran] at member
      exact member.after (arrives_readMembers settings d)
termination_by c.ahead.length

end Members

section Contracts

theorem arrives_readContractBody (settings : Settings) (draft : Contract) (trace : List String)
    (c : Cursor) : c.Arrives (readContractBody settings draft trace c).outcome := by
  have members := arrives_readMembers settings c
  rw [readContractBody]
  rcases ran : (readMembers settings c).outcome with e | brace
  · rw [ran] at members
    exact members
  · rw [ran] at members
    have closing := members.after (arrives_of_symbol? (symbol?_of_readMembers ran))
    have stop := closing.after (arrives_passSymbol _ ';' .contractEnd)
    simp only
    split
    · rename_i refused
      rw [refused] at stop
      exact stop
    · rename_i passed
      rw [passed] at stop
      exact stop

theorem arrives_readContract (settings : Settings) (draft : Contract) (c : Cursor) :
    c.Arrives (readContract settings draft c).outcome := by
  have name := c.arrives_passIdentifier .contractName
  unfold readContract
  split
  · rename_i refused
    rw [refused] at name
    exact name
  · rename_i afterName passed
    rw [passed] at name
    have colon := name.after (afterName.arrives_passSymbol ':' .contractColon)
    simp only
    split
    · rename_i refused
      rw [refused] at colon
      exact colon
    · rename_i afterColon passed
      rw [passed] at colon
      have base := colon.after (afterColon.arrives_passIdentifier .baseName)
      split
      · rename_i refused
        rw [refused] at base
        exact base
      · rename_i afterBase passed
        rw [passed] at base
        have brace := base.after (afterBase.arrives_passSymbol '\x7b' .contractBody)
        split
        · rename_i refused
          rw [refused] at brace
          exact brace
        · rename_i start passed
          rw [passed] at brace
          exact brace.after (arrives_readContractBody _ _ _ _)

theorem arrives_readNextContract (settings : Settings) (c : Cursor) :
    c.Arrives (readNextContract settings c).outcome := by
  have keyword := c.arrives_passIdentifier .contractExpected
  unfold readNextContract
  split
  · rename_i refused
    rw [refused] at keyword
    exact keyword
  · rename_i afterKeyword passed
    rw [passed] at keyword
    split
    · exact keyword.after (arrives_readContract _ _ _)
    · exact .refusal c _

/-- Reading ends before a token of the list or at its end, and so does every complaint. -/
theorem arrives_readContracts (settings : Settings) (c : Cursor) :
    c.Arrives (readContracts settings c).outcome := by
  have first := arrives_readNextContract settings c
  by_cases empty : c.ahead = []
  · rw [readContracts_of_empty empty]
    exact .here c
  · rcases ran : readNextContract settings c with ⟨built, trace, e | d⟩
    · rw [readContracts_of_failed empty ran]
      rw [ran] at first
      exact first
    · have shorter := ahead_length_lt_of_readNextContract settings c d (by rw [ran])
      rw [readContracts_of_done empty ran]
      rw [ran] at first
      exact first.after (arrives_readContracts settings d)
termination_by c.ahead.length

end Contracts
end ContractLang
