import ContractLang.Proofs.Declaration.ContractLookahead

namespace ContractLang

/-- The same position where more tokens come at the end. -/
def Cursor.extend (c : Cursor) (more : List Token) : Cursor := ⟨c.position, c.ahead ++ more⟩

def Cursor.shift (c : Cursor) (k : Nat) : Cursor := ⟨c.position + k, c.ahead⟩

/-- The same attempt where `k` more tokens come before. -/
def Attempt.shift {α : Type} (k : Nat) (a : Attempt α) : Attempt α :=
  match a.outcome with
  | .error e => .failed a.built a.trace (e.shift k)
  | .ok d => .done a.built a.trace (d.shift k)

theorem Attempt.followedBy_assoc {α : Type} (first second third : Attempt (List α)) :
    (first.followedBy second).followedBy third = first.followedBy (second.followedBy third) := by
  simp only [Attempt.followedBy, List.append_assoc]

theorem Attempt.nil_followedBy {α : Type} (c : Cursor) (rest : Attempt (List α)) :
    (Attempt.done [] [] c).followedBy rest = rest := rfl

namespace Cursor

variable {c d : Cursor}

theorem alike_extend {t : Token} (found : c.place.token? = some t) (more : List Token) :
    c.Alike 0 (c.extend more) := by
  refine ⟨rfl, ?_⟩
  have head : c.ahead.head? = some t := found
  rw [extend, List.head?_append, head]
  rfl

theorem next_extend {t : Token} (found : c.place.token? = some t) (more : List Token) :
    (c.extend more).next = c.next.extend more := by
  rcases c with ⟨position, ahead⟩
  cases ahead with
  | nil => cases found
  | cons u rest => rfl

theorem Passes.extend {span : List Token} (pass : c.Passes span d) (more : List Token) :
    (c.extend more).Passes span (d.extend more) := by
  refine ⟨?_, pass.2⟩
  rw [Cursor.extend, pass.1, List.append_assoc]
  rfl

/-- What the next token settles, it settles whatever comes at the end. -/
theorem Settles.extend {holds : Nat → Cursor → Cursor → Prop} {t : Token}
    (settled : c.Settles d holds) (found : d.place.token? = some t) (more : List Token) :
    holds 0 (c.extend more) (d.extend more) := by
  rcases settled with ⟨span, pass, holds⟩
  exact holds 0 _ _ (pass.extend more) (alike_extend found more)

theorem Settles.finish {holds : Nat → Cursor → Cursor → Prop} (settled : c.Settles d holds) :
    d.position + d.ahead.length = c.position + c.ahead.length := by
  rcases settled with ⟨span, pass, -⟩
  rw [pass.1, pass.2, List.length_append, Nat.add_assoc]

end Cursor

/-- A list of contracts that is read to its end is read in the same way where more tokens come
    after it: its last contract ends with a semicolon of its own. -/
theorem readContracts_extend {settings : Settings} {c d : Cursor}
    (read : (readContracts settings c).outcome = .ok d) (more : List Token) :
    readContracts settings (c.extend more)
      = (readContracts settings c).followedBy
          (readContracts settings ⟨c.position + c.ahead.length, more⟩) := by
  by_cases empty : c.ahead = []
  · rw [readContracts_of_empty empty, Attempt.nil_followedBy, Cursor.extend, empty]
    rfl
  · rcases reads_readNextContract settings c with
      ⟨⟨built, trace, stands, contract⟩⟩ | @⟨built, trace, e, ends, contract⟩
    · rw [readContracts_of_failed empty contract.self] at read
      cases read
    · have ran := contract.self
      have shorter := ahead_length_lt_of_readNextContract settings c e.next (by rw [ran]; rfl)
      rcases Cursor.exists_token_of_symbol? ends with ⟨t, found⟩
      have filled : (c.extend more).ahead ≠ [] := by
        simpa [Cursor.extend] using fun ended => absurd ended empty
      have finish := (contract.trans (.next found)).finish
      rw [readContracts_of_done empty ran] at read ⊢
      rw [readContracts_of_done filled (contract.extend found more), Cursor.next_extend found,
        readContracts_extend read more, finish, Attempt.followedBy_assoc]
      rfl
termination_by c.ahead.length

theorem readContracts_shift (settings : Settings) (c : Cursor) (k : Nat) :
    readContracts settings (c.shift k) = (readContracts settings c).shift k := by
  have moved : ∀ {span d}, c.Passes span d → (c.shift k).Passes span (d.shift k) ∧
      d.Alike k (d.shift k) := by
    intro span d pass
    refine ⟨⟨pass.1, ?_⟩, rfl, rfl⟩
    have position := pass.2
    simp only [Cursor.shift]
    omega
  rcases reads_readContracts settings c with
    ⟨⟨built, trace, stands, settled⟩⟩ | ⟨built, trace, settled⟩
  · rw [settled.self, SyntaxError.shift_zero]
    rcases settled with ⟨span, pass, holds⟩
    rcases moved pass with ⟨other, alike⟩
    exact holds k _ _ other alike
  · rw [settled.self]
    rcases settled with ⟨span, pass, holds⟩
    rcases moved pass with ⟨other, alike⟩
    exact holds k _ _ other alike

/-- Reading turns one list of tokens after another into one attempt after another. -/
theorem readContracts_append_eq {settings : Settings} {first : List Token} {d : Cursor}
    (read : (readContracts settings (.start first)).outcome = .ok d) (second : List Token) :
    readContracts settings (.start (first ++ second))
      = (readContracts settings (.start first)).followedBy
          ((readContracts settings (.start second)).shift first.length) := by
  rw [← readContracts_shift]
  exact readContracts_extend read second

/-- The contracts of two lists of tokens, one after the other, are those of the first one and then
    those of the second one, complete or not; an error in the second one is the same error, further
    on. -/
theorem readContracts_append {settings : Settings} {first : List Token} {d : Cursor}
    (read : (readContracts settings (.start first)).outcome = .ok d) (second : List Token) :
    (readContracts settings (.start (first ++ second))).built
      = (readContracts settings (.start first)).built
        ++ (readContracts settings (.start second)).built ∧
    ((∃ finish, (readContracts settings (.start (first ++ second))).outcome = .ok finish) ↔
      ∃ finish, (readContracts settings (.start second)).outcome = .ok finish) ∧
    ∀ e, (readContracts settings (.start second)).outcome = .error e →
      ∃ e', (readContracts settings (.start (first ++ second))).outcome = .error e' ∧
        e'.place.position = e.place.position + first.length ∧
        e'.place.token? = e.place.token? ∧ e'.expected? = e.expected? := by
  rw [readContracts_append_eq read]
  rcases readContracts settings (.start second) with ⟨built, trace, e | finish⟩
  · refine ⟨rfl, ⟨?_, ?_⟩, ?_⟩
    · rintro ⟨finish, ended⟩
      cases ended
    · rintro ⟨finish, ended⟩
      cases ended
    · intro error same
      cases same
      exact ⟨e.shift first.length, rfl, rfl, rfl, e.complaint.expected?_shift first.length⟩
  · refine ⟨rfl, ⟨?_, ?_⟩, ?_⟩
    · intro _
      exact ⟨finish, rfl⟩
    · intro _
      exact ⟨finish.shift first.length, rfl⟩
    · intro error same
      cases same

theorem readContracts_append_of_number_name :
    (readContracts .standard
        (.start (tokenize "contract Aa : Bb { int count; };".toList))).outcome = .ok ⟨10, []⟩ ∧
    (readContracts .standard (.start (tokenize "contract Cc : Dd { int 5; };".toList))).outcome
      = .error ⟨.memberName, ⟨6, some ⟨.number, "5", 1, 24⟩⟩⟩ ∧
    ∃ e', (readContracts .standard (.start
        (tokenize "contract Aa : Bb { int count; };".toList
          ++ tokenize "contract Cc : Dd { int 5; };".toList))).outcome = .error e' ∧
      e'.place.position = 16 := by
  have read : (readContracts .standard
        (.start (tokenize "contract Aa : Bb { int count; };".toList))).outcome
      = .ok ⟨10, []⟩ := by decide +kernel
  have failed : (readContracts .standard
        (.start (tokenize "contract Cc : Dd { int 5; };".toList))).outcome
      = .error ⟨.memberName, ⟨6, some ⟨.number, "5", 1, 24⟩⟩⟩ := by decide +kernel
  have length : (tokenize "contract Aa : Bb { int count; };".toList).length = 10 := by
    decide +kernel
  rcases (readContracts_append read _).2.2 _ failed with ⟨e', ended, position, _⟩
  rw [length] at position
  exact ⟨read, failed, e', ended, position⟩

end ContractLang
