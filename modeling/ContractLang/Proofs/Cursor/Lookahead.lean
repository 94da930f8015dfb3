import ContractLang.Proofs.Cursor.Passage

namespace ContractLang

def Place.shift (p : Place) (k : Nat) : Place := ⟨p.position + k, p.token?⟩

/-- The same complaint where `k` more tokens come before. -/
def Complaint.shift (k : Nat) : Complaint → Complaint
  | .mismatched closer opener wanted openedAt => .mismatched closer opener wanted (openedAt + k)
  | complaint => complaint

def SyntaxError.shift (e : SyntaxError) (k : Nat) : SyntaxError :=
  ⟨e.complaint.shift k, e.place.shift k⟩

theorem Complaint.expected?_shift (complaint : Complaint) (k : Nat) :
    (complaint.shift k).expected? = complaint.expected? := by
  cases complaint <;> rfl

theorem SyntaxError.shift_zero (e : SyntaxError) : e.shift 0 = e := by
  rcases e with ⟨complaint, position, token?⟩
  have place : Place.shift ⟨position, token?⟩ 0 = ⟨position, token?⟩ := by
    simp [Place.shift]
  rw [SyntaxError.shift, place]
  cases complaint <;> rfl

/-- The token that the error names is the next one. Only that brackets are unclosed is seen later
    than it is reported, at the end of the tokens. -/
def SyntaxError.StandsAt (e : SyntaxError) (c : Cursor) : Prop :=
  e.place = c.place ∨ (∃ opener, e.complaint = .unclosed opener) ∧ c.ahead = []

namespace Cursor

/-- The second cursor stands before the same token as the first, `k` tokens further on. -/
structure Alike (k : Nat) (c d : Cursor) : Prop where
  position : d.position = c.position + k
  head : d.ahead.head? = c.ahead.head?

section Alike

variable {k : Nat} {c d : Cursor}

theorem Alike.refl (c : Cursor) : c.Alike 0 c := ⟨rfl, rfl⟩

theorem Alike.place (alike : c.Alike k d) : d.place = c.place.shift k := by
  rw [Cursor.place, Cursor.place, Place.shift, alike.position, alike.head]
  rfl

theorem Alike.symbol? (alike : c.Alike k d) : d.symbol? = c.symbol? := by
  rw [Cursor.symbol?, alike.place]
  rfl

theorem Alike.lexeme (alike : c.Alike k d) : d.lexeme = c.lexeme := by
  rw [Cursor.lexeme, alike.place]
  rfl

theorem Alike.isKind (alike : c.Alike k d) (kind : Kind) :
    d.place.isKind kind = c.place.isKind kind := by
  rw [alike.place]
  rfl

theorem Alike.isIdentifier (alike : c.Alike k d) : d.isIdentifier = c.isIdentifier :=
  alike.isKind .identifier

theorem Passes.alike {c' d' : Cursor} {span : List Token} (pass : c.Passes span d)
    (other : c'.Passes span d') (alike : d.Alike k d') : c.Alike k c' := by
  refine ⟨?_, ?_⟩
  · have first := pass.2
    have second := other.2
    have after := alike.position
    omega
  · rw [pass.1, other.1]
    cases span with
    | nil => exact alike.head
    | cons t rest => rfl

end Alike

/-- The tokens from `c` to `d` and the one after them settle this: wherever they stand, `k` tokens
    further on and with any others behind them, it is so between the cursors there. -/
def Settles (c d : Cursor) (holds : Nat → Cursor → Cursor → Prop) : Prop :=
  ∃ span, c.Passes span d ∧
    ∀ k c' d', c'.Passes span d' → d.Alike k d' → holds k c' d'

section Settles

variable {c d e : Cursor} {first second : Nat → Cursor → Cursor → Prop}

theorem Settles.self (settled : c.Settles d first) : first 0 c d := by
  rcases settled with ⟨span, pass, holds⟩
  exact holds 0 c d pass (.refl d)

theorem Settles.imp (settled : c.Settles d first)
    (weaker : ∀ k c' d', first k c' d' → second k c' d') : c.Settles d second := by
  rcases settled with ⟨span, pass, holds⟩
  exact ⟨span, pass, fun k c' d' other alike => weaker k c' d' (holds k c' d' other alike)⟩

theorem Settles.here (holds : ∀ k c', c.Alike k c' → first k c' c') : c.Settles c first := by
  refine ⟨[], .refl c, ?_⟩
  intro k c' d' pass alike
  have same : d' = c' := pass.eq (.refl c')
  subst same
  exact holds k d' alike

theorem Settles.next {t : Token} (found : c.place.token? = some t) :
    c.Settles c.next fun k c' d' => c.Alike k c' ∧ d' = c'.next := by
  refine ⟨[t], passes_next found, ?_⟩
  intro k c' d' pass alike
  exact ⟨(passes_next found).alike pass alike, pass.next⟩

theorem Settles.trans (left : c.Settles d first) (right : d.Settles e second) :
    c.Settles e fun k c' e' => ∃ d', first k c' d' ∧ second k d' e' := by
  rcases left with ⟨before, passBefore, holdsBefore⟩
  rcases right with ⟨after, passAfter, holdsAfter⟩
  refine ⟨before ++ after, passBefore.trans passAfter, ?_⟩
  intro k c' e' pass alike
  rcases pass.split with ⟨d', otherBefore, otherAfter⟩
  have between : d.Alike k d' := passAfter.alike otherAfter alike
  exact ⟨d', holdsBefore k c' d' otherBefore between, holdsAfter k d' e' otherAfter alike⟩

theorem Settles.atStart (settled : c.Settles d first) :
    c.Settles d fun k c' d' => c.Alike k c' ∧ first k c' d' := by
  rcases settled with ⟨span, pass, holds⟩
  refine ⟨span, pass, ?_⟩
  intro k c' d' other alike
  exact ⟨pass.alike other alike, holds k c' d' other alike⟩

theorem Settles.atEnd (settled : c.Settles d first) :
    c.Settles d fun k c' d' => first k c' d' ∧ d.Alike k d' := by
  rcases settled with ⟨span, pass, holds⟩
  refine ⟨span, pass, ?_⟩
  intro k c' d' other alike
  exact ⟨holds k c' d' other alike, alike⟩

theorem Settles.upTo (settled : c.Settles d first) :
    c.Settles d fun k c' d' => first k c' d' ∧ c'.upTo d' = c.upTo d := by
  rcases settled with ⟨span, pass, holds⟩
  refine ⟨span, pass, ?_⟩
  intro k c' d' other alike
  exact ⟨holds k c' d' other alike, other.upTo.trans pass.upTo.symm⟩

end Settles

/-- One token of lookahead is enough for the reader at this cursor, whether it fails or goes on.
    What it gives besides the cursor to go on from is `built`. -/
inductive Scans {α β : Type} (put : β → Cursor → α) (read : Cursor → Except SyntaxError α)
    (c : Cursor) : Prop
  | error {e : SyntaxError} {d : Cursor} (stands : e.StandsAt d)
      (settled : c.Settles d fun k c' _ => read c' = .error (e.shift k))
  | ok (built : β) {d : Cursor} (settled : c.Settles d fun _ c' d' => read c' = .ok (put built d'))

/-- The reader gives nothing but the cursor to go on from. -/
abbrev Moves (read : Cursor → Except SyntaxError Cursor) (c : Cursor) : Prop :=
  Scans (fun (_ : Unit) d => d) read c

/-- The reader complains about the token at which it has arrived. -/
theorem Scans.of_refusal {α β : Type} {put : β → Cursor → α} {read : Cursor → Except SyntaxError α}
    {c d : Cursor} (complaint : Complaint) (fixed : ∀ k, complaint.shift k = complaint)
    (settled : c.Settles d fun _ c' d' => read c' = .error ⟨complaint, d'.place⟩) :
    Scans put read c := by
  refine .error (e := ⟨complaint, d.place⟩) (.inl rfl) (settled.atEnd.imp ?_)
  intro k c' d' ran
  rcases ran with ⟨refused, alike⟩
  rw [refused, alike.place, SyntaxError.shift, fixed]

/-- What a reader has settled so far, and a reader to which it leaves the rest. -/
theorem Scans.after {α β : Type} {put : β → Cursor → α} {read rest : Cursor → Except SyntaxError α}
    {c d : Cursor} {before : Nat → Cursor → Cursor → Prop} (first : c.Settles d before)
    (last : Scans put rest d) (same : ∀ k c' d', before k c' d' → read c' = rest d') :
    Scans put read c := by
  cases last with
  | error stands settled =>
    refine .error stands ((first.trans settled).imp ?_)
    intro k c' e' ran
    rcases ran with ⟨d', ran, failed⟩
    rw [same k c' d' ran, failed]
  | ok built settled =>
    refine .ok built ((first.trans settled).imp ?_)
    intro k c' e' ran
    rcases ran with ⟨d', ran, passed⟩
    rw [same k c' d' ran, passed]

section Readers

variable {c : Cursor}

theorem moves_pass (holds : Cursor → Bool) (complaint : Cursor → Complaint)
    (fixed : ∀ k, (complaint c).shift k = complaint c)
    (found : holds c = true → ∃ t, c.place.token? = some t)
    (alike : ∀ k c', c.Alike k c' → holds c' = holds c ∧ complaint c' = complaint c) :
    Moves (fun c => c.pass (holds c) (complaint c)) c := by
  cases test : holds c with
  | false =>
    refine .of_refusal (complaint c) fixed (.here ?_)
    intro k c' same
    rcases alike k c' same with ⟨tested, complained⟩
    simp [pass, Place.demand, Except.map, tested, test, complained]
  | true =>
    rcases found test with ⟨t, next⟩
    refine .ok () ((Settles.next next).imp ?_)
    intro k c' d' same
    rcases same with ⟨same, rfl⟩
    rcases alike k c' same with ⟨tested, -⟩
    simp [pass, Place.demand, Except.map, tested, test]

theorem exists_token_of_isKind {kind : Kind} (is : c.place.isKind kind = true) :
    ∃ t, c.place.token? = some t := by
  cases next : c.place.token? with
  | none => rw [Place.isKind, next] at is; cases is
  | some t => exact ⟨t, rfl⟩

theorem exists_token_of_symbol? {symbol : Char} (found : c.symbol? = some symbol) :
    ∃ t, c.place.token? = some t := by
  rcases Option.bind_eq_some_iff.mp found with ⟨t, next, _⟩
  exact ⟨t, next⟩

theorem exists_token_of_lexeme {word : String} (found : c.lexeme = word) (filled : word ≠ "") :
    ∃ t, c.place.token? = some t := by
  cases next : c.place.token? with
  | none => rw [Cursor.lexeme, Place.lexeme, next] at found; exact absurd found.symm filled
  | some t => exact ⟨t, rfl⟩

theorem moves_passIdentifier (complaint : String → Complaint)
    (fixed : ∀ k found, (complaint found).shift k = complaint found) (c : Cursor) :
    Moves (fun c => c.passIdentifier (complaint c.lexeme)) c := by
  apply moves_pass Cursor.isIdentifier (fun c => complaint c.lexeme) (fun k => fixed k c.lexeme)
  · exact exists_token_of_isKind
  · intro k c' same
    exact ⟨same.isIdentifier, by rw [same.lexeme]⟩

theorem moves_passSymbol (symbol : Char) (complaint : String → Complaint)
    (fixed : ∀ k found, (complaint found).shift k = complaint found) (c : Cursor) :
    Moves (fun c => c.passSymbol symbol (complaint c.lexeme)) c := by
  apply moves_pass (fun c => c.symbol? == some symbol) (fun c => complaint c.lexeme)
    (fun k => fixed k c.lexeme)
  · intro found
    exact exists_token_of_symbol? (eq_of_beq found)
  · intro k c' same
    exact ⟨by rw [same.symbol?], by rw [same.lexeme]⟩

theorem settles_skipSymbol (symbol : Char) (c : Cursor) :
    c.Settles (c.skipSymbol symbol) fun _ c' d' => c'.skipSymbol symbol = d' := by
  by_cases found : c.symbol? = some symbol
  · rcases exists_token_of_symbol? found with ⟨t, next⟩
    rw [skipSymbol, if_pos found]
    apply (Settles.next next).imp
    intro k c' d' same
    rcases same with ⟨same, rfl⟩
    rw [skipSymbol, same.symbol?, if_pos found]
  · rw [skipSymbol, if_neg found]
    apply Settles.here
    intro k c' same
    rw [skipSymbol, same.symbol?, if_neg found]

theorem settles_skipLexeme (word : String) (filled : word ≠ "") (c : Cursor) :
    c.Settles (c.skipLexeme word) fun _ c' d' => c'.skipLexeme word = d' := by
  by_cases found : c.lexeme = word
  · rcases exists_token_of_lexeme found filled with ⟨t, next⟩
    rw [skipLexeme, if_pos found]
    apply (Settles.next next).imp
    intro k c' d' same
    rcases same with ⟨same, rfl⟩
    rw [skipLexeme, same.lexeme, if_pos found]
  · rw [skipLexeme, if_neg found]
    apply Settles.here
    intro k c' same
    rw [skipLexeme, same.lexeme, if_neg found]

end Readers

end Cursor
end ContractLang
