import ContractLang.Cursor

namespace ContractLang

namespace Cursor

/-- Reading on from `c` to `d` passes exactly these tokens. -/
def Passes (c : Cursor) (span : List Token) (d : Cursor) : Prop :=
  c.ahead = span ++ d.ahead ∧ d.position = c.position + span.length

theorem Passes.refl (c : Cursor) : c.Passes [] c := ⟨rfl, rfl⟩

theorem Passes.trans {c d e : Cursor} {first second : List Token} (left : c.Passes first d)
    (right : d.Passes second e) : c.Passes (first ++ second) e := by
  refine ⟨?_, ?_⟩
  · rw [left.1, right.1, List.append_assoc]
  · rw [right.2, left.2, List.length_append, Nat.add_assoc]

theorem Passes.split {c e : Cursor} {first second : List Token}
    (whole : c.Passes (first ++ second) e) : ∃ d, c.Passes first d ∧ d.Passes second e := by
  refine ⟨⟨c.position + first.length, second ++ e.ahead⟩, ⟨?_, rfl⟩, rfl, ?_⟩
  · rw [whole.1, List.append_assoc]
  · rw [whole.2, List.length_append, Nat.add_assoc]

theorem Passes.uncons {c e : Cursor} {t : Token} {span : List Token}
    (whole : c.Passes (t :: span) e) : ∃ d, c.Passes [t] d ∧ d.Passes span e :=
  Passes.split whole

theorem Passes.eq {c d e : Cursor} {span : List Token} (first : c.Passes span d)
    (second : c.Passes span e) : d = e := by
  have ahead : d.ahead = e.ahead := List.append_cancel_left (first.1.symm.trans second.1)
  have position : d.position = e.position := first.2.trans second.2.symm
  cases d
  cases e
  simp_all

theorem Passes.eq_of_position {c d e : Cursor} {first second : List Token}
    (left : c.Passes first d) (right : c.Passes second e) (same : e.position = d.position) :
    second = first ∧ e = d := by
  have length : first.length = second.length := by
    have leftMoved := left.2
    have rightMoved := right.2
    omega
  have span := (List.append_inj (left.1.symm.trans right.1) length).1.symm
  subst span
  exact ⟨rfl, right.eq left⟩

theorem Passes.next {c d : Cursor} {t : Token} (pass : c.Passes [t] d) : d = c.next := by
  have move : c.Passes [t] c.next := by
    refine ⟨?_, rfl⟩
    simp [Cursor.next, advance, pass.1]
  exact pass.eq move

theorem Passes.upTo {c d : Cursor} {span : List Token} (pass : c.Passes span d) :
    c.upTo d = span := by
  have count : d.position - c.position = span.length := by
    have := pass.2
    omega
  rw [Cursor.upTo, count, pass.1, List.take_left]

theorem Passes.token? {c d : Cursor} {t : Token} {span : List Token}
    (pass : c.Passes (t :: span) d) : c.place.token? = some t := by
  simp [place, pass.1]

theorem Passes.symbol? {c d : Cursor} {t : Token} {span : List Token}
    (pass : c.Passes (t :: span) d) : c.symbol? = t.symbol? := by
  simp [Cursor.symbol?, Place.symbol?, pass.token?]

theorem Passes.lexeme {c d : Cursor} {t : Token} {span : List Token}
    (pass : c.Passes (t :: span) d) : c.lexeme = t.lexeme := by
  simp [Cursor.lexeme, Place.lexeme, pass.token?]

theorem Passes.isKind {c d : Cursor} {t : Token} {span : List Token} (kind : Kind)
    (pass : c.Passes (t :: span) d) : c.place.isKind kind = (t.kind == kind) := by
  simp [Place.isKind, pass.token?]

theorem passes_start (tokens : List Token) :
    (start tokens).Passes tokens ⟨tokens.length, []⟩ := by
  refine ⟨(List.append_nil _).symm, ?_⟩
  exact (Nat.zero_add _).symm

theorem passes_ofPosition {tokens : List Token} {start stop : Nat} (forward : start ≤ stop)
    (inside : stop ≤ tokens.length) :
    (ofPosition tokens start).Passes ((tokens.take stop).drop start) (ofPosition tokens stop) := by
  refine ⟨?_, ?_⟩
  · have split := congrArg (List.drop start) (List.take_append_drop stop tokens)
    rw [List.drop_append_of_le_length (by rw [List.length_take]; omega)] at split
    exact split.symm
  · simp only [ofPosition, List.length_drop, List.length_take]
    omega

theorem passes_ofPosition_iff {tokens span : List Token} {start : Nat} {d : Cursor}
    (inside : start ≤ tokens.length) :
    (ofPosition tokens start).Passes span d ↔ ∃ stop, start ≤ stop ∧ stop ≤ tokens.length ∧
      span = (tokens.take stop).drop start ∧ d = ofPosition tokens stop := by
  constructor
  · intro pass
    have length := congrArg List.length pass.1
    have moved := pass.2
    simp only [ofPosition, List.length_drop, List.length_append] at length moved
    have forward : start ≤ d.position := by omega
    have within : d.position ≤ tokens.length := by omega
    exact ⟨d.position, forward, within,
      (passes_ofPosition forward within).eq_of_position pass rfl⟩
  · rintro ⟨stop, forward, within, rfl, rfl⟩
    exact passes_ofPosition forward within

theorem place_ofPosition (tokens : List Token) (position : Nat) :
    (ofPosition tokens position).place = placeAt tokens position := by
  have visible : ¬ ((position : Int) < 0) := Int.not_lt.mpr (Int.natCast_nonneg _)
  rw [place, placeAt, if_neg visible, ofPosition, List.head?_drop, Int.toNat_natCast]

theorem passes_next {c : Cursor} {t : Token} (found : c.place.token? = some t) :
    c.Passes [t] c.next := by
  rcases c with ⟨position, ahead⟩
  cases ahead with
  | nil => cases found
  | cons u rest => cases found; exact ⟨rfl, rfl⟩

theorem passes_of_symbol? {c : Cursor} {symbol : Char} (found : c.symbol? = some symbol) :
    ∃ t, c.Passes [t] c.next ∧ t.symbol? = some symbol := by
  rcases Option.bind_eq_some_iff.mp found with ⟨t, place, same⟩
  exact ⟨t, passes_next place, same⟩

theorem lt_length_of_symbol? {tokens : List Token} {position : Nat} {symbol : Char}
    (found : (ofPosition tokens position).symbol? = some symbol) : position < tokens.length := by
  rcases passes_of_symbol? found with ⟨t, pass, _⟩
  have size := congrArg List.length pass.1
  simp only [ofPosition, List.length_drop, List.length_append, List.length_singleton] at size
  omega

theorem passIdentifier_of_isIdentifier {c : Cursor} (identifier : c.isIdentifier = true)
    (complaint : Complaint) : c.passIdentifier complaint = .ok c.next :=
  (pass_eq_ok _ _ _ _).mpr ⟨identifier, rfl⟩

theorem passIdentifier_of_not {c : Cursor} (other : c.isIdentifier = false)
    (complaint : Complaint) : c.passIdentifier complaint = .error ⟨complaint, c.place⟩ := by
  rw [passIdentifier, other]
  rfl

theorem passSymbol_of_symbol? {c : Cursor} {symbol : Char} (found : c.symbol? = some symbol)
    (complaint : Complaint) : c.passSymbol symbol complaint = .ok c.next :=
  (pass_eq_ok _ _ _ _).mpr ⟨beq_iff_eq.mpr found, rfl⟩

theorem passSymbol_of_not {c : Cursor} {symbol : Char} (other : c.symbol? ≠ some symbol)
    (complaint : Complaint) :
    c.passSymbol symbol complaint = .error ⟨complaint, c.place⟩ := by
  rw [passSymbol, beq_false_of_ne other]
  rfl

theorem passIdentifier_eq_ok (c d : Cursor) (complaint : Complaint) :
    c.passIdentifier complaint = .ok d ↔ ∃ t, t.kind = .identifier ∧ c.Passes [t] d := by
  rw [passIdentifier, pass_eq_ok]
  constructor
  · intro h
    rcases h with ⟨found, rfl⟩
    rw [isIdentifier, Place.isKind] at found
    cases place : c.place.token? with
    | none => rw [place] at found; cases found
    | some t =>
      rw [place] at found
      exact ⟨t, by simpa using found, passes_next place⟩
  · intro h
    rcases h with ⟨t, kind, pass⟩
    refine ⟨?_, pass.next⟩
    rw [isIdentifier, pass.isKind, kind]
    rfl

theorem passSymbol_eq_ok (c d : Cursor) (symbol : Char) (complaint : Complaint) :
    c.passSymbol symbol complaint = .ok d ↔ ∃ t, t.symbol? = some symbol ∧ c.Passes [t] d := by
  rw [passSymbol, pass_eq_ok]
  constructor
  · intro h
    rcases h with ⟨found, rfl⟩
    rcases passes_of_symbol? (eq_of_beq found) with ⟨t, pass, same⟩
    exact ⟨t, same, pass⟩
  · intro h
    rcases h with ⟨t, same, pass⟩
    refine ⟨?_, pass.next⟩
    rw [pass.symbol?, same]
    exact beq_self_eq_true _

theorem Passes.passIdentifier {c d : Cursor} {t : Token} (pass : c.Passes [t] d)
    (identifier : t.kind = .identifier) (complaint : Complaint) :
    c.passIdentifier complaint = .ok d :=
  (passIdentifier_eq_ok c d complaint).mpr ⟨t, identifier, pass⟩

theorem Passes.passSymbol {c d : Cursor} {t : Token} {symbol : Char} (pass : c.Passes [t] d)
    (found : t.symbol? = some symbol) (complaint : Complaint) :
    c.passSymbol symbol complaint = .ok d :=
  (passSymbol_eq_ok c d symbol complaint).mpr ⟨t, found, pass⟩

end Cursor
end ContractLang
