import Mathlib.Data.List.Induction
import ContractLang.Proofs.Token.Follow
import ContractLang.Proofs.Token.Shapes

namespace ContractLang

open CharSet

/-- In a source, this lexeme is read from a line and a column on, both counted from one: above it
    are complete lines, and to the left of it is the start of its own line. -/
inductive ReadsAt (lexeme : List Char) : List Char → Int → Int → Prop
  | mk {above : List (List Char)} {left after : List Char} (lines : ∀ line ∈ above, '\n' ∉ line)
      (inLine : '\n' ∉ left) (starts : ∃ c ∈ lexeme.head?, c ≠ '\n') :
      ReadsAt lexeme (above.flatMap (· ++ ['\n']) ++ left ++ lexeme ++ after)
        (above.length + 1) (left.length + 1)

/-- The position after a text counts its complete lines and the characters after them. -/
theorem Position.exists_lines (before : List Char) :
    ∃ above : List (List Char), ∃ left : List Char,
      before = above.flatMap (· ++ ['\n']) ++ left ∧ (∀ line ∈ above, '\n' ∉ line) ∧
      '\n' ∉ left ∧ Position.after before = ⟨above.length + 1, left.length + 1⟩ := by
  induction before using List.reverseRecOn with
  | nil => exact ⟨[], [], rfl, by simp, by simp, rfl⟩
  | append_singleton before c ih =>
    obtain ⟨above, left, split, lines, inLine, place⟩ := ih
    rw [Position.after_concat, place, Position.step]
    by_cases newline : c = '\n'
    -- A newline completes the line, whatever stands on it; the next one starts out empty.
    · refine ⟨above ++ [left], [], ?_, ?_, by simp, ?_⟩
      · simp [split, newline]
      · intro line member
        rcases List.mem_append.mp member with earlier | last
        · exact lines line earlier
        · rcases List.mem_singleton.mp last with rfl
          exact inLine
      · simp [newline]
    · refine ⟨above, left ++ [c], ?_, lines, ?_, ?_⟩
      · rw [split, List.append_assoc]
      · simp [inLine, Ne.symm newline]
      · simp [newline]

/-- A token stands where its lexeme was cut off. -/
theorem exists_cut_of_mem_tokensAfter {text : List Char} {t : Token} (before : List Char)
    (member : t ∈ tokensAfter before text) :
    ∃ passed lexeme rest, text = passed ++ lexeme ++ rest ∧ Cut (some t.kind) lexeme rest ∧
      t = t.kind.tokenAfter (before ++ passed) lexeme := by
  induction text using shapes_induction generalizing before with
  | nil => cases member
  | cut kind? first rest cut ih =>
    rw [cut.tokensAfter, List.mem_append] at member
    rcases member with here | later
    · cases kind? with
      | none => cases here
      | some kind =>
        rcases List.mem_singleton.mp here with rfl
        refine ⟨[], first, rest, rfl, cut, ?_⟩
        rw [List.append_nil]
        rfl
    · obtain ⟨passed, lexeme, behind, split, found, same⟩ := ih (before ++ first) later
      refine ⟨first ++ passed, lexeme, behind, ?_, found, ?_⟩
      · rw [split]
        simp only [List.append_assoc]
      · rw [← List.append_assoc]
        exact same

/-- The source shows the lexeme of a token at the line and the column of the token. -/
theorem readsAt_of_mem_tokenize {source : List Char} {t : Token} (member : t ∈ tokenize source) :
    ReadsAt t.lexeme.toList source t.line t.column := by
  obtain ⟨passed, lexeme, rest, split, cut, same⟩ := exists_cut_of_mem_tokensAfter [] member
  obtain ⟨above, left, before, lines, inLine, place⟩ := Position.exists_lines passed
  obtain ⟨c, more, spelled, visible, -⟩ := cut.starts
  have starts : ∃ c ∈ lexeme.head?, c ≠ '\n' := by
    refine ⟨c, by rw [spelled]; rfl, ?_⟩
    rintro rfl
    cases visible
  rw [same, Kind.tokenAfter, List.nil_append, place, String.toList_ofList, split, before]
  exact .mk lines inLine starts

end ContractLang
