import ContractLang.Proofs.Declaration.Arrival
import ContractLang.Proofs.Token.SourcePlace

namespace ContractLang

open Cursor

theorem exists_place_of_arrives {tokens : List Token} {e : SyntaxError}
    (arrives : (start tokens).Arrives (.error e)) :
    ∃ n ≤ tokens.length, e.place = ⟨n, tokens[n]?⟩ := by
  cases arrives with
  | @refused span d _ pass place =>
    have split : tokens = span ++ d.ahead := pass.1
    have position : d.position = span.length := pass.2.trans (Nat.zero_add _)
    refine ⟨span.length, ?_, ?_⟩
    · rw [split, List.length_append]
      exact Nat.le_add_right ..
    · rw [place, Cursor.place, position, split, List.getElem?_append_right (Nat.le_refl _),
        Nat.sub_self, List.head?_eq_getElem?]

theorem SyntaxError.text_of_token {e : SyntaxError} {t : Token} (found : e.place.token? = some t) :
    e.text = "token " ++ toString e.place.position ++ " (L" ++ toString t.line ++ ":"
      ++ toString t.column ++ "): " ++ e.message := by
  simp only [text, found, String.append_assoc]
  rfl

/-- Every syntax error names a token of the source or the end of its tokens. The line and the column
    that its text shows are those at which the lexeme of the token is read. -/
theorem readSource_error_place {settings : Settings} {source : List Char} {e : SyntaxError}
    (failed : (readSource settings source).outcome = .error e) :
    ∃ n : Nat, e.place.position = n ∧ n ≤ (tokenize source).length ∧
      e.place.token? = (tokenize source)[n]? ∧
      (e.place.token? = none ↔ n = (tokenize source).length) ∧
      ∀ t, e.place.token? = some t →
        e.text = "token " ++ toString (n : Int) ++ " (L" ++ toString t.line ++ ":"
          ++ toString t.column ++ "): " ++ e.message ∧
        ReadsAt t.lexeme.toList source t.line t.column := by
  have arrives := arrives_readContracts settings (.start (tokenize source))
  rw [readSource] at failed
  rw [failed] at arrives
  obtain ⟨n, inside, place⟩ := exists_place_of_arrives arrives
  refine ⟨n, by rw [place], inside, by rw [place], ?_, ?_⟩
  · rw [place, List.getElem?_eq_none_iff]
    omega
  · intro t found
    have position : e.place.position = n := by rw [place]
    have member : t ∈ tokenize source := by
      rw [place] at found
      exact List.mem_of_getElem? found
    exact ⟨position ▸ e.text_of_token found, readsAt_of_mem_tokenize member⟩

/-- The string before the parenthesis that is reported ends on the third line. -/
theorem readSource_error_place_of_lines :
    (readSource .standard "contract Aa : Bb \x7b\n  int xx = \"a\nb\"); \x7d;".toList).outcome
      = .error ⟨.dataEnd, ⟨9, some ⟨.other, ")", 3, 3⟩⟩⟩ ∧
    ReadsAt [')'] "contract Aa : Bb \x7b\n  int xx = \"a\nb\"); \x7d;".toList 3 3 := by
  have failed : (readSource .standard
      "contract Aa : Bb \x7b\n  int xx = \"a\nb\"); \x7d;".toList).outcome
        = .error ⟨.dataEnd, ⟨9, some ⟨.other, ")", 3, 3⟩⟩⟩ := by decide +kernel
  obtain ⟨n, -, -, -, -, shown⟩ := readSource_error_place failed
  exact ⟨failed, (shown ⟨.other, ")", 3, 3⟩ rfl).2⟩

end ContractLang
