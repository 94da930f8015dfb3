import ContractLang.Proofs.Declaration.ContractLookahead

namespace ContractLang

open Cursor

theorem take_eq_of_agree {α : Type} {tokens other span rest : List α}
    (split : tokens = span ++ rest) (agree : ∀ i < span.length, other[i]? = tokens[i]?) :
    other.take span.length = span := by
  apply List.ext_getElem?
  intro i
  by_cases inside : i < span.length
  · rw [List.getElem?_take_of_lt inside, agree i inside, split, List.getElem?_append_left inside]
  · rw [List.getElem?_eq_none (by simp; omega), List.getElem?_eq_none (by omega)]

/-- What is settled at a cursor holds of every list that has the same tokens up to the next one. -/
theorem Cursor.Settles.of_agree {tokens other : List Token} {d : Cursor}
    {holds : Nat → Cursor → Cursor → Prop} (settled : (start tokens).Settles d holds)
    (agree : ∀ i ≤ d.position, other[i]? = tokens[i]?) : ∃ d', holds 0 (start other) d' := by
  rcases settled with ⟨span, pass, holds⟩
  have split : tokens = span ++ d.ahead := pass.1
  have position : d.position = span.length := pass.2.trans (Nat.zero_add _)
  rw [position] at agree
  have shared := take_eq_of_agree split fun i inside => agree i (Nat.le_of_lt inside)
  have otherSplit : other = span ++ other.drop span.length := by
    calc
      other = other.take span.length ++ other.drop span.length := (List.take_append_drop ..).symm
      _ = span ++ other.drop span.length := by rw [shared]
  have head : (other.drop span.length).head? = d.ahead.head? := by
    rw [List.head?_drop, agree span.length (Nat.le_refl _), split,
      List.getElem?_append_right (Nat.le_refl _), Nat.sub_self, List.head?_eq_getElem?]
  exact ⟨⟨d.position, other.drop span.length⟩, holds 0 _ _ ⟨otherSplit, pass.2⟩ ⟨rfl, head⟩⟩

/-- The tokens up to the one that an error names settle the error and all that has been built
    before it: no text after them changes the report. That brackets are unclosed is an error of the
    end of the tokens, and so is left out. -/
theorem readContracts_eq_of_agree {settings : Settings} {tokens other : List Token}
    {e : SyntaxError} (failed : (readContracts settings (.start tokens)).outcome = .error e)
    (closed : ∀ opener, e.complaint ≠ .unclosed opener)
    (agree : ∀ i : Nat, (i : Int) ≤ e.place.position → other[i]? = tokens[i]?) :
    readContracts settings (.start other) = readContracts settings (.start tokens) := by
  rcases reads_readContracts settings (.start tokens) with
    ⟨@⟨built, trace, e', d, stands, settled⟩⟩ | ⟨built, trace, settled⟩
  · have ran := settled.self
    rw [e'.shift_zero] at ran
    have same : e' = e := by
      rw [ran] at failed
      cases failed
      rfl
    subst same
    have place : e'.place = d.place := by
      rcases stands with place | ⟨⟨opener, unclosed⟩, _⟩
      · exact place
      · exact absurd unclosed (closed opener)
    have before : ∀ i ≤ d.position, other[i]? = tokens[i]? := by
      intro i inside
      apply agree
      rw [place]
      exact Int.ofNat_le.mpr inside
    rcases settled.of_agree before with ⟨d', otherRan⟩
    simp only [e'.shift_zero] at otherRan
    exact otherRan.trans ran.symm
  · rw [settled.self] at failed
    cases failed

/-- A number in the place of a name is reported; what comes after it does not count. -/
theorem readContracts_eq_of_number_name :
    (readContracts .standard
        (.start (tokenize "contract Aa : Bb { int 5; };".toList))).outcome
      = .error ⟨.memberName, ⟨6, some ⟨.number, "5", 1, 24⟩⟩⟩ ∧
    readContracts .standard (.start (tokenize "contract Aa : Bb { int 5 < Cc }".toList))
      = readContracts .standard (.start (tokenize "contract Aa : Bb { int 5; };".toList)) := by
  have failed : (readContracts .standard
        (.start (tokenize "contract Aa : Bb { int 5; };".toList))).outcome
      = .error ⟨.memberName, ⟨6, some ⟨.number, "5", 1, 24⟩⟩⟩ := by decide +kernel
  have agree : ∀ i < 7, (tokenize "contract Aa : Bb { int 5 < Cc }".toList)[i]?
      = (tokenize "contract Aa : Bb { int 5; };".toList)[i]? := by decide +kernel
  refine ⟨failed, readContracts_eq_of_agree failed (fun opener same => by cases same) ?_⟩
  intro i inside
  apply agree
  simp only at inside
  omega

end ContractLang
