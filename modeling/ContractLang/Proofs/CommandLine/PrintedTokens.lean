import ContractLang.Proofs.CommandLine.ParseRun
import ContractLang.Proofs.Token.Listing

namespace ContractLang.CommandLine

theorem lines_cons_ne_nil (text : String) (texts : List String) :
    lines (text :: texts) ≠ lines [] := by
  intro same
  rw [lines_cons] at same
  have letters := congrArg String.toList same
  simp [lines] at letters

/-- Each line is read off the front of the text. The number at its start tells nothing, since it is
    the same in both texts. -/
theorem lines_listTokensFrom_eq_iff {tokens others : List Token} (cuts : ∀ t ∈ tokens, t.IsCut)
    (otherCuts : ∀ u ∈ others, u.IsCut) (start : Nat) :
    lines (listTokensFrom start tokens) = lines (listTokensFrom start others)
      ↔ tokens.map Token.shape = others.map Token.shape := by
  induction tokens generalizing others start with
  | nil =>
    cases others with
    | nil => exact iff_of_true rfl rfl
    | cons u others =>
      rw [listTokensFrom_cons]
      exact iff_of_false (lines_cons_ne_nil _ _).symm (List.cons_ne_nil _ _).symm
  | cons t tokens ih =>
    cases others with
    | nil =>
      rw [listTokensFrom_cons]
      exact iff_of_false (lines_cons_ne_nil _ _) (List.cons_ne_nil _ _)
    | cons u others =>
      rcases List.forall_mem_cons.mp cuts with ⟨cut, cuts⟩
      rcases List.forall_mem_cons.mp otherCuts with ⟨otherCut, otherCuts⟩
      rw [List.map_cons, List.map_cons, List.cons.injEq, ← ih cuts otherCuts (start + 1),
        listTokensFrom_cons, listTokensFrom_cons, lines_cons, lines_cons]
      simp only [String.append_assoc, String.append_right_inj]
      rw [Token.listing_append_inj cut otherCut, String.append_right_inj]

theorem lines_listTokens_eq_iff (source source' : List Char) :
    lines (listTokens (tokenize source)) = lines (listTokens (tokenize source'))
      ↔ (tokenize source).map Token.shape = (tokenize source').map Token.shape :=
  lines_listTokensFrom_eq_iff (fun _ => tokenize_cut) (fun _ => tokenize_cut) 0

theorem out_tokens {contents : Contents} {file : String} {source : List Char}
    (decoded : sourceText (contents (.ofString file)) = .ok source) :
    (tokens contents file).out = lines (listTokens (tokenize source)) := by
  simp only [tokens, decoded]
  rfl

/-- What `tokens` prints tells the kinds and the lexemes of all tokens, and nothing but these. No
    lexeme can be mistaken for other lines, though it stands there as it is, with its quotes and
    its newlines. -/
theorem printed_tokens_eq_iff :
    (∀ source source' : List Char,
      lines (listTokens (tokenize source)) = lines (listTokens (tokenize source'))
        ↔ (tokenize source).map Token.shape = (tokenize source').map Token.shape)
    ∧ ∀ (contents contents' : Contents) (file file' : String) (source source' : List Char),
      sourceText (contents (.ofString file)) = .ok source →
      sourceText (contents' (.ofString file')) = .ok source' →
      ((tokens contents file).out = (tokens contents' file').out
        ↔ (tokenize source).map Token.shape = (tokenize source').map Token.shape) := by
  refine ⟨lines_listTokens_eq_iff, ?_⟩
  intro contents contents' file file' source source' decoded decoded'
  rw [out_tokens decoded, out_tokens decoded', lines_listTokens_eq_iff]

/-- A string that looks like the end of its line and the start of the next one. -/
theorem printed_tokens_of_imitation :
    let imitation := "\"aa\n1: Other : \" ;".toList
    let layout := "\"aa\n1: Other : \"; // end".toList
    let contents (source : List Char) : Contents := fun _ => .ok (Text.Utf8.encode source)
    sourceText (contents imitation (.ofString "")) = .ok imitation ∧
    sourceText (contents layout (.ofString "")) = .ok layout ∧
    (tokens (contents imitation) "").out = "0: String : \"\"aa\n1: Other : \"\"\n1: Other : \";\"\n" ∧
    (tokens (contents layout) "").out = (tokens (contents imitation) "").out := by
  intro imitation layout contents
  have first : sourceText (contents imitation (.ofString "")) = .ok imitation := by decide +kernel
  have second : sourceText (contents layout (.ofString "")) = .ok layout := by decide +kernel
  have same : (tokenize layout).map Token.shape = (tokenize imitation).map Token.shape := by
    decide +kernel
  exact ⟨first, second, by decide +kernel,
    (printed_tokens_eq_iff.2 _ _ _ _ _ _ second first).mpr same⟩

end ContractLang.CommandLine
