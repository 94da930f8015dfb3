import ContractLang.Declaration.Contract
import ContractLang.Failure
import ContractLang.Proofs.Text.Utf8
import ContractLang.Proofs.Token.Lines
import ContractLang.Proofs.Token.Slice

namespace ContractLang

open CharSet

namespace Text

/-- No return stands anywhere but before a newline. -/
def ReturnsBeforeNewlines (text : List Char) : Prop :=
  ∀ i, text[i]? = some '\r' → text[i + 1]? = some '\n'

theorem ReturnsBeforeNewlines.tail {c : Char} {text : List Char}
    (returns : ReturnsBeforeNewlines (c :: text)) : ReturnsBeforeNewlines text :=
  fun i found => returns (i + 1) found

instance (text : List Char) : Decidable (ReturnsBeforeNewlines text) :=
  decidable_of_iff (∀ i < text.length, text[i]? = some '\r' → text[i + 1]? = some '\n')
    ⟨fun inside i found => inside i (List.getElem?_eq_some_iff.mp found).1 found,
      fun returns i _ => returns i⟩

theorem unifyLineEnds_eq {text : List Char} (returns : ReturnsBeforeNewlines text) :
    unifyLineEnds text = dropReturnsBeforeNewline text := by
  fun_induction unifyLineEnds text with
  | case1 rest ih => rw [dropReturnsBeforeNewline, ih returns.tail.tail]
  | case2 rest alone ih =>
    rcases List.head?_eq_some_iff.mp (List.head?_eq_getElem?.trans (returns 0 rfl)) with
      ⟨after, rfl⟩
    exact absurd rfl (alone after)
  | case3 c rest noPair noReturn ih =>
    rw [dropReturnsBeforeNewline, ih returns.tail]
    exact noPair
  | case4 => rfl

end Text

/-- A quotation mark takes everything up to the next one. -/
theorem exists_string_mem_shapes {front back : List Char} (noQuote : '"' ∉ front)
    (closed : '"' ∈ back) :
    ∃ body, (Kind.string, String.ofList ('"' :: (front ++ (body ++ ['"']))))
      ∈ shapes ('"' :: (front ++ back)) := by
  rcases List.eq_append_cons_of_mem closed with ⟨body, after, rfl, noInner⟩
  have fills : unquoted.Fills (front ++ body) := by
    intro c member
    rw [contains_unquoted]
    rintro rfl
    rcases List.mem_append.mp member with inFront | inBody
    · exact noQuote inFront
    · exact noInner inBody
  have first : shapes ('"' :: (front ++ body ++ ['"']) ++ after) = _ := (Cut.string fills).shapes
  have split : '"' :: (front ++ (body ++ '"' :: after))
      = '"' :: (front ++ body ++ ['"']) ++ after := by simp
  rw [split, first]
  refine ⟨body, List.mem_append_left _ ?_⟩
  simp

/-- A quotation mark that has its partner only behind a return makes it part of a string. -/
theorem exists_string_over_return {text more : List Char}
    (lone : (Kind.other, "\"") ∈ shapes text) (closed : '"' ∈ more) :
    ∃ lexeme, (Kind.string, lexeme) ∈ shapes (text ++ (['\r', '\n'] ++ more))
      ∧ '\r' ∈ lexeme.toList := by
  induction text using shapes_induction with
  | nil => cases lone
  | cut kind? lexeme rest cut ih =>
    rw [List.append_assoc]
    by_cases quote : kind? = some .other ∧ lexeme = ['"']
    · rcases quote with ⟨rfl, rfl⟩
      have noQuote : '"' ∉ rest ++ ['\r', '\n'] := by simpa using cut.noQuote rfl
      rcases exists_string_mem_shapes noQuote closed with ⟨body, member⟩
      rw [List.append_assoc] at member
      exact ⟨_, member, by simp⟩
    · have mark : kind? = some .other → lexeme = ['"'] → '"' ∉ more := fun other spelled =>
        absurd ⟨other, spelled⟩ quote
      have longer := cut.tokensAfter_lineEnd .returned mark []
      rw [cut.shapes, List.mem_append] at lone
      rcases lone with here | later
      · cases kind? with
        | none => cases here
        | some kind =>
          rcases Prod.mk.inj (List.mem_singleton.mp here) with ⟨rfl, spelled⟩
          have single : lexeme = ['"'] := by
            rw [← String.toList_ofList (l := lexeme), ← spelled]
            rfl
          exact absurd ⟨rfl, single⟩ quote
      · rcases ih later with ⟨string, member, inside⟩
        refine ⟨string, ?_, inside⟩
        rw [← shapes_tokensAfter [], longer, List.map_append, shapes_tokensAfter]
        exact List.mem_append_right _ member

/-- A return before a newline may be left out unless it stands in a string. -/
theorem tokenize_returned {text more : List Char}
    (strings : ∀ lexeme, (Kind.string, lexeme) ∈ shapes (text ++ (['\r', '\n'] ++ more)) →
      '\r' ∉ lexeme.toList) :
    tokenize (text ++ (['\r', '\n'] ++ more)) = tokenize (text ++ (['\n'] ++ more)) := by
  have quotes : (Kind.other, "\"") ∈ shapes text → '"' ∉ more := by
    intro lone closed
    rcases exists_string_over_return lone closed with ⟨lexeme, member, inside⟩
    exact strings lexeme member inside
  rw [tokenize_eq_tokensAfter, tokenize_eq_tokensAfter,
    tokensAfter_append_lineEnd .returned quotes, tokensAfter_append_lineEnd .newline quotes]

theorem tokenize_dropReturns {text more : List Char}
    (strings : ∀ lexeme, (Kind.string, lexeme) ∈ shapes (text ++ more) → '\r' ∉ lexeme.toList) :
    tokenize (text ++ Text.dropReturnsBeforeNewline more) = tokenize (text ++ more) := by
  fun_induction Text.dropReturnsBeforeNewline more generalizing text with
  | case1 rest ih =>
    have same : tokenize (text ++ '\r' :: '\n' :: rest) = tokenize (text ++ '\n' :: rest) :=
      tokenize_returned strings
    have shape : shapes (text ++ '\r' :: '\n' :: rest) = shapes (text ++ '\n' :: rest) :=
      congrArg (List.map Token.shape) same
    rw [shape, List.append_cons] at strings
    rw [List.append_cons, ih strings, ← List.append_cons]
    exact same.symm
  | case2 c rest noPair ih =>
    rw [List.append_cons] at strings
    rw [List.append_cons, ih strings, ← List.append_cons]
  | case3 => rfl

/-- It does not matter whether the lines of a source end in a newline or in a return and a newline,
    as long as no string holds a return. A file that holds the source gives the same contracts, or
    the same error, as the source itself. -/
theorem tokenize_dropReturnsBeforeNewline (source : List Char)
    (returns : Text.ReturnsBeforeNewlines source)
    (strings : ∀ t ∈ tokenize source, t.kind = .string → '\r' ∉ t.lexeme.toList) :
    tokenize (Text.dropReturnsBeforeNewline source) = tokenize source ∧
    ∀ settings, (sourceText (.ok (Text.Utf8.encode source))).map (readSource settings)
      = .ok (readSource settings source) := by
  have same : tokenize (Text.dropReturnsBeforeNewline source) = tokenize source := by
    have noReturn : ∀ lexeme, (Kind.string, lexeme) ∈ shapes ([] ++ source) →
        '\r' ∉ lexeme.toList := by
      intro lexeme member
      rcases List.mem_map.mp member with ⟨t, inside, shape⟩
      rcases Prod.mk.inj shape with ⟨kind, rfl⟩
      exact strings t inside kind
    exact tokenize_dropReturns noReturn
  refine ⟨same, fun settings => ?_⟩
  have read : sourceText (.ok (Text.Utf8.encode source))
      = .ok (Text.dropReturnsBeforeNewline source) := by
    rw [sourceText, Text.Utf8.decode_encode, ← Text.unifyLineEnds_eq returns]
  rw [read, Except.map, readSource, same, readSource]

theorem tokenize_dropReturnsBeforeNewline_of_comment :
    Text.ReturnsBeforeNewlines "ab \"c\" // d\r\n\r\n  7 \"\r\n".toList ∧
    (∀ t ∈ tokenize "ab \"c\" // d\r\n\r\n  7 \"\r\n".toList,
      t.kind = .string → '\r' ∉ t.lexeme.toList) ∧
    tokenize (Text.dropReturnsBeforeNewline "ab \"c\" // d\r\n\r\n  7 \"\r\n".toList)
      = tokenize "ab \"c\" // d\r\n\r\n  7 \"\r\n".toList ∧
    ∀ settings, (sourceText (.ok (Text.Utf8.encode "ab \"c\" // d\r\n\r\n  7 \"\r\n".toList))).map
        (readSource settings)
      = .ok (readSource settings "ab \"c\" // d\r\n\r\n  7 \"\r\n".toList) := by
  have returns : Text.ReturnsBeforeNewlines "ab \"c\" // d\r\n\r\n  7 \"\r\n".toList := by
    decide +kernel
  have strings : ∀ t ∈ tokenize "ab \"c\" // d\r\n\r\n  7 \"\r\n".toList,
      t.kind = .string → '\r' ∉ t.lexeme.toList := by decide +kernel
  exact ⟨returns, strings, tokenize_dropReturnsBeforeNewline _ returns strings⟩

/-- A string keeps the return that reading a file takes away. -/
example : tokenize (Text.dropReturnsBeforeNewline "\"\r\n\"".toList)
    ≠ tokenize "\"\r\n\"".toList := by decide +kernel

end ContractLang
