import ContractLang.Proofs.Token.Placed

namespace ContractLang

open CharSet

def shapes (text : List Char) : List (Kind × String) := (tokenize text).map Token.shape

theorem shapes_tokensAfter (before text : List Char) :
    (tokensAfter before text).map Token.shape = shapes text := by
  rw [tokensAfter, RuleTable.shapes_tokensFrom _ _ .start, List.drop_zero]
  rfl

theorem exists_cut_of_digit {c : Char} {text : List Char} (starts : digit.contains c = true) :
    ∃ lexeme rest, c :: text = lexeme ++ rest ∧ Cut (some .number) lexeme rest := by
  rcases digit.exists_run text with ⟨run, rest, rfl, fills, stops⟩
  have runFills := (fills_cons _ _ _).mpr ⟨starts, fills⟩
  have runFilled : c :: run ≠ [] := List.cons_ne_nil _ _
  by_cases isFraction : ∃ d after, rest = '.' :: d :: after ∧ digit.contains d = true
  · rcases isFraction with ⟨d, after, rfl, inside⟩
    rcases digit.exists_run after with ⟨places, last, rfl, placesFill, placesStop⟩
    refine ⟨c :: run ++ '.' :: d :: places, last, by simp, ?_⟩
    exact .fraction runFills runFilled ((fills_cons _ _ _).mpr ⟨inside, placesFill⟩)
      (List.cons_ne_nil _ _) placesStop
  · refine ⟨c :: run, rest, rfl, .integer runFills runFilled stops ?_⟩
    rintro after rfl d head
    rcases List.head?_eq_some_iff.mp head with ⟨others, rfl⟩
    rw [← Bool.not_eq_true]
    exact fun inside => isFraction ⟨d, others, rfl, inside⟩

theorem exists_cut_of_quote {text : List Char} (closed : '"' ∈ text) :
    ∃ lexeme rest, '"' :: text = lexeme ++ rest ∧ Cut (some .string) lexeme rest := by
  rcases unquoted.exists_run text with ⟨body, rest, rfl, fills, stops⟩
  cases rest with
  | nil =>
    rw [List.append_nil] at closed
    exact absurd rfl ((contains_unquoted _).mp (fills _ closed))
  | cons quote rest =>
    have outside := (stops_cons _ _ _).mp stops
    have isQuote : quote = '"' := by
      by_cases same : quote = '"'
      · exact same
      · rw [(contains_unquoted quote).mpr same] at outside
        cases outside
    exact ⟨'"' :: (body ++ ['"']), rest, by simp [isQuote], .string fills⟩

theorem exists_cut (c : Char) (text : List Char) :
    ∃ kind? lexeme rest, c :: text = lexeme ++ rest ∧ Cut kind? lexeme rest := by
  by_cases isBlank : blank.contains c = true
  · rcases blank.exists_run text with ⟨run, rest, rfl, fills, stops⟩
    have filled := (fills_cons _ _ _).mpr ⟨isBlank, fills⟩
    exact ⟨none, c :: run, rest, rfl, .blanks filled (List.cons_ne_nil _ _) stops⟩
  by_cases isDigit : digit.contains c = true
  · exact ⟨some .number, exists_cut_of_digit isDigit⟩
  by_cases isIdentifier : letter.contains c = true ∧ ¬ wordPart.Stops text
  · rcases isIdentifier with ⟨starts, goesOn⟩
    rcases wordPart.exists_run text with ⟨run, rest, rfl, fills, stops⟩
    have filled : run ≠ [] := by
      intro same
      subst same
      exact goesOn stops
    exact ⟨some .identifier, c :: run, rest, rfl, .identifier starts fills filled stops⟩
  by_cases isComment : c = '/' ∧ text.head? = some '/'
  · rcases isComment with ⟨rfl, slash⟩
    rcases List.head?_eq_some_iff.mp slash with ⟨others, rfl⟩
    rcases anyOnLine.exists_run others with ⟨body, rest, rfl, fills, stops⟩
    exact ⟨none, '/' :: '/' :: body, rest, rfl, .comment fills stops⟩
  by_cases isScope : c = ':' ∧ text.head? = some ':'
  · rcases isScope with ⟨rfl, colon⟩
    rcases List.head?_eq_some_iff.mp colon with ⟨others, rfl⟩
    exact ⟨some .other, [':', ':'], others, rfl, .scope⟩
  by_cases isString : c = '"' ∧ '"' ∈ text
  · rcases isString with ⟨rfl, closed⟩
    exact ⟨some .string, exists_cut_of_quote closed⟩
  -- What is left is a symbol, and the cases above are exactly what it must not be taken for.
  refine ⟨some .other, [c], text, rfl, ?_⟩
  apply Cut.symbol (Bool.not_eq_true _ ▸ isBlank) (Bool.not_eq_true _ ▸ isDigit)
  · exact fun starts => Classical.byContradiction fun goesOn => isIdentifier ⟨starts, goesOn⟩
  · exact fun slash head => isComment ⟨slash, head⟩
  · exact fun colon head => isScope ⟨colon, head⟩
  · exact fun quote closed => isString ⟨quote, closed⟩

theorem Cut.shapes {kind? : Option Kind} {lexeme rest : List Char} (cut : Cut kind? lexeme rest) :
    ContractLang.shapes (lexeme ++ rest)
      = kind?.toList.map (·, String.ofList lexeme) ++ ContractLang.shapes rest := by
  rw [← shapes_tokensAfter [], cut.tokensAfter, List.map_append, shapes_tokensAfter]
  cases kind? <;> rfl

theorem shapes_blank {c : Char} (isBlank : blank.contains c = true) (text : List Char) :
    shapes (c :: text) = shapes text := by
  rw [← shapes_tokensAfter [], tokensAfter_blank isBlank, shapes_tokensAfter]

theorem Cut.alone {kind? : Option Kind} {lexeme rest : List Char} (cut : Cut kind? lexeme rest) :
    Cut kind? lexeme [] := by
  cases cut with
  | blanks fills filled => exact .blanks fills filled (.nil _)
  | comment fills => exact .comment fills (.nil _)
  | identifier starts fills filled => exact .identifier starts fills filled (.nil _)
  | integer fills filled => exact .integer fills filled (.nil _) fun after point => by cases point
  | fraction fills filled placesFill placesFilled =>
    exact .fraction fills filled placesFill placesFilled (.nil _)
  | string fills => exact .string fills
  | scope => exact .scope
  | symbol visible noDigit =>
    exact .symbol visible noDigit (fun _ => .nil _) (fun _ head => by cases head)
      (fun _ head => by cases head) (fun _ => List.not_mem_nil)

theorem head?_append_cons_ne {rest more : List Char} {c d : Char} (other : rest.head? ≠ some d)
    (noSame : c ≠ d) : (rest ++ c :: more).head? ≠ some d := by
  cases rest with
  | nil => exact fun same => noSame (Option.some.inj same)
  | cons e rest => exact other

/-- A blank and whatever follows it may be put behind a text without a change to the token that it
    starts with, unless that is a quotation mark for which this would be the end of a string. -/
theorem Cut.append_blank {kind : Kind} {lexeme rest more : List Char} {c : Char}
    (cut : Cut (some kind) lexeme rest) (isBlank : blank.contains c = true)
    (quotes : kind = .other → lexeme = ['"'] → '"' ∉ more) :
    Cut (some kind) lexeme (rest ++ c :: more) := by
  have noLetter := outside_right (disjoint_blank_letter c) isBlank
  have noDigit := outside_right (disjoint_blank_digit c) isBlank
  have noWord : wordPart.contains c = false := by
    rw [← Bool.not_eq_true, contains_wordPart, noLetter, noDigit]
    simp
  cases cut with
  | identifier starts fills filled stops =>
    exact .identifier starts fills filled (stops.append_cons noWord)
  | integer fills filled stops whole =>
    refine .integer fills filled (stops.append_cons noDigit) fun after point => ?_
    cases rest with
    | nil => exact absurd (List.cons.inj point).1 (ne_of_contains isBlank (by decide))
    | cons d rest =>
      cases point
      exact (whole rest rfl).append_cons noDigit
  | fraction fills filled placesFill placesFilled stops =>
    exact .fraction fills filled placesFill placesFilled (stops.append_cons noDigit)
  | string fills => exact .string fills
  | scope => exact .scope
  | symbol visible digit word noComment noScope noString =>
    refine .symbol visible digit (fun starts => (word starts).append_cons noWord)
      (fun slash => head?_append_cons_ne (noComment slash) (ne_of_contains isBlank (by decide)))
      (fun colon => head?_append_cons_ne (noScope colon) (ne_of_contains isBlank (by decide))) ?_
    rintro rfl member
    rcases List.mem_append.mp member with inRest | inMore
    · exact noString rfl inRest
    · rcases List.mem_cons.mp inMore with same | inMore
      · exact ne_of_contains isBlank (by decide) same.symm
      · exact quotes rfl rfl inMore

theorem shapes_induction {motive : List Char → Prop} (nil : motive [])
    (cut : ∀ kind? lexeme rest, Cut kind? lexeme rest → motive rest → motive (lexeme ++ rest))
    (text : List Char) : motive text := by
  induction size : text.length using Nat.strongRecOn generalizing text with
  | ind n shorter =>
    cases text with
    | nil => exact nil
    | cons c others =>
      rcases exists_cut c others with ⟨kind?, lexeme, rest, split, first⟩
      have filled := List.length_pos_iff.mpr first.ne_nil
      have less : rest.length < n := by
        rw [← size, split, List.length_append]
        omega
      rw [split]
      exact cut kind? lexeme rest first (shorter rest.length less rest rfl)

theorem exists_cut_of_mem_shapes {text : List Char} {kind : Kind} {lexeme : String}
    (member : (kind, lexeme) ∈ shapes text) : Cut (some kind) lexeme.toList [] := by
  induction text using shapes_induction with
  | nil => cases member
  | cut kind? first rest cut ih =>
    rw [cut.shapes, List.mem_append] at member
    rcases member with member | member
    · cases kind? with
      | none => cases member
      | some own =>
        simp only [Option.toList_some, List.map_cons, List.map_nil, List.mem_singleton,
          Prod.mk.injEq] at member
        rcases member with ⟨rfl, rfl⟩
        rw [String.toList_ofList]
        exact cut.alone
    · exact ih member

theorem Cut.fits {t : Token} (cut : Cut (some t.kind) t.lexeme.toList []) : t.Fits := by
  rcases cut.isLongest with ⟨rule, found, keep, ofKind⟩
  rw [List.append_nil] at found
  rcases RuleTable.reach_of_longest? found with ⟨member, reach, _⟩
  exact ⟨rule, member, keep, ofKind, reach⟩

theorem tokenize_cut {source : List Char} {t : Token} (member : t ∈ tokenize source) :
    Cut (some t.kind) t.lexeme.toList [] :=
  exists_cut_of_mem_shapes (List.mem_map_of_mem member)

theorem tokenize_fits (source : List Char) : (Cursor.start (tokenize source)).Fits :=
  fun _ member => (tokenize_cut member).fits

end ContractLang
