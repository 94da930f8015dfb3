import Mathlib.Logic.Equiv.Basic
import ContractLang.Proofs.Pairing.Contract
import ContractLang.Proofs.Token.Shapes

namespace ContractLang

/-- New words for all names, different ones for different names. The three words that have a
    meaning inside types stay what they are. -/
structure Renaming where
  word : String → String
  isName : ∀ w, IsName w → IsName (word w)
  injective : ∀ v w, IsName v → IsName w → word v = word w → v = w
  const : word "const" = "const"
  typename : word "typename" = "typename"
  template : word "template" = "template"

namespace Renaming

/-- Two names change places. -/
def swap (a b : String) (aIsName : IsName a) (bIsName : IsName b)
    (apart : ∀ w ∈ ["const", "typename", "template"], w ≠ a ∧ w ≠ b) : Renaming where
  word := Equiv.swap a b
  isName := by
    intro w isName
    rw [Equiv.swap_apply_def]
    split
    · exact bIsName
    · split
      · exact aIsName
      · exact isName
  injective := fun _ _ _ _ same => (Equiv.swap a b).injective same
  const := have ne := apart "const" (by decide); Equiv.swap_apply_of_ne_of_ne ne.1 ne.2
  typename := have ne := apart "typename" (by decide); Equiv.swap_apply_of_ne_of_ne ne.1 ne.2
  template := have ne := apart "template" (by decide); Equiv.swap_apply_of_ne_of_ne ne.1 ne.2

variable (r : Renaming)

def token (t : Token) : Token :=
  if t.kind = .identifier then { t with lexeme := r.word t.lexeme } else t

def settings (settings : Settings) : Settings :=
  { settings with
    contractKeyword := r.word settings.contractKeyword
    aliasKeyword := r.word settings.aliasKeyword
    requiredMarker := r.word settings.requiredMarker
    defaultMarker := r.word settings.defaultMarker }

theorem word_settings (settings : Settings) (field : WordField) :
    (r.settings settings).word field = r.word (settings.word field) := by
  cases field <;> rfl

theorem word_eq_iff {v w : String} (first : IsName v) (second : IsName w) :
    r.word v = r.word w ↔ v = w :=
  ⟨r.injective v w first second, congrArg r.word⟩

theorem token_of_identifier {t : Token} (identifier : t.kind = .identifier) :
    r.token t = { t with lexeme := r.word t.lexeme } := if_pos identifier

theorem token_of_not {t : Token} (other : t.kind ≠ .identifier) : r.token t = t := if_neg other

theorem word_eq_reserved_iff {w lexeme : String} (isName : IsName w)
    (member : lexeme ∈ reservedLexemes) : r.word w = lexeme ↔ w = lexeme := by
  have fixed : ∀ {lexeme : String}, IsName lexeme → r.word lexeme = lexeme →
      (r.word w = lexeme ↔ w = lexeme) := by
    intro lexeme named same
    have words := r.word_eq_iff isName named
    rwa [same] at words
  have neither : ∀ {lexeme : String}, ¬ IsName lexeme → (r.word w = lexeme ↔ w = lexeme) := by
    intro lexeme unnamed
    have renamed := r.isName w isName
    constructor
    · exact fun same => absurd (same ▸ renamed) unnamed
    · exact fun same => absurd (same ▸ isName) unnamed
  simp only [reservedLexemes, List.mem_cons, List.not_mem_nil, or_false] at member
  rcases member with rfl | rfl | rfl | rfl | rfl
  · exact fixed (by decide) r.const
  · exact fixed (by decide) r.typename
  · exact fixed (by decide) r.template
  · exact neither (by decide)
  · exact neither (by decide)

theorem counterpart {settings : Settings} (words : ∀ field, IsName (settings.word field))
    {t : Token} (fits : t.Fits) : Counterpart settings (r.settings settings) t (r.token t) := by
  by_cases identifier : t.kind = .identifier
  · have isName := fits.isName identifier
    have noSymbol : ∀ {u : Token}, u.kind = .identifier → u.symbol? = none := by
      intro u same
      exact Token.symbol?_of_kind (by simp [same])
    rw [r.token_of_identifier identifier]
    refine ⟨rfl, ?_, fun lexeme member => r.word_eq_reserved_iff isName member, fun _ field => ?_⟩
    · rw [noSymbol identifier, noSymbol]
      exact identifier
    · rw [r.word_settings]
      exact r.word_eq_iff isName (words field)
  · rw [r.token_of_not identifier]
    exact ⟨rfl, rfl, fun _ _ => Iff.rfl, fun same => absurd same identifier⟩

/-- The tokens of a source, and these tokens with new words for the names. -/
def pairing {settings : Settings} (words : ∀ field, IsName (settings.word field))
    (source : List Char) : Pairing where
  settings := settings
  other := r.settings settings
  tokens := tokenize source
  others := (tokenize source).map r.token
  counterparts := by
    rw [List.forall₂_map_right_iff, List.forall₂_same]
    exact fun t member => r.counterpart words (tokenize_fits source t member)

theorem eq_of_sameWord {settings : Settings} {words : ∀ field, IsName (settings.word field)}
    {source : List Char} {w w' : String} (same : (r.pairing words source).SameWord w w') :
    w' = r.word w := by
  rcases same with @⟨position, t, u, left, right, identifier⟩
  simp only [pairing, List.getElem?_map] at left right
  rw [left, Option.map_some, Option.some.injEq, r.token_of_identifier identifier] at right
  rw [← right]

end Renaming

/-- The readers know no name but the words of the settings and the three words of types: with new
    names in the source and in the settings, reading fails at the same token, or builds the same
    contracts with new names, and with texts of the same tokens. -/
theorem readContracts_renamed (r : Renaming) {settings : Settings}
    (words : ∀ field, IsName (settings.word field)) (source : List Char) :
    let tokens := tokenize source
    let renamed := tokens.map r.token
    let attempt := readContracts settings (.start tokens)
    let other := readContracts (r.settings settings) (.start renamed)
    ((∃ d, other.outcome = .ok d) ↔ ∃ d, attempt.outcome = .ok d) ∧
    (∀ e, attempt.outcome = .error e →
      ∃ e', other.outcome = .error e' ∧ e'.place.position = e.place.position) ∧
    ∀ d, attempt.outcome = .ok d →
      List.Forall₂ (Contract.Alike (fun w w' => w' = r.word w)
          (SameSpan tokens renamed joinTypeLexemes) (SameSpan tokens renamed joinLexemes))
        attempt.built other.built := by
  intro tokens renamed attempt other
  have parallel := (Pairing.Abreast.start (p := r.pairing words source)).readContracts
  rcases parallel with ⟨left, right, same, _⟩ | @⟨_, _, _, _, c, d, left, right, next, alike, _⟩
  · have failed : attempt.outcome = .error _ := congrArg Attempt.outcome left
    have otherFailed : other.outcome = .error _ := congrArg Attempt.outcome right
    rw [failed, otherFailed]
    refine ⟨⟨?_, ?_⟩, ?_, ?_⟩
    · rintro ⟨d, ended⟩
      cases ended
    · rintro ⟨d, ended⟩
      cases ended
    · intro e ended
      cases ended
      exact ⟨_, rfl, same.position⟩
    · intro d ended
      cases ended
  · have ended : attempt.outcome = .ok c := congrArg Attempt.outcome left
    have otherEnded : other.outcome = .ok d := congrArg Attempt.outcome right
    have built : attempt.built = _ := congrArg Attempt.built left
    have otherBuilt : other.built = _ := congrArg Attempt.built right
    rw [ended, otherEnded, built, otherBuilt]
    refine ⟨⟨fun _ => ⟨c, rfl⟩, fun _ => ⟨d, rfl⟩⟩, ?_, fun _ _ => ?_⟩
    · intro e failed
      cases failed
    · exact alike.imp fun _ _ => Contract.Alike.imp fun _ _ => r.eq_of_sameWord

/-- Where the keyword of contracts and another name change places, so do they in the settings. -/
theorem readContracts_renamed_of_keyword :
    let r := Renaming.swap "contract" "iface" (by decide) (by decide) (by decide)
    (∀ field, IsName (Settings.standard.word field)) ∧
    (readContracts .standard
      (.start (tokenize "contract iface : Bb { int count; };".toList))).outcome = .ok ⟨10, []⟩ ∧
    ∃ d, (readContracts (r.settings .standard) (.start
      ((tokenize "contract iface : Bb { int count; };".toList).map r.token))).outcome = .ok d := by
  intro r
  have words : ∀ field, IsName (Settings.standard.word field) := by
    intro field
    cases field <;> decide
  have ran : (readContracts .standard
      (.start (tokenize "contract iface : Bb { int count; };".toList))).outcome = .ok ⟨10, []⟩ := by
    decide +kernel
  exact ⟨words, ran, (readContracts_renamed r words _).1.mpr ⟨_, ran⟩⟩

end ContractLang
