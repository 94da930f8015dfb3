import ContractLang.Token.Standard
import ContractLang.Cursor

namespace ContractLang

theorem Token.symbol?_eq_some_iff (t : Token) (c : Char) :
    t.symbol? = some c ↔ t.kind = .other ∧ t.lexeme.toList = [c] := by
  unfold Token.symbol?
  constructor
  · intro found
    split at found
    · rename_i d kind single
      cases found
      exact ⟨kind, single⟩
    · cases found
  · intro h
    rcases h with ⟨kind, single⟩
    rw [kind, single]

theorem Token.symbol?_of_kind {t : Token} (kind : t.kind ≠ .other) : t.symbol? = none := by
  cases found : t.symbol? with
  | none => rfl
  | some c => exact absurd ((t.symbol?_eq_some_iff c).mp found).1 kind

/-- One of the standard rules for the kind of the token matches its whole lexeme. -/
def Token.Fits (t : Token) : Prop :=
  ∃ rule ∈ RuleTable.standard, rule.keep = true ∧ rule.kind? = some t.kind ∧
    rule.reach t.lexeme.toList = some t.lexeme.toList.length

instance (t : Token) : Decidable t.Fits :=
  inferInstanceAs (Decidable (∃ rule ∈ RuleTable.standard, _))

def OnlyOfKind (kind : Kind) (lexeme : String) : Prop :=
  ∀ rule ∈ RuleTable.standard, rule.reach lexeme.toList = some lexeme.toList.length →
    rule.kind? = some kind

instance (kind : Kind) (lexeme : String) : Decidable (OnlyOfKind kind lexeme) :=
  inferInstanceAs (Decidable (∀ rule ∈ RuleTable.standard, _))

theorem onlyOfKind_const : OnlyOfKind .identifier "const" := by decide

theorem onlyOfKind_typename : OnlyOfKind .identifier "typename" := by decide

theorem onlyOfKind_template : OnlyOfKind .identifier "template" := by decide

theorem onlyOfKind_scope : OnlyOfKind .other "::" := by decide

theorem Token.Fits.kind_eq {t : Token} {kind : Kind} (fits : t.Fits)
    (only : OnlyOfKind kind t.lexeme) : t.kind = kind := by
  rcases fits with ⟨rule, member, _, ofKind, whole⟩
  exact Option.some.inj (ofKind.symm.trans (only rule member whole))

/-- The lexemes of identifiers. -/
def IsName (word : String) : Prop :=
  Pattern.identifier.reach word.toList = some word.toList.length

instance (word : String) : Decidable (IsName word) :=
  inferInstanceAs (Decidable (Pattern.identifier.reach word.toList = some _))

theorem Token.Fits.isName {t : Token} (fits : t.Fits) (identifier : t.kind = .identifier) :
    IsName t.lexeme := by
  rcases fits with ⟨rule, member, keep, ofKind, whole⟩
  rw [identifier] at ofKind
  simp only [RuleTable.standard, List.mem_cons, List.not_mem_nil, or_false] at member
  rcases member with rfl | rfl | rfl | rfl | rfl | rfl <;>
    first | exact whole | simp [Rule.ofPattern] at ofKind

theorem Token.Fits.lexeme_ne {t : Token} (fits : t.Fits) : t.lexeme ≠ "" := by
  intro empty
  rcases fits with ⟨rule, member, _, _, whole⟩
  rw [empty] at whole
  have none : ∀ rule ∈ RuleTable.standard, rule.reach [] = none := by decide
  rw [show ("" : String).toList = [] from rfl, none rule member] at whole
  cases whole

def Cursor.Fits (c : Cursor) : Prop := ∀ t ∈ c.ahead, t.Fits

end ContractLang
