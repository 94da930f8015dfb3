import ContractLang.Proofs.Declaration.ContractAcceptance
import ContractLang.Proofs.Declaration.ContractSpan
import ContractLang.Proofs.Token.Shapes

namespace ContractLang

theorem exists_of_forall₂_append_cons {α β : Type} {R : α → β → Prop} {l : List α}
    {before after : List β} {b : β} (related : List.Forall₂ R l (before ++ b :: after)) :
    ∃ first a rest, l = first ++ a :: rest ∧ List.Forall₂ R first before ∧ R a b := by
  have front := List.forall₂_take_append l before (b :: after) related
  have back := List.forall₂_drop_append l before (b :: after) related
  rcases List.forall₂_cons_right_iff.mp back with ⟨a, rest, head, _, split⟩
  refine ⟨l.take before.length, a, rest, ?_, front, head⟩
  rw [← split, List.take_append_drop]

theorem Attempt.eq_of_outcome {α : Type} {attempt : Attempt α} {d : Cursor}
    (ended : attempt.outcome = .ok d) : attempt = ⟨attempt.built, attempt.trace, .ok d⟩ := by
  rw [← ended]

theorem readSource_spans {settings : Settings} {source : List Char} {d : Cursor}
    (ran : (readSource settings source).outcome = .ok d) :
    ∃ spans, tokenize source = spans.flatten ∧
      List.Forall₂ (ContractForm settings) spans (readSource settings source).built := by
  obtain ⟨spans, pass, forms, finished⟩ :=
    passes_readContracts (tokenize_fits source) (Attempt.eq_of_outcome ran)
  have ahead := pass.1
  rw [finished, List.append_nil] at ahead
  exact ⟨spans, ahead, forms⟩

/-- The tokens of a source in front of a member: the contracts before its own, the header of its
    own contract, and the members before it. -/
inductive MemberFront (settings : Settings) (earlier : List Contract) (contract : Contract)
    (before : List Member) : List Token → Prop
  | mk {contractSpans memberSpans : List (List Token)} {header : List Token}
      (contracts : List.Forall₂ (ContractForm settings) contractSpans earlier)
      (start : ContractHeader settings header contract.name contract.base)
      (members : List.Forall₂ (MemberForm settings) memberSpans before) :
      MemberFront settings earlier contract before
        (contractSpans.flatten ++ (header ++ memberSpans.flatten))

theorem exists_memberFront {settings : Settings} {source : List Char} {d : Cursor}
    {earlier later : List Contract} {contract : Contract} {before after : List Member}
    {m : Member} (ran : (readSource settings source).outcome = .ok d)
    (contracts : (readSource settings source).built = earlier ++ contract :: later)
    (members : contract.members = before ++ m :: after) :
    ∃ front span rest, MemberFront settings earlier contract before front ∧
      MemberForm settings span m ∧ tokenize source = front ++ (span ++ rest) := by
  rcases readSource_spans ran with ⟨spans, split, forms⟩
  rw [contracts] at forms
  rcases exists_of_forall₂_append_cons forms with ⟨contractSpans, span, others, rfl, front, form⟩
  rcases form with @⟨header, memberSpans, name, base, _, closing, stop, start, declared, _, _⟩
  simp only at members
  rw [members] at declared
  obtain ⟨firstSpans, memberSpan, otherSpans, rfl, firstForms, memberForm⟩ :=
    exists_of_forall₂_append_cons declared
  refine ⟨_, memberSpan, otherSpans.flatten ++ [closing, stop] ++ others.flatten,
    .mk front start firstForms, memberForm, ?_⟩
  rw [split]
  simp

/-- The tokens of a source that can be read are the contracts that it declares, one after another.
    There is no other list of contracts that they might declare. -/
theorem contractForms_of_readSource {settings : Settings} {source : List Char} {d : Cursor}
    (ran : (readSource settings source).outcome = .ok d) :
    (∃ spans, tokenize source = spans.flatten ∧
      List.Forall₂ (ContractForm settings) spans (readSource settings source).built) ∧
    ∀ spans contracts, tokenize source = spans.flatten →
      List.Forall₂ (ContractForm settings) spans contracts →
      contracts = (readSource settings source).built := by
  constructor
  · exact readSource_spans ran
  · intro spans contracts split forms
    have fits := tokenize_fits source
    rw [split] at fits
    have read := readContracts_of_passes (Cursor.passes_start _) fits forms rfl
    rw [readSource, split, read.built]

theorem contractForms_of_data_member :
    (readSource .standard "contract Aa : Bb { int count; };".toList).outcome = .ok ⟨10, []⟩ ∧
    ∃ spans, tokenize "contract Aa : Bb { int count; };".toList = spans.flatten ∧
      List.Forall₂ (ContractForm .standard) spans
        (readSource .standard "contract Aa : Bb { int count; };".toList).built := by
  have ran : (readSource .standard "contract Aa : Bb { int count; };".toList).outcome
      = .ok ⟨10, []⟩ := by decide +kernel
  exact ⟨ran, (contractForms_of_readSource ran).1⟩

end ContractLang
