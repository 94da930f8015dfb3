import ContractLang.Proofs.Declaration.Progress

namespace ContractLang

open Cursor

/-- What holds of a method at every moment of its reading. -/
structure Method.Regular (word : String → Prop) (m : Method) : Prop where
  oneFlag : ¬ (m.isRequired = true ∧ m.isDefault = true)
  noBody : m.isRequired = true ∨ m.isDefault = true → m.body = ""
  attributes : ∀ name ∈ m.attributes, word name

def Member.Regular (word : String → Prop) : Member → Prop
  | .associatedType _ _ | .data _ _ _ => True
  | .method m => m.Regular word

def Contract.Regular (word : String → Prop) (contract : Contract) : Prop :=
  ∀ m ∈ contract.members, m.Regular word

/-- The names ahead are words of this sort. -/
def Cursor.Offers (word : String → Prop) (c : Cursor) : Prop :=
  ∀ t ∈ c.ahead, t.kind = .identifier → word t.lexeme

/-- One member has been built, complete or not, or reading has failed before any. -/
inductive MemberAttempt.Single (holds : Member → Prop) : MemberAttempt → Prop
  | none (trace : List String) (e : SyntaxError) : Single holds (.failed [] trace e)
  | one {m : Member} (built : holds m) (trace : List String)
      (outcome : Except SyntaxError Cursor) : Single holds ⟨[m], trace, outcome⟩

theorem MemberAttempt.Single.mem {holds : Member → Prop} {attempt : MemberAttempt}
    (single : attempt.Single holds) {m : Member} (member : m ∈ attempt.built) : holds m := by
  cases single with
  | none => cases member
  | one built =>
    rcases List.mem_singleton.mp member with rfl
    exact built

theorem Method.Regular.of_no_flag {word : String → Prop} {m : Method}
    (noRequired : m.isRequired = false) (noDefault : m.isDefault = false)
    (attributes : ∀ name ∈ m.attributes, word name) : m.Regular word := by
  refine ⟨?_, ?_, attributes⟩
  · simp [noRequired]
  · simp [noRequired, noDefault]

theorem MarkerForm.regular {settings : Settings} {word : String → Prop} {m marked : Method}
    {marker : Token} (mark : MarkerForm settings m marker marked) (noRequired : m.isRequired = false)
    (noDefault : m.isDefault = false) (noBody : m.body = "")
    (attributes : ∀ name ∈ m.attributes, word name) : marked.Regular word := by
  cases mark <;> exact ⟨by simp [noRequired, noDefault], fun _ => noBody, attributes⟩

section Offers

variable {word : String → Prop} {c d : Cursor}

theorem Cursor.Passes.offers {span : List Token} (pass : c.Passes span d) (offers : c.Offers word) :
    d.Offers word := by
  intro t member
  apply offers
  rw [pass.1]
  exact List.mem_append_right _ member

theorem Cursor.Settles.offers {holds : Nat → Cursor → Cursor → Prop} (settled : c.Settles d holds)
    (offers : c.Offers word) : d.Offers word := by
  rcases settled with ⟨span, pass, -⟩
  exact pass.offers offers

theorem Cursor.Offers.next (offers : c.Offers word) : c.next.Offers word :=
  fun t member => offers t (List.mem_of_mem_drop member)

theorem Cursor.Offers.names (offers : c.Offers word) : ∀ name ∈ c.names.1, word name := by
  rcases passes_names c with ⟨words, pass, identifiers, named⟩
  rw [named]
  intro name member
  rcases List.mem_map.mp member with ⟨t, inWords, rfl⟩
  refine offers t ?_ (identifiers t inWords)
  rw [pass.1]
  exact List.mem_append_left _ inWords

end Offers

section Members

variable {settings : Settings} {word : String → Prop} {c : Cursor}

theorem single_readData (type name : String) (c : Cursor) :
    (readData type name c).Single (Member.Regular word) := by
  unfold readData
  split
  · exact .one trivial _ _
  · split
    · exact .one trivial _ _
    · exact .one trivial _ _

theorem single_readAssociatedType (settings : Settings) (c : Cursor) :
    (readAssociatedType settings c).Single (Member.Regular word) := by
  unfold readAssociatedType
  split
  · exact .none _ _
  · split
    · exact .one trivial _ _
    · simp only
      split
      · exact .one trivial _ _
      · split
        · exact .one trivial _ _
        · exact .one trivial _ _

theorem single_readMarker {m : Method} (trace : List String) (noRequired : m.isRequired = false)
    (noDefault : m.isDefault = false) (noBody : m.body = "")
    (attributes : ∀ name ∈ m.attributes, word name) (c : Cursor) :
    (readMarker settings m trace c).Single (Member.Regular word) := by
  rcases markerForm_or_failed settings m trace c with ⟨marker, marked, found, mark⟩ | failed
  · rw [readMarker_of_markerForm trace found mark]
    exact .one (mark.regular noRequired noDefault noBody attributes) _ _
  · rw [failed]
    exact .one (Method.Regular.of_no_flag noRequired noDefault attributes) _ _

theorem single_readBody {m : Method} (trace : List String) (noRequired : m.isRequired = false)
    (noDefault : m.isDefault = false) (attributes : ∀ name ∈ m.attributes, word name) (c : Cursor) :
    (readBody m trace c).Single (Member.Regular word) := by
  have regular : ∀ body, Method.Regular word { m with body := body } :=
    fun _ => .of_no_flag noRequired noDefault attributes
  unfold readBody
  split
  · exact .one (regular m.body) _ _
  · simp only
    split
    · exact .one (regular _) _ _
    · exact .one (regular _) _ _

theorem single_readMethod (returnType name : String) (offers : c.Offers word) :
    (readMethod settings returnType name c).Single (Member.Regular word) := by
  have bare : ∀ arguments, Method.Regular word
      ⟨returnType, name, arguments, [], "", false, false⟩ :=
    fun _ => .of_no_flag rfl rfl fun _ member => absurd member List.not_mem_nil
  unfold readMethod
  simp only
  split
  · exact .one (bare _) _ _
  · rename_i arguments read
    split
    · exact .one (bare _) _ _
    · rename_i afterArguments passed
      rcases (scans_code .statement c).settles read with ⟨_, _, rfl, inner⟩
      rcases (passSymbol_eq_ok _ _ _ _).mp passed with ⟨closing, _, last⟩
      have attributes := (last.offers (inner.offers offers)).names
      split
      · exact single_readMarker _ rfl rfl rfl attributes _
      · split
        · exact single_readBody _ rfl rfl attributes _
        · exact .one (Method.Regular.of_no_flag rfl rfl attributes) _ _

theorem single_readMember (settings : Settings) (offers : c.Offers word) :
    (readMember settings c).Single (Member.Regular word) := by
  unfold readMember
  split
  · exact .none _ _
  · split
    · exact single_readAssociatedType settings _
    · split
      · exact .none _ _
      · rename_i type spanned
        split
        · exact .none _ _
        · rename_i afterName named
          rcases (scans_typeName c).settles spanned with ⟨_, _, rfl, first⟩
          rcases (passIdentifier_eq_ok _ _ _).mp named with ⟨name, _, second⟩
          have after := second.offers (first.offers offers)
          simp only
          split
          · exact single_readMethod _ _ after.next
          · exact single_readData _ _ _

theorem regular_readMembers (settings : Settings) (c : Cursor) (offers : c.Offers word) :
    ∀ m ∈ (readMembers settings c).built, m.Regular word := by
  intro m member
  have single := single_readMember settings offers
  by_cases closes : c.symbol? = some '\x7d'
  · rw [readMembers_of_brace closes] at member
    cases member
  · rcases ran : readMember settings c with ⟨built, trace, e | d⟩
    · rw [readMembers_of_failed closes ran] at member
      rw [ran] at single
      exact single.mem member
    · have shorter := ahead_length_lt_of_readMember settings c d (by rw [ran])
      rcases (concludes_readMember ran).fixed with ⟨span, pass, -⟩
      rw [readMembers_of_done closes ran] at member
      rw [ran] at single
      rcases List.mem_append.mp member with first | later
      · exact single.mem first
      · exact regular_readMembers settings d (pass.offers offers) m later
termination_by c.ahead.length

end Members

section Contracts

variable {settings : Settings} {word : String → Prop} {c : Cursor}

theorem regular_readContractBody (name base : String) (trace : List String)
    (offers : c.Offers word) :
    (readContractBody settings ⟨name, base, []⟩ trace c).built.Regular word := by
  have regular := regular_readMembers settings c offers
  unfold readContractBody
  simp only
  split
  · exact regular
  · split
    · exact regular
    · exact regular

theorem regular_readContract (name base : String) (offers : c.Offers word) :
    (readContract settings ⟨name, base, []⟩ c).built.Regular word := by
  have bare : ∀ name base, Contract.Regular word ⟨name, base, []⟩ :=
    fun _ _ _ member => absurd member List.not_mem_nil
  unfold readContract
  split
  · exact bare _ _
  · rename_i afterName named
    simp only
    split
    · exact bare _ _
    · rename_i afterColon colon
      split
      · exact bare _ _
      · rename_i afterBase based
        split
        · exact bare _ _
        · rename_i start opened
          rcases (passIdentifier_eq_ok _ _ _).mp named with ⟨_, _, first⟩
          rcases (passSymbol_eq_ok _ _ _ _).mp colon with ⟨_, _, second⟩
          rcases (passIdentifier_eq_ok _ _ _).mp based with ⟨_, _, third⟩
          rcases (passSymbol_eq_ok _ _ _ _).mp opened with ⟨_, _, fourth⟩
          have inside := fourth.offers (third.offers (second.offers (first.offers offers)))
          exact regular_readContractBody _ _ _ inside

theorem regular_readNextContract (settings : Settings) (offers : c.Offers word) :
    ∀ contract ∈ (readNextContract settings c).built, contract.Regular word := by
  intro contract member
  unfold readNextContract at member
  split at member
  · cases member
  · rename_i afterKeyword passed
    rcases (passIdentifier_eq_ok _ _ _).mp passed with ⟨_, _, pass⟩
    split at member
    · rcases List.mem_singleton.mp member with rfl
      exact regular_readContract _ _ (pass.offers offers)
    · cases member

/-- Whether reading gets to the end or fails, at whatever place, no method is left with two flags or
    with a flag and a body. -/
theorem regular_readContracts (settings : Settings) (c : Cursor) (offers : c.Offers word) :
    ∀ contract ∈ (readContracts settings c).built, contract.Regular word := by
  intro contract member
  have first := regular_readNextContract settings offers
  by_cases empty : c.ahead = []
  · rw [readContracts_of_empty empty] at member
    cases member
  · rcases ran : readNextContract settings c with ⟨built, trace, e | d⟩
    · rw [readContracts_of_failed empty ran] at member
      rw [ran] at first
      exact first contract member
    · have shorter := ahead_length_lt_of_readNextContract settings c d (by rw [ran])
      rcases (concludes_readNextContract ran).fixed with ⟨span, pass, -⟩
      rw [readContracts_of_done empty ran] at member
      rw [ran] at first
      rcases List.mem_append.mp member with inFirst | later
      · exact first contract inFirst
      · exact regular_readContracts settings d (pass.offers offers) contract later
termination_by c.ahead.length

end Contracts
end ContractLang
