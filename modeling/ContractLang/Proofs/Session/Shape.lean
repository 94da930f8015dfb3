import ContractLang.Proofs.Declaration.Sound
import ContractLang.Proofs.Session.History

namespace ContractLang

inductive Node.IsMember : Node → Prop
  | associatedType (name value : String) : Node.IsMember (.mk (.associatedType name value) [])
  | data (type name initial : String) : Node.IsMember (.mk (.data type name initial) [])
  | method {m : Method} (regular : m.Regular IsName) : Node.IsMember (.mk (.method m) [])

inductive Node.IsContract : Node → Prop
  | mk (name base : String) {children : List Node} (members : ∀ child ∈ children, child.IsMember) :
      Node.IsContract (.mk (.contract name base) children)

inductive Node.IsRoot : Node → Prop
  | mk {children : List Node} (contracts : ∀ child ∈ children, child.IsContract) :
      Node.IsRoot (.mk .root children)

theorem Member.Regular.isMember {m : Member} (regular : m.Regular IsName) :
    (Node.ofMember m).IsMember := by
  cases m with
  | associatedType name value => exact .associatedType name value
  | data type name initial => exact .data type name initial
  | method m => exact .method regular

theorem Contract.Regular.isContract {contract : Contract} (regular : contract.Regular IsName) :
    (Node.ofContract contract).IsContract := by
  refine .mk _ _ fun child member => ?_
  rcases List.mem_map.mp member with ⟨m, inMembers, rfl⟩
  exact (regular m inMembers).isMember

theorem isRoot_of_regular {contracts : List Contract}
    (regular : ∀ contract ∈ contracts, contract.Regular IsName) :
    (Node.ofContracts contracts).IsRoot := by
  refine .mk fun child member => ?_
  rcases List.mem_map.mp member with ⟨contract, attached, rfl⟩
  exact (regular contract attached).isContract

namespace Session

/-- The names among the tokens are words of this sort, and all that is attached is regular. -/
structure Regular (word : String → Prop) (s : Session) : Prop where
  offers : ∀ t ∈ s.tokens, t.kind = .identifier → word t.lexeme
  contracts : ∀ contract ∈ s.contracts, contract.Regular word

variable {word : String → Prop} {s : Session}

theorem Regular.attach (regular : s.Regular word) {c : Cursor}
    (inside : ∀ t ∈ c.ahead, t ∈ s.tokens) :
    (s.attach (readContracts s.settings c)).Regular word := by
  have offers : c.Offers word := fun t member => regular.offers t (inside t member)
  refine ⟨regular.offers, fun contract member => ?_⟩
  rcases List.mem_append.mp member with earlier | built
  · exact regular.contracts contract earlier
  · exact regular_readContracts s.settings c offers contract built

theorem Regular.perform (regular : s.Regular word) (request : Request) :
    (s.perform request).session.Regular word := by
  cases request with
  | readAll => exact regular.attach fun _ member => member
  | readFrom position => exact regular.attach fun _ member => List.mem_of_mem_drop member
  | change assignments => exact ⟨regular.offers, regular.contracts⟩
  | _ => exact regular

theorem Regular.after (regular : s.Regular word) (history : List Request) :
    (s.after history).Regular word := by
  induction history generalizing s with
  | nil => exact regular
  | cons request history ih => exact ih (regular.perform request)

/-- Whatever is done with the tokens of a source, the root holds contracts, and these hold members.
    In the contracts that a step has finished, no name and no type is missing, and a method has a
    flag or a body. -/
theorem isRoot_after (source : List Char) (settings : Settings) (history : List Request) :
    let s := (start (tokenize source) settings).after history
    s.root.IsRoot ∧ (s.perform .readAll).session = (s.perform (.readFrom 0)).session ∧
    ∀ position, ∃ finished left d spans,
      (s.perform (.readFrom position)).session.contracts = s.contracts ++ (finished ++ left) ∧
      Finishes s.settings (s.cursor position) finished d ∧
      Halts s.settings d left (readContracts s.settings (s.cursor position)).outcome ∧
      (s.cursor position).Passes spans.flatten d ∧
      List.Forall₂ Contract.Sound spans finished := by
  intro s
  have fits := tokenize_fits source
  have fresh : (start (tokenize source) settings).Regular IsName := by
    refine ⟨fun t member identifier => (fits t member).isName identifier, ?_⟩
    exact fun contract member => absurd member List.not_mem_nil
  have sameTokens : s.tokens = tokenize source := tokens_after _ history
  refine ⟨isRoot_of_regular (fresh.after history).contracts, rfl, fun position => ?_⟩
  have inside : (s.cursor position).Fits := by
    intro t member
    apply fits
    rw [← sameTokens]
    exact List.mem_of_mem_drop member
  obtain ⟨finished, d, left, finishes, halts, built⟩ :=
    readContracts_cases s.settings (s.cursor position)
  rcases finishes.sound inside with ⟨spans, pass, sound⟩
  exact ⟨finished, left, d, spans, congrArg (s.contracts ++ ·) built, finishes, halts, pass, sound⟩

end Session
end ContractLang
