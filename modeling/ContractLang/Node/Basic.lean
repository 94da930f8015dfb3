import ContractLang.Declaration.Basic

namespace ContractLang

inductive Label where
  | opaqueCode (code : String)
  | block
  | typeAlias (name value : String)
  | dataDeclare (name : String)
  | associatedType (name value : String)
  | data (type name initial : String)
  | method (m : Method)
  | contract (name base : String)
  | root
  deriving DecidableEq, Repr

inductive Node where
  | mk (label : Label) (children : List Node)

namespace Node

def label : Node → Label
  | .mk label _ => label

def children : Node → List Node
  | .mk _ children => children

def ofMember : Member → Node
  | .associatedType name value => .mk (.associatedType name value) []
  | .data type name initial => .mk (.data type name initial) []
  | .method m => .mk (.method m) []

def ofContract (c : Contract) : Node := .mk (.contract c.name c.base) (c.members.map ofMember)

def ofContracts (contracts : List Contract) : Node := .mk .root (contracts.map ofContract)

end Node
end ContractLang
