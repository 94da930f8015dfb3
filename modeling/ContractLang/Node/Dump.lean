import ContractLang.Json.Basic
import ContractLang.Node.Basic

namespace ContractLang

namespace Label

def variant : Label → String
  | opaqueCode _ => "OpaqueCode"
  | block => "Block"
  | typeAlias _ _ => "TypeAlias"
  | dataDeclare _ => "DataDeclare"
  | associatedType _ _ => "AssociatedType"
  | data _ _ _ => "DataMember"
  | method _ => "MethodDecl"
  | contract _ _ => "Contract"
  | root => "Root"

def fields : Label → List (String × Json)
  | opaqueCode code => [("code", .text code)]
  | block => []
  | typeAlias name value => [("type_name", .text name), ("type_value", .text value)]
  | dataDeclare name => [("var_name", .text name)]
  | associatedType name value => [("type_name", .text name), ("default_code", .text value)]
  | data type name initial =>
    [("var_type", .text type), ("var_name", .text name), ("default_code", .text initial)]
  | method m =>
    [("return_type", .text m.returnType), ("method_name", .text m.name),
     ("args", .text m.arguments), ("attributes", .list ((sortNames m.attributes).map .text)),
     ("default_code", .text m.body), ("is_required", .flag m.isRequired),
     ("is_default", .flag m.isDefault)]
  | contract name base => [("name", .text name), ("base_name", .text base)]
  | root => []

end Label

namespace Node

mutual

/-- The variant of a node, its fields, and the dumps of its children in their order. -/
def dump : Node → Json
  | .mk label children =>
    .object (("node", .text label.variant) :: label.fields
      ++ [("children", .list (dumpAll children))])

def dumpAll : List Node → List Json
  | [] => []
  | node :: nodes => dump node :: dumpAll nodes

end

theorem dumpAll_eq_map (nodes : List Node) : dumpAll nodes = nodes.map dump := by
  induction nodes with
  | nil => rfl
  | cons node nodes ih => simp only [dumpAll, ih, List.map_cons]

end Node
end ContractLang
