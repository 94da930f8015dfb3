import ContractLang.Node.Dump
import ContractLang.Proofs.Declaration.Names
import ContractLang.Proofs.Json.Alike
import ContractLang.Proofs.Json.Print

namespace ContractLang

/-- Methods with the same attributes, in whatever order and however often, and the same in all
    other respects. -/
structure Method.Same (m m' : Method) : Prop where
  returnType : m.returnType = m'.returnType
  name : m.name = m'.name
  arguments : m.arguments = m'.arguments
  attributes : ∀ x, x ∈ m.attributes ↔ x ∈ m'.attributes
  body : m.body = m'.body
  isRequired : m.isRequired = m'.isRequired
  isDefault : m.isDefault = m'.isDefault

inductive Label.Same : Label → Label → Prop
  | refl (label : Label) : Same label label
  | method {m m' : Method} (same : m.Same m') : Same (.method m) (.method m')

namespace Node

mutual

/-- Equal nodes, where attributes are sets. -/
inductive Same : Node → Node → Prop
  | mk {label label' : Label} {children children' : List Node} (labels : label.Same label')
      (inside : SameAll children children') : Same (.mk label children) (.mk label' children')

inductive SameAll : List Node → List Node → Prop
  | nil : SameAll [] []
  | cons {node node' : Node} {nodes nodes' : List Node} (first : Same node node')
      (rest : SameAll nodes nodes') : SameAll (node :: nodes) (node' :: nodes')

end

end Node

theorem Method.same_iff (m m' : Method) : m.Same m' ↔
    (Label.method m).fields = (Label.method m').fields := by
  have texts (names others : List String) : names.map Json.text = others.map Json.text ↔
      names = others := List.map_inj_right fun _ _ => Json.text.inj
  simp only [Label.fields, List.cons.injEq, Prod.mk.injEq, Json.text.injEq, Json.list.injEq,
    Json.flag.injEq, texts, sortNames_eq_iff, true_and, and_true]
  constructor
  · rintro ⟨returnType, name, arguments, attributes, body, isRequired, isDefault⟩
    exact ⟨returnType, name, arguments, attributes, body, isRequired, isDefault⟩
  · rintro ⟨returnType, name, arguments, attributes, body, isRequired, isDefault⟩
    exact ⟨returnType, name, arguments, attributes, body, isRequired, isDefault⟩

theorem Label.same_iff (label label' : Label) : label.Same label' ↔
    label.variant = label'.variant ∧ label.fields = label'.fields := by
  constructor
  · rintro (label | same)
    · exact ⟨rfl, rfl⟩
    · exact ⟨rfl, (Method.same_iff _ _).mp same⟩
  · rintro ⟨variants, fields⟩
    cases label with
    | method m =>
      cases label' with
      | method m' => exact .method ((Method.same_iff m m').mpr fields)
      | _ => simp [variant] at variants
    | _ =>
      -- Different variants have different names.
      cases label' <;> first
        | cases fields; exact .refl _
        | simp [variant] at variants

/-- What a dump shows of a node whose children are dumped. -/
def Label.entries (label : Label) (items : List Json) : List (String × Json) :=
  ("node", .text label.variant) :: label.fields ++ [("children", .list items)]

namespace Label

variable {label label' : Label} {items items' : List Json}

theorem entries_inj (same : label.entries items = label'.entries items') :
    label.Same label' ∧ items = items' := by
  obtain ⟨head, rest⟩ := List.cons.inj same
  obtain ⟨fields, last⟩ := List.append_inj' rest rfl
  cases last
  exact ⟨(same_iff label label').mpr ⟨Json.text.inj (Prod.mk.inj head).2, fields⟩, rfl⟩

def fieldNames : String → List String
  | "OpaqueCode" => ["code"]
  | "TypeAlias" => ["type_name", "type_value"]
  | "DataDeclare" => ["var_name"]
  | "AssociatedType" => ["type_name", "default_code"]
  | "DataMember" => ["var_type", "var_name", "default_code"]
  | "MethodDecl" =>
    ["return_type", "method_name", "args", "attributes", "default_code", "is_required",
     "is_default"]
  | "Contract" => ["name", "base_name"]
  | _ => []

/-- The variant decides which fields there are. -/
theorem names_fields (label : Label) : label.fields.map (·.1) = fieldNames label.variant := by
  cases label <;> rfl

theorem names_entries (label : Label) (items : List Json) :
    (label.entries items).map (·.1) = "node" :: fieldNames label.variant ++ ["children"] := by
  simp [entries, names_fields]

theorem nodup_entries (label : Label) (items : List Json) :
    ((label.entries items).map (·.1)).Nodup := by
  rw [names_entries]
  cases label <;> simp [variant, fieldNames]

theorem isFlat_fields (label : Label) : ∀ field ∈ label.fields, field.2.IsFlat := by
  cases label <;> simp [fields, Json.IsFlat]

/-- In whatever order a dump has its entries, they are the entries of the same label. -/
theorem entries_of_alike {moved : List (String × Json)} (order : (label.entries items).Perm moved)
    (alike : Json.AlikeFields moved (label'.entries items')) :
    label.variant = label'.variant ∧ label.fields = label'.fields ∧
      Json.AlikeItems items items' := by
  have variants : label.variant = label'.variant := by
    have first : ("node", Json.text label.variant) ∈ moved :=
      order.mem_iff.mp (List.mem_cons_self ..)
    obtain ⟨value, found, same⟩ := alike.exists_of_mem first
    rcases List.mem_cons.mp found with head | later
    · cases head
      exact same.of_text
    · have new := (List.nodup_cons.mp (nodup_entries label' items')).1
      exact absurd (List.mem_map_of_mem (f := Prod.fst) later) new
  have names : (label.entries items).map (·.1) = moved.map (·.1) := by
    rw [alike.keys, names_entries, names_entries, variants]
  -- The variant fixes the names and their order, so nothing was moved.
  have unmoved := Json.eq_of_perm_of_keys order names (nodup_entries label items)
  subst unmoved
  cases alike with
  | cons _ rest =>
    have size : label.fields.length = label'.fields.length := by
      have names := (names_fields label).trans ((variants ▸ names_fields label').symm)
      simpa using congrArg List.length names
    obtain ⟨fields, last⟩ := rest.of_append size
    cases last with
    | cons children _ =>
      cases children with
      | list inside => exact ⟨variants, fields.eq_of_isFlat label.isFlat_fields, inside⟩

end Label

namespace Node

theorem dump_mk (label : Label) (children : List Node) :
    dump (.mk label children) = .object (label.entries (dumpAll children)) := rfl

mutual

theorem same_iff_dump : ∀ n m : Node, n.Same m ↔ n.dump = m.dump
  | .mk label children, .mk label' children' => by
    constructor
    · rintro ⟨labels, inside⟩
      obtain ⟨variants, fields⟩ := (Label.same_iff label label').mp labels
      rw [dump_mk, dump_mk, (sameAll_iff_dumpAll children children').mp inside, Label.entries,
        Label.entries, variants, fields]
    · intro same
      obtain ⟨labels, items⟩ := Label.entries_inj (Json.object.inj same)
      exact .mk labels ((sameAll_iff_dumpAll children children').mpr items)

theorem sameAll_iff_dumpAll : ∀ ns ms : List Node, SameAll ns ms ↔ dumpAll ns = dumpAll ms
  | [], [] => ⟨fun _ => rfl, fun _ => .nil⟩
  | [], m :: ms => ⟨nofun, nofun⟩
  | n :: ns, [] => ⟨nofun, nofun⟩
  | n :: ns, m :: ms => by
    simp only [dumpAll, List.cons.injEq, ← same_iff_dump n m, ← sameAll_iff_dumpAll ns ms]
    constructor
    · rintro (_ | ⟨first, rest⟩)
      exact ⟨first, rest⟩
    · rintro ⟨first, rest⟩
      exact .cons first rest

end

mutual

theorem dump_eq_of_alike : ∀ n m : Node, n.dump.Alike m.dump → n.dump = m.dump
  | .mk label children, .mk label' children', alike => by
    cases alike with
    | object order inside =>
      obtain ⟨variants, fields, items⟩ := Label.entries_of_alike order inside
      rw [dump_mk, dump_mk, Label.entries, Label.entries, variants, fields,
        dumpAll_eq_of_alike children children' items]

theorem dumpAll_eq_of_alike : ∀ ns ms : List Node, Json.AlikeItems (dumpAll ns) (dumpAll ms) →
    dumpAll ns = dumpAll ms
  | [], [], _ => rfl
  | n :: ns, m :: ms, .cons first rest => by
    rw [dumpAll, dumpAll, dump_eq_of_alike n m first, dumpAll_eq_of_alike ns ms rest]

end

end Node
end ContractLang
