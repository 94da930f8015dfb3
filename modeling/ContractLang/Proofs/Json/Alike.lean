import Mathlib.Data.List.Nodup
import ContractLang.Json.Basic

namespace ContractLang.Json

mutual

/-- Equal as data: the order in which an object has its fields does not count. -/
inductive Alike : Json → Json → Prop
  | text (s : String) : Alike (.text s) (.text s)
  | flag (b : Bool) : Alike (.flag b) (.flag b)
  | list {items items' : List Json} (inside : AlikeItems items items') :
      Alike (.list items) (.list items')
  | object {fields moved fields' : List (String × Json)} (order : fields.Perm moved)
      (inside : AlikeFields moved fields') : Alike (.object fields) (.object fields')

inductive AlikeItems : List Json → List Json → Prop
  | nil : AlikeItems [] []
  | cons {item item' : Json} {items items' : List Json} (first : Alike item item')
      (rest : AlikeItems items items') : AlikeItems (item :: items) (item' :: items')

inductive AlikeFields : List (String × Json) → List (String × Json) → Prop
  | nil : AlikeFields [] []
  | cons {name : String} {value value' : Json} {fields fields' : List (String × Json)}
      (first : Alike value value') (rest : AlikeFields fields fields') :
      AlikeFields ((name, value) :: fields) ((name, value') :: fields')

end

mutual

theorem Alike.refl : ∀ j : Json, j.Alike j
  | .text s => .text s
  | .flag b => .flag b
  | .list items => .list (AlikeItems.refl items)
  | .object fields => .object (List.Perm.refl fields) (AlikeFields.refl fields)

theorem AlikeItems.refl : ∀ items : List Json, AlikeItems items items
  | [] => .nil
  | item :: items => .cons (Alike.refl item) (AlikeItems.refl items)

theorem AlikeFields.refl : ∀ fields : List (String × Json), AlikeFields fields fields
  | [] => .nil
  | (_, value) :: fields => .cons (Alike.refl value) (AlikeFields.refl fields)

end

theorem Alike.of_text {s t : String} (alike : (Json.text s).Alike (Json.text t)) : s = t := by
  cases alike
  rfl

theorem AlikeFields.keys {fields fields' : List (String × Json)}
    (alike : AlikeFields fields fields') : fields.map (·.1) = fields'.map (·.1) := by
  induction fields generalizing fields' with
  | nil =>
    cases alike
    rfl
  | cons field fields ih =>
    cases alike with
    | cons _ rest => rw [List.map_cons, List.map_cons, ih rest]

theorem AlikeFields.exists_of_mem {fields fields' : List (String × Json)}
    (alike : AlikeFields fields fields') {name : String} {value : Json}
    (member : (name, value) ∈ fields) : ∃ value', (name, value') ∈ fields' ∧ value.Alike value' := by
  induction fields generalizing fields' with
  | nil => cases member
  | cons field fields ih =>
    cases alike with
    | cons first rest =>
      rcases List.mem_cons.mp member with same | member
      · cases same
        exact ⟨_, List.mem_cons_self .., first⟩
      · obtain ⟨value', found, alike⟩ := ih rest member
        exact ⟨value', List.mem_cons_of_mem _ found, alike⟩

theorem AlikeFields.of_append {fields fields' others others' : List (String × Json)}
    (alike : AlikeFields (fields ++ others) (fields' ++ others'))
    (size : fields.length = fields'.length) :
    AlikeFields fields fields' ∧ AlikeFields others others' := by
  induction fields generalizing fields' with
  | nil =>
    cases List.length_eq_zero_iff.mp size.symm
    exact ⟨.nil, alike⟩
  | cons field fields ih =>
    cases fields' with
    | nil => cases size
    | cons field' fields' =>
      cases alike with
      | cons first rest =>
        obtain ⟨front, back⟩ := ih rest (Nat.succ.inj size)
        exact ⟨.cons first front, back⟩

/-- Fields in an order that is known are known. -/
theorem eq_of_perm_of_keys {fields moved : List (String × Json)} (order : fields.Perm moved)
    (keys : fields.map (·.1) = moved.map (·.1)) (distinct : (fields.map (·.1)).Nodup) :
    fields = moved := by
  induction fields generalizing moved with
  | nil => exact (List.nil_perm.mp order).symm
  | cons field fields ih =>
    cases moved with
    | nil => cases List.perm_nil.mp order
    | cons field' moved =>
      obtain ⟨name, names⟩ := List.cons.inj keys
      obtain ⟨new, others⟩ := List.nodup_cons.mp distinct
      have same : field = field' := by
        rcases List.mem_cons.mp (order.mem_iff.mp (List.mem_cons_self ..)) with same | later
        · exact same
        · have again := List.mem_map_of_mem (f := Prod.fst) later
          exact absurd (names ▸ again) new
      subst same
      rw [ih order.cons_inv names others]

/-- A value without objects inside. -/
def IsFlat : Json → Prop
  | .text _ | .flag _ => True
  | .list items => ∀ item ∈ items, ∃ s, item = .text s
  | .object _ => False

theorem AlikeItems.eq_of_texts {items items' : List Json} (alike : AlikeItems items items')
    (texts : ∀ item ∈ items, ∃ s, item = .text s) : items = items' := by
  induction items generalizing items' with
  | nil =>
    cases alike
    rfl
  | cons item items ih =>
    cases alike with
    | cons first rest =>
      obtain ⟨s, rfl⟩ := texts item (List.mem_cons_self ..)
      cases first
      rw [ih rest fun item member => texts item (List.mem_cons_of_mem _ member)]

theorem Alike.eq_of_isFlat {j k : Json} (alike : j.Alike k) (flat : j.IsFlat) : j = k := by
  cases alike with
  | text => rfl
  | flag => rfl
  | list inside => rw [inside.eq_of_texts flat]
  | object => cases flat

theorem AlikeFields.eq_of_isFlat {fields fields' : List (String × Json)}
    (alike : AlikeFields fields fields') (flat : ∀ field ∈ fields, field.2.IsFlat) :
    fields = fields' := by
  induction fields generalizing fields' with
  | nil =>
    cases alike
    rfl
  | cons field fields ih =>
    cases alike with
    | cons first rest =>
      cases first.eq_of_isFlat (flat _ (List.mem_cons_self ..))
      rw [ih rest fun field member => flat field (List.mem_cons_of_mem _ member)]

end ContractLang.Json
