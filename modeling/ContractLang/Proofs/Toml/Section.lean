import ContractLang.Proofs.Toml.BasicString
import ContractLang.Proofs.Toml.Keys

namespace ContractLang

theorem Text.dropReturnsBeforeNewline_of_not_mem {cs : List Char} (none : '\r' ∉ cs) :
    dropReturnsBeforeNewline cs = cs := by
  induction cs with
  | nil => rfl
  | cons c cs ih =>
    have first : c ≠ '\r' := fun same => none (by simp [same])
    rw [dropReturnsBeforeNewline, ih fun member => none (List.mem_cons_of_mem _ member)]
    exact fun _ same => absurd same first

namespace Toml

def IsBare (key : String) : Prop := key.toList ≠ [] ∧ ∀ c ∈ key.toList, isBareKeyChar c = true

instance : DecidablePred IsBare := fun key =>
  decidable_of_iff (key.toList ≠ [] ∧ key.toList.all isBareKeyChar = true)
    (by rw [List.all_eq_true, IsBare])

theorem IsBare.exists_cons {key : String} (bare : IsBare key) :
    ∃ c cs, key.toList = c :: cs ∧ isBareKeyChar c = true := by
  cases written : key.toList with
  | nil => exact absurd written bare.1
  | cons c cs => exact ⟨c, cs, rfl, bare.2 c (by simp [written])⟩

theorem isBlank_of_isBareKeyChar {c : Char} (bare : isBareKeyChar c = true) : isBlank c = false := by
  cases blank : isBlank c with
  | false => rfl
  | true =>
    have cases : c = ' ' ∨ c = '\t' := by simpa [isBlank] using blank
    rcases cases with rfl | rfl <;> cases bare

theorem IsBare.return_not_mem {key : String} (bare : IsBare key) : '\r' ∉ key.toList := by
  intro member
  cases bare.2 _ member

theorem IsBare.takeWhile {key : String} (bare : IsBare key) {rest : List Char}
    (ends : ∀ c ∈ rest.head?, isBareKeyChar c = false) :
    (key.toList ++ rest).takeWhile isBareKeyChar = key.toList := by
  rw [List.takeWhile_append_of_pos bare.2]
  cases rest with
  | nil => simp
  | cons c rest => simp [ends c rfl]

theorem keyPart?_bare {key : String} (bare : IsBare key) {rest : List Char}
    (ends : ∀ c ∈ rest.head?, isBareKeyChar c = false) :
    keyPart? (key.toList ++ rest) = some (key, rest) := by
  have run := bare.takeWhile ends
  have filled : key.toList.isEmpty = false := by simpa using bare.1
  rcases bare.exists_cons with ⟨c, cs, written, first⟩
  rw [keyPart?.eq_def]
  split
  · rename_i shape
    rw [written] at shape
    cases shape
    cases first
  · rename_i shape
    rw [written] at shape
    cases shape
    cases first
  · simp [run, filled]

/-- A bare key ends where a line goes on with something that is no part of a key. -/
theorem key?_bare {key : String} (bare : IsBare key) (rest : List Char)
    (ends : ∀ c ∈ rest.head?, isBareKeyChar c = false)
    (single : (skipBlanks rest).head? ≠ some '.') :
    key? (key.toList ++ rest) = some ([key], skipBlanks rest) := by
  rcases bare.exists_cons with ⟨c, cs, written, first⟩
  have size : (key.toList ++ rest).length = (cs ++ rest).length + 1 := by simp [written]
  rw [key?, size, keyParts?]
  simp only [keyPart?_bare bare ends, Option.bind_eq_bind, Option.bind_some]
  split
  · rename_i dotted
    rw [dotted] at single
    exact absurd rfl single
  · rfl

/-- A text on one line that is read as the value. -/
structure Writes (text : List Char) (v : Value) : Prop where
  starts : ∀ c ∈ text.head?, isBlank c = false
  simple : v.isClosed = false
  noReturn : '\r' ∉ text
  reads : ∀ rest, value (text ++ '\n' :: rest) = .ok (v, '\n' :: rest)

theorem writes_string (s : String) : Writes (printString s) (.string s) := by
  refine ⟨by simp [printString, isBlank], rfl, return_not_mem_printString s, fun rest => ?_⟩
  have read := string?_printString s ('\n' :: rest) (by simp)
  rw [printString_append] at read ⊢
  rw [value, valueWithin, scalar, read]
  · rfl
  · intro rest table
    cases table
  · intro rest array
    cases array

theorem writes_boolean (b : Bool) : Writes (printBoolean b) (.boolean b) := by
  cases b with
  | false => exact ⟨by simp [printBoolean, isBlank], rfl, by decide, fun rest => rfl⟩
  | true => exact ⟨by simp [printBoolean, isBlank], rfl, by decide, fun rest => rfl⟩

theorem skipBlanks_cons {c : Char} (printed : isBlank c = false) (rest : List Char) :
    skipBlanks (c :: rest) = c :: rest := by
  simp [skipBlanks, printed]

theorem skipBlanks_line {text : List Char} (starts : ∀ c ∈ text.head?, isBlank c = false)
    (rest : List Char) : skipBlanks (' ' :: (text ++ '\n' :: rest)) = text ++ '\n' :: rest := by
  have blank : skipBlanks (' ' :: (text ++ '\n' :: rest))
      = skipBlanks (text ++ '\n' :: rest) := rfl
  rw [blank]
  cases text with
  | nil => rfl
  | cons c text => exact skipBlanks_cons (starts c rfl) _

/-- A pair on a line of its own is read like its value. -/
theorem statement_pair {key : String} {text : List Char} (bare : IsBare key)
    (starts : ∀ c ∈ text.head?, isBlank c = false) (rest : List Char) :
    statement (printPair key text ++ rest)
      = value (text ++ '\n' :: rest) >>= fun (v, rest) => .ok (.pair [key] v, rest) := by
  have shape : printPair key text ++ rest
      = key.toList ++ ' ' :: '=' :: (' ' :: (text ++ '\n' :: rest)) := by simp [printPair]
  have name := key?_bare bare (' ' :: '=' :: (' ' :: (text ++ '\n' :: rest)))
    (by simp [isBareKeyChar]) (by simp [Toml.skipBlanks, isBlank])
  have equals : skipBlanks (' ' :: '=' :: (' ' :: (text ++ '\n' :: rest)))
      = '=' :: (' ' :: (text ++ '\n' :: rest)) := rfl
  rcases bare.exists_cons with ⟨c, cs, written, first⟩
  rw [shape, statement.eq_def]
  split
  · rename_i bracket
    rw [written] at bracket
    injection bracket with same
    subst same
    cases first
  · rename_i bracket
    rw [written] at bracket
    injection bracket with same
    subst same
    cases first
  · rw [name, equals]
    simp only [wellFormed, bind, Except.bind, skipBlanks_line starts]
    rfl

theorem statement_printPair {key : String} {text : List Char} {v : Value} (bare : IsBare key)
    (writes : Writes text v) (rest : List Char) :
    statement (printPair key text ++ rest) = .ok (.pair [key] v, '\n' :: rest) := by
  rw [statement_pair bare writes.starts, writes.reads]
  rfl

theorem statement_printHeader {key : String} (bare : IsBare key) (rest : List Char) :
    statement (printHeader key ++ rest) = .ok (.table [key], '\n' :: rest) := by
  have shape : printHeader key ++ rest = '[' :: (key.toList ++ ']' :: '\n' :: rest) := by
    simp [printHeader]
  have name := key?_bare bare (']' :: '\n' :: rest)
    (by simp [isBareKeyChar]) (by simp [skipBlanks, isBlank])
  have bracket : skipBlanks (']' :: '\n' :: rest) = ']' :: '\n' :: rest := rfl
  rcases bare.exists_cons with ⟨c, cs, written, first⟩
  have starts : skipBlanks (key.toList ++ ']' :: '\n' :: rest)
      = key.toList ++ ']' :: '\n' :: rest := by
    rw [written, List.cons_append, skipBlanks_cons (isBlank_of_isBareKeyChar first)]
  rw [shape, statement.eq_def]
  split
  · rename_i double
    injection double with _ double
    rw [written] at double
    injection double with same
    subst same
    cases first
  · rename_i single
    injection single with _ single
    subst single
    rw [starts, name, bracket]
    rfl
  · rename_i other
    exact absurd rfl (other _)

/-- A line of a document that holds a statement and nothing else. -/
theorem linesWithin_statement {line rest : List Char} {s : Statement} {document next : Document}
    (reads : statement line = .ok (s, '\n' :: rest)) (added : document.add? s = some next)
    (starts : ∃ c cs, line = c :: cs ∧ isBlank c = false ∧ c ≠ '\n' ∧ c ≠ '#') (limit : Nat) :
    linesWithin (limit + 1) document line = linesWithin limit next rest := by
  rcases starts with ⟨c, cs, rfl, blank, newline, comment⟩
  have start : lineStart document (c :: cs) = .ok (next, '\n' :: rest) := by
    simp only [lineStart, newline, comment, or_self, if_false, reads, bind, Except.bind, added,
      wellFormed]
    rfl
  rw [linesWithin, skipBlanks_cons blank, start]
  rfl

theorem starts_printPair {key : String} (bare : IsBare key) (text rest : List Char) :
    ∃ c cs, printPair key text ++ rest = c :: cs ∧ isBlank c = false ∧ c ≠ '\n' ∧ c ≠ '#' := by
  rcases bare.exists_cons with ⟨c, cs, shape, first⟩
  refine ⟨c, _, by rw [printPair, shape]; rfl, isBlank_of_isBareKeyChar first, ?_, ?_⟩
  · rintro rfl
    cases first
  · rintro rfl
    cases first

theorem linesWithin_nil (limit : Nat) (document : Document) :
    linesWithin (limit + 1) document [] = .ok document := rfl

theorem Table.set_eq_append {t : Table} {key : String} (value : Value) (new : t.get? key = none) :
    t.set key value = t ++ [(key, value)] := by
  induction t with
  | nil => rfl
  | cons entry rest ih =>
    obtain ⟨name, old⟩ := entry
    rw [get?] at new
    by_cases same : name = key
    · rw [if_pos same] at new
      cases new
    · rw [if_neg same] at new
      rw [set, if_neg same, ih new]
      rfl

/-- A document of one section that is under way. -/
def Document.ofSection (key : String) (entries : Table) : Document :=
  ⟨[(key, .table entries)], [key], [[key]], [], []⟩

theorem Document.add?_header (key : String) :
    Document.empty.add? (.table [key]) = some (.ofSection key []) := by
  simp [add?, openTable?, empty, isWithin, Table.update?, Table.get?, Table.set, ofSection]

theorem Document.add?_pair {key name : String} {entries : Table} {v : Value}
    (simple : v.isClosed = false) (new : entries.get? name = none) :
    (Document.ofSection key entries).add? (.pair [name] v)
      = some (.ofSection key (entries ++ [(name, v)])) := by
  simp [add?, addPair?, ofSection, tablesOfKey, isWithin, Table.update?, Table.get?, Table.add?, new,
    Table.set, simple, Table.set_eq_append v new]

theorem return_not_mem_printHeader {key : String} (bare : IsBare key) : '\r' ∉ printHeader key := by
  simp only [printHeader, List.mem_append, List.mem_cons, List.mem_nil_iff, or_false]
  rintro ((bracket | inKey) | bracket | newline)
  · cases bracket
  · exact bare.return_not_mem inKey
  · cases bracket
  · cases newline

theorem return_not_mem_printPair {key : String} {text : List Char} (bare : IsBare key)
    (noReturn : '\r' ∉ text) : '\r' ∉ printPair key text := by
  simp only [printPair, List.mem_append, List.mem_cons, List.mem_nil_iff, or_false]
  rintro ((inKey | blank | equals | blank | inText) | newline)
  · exact bare.return_not_mem inKey
  · cases blank
  · cases equals
  · cases blank
  · exact noReturn inText
  · cases newline

/-- The fault of a value is the fault of the document. -/
theorem read_of_fault {sectionKey key : String} {text : List Char} {fault : Fault}
    (header : IsBare sectionKey) (bare : IsBare key)
    (starts : ∀ c ∈ text.head?, isBlank c = false) (noReturn : '\r' ∉ text)
    (unread : value (text ++ ['\n']) = .error fault) :
    read (printHeader sectionKey ++ printPair key text) = .error fault := by
  have whole : '\r' ∉ printHeader sectionKey ++ printPair key text :=
    List.not_mem_append (return_not_mem_printHeader header) (return_not_mem_printPair bare noReturn)
  obtain ⟨c, cs, written, blank, newline, comment⟩ := starts_printPair bare text []
  have unstated : statement (c :: cs) = .error fault := by
    rw [← written, statement_pair bare starts, unread]
    rfl
  rw [List.append_nil] at written
  obtain ⟨limit, enough⟩ : ∃ n, (printHeader sectionKey ++ printPair key text).length = n + 1 :=
    ⟨_, rfl⟩
  rw [read, Text.dropReturnsBeforeNewline_of_not_mem whole,
    linesWithin_statement (statement_printHeader header _) (Document.add?_header sectionKey)
      ⟨'[', _, rfl, rfl, by decide, by decide⟩, enough, written, linesWithin, skipBlanks_cons blank]
  simp only [lineStart, newline, comment, or_self, if_false, unstated]
  rfl

section
variable {α : Type} {key : α → String} {text : α → List Char} {val : α → Value}

theorem linesWithin_pairs {sectionKey : String} {fields : List α} {entries : Table} {limit : Nat}
    (bare : ∀ a ∈ fields, IsBare (key a)) (writes : ∀ a ∈ fields, Writes (text a) (val a))
    (distinct : (entries.map (·.1) ++ fields.map key).Nodup) (enough : fields.length < limit) :
    linesWithin limit (.ofSection sectionKey entries)
        (fields.flatMap fun a => printPair (key a) (text a))
      = .ok (.ofSection sectionKey (entries ++ fields.map fun a => (key a, val a))) := by
  induction fields generalizing entries limit with
  | nil =>
    obtain ⟨limit, rfl⟩ : ∃ n, limit = n + 1 := ⟨limit - 1, by simp at enough; omega⟩
    rw [List.flatMap_nil, List.map_nil, List.append_nil]
    exact linesWithin_nil limit _
  | cons a fields ih =>
    obtain ⟨limit, rfl⟩ : ∃ n, limit = n + 1 := ⟨limit - 1, by simp at enough; omega⟩
    have new : Table.get? entries (key a) = none := by
      rw [Table.get?_eq_none_iff]
      intro found
      have apart := List.nodup_append.mp distinct
      exact apart.2.2 _ found _ (by simp) rfl
    have written := writes a List.mem_cons_self
    rw [List.flatMap_cons, linesWithin_statement
      (statement_printPair (bare a List.mem_cons_self) written _)
      (Document.add?_pair written.simple new) (starts_printPair (bare a List.mem_cons_self) _ _), ih
      (fun b member => bare b (List.mem_cons_of_mem _ member))
      (fun b member => writes b (List.mem_cons_of_mem _ member))
      (by simpa using distinct) (by simpa using enough)]
    simp

theorem return_not_mem_pairs {fields : List α} (bare : ∀ a ∈ fields, IsBare (key a))
    (writes : ∀ a ∈ fields, Writes (text a) (val a)) :
    '\r' ∉ fields.flatMap fun a => printPair (key a) (text a) := by
  rw [List.mem_flatMap]
  rintro ⟨a, member, written⟩
  exact return_not_mem_printPair (bare a member) (writes a member).noReturn written

theorem length_le_length_pairs (key : α → String) (text : α → List Char) (fields : List α) :
    fields.length ≤ (fields.flatMap fun a => printPair (key a) (text a)).length := by
  induction fields with
  | nil => exact Nat.le_refl _
  | cons a fields ih =>
    rw [List.flatMap_cons, List.length_append, List.length_cons, printPair, List.length_append,
      List.length_singleton]
    omega

/-- A section that is written with bare keys, each of them once, is read back. -/
theorem read_section {sectionKey : String} {fields : List α} (header : IsBare sectionKey)
    (bare : ∀ a ∈ fields, IsBare (key a)) (writes : ∀ a ∈ fields, Writes (text a) (val a))
    (distinct : (fields.map key).Nodup) :
    read (printHeader sectionKey ++ fields.flatMap fun a => printPair (key a) (text a))
      = .ok [(sectionKey, .table (fields.map fun a => (key a, val a)))] := by
  have whole : '\r' ∉ printHeader sectionKey
      ++ fields.flatMap fun a => printPair (key a) (text a) :=
    List.not_mem_append (return_not_mem_printHeader header) (return_not_mem_pairs bare writes)
  have enough : fields.length
      < (printHeader sectionKey ++ fields.flatMap fun a => printPair (key a) (text a)).length := by
    have pairs := length_le_length_pairs key text fields
    simp only [printHeader, List.length_append, List.length_cons]
    omega
  rw [read, Text.dropReturnsBeforeNewline_of_not_mem whole,
    linesWithin_statement (statement_printHeader header _) (Document.add?_header sectionKey)
      ⟨'[', _, rfl, rfl, by decide, by decide⟩,
    linesWithin_pairs bare writes (by simpa using distinct) enough]
  rfl

end

end Toml
end ContractLang
