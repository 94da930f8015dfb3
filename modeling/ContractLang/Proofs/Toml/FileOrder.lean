import ContractLang.Proofs.Toml.Keys

namespace ContractLang.Toml

/-- The header that is in force after a statement. -/
def Statement.headerAfter (header : List String) : Statement → List String
  | pair _ _ => header
  | table key | tableArray key => key

/-- The key of a section that a path leads to, or passes. -/
def keyBelow (name : String) : List String → List String
  | first :: key :: _ => if first = name then [key] else []
  | _ => []

/-- The keys of a section that a statement mentions. -/
def Statement.mentions (name : String) (header : List String) : Statement → List String
  | pair key (.table entries) =>
    if header ++ key = [name] then Table.keys entries else keyBelow name (header ++ key)
  | pair key _ => keyBelow name (header ++ key)
  | table key | tableArray key => keyBelow name key

/-- The keys of a section in the order in which statements mention them. -/
def mentionedKeys (name : String) (header : List String) : List Statement → List String
  | [] => []
  | s :: rest => s.mentions name header ++ mentionedKeys name (s.headerAfter header) rest

namespace Table

variable {name : String} {t t' t'' : Table} {noted later : List String}

def sectionKeys? (name : String) (t : Table) : Option (List String) :=
  match t.get? name with
  | none => some []
  | some (.table entries) => some (keys entries)
  | some _ => none

/-- Keys of a section are noted, unless its name stands for something else in the end. -/
def Notes (name : String) (noted : List String) (t t' : Table) : Prop :=
  t'.sectionKeys? name = none ∨ ∃ known, t.sectionKeys? name = some known ∧
    t'.sectionKeys? name = some (noted.foldl note known)

theorem Notes.of_same (same : t'.get? name = t.get? name) : Notes name [] t t' := by
  have keys : t'.sectionKeys? name = t.sectionKeys? name := by rw [sectionKeys?, sectionKeys?, same]
  cases found : t.sectionKeys? name with
  | none => exact .inl (keys.trans found)
  | some known => exact .inr ⟨known, found, keys.trans found⟩

theorem Notes.trans (first : Notes name noted t t') (second : Notes name later t' t'') :
    Notes name (noted ++ later) t t'' := by
  rcases second with other | ⟨known', found', ended⟩
  · exact .inl other
  · rcases first with other | ⟨known, found, reached⟩
    · cases other.symm.trans found'
    · cases reached.symm.trans found'
      refine .inr ⟨known, found, ?_⟩
      rw [ended, List.foldl_append]

theorem get?_set_of_ne {key : String} (different : key ≠ name) (t : Table) (value : Value) :
    (t.set key value).get? name = t.get? name := by
  rw [get?_set, if_neg different]

theorem sectionKeys?_set_table (name : String) (entries : Table) (t : Table) :
    (t.set name (.table entries)).sectionKeys? name = some (keys entries) := by
  rw [sectionKeys?, get?_set, if_pos rfl]

theorem sectionKeys?_set_array (name : String) (items : List Value) (t : Table) :
    (t.set name (.array items)).sectionKeys? name = none := by
  rw [sectionKeys?, get?_set, if_pos rfl]

/-- A change below a section notes the key that it passes, or what it adds to the section itself. -/
theorem notes_of_update? {throughArrays : Bool} {change : Table → Option Table}
    {first : String} {path : List String} (added? : Option String)
    (changes : ∀ s s', change s = some s' → keys s' = added?.toList.foldl note (keys s))
    (updated : t.update? throughArrays change (first :: path) = some t') :
    Notes name (keyBelow name (first :: path ++ added?.toList)) t t' := by
  by_cases same : first = name
  · subst same
    rcases exists_of_update? updated with ⟨inner, inner', before, changed, rfl⟩ | ⟨_, _, _, rfl⟩
    · refine .inr ⟨keys inner, ?_, ?_⟩
      · rcases before with ⟨missing, rfl⟩ | found
        · rw [sectionKeys?, missing]
          rfl
        · rw [sectionKeys?, found]
      · rw [sectionKeys?_set_table]
        cases path with
        | nil =>
          rw [changes inner inner' changed]
          cases added? <;> simp [keyBelow]
        | cons key path =>
          rw [keys_of_update? changed]
          simp [keyBelow]
    · exact .inl (sectionKeys?_set_array _ _ _)
  · have unmentioned : keyBelow name (first :: path ++ added?.toList) = [] := by
      cases path <;> cases added? <;> simp [keyBelow, same]
    rw [unmentioned]
    refine .of_same ?_
    rcases exists_of_update? updated with ⟨_, _, -, -, rfl⟩ | ⟨_, _, -, rfl⟩ <;>
      exact get?_set_of_ne same _ _

end Table

open Table

variable {name : String}

theorem Statement.mentions_pair {header key : List String} (value : Value)
    (deeper : header ++ key ≠ [name]) :
    mentions name header (.pair key value) = keyBelow name (header ++ key) := by
  cases value with
  | table entries => rw [mentions, if_neg deeper]
  | _ => rfl

theorem Table.notes_of_add? {t t' : Table} {key : String} {value : Value}
    (differ : value.KeysDiffer) (added : t.add? key value = some t') :
    Notes name (Statement.mentions name [] (.pair [key] value)) t t' := by
  obtain ⟨missing, rfl⟩ := add?_eq_some added
  by_cases same : key = name
  · subst same
    cases value with
    | table entries =>
      refine .inr ⟨[], by rw [sectionKeys?, missing], ?_⟩
      rw [sectionKeys?_set_table, Statement.mentions, List.nil_append, if_pos rfl,
        foldl_note_of_nodup (differ entries rfl), List.nil_append]
    | _ =>
      refine .inl ?_
      rw [sectionKeys?, get?_set, if_pos rfl]
  · rw [Statement.mentions_pair value (by simpa using same)]
    exact .of_same (get?_set_of_ne same _ _)

theorem Document.notes_of_addPair? {d d' : Document} {key : List String} {value : Value}
    (differ : value.KeysDiffer) (added : d.addPair? key value = some d') :
    Notes name (Statement.mentions name d.header (.pair key value)) d.table d'.table ∧
      d'.header = d.header := by
  obtain ⟨last, ends, added⟩ := Option.bind_eq_some_iff.mp added
  simp only at added
  split at added
  · cases added
  · obtain ⟨table, updated, same⟩ := Option.bind_eq_some_iff.mp added
    cases same
    have split := List.dropLast_append_getLast? last ends
    refine ⟨?_, rfl⟩
    have whole : d.header ++ key = d.header ++ key.dropLast ++ [last] := by
      rw [List.append_assoc, split]
    -- A pair at the top may itself be the section; below the top it adds one key to a table.
    cases parent : d.header ++ key.dropLast with
    | nil =>
      rw [parent] at updated
      obtain ⟨top, short⟩ := List.append_eq_nil_iff.mp parent
      rw [short] at split
      rw [top, ← split]
      exact Table.notes_of_add? differ updated
    | cons first path =>
      rw [parent] at updated whole
      have deeper : d.header ++ key ≠ [name] := by simp [whole]
      rw [Statement.mentions_pair value deeper, whole]
      refine notes_of_update? (some last) ?_ updated
      intro s s' added
      rw [(add?_eq_some added).2, keys_set]
      rfl

theorem Document.notes_of_openTable? {d d' : Document} {key : List String}
    (opened : d.openTable? key = some d') :
    Notes name (keyBelow name key) d.table d'.table ∧ d'.header = key := by
  simp only [openTable?] at opened
  split at opened
  · cases opened
  · obtain ⟨table, updated, same⟩ := Option.bind_eq_some_iff.mp opened
    cases same
    refine ⟨?_, rfl⟩
    cases key with
    | nil =>
      cases updated
      exact .of_same rfl
    | cons first path =>
      have noted : Notes name (keyBelow name (first :: path ++ [])) d.table table :=
        notes_of_update? none (fun s s' same => by
          cases same
          rfl) updated
      simpa using noted

theorem Document.notes_of_openItem? {d d' : Document} {key : List String}
    (opened : d.openItem? key = some d') :
    Notes name (keyBelow name key) d.table d'.table ∧ d'.header = key := by
  obtain ⟨last, ends, opened⟩ := Option.bind_eq_some_iff.mp opened
  split at opened
  · cases opened
  · obtain ⟨table, updated, same⟩ := Option.bind_eq_some_iff.mp opened
    cases same
    have split := List.dropLast_append_getLast? last ends
    refine ⟨?_, rfl⟩
    cases parent : key.dropLast with
    | nil =>
      rw [parent] at updated split
      obtain ⟨items, rfl⟩ := addItem?_eq_some updated
      rw [← split]
      by_cases same : last = name
      · subst same
        exact .inl (sectionKeys?_set_array _ _ _)
      · exact .of_same (get?_set_of_ne same _ _)
    | cons first path =>
      rw [parent] at updated split
      rw [← split]
      refine notes_of_update? (some last) ?_ updated
      intro s s' added
      obtain ⟨items, rfl⟩ := addItem?_eq_some added
      rw [keys_set]
      rfl

def Statement.KeysDiffer : Statement → Prop
  | pair _ value => value.KeysDiffer
  | table _ | tableArray _ => True

theorem Document.notes_of_add? (name : String) {d d' : Document} {s : Statement} (differ : s.KeysDiffer)
    (added : d.add? s = some d') :
    Notes name (s.mentions name d.header) d.table d'.table ∧
      d'.header = s.headerAfter d.header := by
  cases s with
  | pair key value => exact notes_of_addPair? differ added
  | table key => exact notes_of_openTable? added
  | tableArray key => exact notes_of_openItem? added

/-- The statements of a document are added one after the other. -/
def Document.addAll? (d : Document) (statements : List Statement) : Option Document :=
  statements.foldlM Document.add? d

theorem Document.notes_of_addAll? (name : String) {d d' : Document} {statements : List Statement}
    (differ : ∀ s ∈ statements, s.KeysDiffer) (added : d.addAll? statements = some d') :
    Notes name (mentionedKeys name d.header statements) d.table d'.table := by
  induction statements generalizing d with
  | nil =>
    cases added
    exact .of_same rfl
  | cons s rest ih =>
    obtain ⟨next, first, others⟩ := Option.bind_eq_some_iff.mp added
    obtain ⟨noted, header⟩ := notes_of_add? name (differ s (by simp)) first
    have later := ih (fun s member => differ s (List.mem_cons_of_mem _ member)) others
    rw [header] at later
    exact noted.trans later

/-- The statement at the start of a line, if the line has one. -/
def lineStatement (text : List Char) : Except Fault (List Statement × List Char) :=
  match text with
  | [] => .ok ([], [])
  | c :: rest =>
    if c = '\n' ∨ c = '#' then .ok ([], c :: rest)
    else do
      let (statement, rest) ← statement (c :: rest)
      return ([statement], rest)

def statementsWithin : Nat → List Char → Except Fault (List Statement)
  | 0, _ => .error .malformed
  | limit + 1, text => do
    let (first, rest) ← lineStatement (skipBlanks text)
    match ← wellFormed (skipComment? (skipBlanks rest)) with
    | [] => return first
    | '\n' :: rest =>
      let others ← statementsWithin limit rest
      return first ++ others
    | _ => .error .malformed

/-- The statements of a document, as they follow each other in the file. -/
def statements (written : List Char) : Except Fault (List Statement) :=
  let text := Text.dropReturnsBeforeNewline written
  statementsWithin (text.length + 1) text

theorem keysDiffer_of_statement {text rest : List Char} {s : Statement}
    (ran : statement text = .ok (s, rest)) : s.KeysDiffer := by
  unfold statement at ran
  split at ran
  · obtain ⟨⟨key, rest⟩, -, ran⟩ := bind_eq_ok ran
    simp only at ran
    split at ran <;> cases ran
    trivial
  · obtain ⟨⟨key, rest⟩, -, ran⟩ := bind_eq_ok ran
    simp only at ran
    split at ran <;> cases ran
    trivial
  · obtain ⟨⟨key, rest⟩, -, ran⟩ := bind_eq_ok ran
    simp only at ran
    split at ran
    · obtain ⟨⟨value, rest⟩, read, ran⟩ := bind_eq_ok ran
      cases ran
      exact keysDiffer_of_valueWithin read
    · cases ran

theorem lineStatement_of_lineStart {d d' : Document} {text rest : List Char}
    (ran : lineStart d text = .ok (d', rest)) :
    ∃ first, lineStatement text = .ok (first, rest) ∧ d.addAll? first = some d' ∧
      ∀ s ∈ first, s.KeysDiffer := by
  unfold lineStart at ran
  split at ran
  · cases ran
    exact ⟨[], rfl, rfl, nofun⟩
  · rename_i c after
    split at ran
    · rename_i none
      cases ran
      exact ⟨[], if_pos none, rfl, nofun⟩
    · rename_i some
      obtain ⟨⟨s, rest⟩, read, ran⟩ := bind_eq_ok ran
      obtain ⟨next, added, ran⟩ := bind_eq_ok ran
      have added := (wellFormed_eq_ok_iff _ _).mp added
      cases ran
      refine ⟨[s], ?_, ?_, ?_⟩
      · simp only [lineStatement, if_neg some, read]
        rfl
      · simp only [Document.addAll?, List.foldlM_cons, added]
        rfl
      · simpa using keysDiffer_of_statement read

theorem statementsWithin_of_linesWithin {limit : Nat} {d d' : Document} {text : List Char}
    (ran : linesWithin limit d text = .ok d') :
    ∃ all, statementsWithin limit text = .ok all ∧ d.addAll? all = some d' ∧
      ∀ s ∈ all, s.KeysDiffer := by
  induction limit generalizing d text with
  | zero => cases ran
  | succ limit ih =>
    rw [linesWithin] at ran
    obtain ⟨⟨next, rest⟩, line, ran⟩ := bind_eq_ok ran
    obtain ⟨ended, comment, ran⟩ := bind_eq_ok ran
    obtain ⟨first, read, added, differ⟩ := lineStatement_of_lineStart line
    rw [statementsWithin, read]
    simp only [bind, Except.bind, comment]
    split at ran
    · cases ran
      exact ⟨first, rfl, added, differ⟩
    · obtain ⟨others, later, more, differ'⟩ := ih ran
      refine ⟨first ++ others, ?_, ?_, ?_⟩
      · simp only [later]
        rfl
      · rw [Document.addAll?, List.foldlM_append]
        exact Option.bind_eq_some_iff.mpr ⟨next, added, more⟩
      · intro s member
        rcases List.mem_append.mp member with member | member
        · exact differ s member
        · exact differ' s member
    · cases ran

/-- A section that is a table, or is missing, has its keys in the order in which they are first
    mentioned in the file. -/
theorem exists_statements_of_read {written : List Char} {table : Table} {known : List String}
    (ran : read written = .ok table) (found : table.sectionKeys? name = some known) :
    ∃ all, statements written = .ok all ∧ known = (mentionedKeys name [] all).foldl note [] := by
  rcases lines : linesWithin ((Text.dropReturnsBeforeNewline written).length + 1) .empty
      (Text.dropReturnsBeforeNewline written) with fault | d
  · simp only [read, lines] at ran
    cases ran
  · simp only [read, lines] at ran
    cases ran
    obtain ⟨all, read, added, differ⟩ := statementsWithin_of_linesWithin lines
    refine ⟨all, read, ?_⟩
    rcases Document.notes_of_addAll? name differ added with other | ⟨_, start, ended⟩
    · cases other.symm.trans found
    · cases start
      exact Option.some.inj (found.symm.trans ended)

end ContractLang.Toml
