import ContractLang.Proofs.Cursor.Passage
import ContractLang.Proofs.Span.Nesting
import ContractLang.Proofs.Span.Passage
import ContractLang.Span.Statement

namespace ContractLang

/-- The tokens up to a closing bracket, and the code that a scan takes from them. A mode for one
    line leaves out a semicolon right before the bracket. -/
inductive Enclosed (mode : ScanMode) : List Token → List Token → Prop
  | whole {code : List Token} (region : Region mode code) : Enclosed mode code code
  | trimmed {code : List Token} {stop : Token} (region : Region mode code)
      (single : mode.multiline = false) (semicolon : stop.role = .semicolon) :
      Enclosed mode (code ++ [stop]) code

theorem Enclosed.toBody {mode : ScanMode} {span code : List Token}
    (enclosed : Enclosed mode span code) : Region .body span := by
  cases enclosed with
  | whole region => exact region.toBody
  | trimmed region single semicolon =>
    apply region.toBody.append
    exact .cons (by rw [semicolon]; rfl) .nil

theorem getLast?_append_cons {α : Type} (first : List α) (a : α) (rest : List α) :
    (first ++ a :: rest).getLast? = if rest = [] then some a else rest.getLast? := by
  cases rest with
  | nil => simp
  | cons b rest => simp [List.getLast?_append, List.getLast?_cons]

theorem Region.last_ne_semicolon {mode : ScanMode} {tokens : List Token}
    (region : Region mode tokens) (single : mode.multiline = false) :
    ∀ t ∈ tokens.getLast?, t.role ≠ .semicolon := by
  have closer : ∀ {first rest : List Token} {closing : Token} {bracket : Bracket},
      closing.role = .closes bracket → (∀ t ∈ rest.getLast?, t.role ≠ .semicolon) →
      ∀ t ∈ (first ++ closing :: rest).getLast?, t.role ≠ .semicolon := by
    intro first rest closing bracket closes inner t last
    rw [getLast?_append_cons] at last
    split at last
    · cases last
      rw [closes]
      exact Role.noConfusion
    · exact inner t last
  induction region with
  | nil =>
    intro t last
    cases last
  | @cons mode u rest ordinary region ih =>
    intro t last
    rw [← List.nil_append (u :: rest), getLast?_append_cons] at last
    split at last
    · cases last
      intro semicolon
      rw [semicolon, Role.isOrdinary, single] at ordinary
      cases ordinary
    · exact ih single t last
  | group firm opens closes inner region innerIh ih => exact closer closes (ih single)
  | angles matched opens closes inner region innerIh ih => exact closer closes (ih single)

theorem within_nil (mode : ScanMode) : mode.within [] = mode := by
  cases mode
  simp [ScanMode.within]

theorem stretchFrom_semicolon (mode : ScanMode) (position : Nat) (t : Token) (rest : List Token)
    (single : mode.multiline = false) (semicolon : t.role = .semicolon) :
    stretchFrom mode [] position (t :: rest) = .ok ⟨[], .semicolon, ⟨position + 1, rest⟩⟩ :=
  (ScanStop.semicolon semicolon rfl single).stretchFrom

theorem stretchFrom_closer (mode : ScanMode) (position : Nat) (bracket : Bracket) (t : Token)
    (rest : List Token) (closes : t.role = .closes bracket)
    (counts : bracket = .angle → mode.angles = true) :
    stretchFrom mode [] position (t :: rest) = .ok ⟨[], .closer, ⟨position, t :: rest⟩⟩ := by
  by_cases firm : bracket = .angle
  · subst firm
    exact (ScanStop.angle closes (counts rfl) rfl).stretchFrom
  · exact (ScanStop.closer closes firm rfl).stretchFrom

theorem stretchFrom_ends_on_semicolon (mode : ScanMode) (opened : List Opening) (position : Nat)
    (ahead : List Token) (s : Stretch) (h : stretchFrom mode opened position ahead = .ok s)
    (semicolon : s.ending = .semicolon) : mode.multiline = false := by
  induction ahead generalizing opened position s with
  | nil =>
    cases opened with
    | nil => cases h; cases semicolon
    | cons o opened => cases h
  | cons t rest ih =>
    rcases stretchFrom_cons_eq_ok h with stop | ⟨next, tail, step, ran, rfl⟩
    · cases stop with
      | semicolon _ outside single => exact single
      | closer closes firm marks => cases semicolon
      | angle closes matched outside => cases semicolon
    · exact ih next _ tail ran semicolon

namespace Cursor

theorem code_of_semicolon {mode : ScanMode} {code : List Token} {stop : Token} {c d : Cursor}
    (region : Region mode code) (single : mode.multiline = false)
    (semicolon : stop.role = .semicolon) (pass : c.Passes (code ++ [stop]) d) :
    c.code mode = .ok ⟨code, .semicolon, d⟩ := by
  rcases pass with ⟨ahead, position⟩
  rw [← within_nil mode] at region
  rw [Cursor.code, ahead, List.append_assoc, List.singleton_append,
    stretchFrom_region mode [] _ region, stretchFrom_semicolon mode _ stop _ single semicolon]
  rw [List.length_append, List.length_singleton, ← Nat.add_assoc] at position
  simp [Except.map, Stretch.prepend, ← position]

theorem code_of_closer {mode : ScanMode} {bracket : Bracket} {code : List Token} {c d : Cursor}
    (region : Region mode code) (counts : bracket = .angle → mode.angles = true)
    (pass : c.Passes code d) (closer : d.symbol? = some bracket.closer) :
    c.code mode = .ok ⟨code, .closer, d⟩ := by
  rcases d with ⟨stop, rest⟩
  cases rest with
  | nil => cases closer
  | cons closing rest =>
    have closes := (closing.role_eq_closes_iff bracket).mpr closer
    rcases pass with ⟨ahead, position⟩
    rw [← within_nil mode] at region
    rw [Cursor.code, ahead, stretchFrom_region mode [] _ region,
      stretchFrom_closer mode _ bracket closing rest closes counts]
    simp [Except.map, Stretch.prepend, ← position]

theorem code_of_enclosed {mode : ScanMode} {bracket : Bracket} {span code : List Token}
    {c d : Cursor} (enclosed : Enclosed mode span code)
    (counts : bracket = .angle → mode.angles = true) (pass : c.Passes span d)
    (closer : d.symbol? = some bracket.closer) :
    ∃ ending, c.code mode = .ok ⟨code, ending, d⟩ := by
  cases enclosed with
  | whole region => exact ⟨.closer, code_of_closer region counts pass closer⟩
  | trimmed region single semicolon =>
    exact ⟨.semicolon, code_of_semicolon region single semicolon pass⟩

theorem passes_of_code_semicolon {mode : ScanMode} {c : Cursor} {s : Stretch}
    (h : c.code mode = .ok s) (ending : s.ending = .semicolon) :
    ∃ stop, stop.role = .semicolon ∧ c.Passes (s.tokens ++ [stop]) s.next := by
  have covers := stretchFrom_covers mode [] _ _ s h
  unfold Stretch.Covers at covers
  simp only [ending] at covers
  rcases covers with ⟨stop, semicolon, split, place⟩
  refine ⟨stop, semicolon, ?_, ?_⟩
  · rw [split, List.append_assoc, List.singleton_append]
  · rw [place, List.length_append, List.length_singleton, Nat.add_assoc]

theorem passes_of_code {mode : ScanMode} {c : Cursor} {s : Stretch} (h : c.code mode = .ok s)
    (ending : s.ending ≠ .semicolon) : c.Passes s.tokens s.next := by
  have covers := stretchFrom_covers mode [] _ _ s h
  unfold Stretch.Covers at covers
  cases stop : s.ending with
  | semicolon => exact absurd stop ending
  | closer => simp only [stop] at covers; exact covers
  | endOfInput => simp only [stop] at covers; exact covers

theorem exists_passes_of_code {mode : ScanMode} {c : Cursor} {s : Stretch}
    (h : c.code mode = .ok s) : ∃ span, c.Passes span s.next := by
  by_cases ending : s.ending = .semicolon
  · rcases passes_of_code_semicolon h ending with ⟨stop, _, pass⟩
    exact ⟨_, pass⟩
  · exact ⟨_, passes_of_code h ending⟩

theorem region_of_code {mode : ScanMode} {c : Cursor} {s : Stretch} (h : c.code mode = .ok s)
    (settled : s.Settled mode) : Region mode s.tokens :=
  closes_of_stretchFrom mode [] (fun o member => by cases member) _ _ s h settled

theorem enclosed_of_code {mode : ScanMode} {bracket : Bracket} {c : Cursor} {s : Stretch}
    (h : c.code mode = .ok s) (counts : mode.angles = true → bracket = .angle)
    (closer : s.next.symbol? = some bracket.closer) :
    ∃ span, c.Passes span s.next ∧ Enclosed mode span s.tokens := by
  have settled : s.Settled mode := by
    intro matched _ t head
    have same := counts matched
    subst same
    apply (t.role_eq_closes_iff .angle).mpr
    rw [← closer, Cursor.symbol?, Place.symbol?, place, head]
    rfl
  have region := region_of_code h settled
  by_cases ending : s.ending = .semicolon
  · rcases passes_of_code_semicolon h ending with ⟨stop, semicolon, pass⟩
    have single := stretchFrom_ends_on_semicolon mode [] _ _ s h ending
    exact ⟨s.tokens ++ [stop], pass, .trimmed region single semicolon⟩
  · exact ⟨s.tokens, passes_of_code h ending, .whole region⟩

theorem statement_eq_ok (c : Cursor) (complaint : Complaint) (s : Stretch) :
    c.statement complaint = .ok s ↔ s.ending = .semicolon ∧ Region .statement s.tokens ∧
      s.tokens ≠ [] ∧ ∃ stop, stop.role = .semicolon ∧ c.Passes (s.tokens ++ [stop]) s.next := by
  constructor
  · intro h
    unfold statement at h
    split at h
    · cases h
    · rename_i stretch ran
      split at h
      · rename_i ending
        split at h
        · cases h
        · rename_i filled
          cases h
          have region := region_of_code ran fun matched => by cases matched
          exact ⟨ending, region, by simpa using filled, passes_of_code_semicolon ran ending⟩
      · cases h
  · intro h
    rcases h with ⟨ending, region, filled, stop, semicolon, pass⟩
    rcases s with ⟨tokens, _, next⟩
    cases ending
    have filled : tokens.isEmpty = false := by simpa using filled
    simp [statement, code_of_semicolon region rfl semicolon pass, filled]

end Cursor
end ContractLang
