import ContractLang.Proofs.Span.Enclosed
import ContractLang.Proofs.Token.Joined

namespace ContractLang

/-- A scan that has passed some tokens goes on with openings, and whatever closes those makes a
    whole with the tokens. -/
theorem closes_of_prefix {mode : ScanMode} {opened : List Opening} {position : Nat}
    {before more rest : List Token} {ending : Ending} {next : Cursor}
    (count : AnglesCount mode opened)
    (h : stretchFrom mode opened position (before ++ rest) = .ok ⟨before ++ more, ending, next⟩) :
    ∃ left, AnglesCount mode left ∧
      stretchFrom mode left (position + before.length) rest = .ok ⟨more, ending, next⟩ ∧
      ∀ tokens, Closes mode left tokens → Closes mode opened (before ++ tokens) := by
  induction before generalizing opened position with
  | nil => exact ⟨opened, count, h, fun _ closed => closed⟩
  | cons t before ih =>
    rw [List.cons_append] at h
    rcases stretchFrom_cons_eq_ok h with stop | ⟨inner, ⟨passed, _, _⟩, step, ran, same⟩
    · cases stop
    · cases same
      rcases ih (count.step step) ran with ⟨left, leftCount, onward, closes⟩
      rw [Nat.add_assoc, Nat.add_comm 1] at onward
      exact ⟨left, leftCount, onward, fun after closed => .step count step (closes after closed)⟩

theorem map_prepend_eq_ok {r : Except SyntaxError Stretch} {span more : List Token}
    {ending : Ending} {next : Cursor}
    (h : r.map (Stretch.prepend span) = .ok ⟨span ++ more, ending, next⟩) :
    r = .ok ⟨more, ending, next⟩ := by
  cases r with
  | error e => cases h
  | ok s =>
    rcases s with ⟨tokens, _, _⟩
    simp only [Except.map, Stretch.prepend, Except.ok.injEq, Stretch.mk.injEq] at h ⊢
    exact ⟨List.append_cancel_left h.1, h.2⟩

/-- Code in round, square or curly brackets, with the two brackets. -/
inductive FirmGroup : List Token → Prop
  | mk {bracket : Bracket} {opening closing : Token} {inside : List Token}
      (firm : bracket ≠ .angle) (opens : opening.symbol? = some bracket.opener)
      (closes : closing.symbol? = some bracket.closer) (inner : Region .body inside) :
      FirmGroup (opening :: inside ++ [closing])

theorem FirmGroup.region {group : List Token} (firm : FirmGroup group) (mode : ScanMode) :
    Region mode group := by
  rcases firm with ⟨firm, opens, closes, inner⟩
  exact .group firm ((Token.role_eq_opens_iff _ _).mpr opens)
    ((Token.role_eq_closes_iff _ _).mpr closes) inner .nil

theorem FirmGroup.stretchFrom {group : List Token} (firm : FirmGroup group) (mode : ScanMode)
    (opened : List Opening) (position : Nat) (rest : List Token) :
    stretchFrom mode opened position (group ++ rest)
      = (stretchFrom mode opened (position + group.length) rest).map (.prepend group) := by
  rcases firm with @⟨bracket, opening, closing, inside, firm, opens, closes, inner⟩
  have passed := stretchFrom_group mode opened position bracket opening closing inside rest firm
    ((opening.role_eq_opens_iff _).mpr opens) ((closing.role_eq_closes_iff _).mpr closes) inner
  have regroup : opening :: inside ++ closing :: rest = opening :: inside ++ [closing] ++ rest := by
    simp
  have length : (opening :: inside ++ [closing]).length = inside.length + 2 := by simp
  rw [← regroup, passed, length]

/-- What stands in round, square or curly brackets has no part in the nesting of angles. -/
theorem Region.replace_group {before group other after : List Token} (firm : FirmGroup group)
    (otherFirm : FirmGroup other) (region : Region .generic (before ++ (group ++ after))) :
    Region .generic (before ++ (other ++ after)) := by
  obtain ⟨last, angle⟩ : ∃ t : Token, t.symbol? = some '>' := ⟨⟨.other, ">", 1, 1⟩, by decide⟩
  have pass : Cursor.Passes ⟨0, before ++ (group ++ (after ++ [last]))⟩
      (before ++ (group ++ after)) ⟨(before ++ (group ++ after)).length, [last]⟩ :=
    ⟨by simp only [List.append_assoc], (Nat.zero_add _).symm⟩
  have counts : Bracket.angle = .angle → ScanMode.generic.angles = true := fun _ => rfl
  have ran := Cursor.code_of_closer region counts pass angle
  have outermost : AnglesCount .generic [] := fun o member => by cases member
  rcases closes_of_prefix outermost ran with ⟨left, count, onward, makesWhole⟩
  rw [firm.stretchFrom] at onward
  have closed := closes_of_stretchFrom .generic left count _ _ _ (map_prepend_eq_ok onward)
    fun _ _ t head => by
      cases head
      exact (last.role_eq_closes_iff .angle).mpr angle
  exact makesWhole _ (.prepend .generic left (otherFirm.region _) closed)

namespace Cursor

theorem code_generic_iff_region {c d : Cursor} {span : List Token} (pass : c.Passes span d)
    (closes : d.symbol? = some '>') :
    (∃ s, c.code .generic = .ok s ∧ s.next.position = d.position ∧ s.text = joinLexemes span) ↔
      Region .generic span := by
  have angle : Bracket.angle = .angle → ScanMode.generic.angles = true := fun _ => rfl
  constructor
  · rintro ⟨s, ran, position, text⟩
    rcases exists_passes_of_code ran with ⟨passed, move⟩
    have same : s.next = d := (pass.eq_of_position move position).2
    have closer : s.next.symbol? = some Bracket.angle.closer := by
      rw [same]
      exact closes
    rcases enclosed_of_code ran (fun _ => rfl) closer with ⟨inner, within, enclosed⟩
    have whole : inner = span := (pass.eq_of_position within position).1
    subst whole
    generalize taken : s.tokens = code at enclosed
    cases enclosed with
    | whole region => exact region
    | @trimmed _ stop region single semicolon =>
      rw [Stretch.text, taken] at text
      exact absurd text (joinLexemes_concat_ne (stop.role_eq_semicolon_iff.mp semicolon))
  · intro region
    exact ⟨_, code_of_closer region angle pass closes, rfl, rfl⟩

/-- Reading a generic list from `start` on gives its end `stop` and the text of all that stands
    before it. -/
def ReadsList (tokens : List Token) (start stop : Nat) : Prop :=
  ((ofPosition tokens start).code .generic).map (fun s => (s.next.position, s.text))
    = .ok (stop, joinLexemes ((tokens.take stop).drop start))

theorem readsList_iff_exists (tokens : List Token) (start stop : Nat) :
    ReadsList tokens start stop ↔ ∃ s, (ofPosition tokens start).code .generic = .ok s ∧
      s.next.position = stop ∧ s.text = joinLexemes ((tokens.take stop).drop start) := by
  unfold ReadsList
  cases (ofPosition tokens start).code .generic with
  | error e => exact ⟨nofun, nofun⟩
  | ok s => simp [Except.map]

theorem readsList_iff_region {tokens : List Token} {start stop : Nat} (forward : start ≤ stop)
    (closes : (ofPosition tokens stop).symbol? = some '>') :
    ReadsList tokens start stop ↔ Region .generic ((tokens.take stop).drop start) := by
  have inside := Nat.le_of_lt (lt_length_of_symbol? closes)
  rw [readsList_iff_exists]
  exact code_generic_iff_region (passes_ofPosition forward inside) closes

theorem take_drop_of_length {lead : List Token} {start : Nat} (length : lead.length = start)
    (span rest : List Token) :
    ((lead ++ (span ++ rest)).take (start + span.length)).drop start = span ∧
      (lead ++ (span ++ rest)).drop (start + span.length) = rest := by
  subst length
  constructor
  · rw [List.take_length_add_append, List.drop_left, List.take_left]
  · rw [List.drop_length_add_append, List.drop_left]

/-- A generic list ends before a `>` exactly if what stands before it is well nested, with angles
    as brackets outside of the other brackets only. Whatever group is put in the place of a group in
    those, the list ends before the same `>`. -/
theorem readsList_iff (tokens : List Token) (start stop : Nat) (forward : start ≤ stop)
    (closes : (ofPosition tokens stop).symbol? = some '>') :
    (ReadsList tokens start stop ↔ Region .generic ((tokens.take stop).drop start)) ∧
    ∀ before group other after, (tokens.take stop).drop start = before ++ (group ++ after) →
      FirmGroup group → FirmGroup other →
      (ReadsList (tokens.take start ++ ((before ++ (other ++ after)) ++ tokens.drop stop)) start
          (start + (before ++ (other ++ after)).length) ↔
        ReadsList tokens start stop) := by
  refine ⟨readsList_iff_region forward closes, ?_⟩
  intro before group other after split firm otherFirm
  have inside := lt_length_of_symbol? closes
  have lead : (tokens.take start).length = start := List.length_take_of_le (by omega)
  rcases take_drop_of_length lead (before ++ (other ++ after)) (tokens.drop stop) with ⟨span, rest⟩
  have closesToo : (ofPosition (tokens.take start ++ ((before ++ (other ++ after))
      ++ tokens.drop stop)) (start + (before ++ (other ++ after)).length)).symbol? = some '>' := by
    rw [← closes, symbol?, Place.symbol?, place, ofPosition, rest]
    rfl
  rw [readsList_iff_region forward closes, readsList_iff_region (Nat.le_add_right ..) closesToo,
    span, split]
  exact ⟨Region.replace_group otherFirm firm, Region.replace_group firm otherFirm⟩

theorem readsList_of_comparison :
    let name : Token := ⟨.identifier, "aa", 1, 1⟩
    let symbol (written : String) : Token := ⟨.other, written, 1, 1⟩
    let list := [name, symbol "<", name, symbol ";", symbol ">"]
    let tokens := list ++ [symbol "[", name, symbol "<", symbol "]", symbol ">"]
    ReadsList tokens 0 9 ∧ Region .generic (tokens.take 9) ∧
      ReadsList (list ++ [symbol "(", symbol ">", name, symbol ">", symbol ")", symbol ">"])
        0 10 := by
  intro name symbol list tokens
  have read : ReadsList tokens 0 9 := by cbv
  have plain : name.role.isOrdinary .body = true := by decide
  have less : (symbol "<").role.isOrdinary .body = true := by decide
  have greater : (symbol ">").role.isOrdinary .body = true := by decide
  have square : FirmGroup [symbol "[", name, symbol "<", symbol "]"] :=
    .mk (show Bracket.square ≠ .angle by decide) (by decide) (by decide)
      (.cons plain (.cons less .nil))
  have round : FirmGroup [symbol "(", symbol ">", name, symbol ">", symbol ")"] :=
    .mk (show Bracket.round ≠ .angle by decide) (by decide) (by decide)
      (.cons greater (.cons plain (.cons greater .nil)))
  have both := readsList_iff tokens 0 9 (by decide) (by decide)
  exact ⟨read, both.1.mp read, (both.2 list _ _ [] rfl square round).mpr read⟩

end Cursor
end ContractLang
