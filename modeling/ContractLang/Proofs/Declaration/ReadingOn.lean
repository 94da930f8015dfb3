import ContractLang.Proofs.Declaration.TokensPassed

namespace ContractLang

open Cursor

section Loops

def nameRound (c : Cursor) : Except SyntaxError Round :=
  .ok (if c.isIdentifier then .again c.next else .last c)

def typeRound (c : Cursor) : Except SyntaxError Round :=
  c.typeComponent.map fun d => if d.lexeme = "::" then .again d.next else .last d

/-- A round of a loop that reads one thing after another until it has come to where it stops. -/
def roundUntil (stops : Cursor → Prop) [DecidablePred stops]
    (read : Cursor → Except SyntaxError Cursor) (c : Cursor) : Except SyntaxError Round :=
  if stops c then .ok (.last c) else (read c).map .again

def memberRound (settings : Settings) : Cursor → Except SyntaxError Round :=
  roundUntil (·.symbol? = some '\x7d') fun c => (readMember settings c).outcome

def contractRound (settings : Settings) : Cursor → Except SyntaxError Round :=
  roundUntil (·.ahead = []) fun c => (readNextContract settings c).outcome

section Until

variable {stops : Cursor → Prop} [DecidablePred stops] {read : Cursor → Except SyntaxError Cursor}
  {c d : Cursor}

theorem roundUntil_of_ok (inside : ¬ stops c) (ran : read c = .ok d) :
    roundUntil stops read c = .ok (.again d) := by
  rw [roundUntil, if_neg inside, ran]
  rfl

theorem roundUntil_of_error {e : SyntaxError} (inside : ¬ stops c) (failed : read c = .error e) :
    roundUntil stops read c = .error e := by
  rw [roundUntil, if_neg inside, failed]
  rfl

theorem ran_of_again (again : roundUntil stops read c = .ok (.again d)) : read c = .ok d := by
  unfold roundUntil at again
  split at again
  · cases again
  · rcases map_eq_ok again with ⟨next, ran, same⟩
    cases same
    exact ran

theorem stops_of_last (last : roundUntil stops read c = .ok (.last d)) : stops d := by
  unfold roundUntil at last
  split at last
  · rename_i found
    cases last
    exact found
  · rcases map_eq_ok last with ⟨next, -, same⟩
    cases same

end Until

variable {settings : Settings} {c d : Cursor}

theorem passesAtLeast_nameRound (again : nameRound c = .ok (.again d)) : c.PassesAtLeast 1 d := by
  unfold nameRound at again
  split at again
  · rename_i identifier
    rcases exists_token_of_isKind identifier with ⟨t, found⟩
    cases again
    exact (passes_next found).atLeast
  · cases again

theorem passesAtLeast_typeRound (again : typeRound c = .ok (.again d)) : c.PassesAtLeast 2 d := by
  rcases map_eq_ok again with ⟨after, ran, next⟩
  split at next
  · rename_i scope
    rcases exists_token_of_lexeme scope (by decide) with ⟨t, found⟩
    cases next
    exact (passesAtLeast_typeComponent ran).trans (passes_next found).atLeast
  · cases next

/-- Here as in the other loops the recursion is on the tokens ahead, of which every round that is not
    the last one leaves fewer. -/
theorem loopEnds_names (c : Cursor) : LoopEnds nameRound c (.ok c.names.2) := by
  cases identifier : c.isIdentifier with
  | false =>
    rw [names_of_not identifier]
    exact .finished .none (by rw [nameRound, identifier]; rfl)
  | true =>
    have shorter := c.ahead_next_length_lt_of_isIdentifier identifier
    rw [names_of_isIdentifier identifier]
    exact .again (by rw [nameRound, identifier]; rfl) (loopEnds_names c.next)
termination_by c.ahead.length

theorem loopEnds_typeComponents (c : Cursor) : LoopEnds typeRound c c.typeComponents := by
  rcases ran : c.typeComponent with e | d
  · rw [typeComponents_of_error ran]
    exact .failed .none (by rw [typeRound, ran]; rfl)
  · have shorter := ahead_length_lt_of_typeComponent c d ran
    have later := ahead_next_length_le d
    rw [typeComponents_of_ok ran]
    split
    · rename_i scope
      exact .again (by rw [typeRound, ran]; exact congrArg Except.ok (if_pos scope))
        (loopEnds_typeComponents d.next)
    · rename_i last
      exact .finished .none (by rw [typeRound, ran]; exact congrArg Except.ok (if_neg last))
termination_by c.ahead.length

theorem loopEnds_readMembers (settings : Settings) (c : Cursor) :
    LoopEnds (memberRound settings) c (readMembers settings c).outcome := by
  by_cases closes : c.symbol? = some '\x7d'
  · rw [readMembers_of_brace closes]
    exact .finished .none (if_pos closes)
  · rcases ran : readMember settings c with ⟨built, trace, e | d⟩
    · rw [readMembers_of_failed closes ran]
      exact .failed .none (roundUntil_of_error closes (by rw [ran]))
    · have shorter := ahead_length_lt_of_readMember settings c d (by rw [ran])
      rw [readMembers_of_done closes ran]
      exact .again (roundUntil_of_ok closes (by rw [ran])) (loopEnds_readMembers settings d)
termination_by c.ahead.length

theorem loopEnds_readContracts (settings : Settings) (c : Cursor) :
    LoopEnds (contractRound settings) c (readContracts settings c).outcome := by
  by_cases empty : c.ahead = []
  · rw [readContracts_of_empty empty]
    exact .finished .none (if_pos empty)
  · rcases ran : readNextContract settings c with ⟨built, trace, e | d⟩
    · rw [readContracts_of_failed empty ran]
      exact .failed .none (roundUntil_of_error empty (by rw [ran]))
    · have shorter := ahead_length_lt_of_readNextContract settings c d (by rw [ran])
      rw [readContracts_of_done empty ran]
      exact .again (roundUntil_of_ok empty (by rw [ran])) (loopEnds_readContracts settings d)
termination_by c.ahead.length

/-- Contracts are read until nothing is ahead. -/
theorem ahead_of_readContracts (ran : (readContracts settings c).outcome = .ok d) :
    d.ahead = [] := by
  have ends := loopEnds_readContracts settings c
  rw [ran] at ends
  cases ends with
  | finished rounds stop => exact stops_of_last stop

end Loops

/-- Where reading on from a position of the tokens leads: it returns at least so many tokens further
    on, or raises an error about a token from there on. In both cases this is not beyond the end. -/
inductive ReadsOn (tokens : List Token) (start least : Nat) : Except SyntaxError Cursor → Prop
  | returned {stop : Nat} (forward : start + least ≤ stop) (within : stop ≤ tokens.length) :
      ReadsOn tokens start least (.ok (.ofPosition tokens stop))
  | raised {site : Nat} {e : SyntaxError} (forward : start ≤ site) (within : site ≤ tokens.length)
      (place : e.place = placeAt tokens site) : ReadsOn tokens start least (.error e)

/-- A loop that starts at a position of the tokens ends with the outcome, and each of its rounds
    passes at least so many tokens. -/
structure LoopsOn (tokens : List Token) (start least : Nat)
    (round : Cursor → Except SyntaxError Round) (outcome : Except SyntaxError Cursor) : Prop where
  ends : LoopEnds round (.ofPosition tokens start) outcome
  rounds {count : Nat} {d : Cursor} (ran : Rounds round count (.ofPosition tokens start) d) :
    ReadsOn tokens start (count * least) (.ok d)

section Positions

variable {tokens : List Token} {start least : Nat} {d : Cursor}
  {outcome : Except SyntaxError Cursor} (inside : start ≤ tokens.length)

include inside

theorem Cursor.PassesAtLeast.readsOn (passes : (ofPosition tokens start).PassesAtLeast least d) :
    ReadsOn tokens start least (.ok d) := by
  rcases passes with ⟨span, many, pass⟩
  have moved := pass.2
  rcases (passes_ofPosition_iff inside).mp pass with ⟨stop, -, within, -, rfl⟩
  refine .returned ?_ within
  simp only [ofPosition] at moved
  omega

theorem Cursor.Arrives.readsOn (arrives : (ofPosition tokens start).Arrives outcome)
    (passes : ∀ d, outcome = .ok d → (ofPosition tokens start).PassesAtLeast least d) :
    ReadsOn tokens start least outcome := by
  cases arrives with
  | passed => exact (passes _ rfl).readsOn inside
  | refused pass place =>
    rcases (passes_ofPosition_iff inside).mp pass with ⟨site, forward, within, -, rfl⟩
    exact .raised forward within (place.trans (place_ofPosition tokens site))

theorem Cursor.Arrives.readsOn_map {α : Type} {read : Except SyntaxError α} {next : α → Cursor}
    (arrives : (ofPosition tokens start).Arrives (read.map next))
    (passes : ∀ a, read = .ok a → (ofPosition tokens start).PassesAtLeast least (next a)) :
    ReadsOn tokens start least (read.map next) := by
  refine arrives.readsOn inside ?_
  intro d ran
  rcases map_eq_ok ran with ⟨a, read, rfl⟩
  exact passes a read

theorem LoopEnds.loopsOn {round : Cursor → Except SyntaxError Round}
    (ends : LoopEnds round (.ofPosition tokens start) outcome)
    (each : ∀ c d, round c = .ok (.again d) → c.PassesAtLeast least d) :
    LoopsOn tokens start least round outcome :=
  ⟨ends, fun ran => (ran.passesAtLeast each).readsOn inside⟩

end Positions

/-- How far each reader gets from a cursor `c` that stands at a position of the tokens. -/
structure Progress (settings : Settings) (tokens : List Token) (start : Nat) (c : Cursor) :
    Prop where
  code (mode : ScanMode) : ReadsOn tokens start 0 ((c.code mode).map Stretch.next)
  statement (complaint : Complaint) :
    ReadsOn tokens start 2 ((c.statement complaint).map Stretch.next)
  typeName : ReadsOn tokens start 1 (c.typeName.map TypeSpan.next)
  names : ReadsOn tokens start 0 (.ok c.names.2)
  associatedType : ReadsOn tokens start 4 (readAssociatedType settings c).outcome
  data (type name : String) : ReadsOn tokens start 1 (readData type name c).outcome
  method (returnType name : String) :
    ReadsOn tokens start 3 (readMethod settings returnType name c).outcome
  contract (draft : Contract) : ReadsOn tokens start 6 (readContract settings draft c).outcome
  contracts : ReadsOn tokens start 0 (readContracts settings c).outcome
  contractsToEnd (d : Cursor) (ran : (readContracts settings c).outcome = .ok d) :
    d = .ofPosition tokens tokens.length
  nameLoop : LoopsOn tokens start 1 nameRound (.ok c.names.2)
  typeLoop : LoopsOn tokens start 2 typeRound c.typeComponents
  memberLoop : LoopsOn tokens start 3 (memberRound settings) (readMembers settings c).outcome
  contractLoop : LoopsOn tokens start 7 (contractRound settings) (readContracts settings c).outcome

/-- From every position of every list of tokens each reader returns within the tokens or raises an
    error, and its loops end since each of their rounds passes some tokens. -/
theorem progress_ofPosition (settings : Settings) (tokens : List Token) (start : Nat)
    (inside : start ≤ tokens.length) :
    Progress settings tokens start (.ofPosition tokens start) where
  code mode := (arrives_code _ mode).readsOn_map inside fun _ => passesAtLeast_code
  statement complaint :=
    (arrives_statement _ complaint).readsOn_map inside fun _ => passesAtLeast_statement
  typeName := (arrives_typeName _).readsOn_map inside fun _ => passesAtLeast_typeName
  names := (arrives_names _).atLeast.readsOn inside
  associatedType :=
    (arrives_readAssociatedType settings _).readsOn inside fun _ => passesAtLeast_readAssociatedType
  data type name := (arrives_readData type name _).readsOn inside fun _ => passesAtLeast_readData
  method returnType name :=
    (arrives_readMethod returnType name _).readsOn inside fun _ => passesAtLeast_readMethod
  contract draft :=
    (arrives_readContract settings draft _).readsOn inside fun _ => passesAtLeast_readContract
  contracts := (arrives_readContracts settings _).readsOn inside fun _ ran =>
    (ran ▸ arrives_readContracts settings _).atLeast
  contractsToEnd d ran := by
    have arrives := arrives_readContracts settings (ofPosition tokens start)
    have ahead := ahead_of_readContracts ran
    rw [ran] at arrives
    rcases arrives.exists_passes with ⟨span, pass⟩
    rcases (passes_ofPosition_iff inside).mp pass with ⟨stop, -, within, -, rfl⟩
    rw [Nat.le_antisymm within (List.drop_eq_nil_iff.mp ahead)]
  nameLoop := (loopEnds_names _).loopsOn inside fun _ _ => passesAtLeast_nameRound
  typeLoop := (loopEnds_typeComponents _).loopsOn inside fun _ _ => passesAtLeast_typeRound
  memberLoop := (loopEnds_readMembers settings _).loopsOn inside fun _ _ again =>
    passesAtLeast_readMember (ran_of_again again)
  contractLoop := (loopEnds_readContracts settings _).loopsOn inside fun _ _ again =>
    passesAtLeast_readNextContract (ran_of_again again)

/-- A member of three tokens takes one round, and the contract ends at the end of the tokens. -/
theorem progress_ofPosition_of_member :
    let tokens := tokenize "contract Aa : Bb { int count; };".toList
    (0 ≤ tokens.length ∧ 5 ≤ tokens.length) ∧
    ReadsOn tokens 5 (1 * 3) (.ok (.ofPosition tokens 8)) ∧
    Cursor.ofPosition tokens 10 = .ofPosition tokens tokens.length := by
  intro tokens
  have inside : 0 ≤ tokens.length ∧ 5 ≤ tokens.length := by decide +kernel
  have inBody : (ofPosition tokens 5).symbol? ≠ some '\x7d' := by decide +kernel
  have member : (readMember .standard (ofPosition tokens 5)).outcome = .ok (.ofPosition tokens 8) := by
    decide +kernel
  have contracts : (readContracts .standard (ofPosition tokens 0)).outcome
      = .ok (.ofPosition tokens 10) := by decide +kernel
  have round : memberRound .standard (ofPosition tokens 5)
      = .ok (.again (.ofPosition tokens 8)) := roundUntil_of_ok inBody member
  have atMember := progress_ofPosition .standard tokens 5 inside.2
  have atStart := progress_ofPosition .standard tokens 0 inside.1
  exact ⟨inside, atMember.memberLoop.rounds (.again round .none), atStart.contractsToEnd _ contracts⟩

end ContractLang
