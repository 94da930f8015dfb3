import ContractLang.Proofs.Declaration.Finished
import ContractLang.Session

namespace ContractLang

open Cursor

/-- The reply without the root that other steps have worked on. -/
def Reply.own : Reply → Reply
  | .whole outcome _ => .whole outcome (.ofContracts [])
  | .root outcome _ => .root outcome (.ofContracts [])
  | reply => reply

def Reply.error? : Reply → Option SyntaxError
  | .rejected e => some e
  | .whole (.error e) _ | .root (.error e) _ | .contract (.error e) _ => some e
  | _ => none

namespace Session

def after (s : Session) (history : List Request) : Session :=
  history.foldl (fun s request => (s.perform request).session) s

/-- Reading on from a position ends at `finish` without an error, and attaches these contracts. -/
def Appends (s : Session) (position : Nat) (contracts : List Contract) (finish : Nat) : Prop :=
  (s.perform (.readFrom position)).reply
      = .root (.ok finish) (.ofContracts (s.contracts ++ contracts)) ∧
    (s.perform (.readFrom position)).session.contracts = s.contracts ++ contracts

theorem run_append_singleton (s : Session) (history : List Request) (request : Request) :
    s.run (history ++ [request]) = s.run history ++ [(s.after history).perform request] := by
  induction history generalizing s with
  | nil => rfl
  | cons first history ih =>
    simp only [List.cons_append, run, ih]
    rfl

theorem tokens_perform (s : Session) (request : Request) :
    (s.perform request).session.tokens = s.tokens := by
  cases request <;> rfl

theorem tokens_after (s : Session) (history : List Request) :
    (s.after history).tokens = s.tokens := by
  induction history generalizing s with
  | nil => rfl
  | cons first history ih => exact (ih _).trans (s.tokens_perform first)

theorem children_root (s : Session) : s.root.children = s.contracts.map .ofContract := rfl

theorem children_perform (s : Session) (request : Request) :
    s.root.children <+: (s.perform request).session.root.children := by
  rw [children_root, children_root]
  exact (s.contracts_perform request).map _

theorem root_perform (s : Session) (request : Request) :
    (s.perform request).session.root = s.root ∨
      request = .readAll ∨ ∃ position, request = .readFrom position := by
  cases request with
  | readAll => exact .inr (.inl rfl)
  | readFrom position => exact .inr (.inr ⟨position, rfl⟩)
  | _ => exact .inl rfl

/-- A step takes nothing from the steps before it but the settings. -/
theorem perform_fresh (s : Session) (request : Request) :
    (s.perform request).reply.own
        = ((start s.tokens s.settings).perform request).reply.own ∧
      (s.perform request).trace = ((start s.tokens s.settings).perform request).trace ∧
      (s.perform request).session.settings
        = ((start s.tokens s.settings).perform request).session.settings ∧
      (s.perform request).session.contracts
        = s.contracts ++ ((start s.tokens s.settings).perform request).session.contracts := by
  cases request with
  | readAll => exact ⟨rfl, rfl, rfl, rfl⟩
  | readFrom position => exact ⟨rfl, rfl, rfl, rfl⟩
  | _ => exact ⟨rfl, rfl, rfl, (List.append_nil _).symm⟩

theorem appends_of_done {tokens : List Token} {settings : Settings} {position : Nat}
    {contracts : List Contract} {trace : List String} {d : Cursor}
    (read : readContracts settings (.ofPosition tokens position) = .done contracts trace d) :
    (start tokens settings).Appends position contracts d.position := by
  have ran : (start tokens settings).perform (.readFrom position)
      = ⟨.root (.ok d.position) (.ofContracts contracts), settings.shown trace,
          ⟨tokens, settings, contracts⟩⟩ := by
    simp only [perform, attach, cursor, start, root, read, List.nil_append]
    rfl
  rw [Appends, ran]
  exact ⟨rfl, rfl⟩

variable {tokens : List Token} {settings : Settings} {position : Nat} {finished : List Contract}
  {d : Cursor} (inside : position ≤ tokens.length)
  (finishes : Finishes settings (.ofPosition tokens position) finished d)

include inside finishes

/-- The tokens up to the place where reading halts give the contracts that have been finished. -/
theorem appends_of_finishes :
    (start (tokens.take d.position) settings).Appends position finished d.position := by
  have cut := finishes.fixes.cut inside []
  rw [List.append_nil] at cut
  rcases cut with ⟨trace, read⟩
  rw [readContracts_of_empty (c := ⟨d.position, []⟩) rfl, Attempt.followedBy_nil] at read
  exact appends_of_done (d := ⟨d.position, []⟩) read

/-- A contract in which reading fails can be closed before any of its members. -/
theorem appends_of_broken {draft : Contract} {trace : List String} {e : SyntaxError}
    (identifier : d.isIdentifier = true) (keyword : d.lexeme = settings.contractKeyword)
    (failed : readContract settings ⟨"", "", []⟩ d.next = .failed draft trace e) {count : Nat}
    (reached : count < draft.members.length) :
    ∃ q ≤ tokens.length, ∀ closing stop : Token,
      closing.symbol? = some '\x7d' → stop.symbol? = some ';' →
      (start (tokens.take q ++ [closing, stop]) settings).Appends position
        (finished ++ [{ draft with members := draft.members.take count }]) (q + 2) := by
  rcases exists_token_of_isKind identifier with ⟨t, found⟩
  have built : (readContract settings ⟨"", "", []⟩ d.next).built = draft := by
    rw [failed]
    rfl
  rcases fixes_readContract (built ▸ reached) with ⟨last, draftFixed⟩
  rw [built] at draftFixed
  have fixed := finishes.fixes.trans ((Fixes.next found).trans draftFixed)
  refine ⟨last.position, fixed.position_le_length inside, fun closing stop closes ends => ?_⟩
  rcases fixed.cut inside [closing, stop] with
    ⟨d', ⟨traced, read⟩, start', ⟨same, rfl⟩, contract⟩
  rcases contract closing stop ⟨last.position + 2, []⟩ closes ends ⟨rfl, rfl⟩ with
    ⟨inner, contract⟩
  have first := passes_next same
  have isIdentifier : d'.isIdentifier = true :=
    (first.isKind _).trans (((passes_next found).isKind _).symm.trans identifier)
  have isKeyword : d'.lexeme = settings.contractKeyword :=
    first.lexeme.trans ((passes_next found).lexeme.symm.trans keyword)
  have next := readNextContract_of_keyword isIdentifier isKeyword
  rw [contract] at next
  have filled : d'.ahead ≠ [] := by
    rw [first.1]
    exact List.cons_ne_nil _ _
  rw [readContracts_of_done filled next,
    readContracts_of_empty (c := ⟨last.position + 2, []⟩) rfl, Attempt.followedBy_nil] at read
  exact appends_of_done (d := ⟨last.position + 2, []⟩) read

omit inside finishes

theorem outcome_of_raised {s : Session} {position : Nat} {e : SyntaxError}
    (raised : (s.perform (.readFrom position)).reply.error? = some e) :
    (readContracts s.settings (.ofPosition s.tokens position)).outcome = .error e := by
  simp only [perform, cursor] at raised
  rcases outcome : (readContracts s.settings (.ofPosition s.tokens position)).outcome with e' | d
  · rw [outcome] at raised
    exact congrArg Except.error (Option.some.inj raised)
  · rw [outcome] at raised
    cases raised

theorem ahead_ne_nil_of_halts {left : List Contract} {e : SyntaxError}
    (halts : Halts settings d left (.error e)) : d.ahead ≠ [] := by
  cases halts with
  | refused filled => exact filled
  | broken identifier =>
    rcases exists_token_of_isKind identifier with ⟨t, found⟩
    rw [(passes_next found).1]
    exact List.cons_ne_nil _ _

/-- Every step only attaches contracts, and depends on the steps before it through the settings
    alone. Where reading on from a position fails, the tokens before some place give the contracts
    that have been finished. If one more has been attached, it was broken off inside, and closing
    it earlier gives it with the members before any one that it has. -/
theorem perform_after (tokens : List Token) (settings : Settings) (history : List Request)
    (request : Request) :
    let s := (start tokens settings).after history
    let step := s.perform request
    let fresh := (start tokens s.settings).perform request
    (start tokens settings).run (history ++ [request])
      = (start tokens settings).run history ++ [step] ∧
    s.root.children <+: step.session.root.children ∧
    (step.session.root = s.root ∨ request = .readAll ∨ ∃ position, request = .readFrom position) ∧
    (step.reply.own = fresh.reply.own ∧ step.trace = fresh.trace ∧
      step.session.settings = fresh.session.settings ∧
      step.session.contracts = s.contracts ++ fresh.session.contracts) ∧
    ∀ position e, request = .readFrom position → step.reply.error? = some e →
      ∃ r < tokens.length, ∃ finished left,
        (start (tokens.take r) s.settings).Appends position finished r ∧
        fresh.session.contracts = finished ++ left ∧
        Halts s.settings (.ofPosition tokens r) left (.error e) ∧
        ∀ draft ∈ left, ∀ count < draft.members.length, ∃ q ≤ tokens.length,
          ∀ closing stop : Token, closing.symbol? = some '\x7d' → stop.symbol? = some ';' →
            (start (tokens.take q ++ [closing, stop]) s.settings).Appends position
              (finished ++ [{ draft with members := draft.members.take count }]) (q + 2) := by
  intro s step fresh
  have sameTokens : s.tokens = tokens := tokens_after (start tokens settings) history
  have alone := s.perform_fresh request
  rw [sameTokens] at alone
  refine ⟨run_append_singleton .., children_perform .., root_perform .., alone, ?_⟩
  intro position e isRead raised
  subst isRead
  have failed := outcome_of_raised raised
  rw [sameTokens] at failed
  obtain ⟨finished, d, left, finishes, halts, built⟩ :=
    readContracts_cases s.settings (.ofPosition tokens position)
  rw [failed] at halts
  have here := finishes.fixes.eq_ofPosition
  have filled := ahead_ne_nil_of_halts halts
  have inside : d.position < tokens.length := by
    rw [here] at filled
    exact List.drop_eq_nil_iff.not.mp filled |> Nat.lt_of_not_le
  have within : position ≤ tokens.length :=
    Nat.le_of_lt (Nat.lt_of_le_of_lt finishes.fixes.position_le inside)
  refine ⟨d.position, inside, finished, left, appends_of_finishes within finishes, built,
    here ▸ halts, ?_⟩
  intro draft member count reached
  cases halts with
  | refused => cases member
  | broken identifier keyword failed =>
    rcases List.mem_singleton.mp member with rfl
    exact appends_of_broken within finishes identifier keyword failed reached

/-- A value is missing in the second contract, and the session has read the same tokens before. -/
theorem perform_after_missing_value :
    let tokens := tokenize "contract Aa : Bb { }; contract Cc : Dd { int yy; int zz = };".toList
    let s := (start tokens .standard).after [.readAll]
    (s.perform (.readFrom 0)).reply.error? = some ⟨.dataEnd, ⟨18, some ⟨.other, "\x7d", 1, 59⟩⟩⟩ ∧
    ∃ r < tokens.length, ∃ finished left,
      (start (tokens.take r) s.settings).Appends 0 finished r ∧
      ((start tokens s.settings).perform (.readFrom 0)).session.contracts = finished ++ left := by
  intro tokens s
  have raised : (s.perform (.readFrom 0)).reply.error?
      = some ⟨.dataEnd, ⟨18, some ⟨.other, "\x7d", 1, 59⟩⟩⟩ := by
    decide +kernel
  rcases (perform_after tokens .standard [.readAll] (.readFrom 0)).2.2.2.2 0 _ rfl raised with
    ⟨r, inside, finished, left, appended, attached, _⟩
  exact ⟨raised, r, inside, finished, left, appended, attached⟩

end Session
end ContractLang
