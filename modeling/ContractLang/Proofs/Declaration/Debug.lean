import ContractLang.Proofs.Declaration.Told

namespace ContractLang

open Cursor

section

variable (settings : Settings) (debug : Bool)

theorem readMember_debug (c : Cursor) :
    readMember { settings with debug := debug } c = readMember settings c := rfl

theorem readMembers_debug (c : Cursor) :
    readMembers { settings with debug := debug } c = readMembers settings c := by
  by_cases closes : c.symbol? = some '\x7d'
  · rw [readMembers_of_brace closes, readMembers_of_brace closes]
  · have same := readMember_debug settings debug c
    rcases ran : readMember settings c with ⟨built, trace, e | d⟩
    · rw [readMembers_of_failed closes ran, readMembers_of_failed closes (same.trans ran)]
    · have shorter := ahead_length_lt_of_readMember settings c d (by rw [ran])
      rw [readMembers_of_done closes ran, readMembers_of_done closes (same.trans ran),
        readMembers_debug d]
termination_by c.ahead.length

theorem readNextContract_debug (c : Cursor) :
    readNextContract { settings with debug := debug } c = readNextContract settings c := by
  simp only [readNextContract, readContract, readContractBody, readMembers_debug]

/-- The readers know the words of the settings alone. -/
theorem readContracts_debug (c : Cursor) :
    readContracts { settings with debug := debug } c = readContracts settings c := by
  by_cases empty : c.ahead = []
  · rw [readContracts_of_empty empty, readContracts_of_empty empty]
  · have same := readNextContract_debug settings debug c
    rcases ran : readNextContract settings c with ⟨built, trace, e | d⟩
    · rw [readContracts_of_failed empty ran, readContracts_of_failed empty (same.trans ran)]
    · have shorter := ahead_length_lt_of_readNextContract settings c d (by rw [ran])
      rw [readContracts_of_done empty ran, readContracts_of_done empty (same.trans ran),
        readContracts_debug d]
termination_by c.ahead.length

theorem readSource_debug (source : List Char) :
    readSource { settings with debug := debug } source = readSource settings source :=
  readContracts_debug settings debug (.start (tokenize source))

end

theorem faithful_readSource (settings : Settings) (source : List Char) :
    (readSource settings source).Faithful toldBy :=
  faithful_readContracts settings _ (tokenize_fits source)

/-- The messages that reading a source shows. -/
def messages (settings : Settings) (source : List Char) : List String :=
  settings.shown (readSource settings source).trace

section Messages

variable {settings : Settings} {source : List Char}

theorem messages_of_debug (on : settings.debug = true) :
    messages settings source = (readSource settings source).trace.map ("DEBUG: " ++ ·) := if_pos on

theorem messages_of_not_debug (off : settings.debug = false) : messages settings source = [] := by
  rw [messages, Settings.shown, off]
  rfl

theorem messages_eq_told (on : settings.debug = true) {next : Cursor}
    (ran : (readSource settings source).outcome = .ok next) :
    messages settings source
      = (toldBy (readSource settings source).built).map ("DEBUG: " ++ ·) := by
  rw [messages_of_debug on, (faithful_readSource settings source).whole next ran]

theorem messages_prefix_told (on : settings.debug = true) :
    messages settings source
      <+: (toldBy (readSource settings source).built).map ("DEBUG: " ++ ·) := by
  rw [messages_of_debug on]
  exact (faithful_readSource settings source).starts.map _

end Messages
end ContractLang
