namespace ContractLang

/-- The words of the language that may be chosen, and whether reading is traced. -/
structure Settings where
  contractKeyword : String
  aliasKeyword : String
  requiredMarker : String
  defaultMarker : String
  debug : Bool
  deriving DecidableEq, Repr

inductive WordField where
  | contractKeyword
  | aliasKeyword
  | requiredMarker
  | defaultMarker
  deriving DecidableEq, Repr

inductive Assignment where
  | word (field : WordField) (text : String)
  | debug (value : Bool)
  deriving DecidableEq, Repr

namespace Settings

def standard : Settings := ⟨"contract", "using", "required", "default", false⟩

def word (settings : Settings) : WordField → String
  | .contractKeyword => settings.contractKeyword
  | .aliasKeyword => settings.aliasKeyword
  | .requiredMarker => settings.requiredMarker
  | .defaultMarker => settings.defaultMarker

def assign (settings : Settings) : Assignment → Settings
  | .word .contractKeyword text => { settings with contractKeyword := text }
  | .word .aliasKeyword text => { settings with aliasKeyword := text }
  | .word .requiredMarker text => { settings with requiredMarker := text }
  | .word .defaultMarker text => { settings with defaultMarker := text }
  | .debug value => { settings with debug := value }

/-- A trace as it is shown: nothing at all unless `debug` is on. -/
def shown (settings : Settings) (trace : List String) : List String :=
  if settings.debug then trace.map ("DEBUG: " ++ ·) else []

theorem word_assign_word (settings : Settings) (field other : WordField) (text : String) :
    (settings.assign (.word field text)).word other
      = if other = field then text else settings.word other := by
  cases field <;> cases other <;> rfl

theorem word_assign_debug (settings : Settings) (value : Bool) (field : WordField) :
    (settings.assign (.debug value)).word field = settings.word field := by
  cases field <;> rfl

theorem debug_assign_word (settings : Settings) (field : WordField) (text : String) :
    (settings.assign (.word field text)).debug = settings.debug := by
  cases field <;> rfl

theorem shown_append (settings : Settings) (first second : List String) :
    settings.shown (first ++ second) = settings.shown first ++ settings.shown second := by
  unfold shown
  split
  · exact List.map_append
  · rfl

end Settings
end ContractLang
