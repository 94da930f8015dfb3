namespace ContractLang

/-- Ordered data of the kinds that a dump needs. -/
inductive Json where
  | text (s : String)
  | flag (b : Bool)
  | list (items : List Json)
  | object (fields : List (String × Json))

end ContractLang
