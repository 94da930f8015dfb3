import ContractLang.Declaration.Basic

namespace ContractLang.Trace

def contract (name base : String) : String :=
  "defining contract " ++ Text.quoted name ++ " with base class " ++ Text.quoted base

def associatedType (name : String) : String := "...adding a type " ++ Text.quoted name

def value (code : String) : String := "   value: " ++ code

def data (type name : String) : String := "...adding a variable '" ++ type ++ " " ++ name ++ "'"

def initial (code : String) : String := "   default: " ++ code

def method (returnType name arguments : String) : String :=
  "...adding a function '" ++ returnType ++ " " ++ name ++ "(" ++ arguments ++ ")'"

def attributes (names : List String) : String := "   with attributes: " ++ joinNames names

def body (code : String) : String := "   and code: " ++ code

end ContractLang.Trace
