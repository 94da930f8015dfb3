import ContractLang.Proofs.CommandLine.ParseRun
import ContractLang.Proofs.Node.Dump

namespace ContractLang.CommandLine

/-- The text that `parse` puts out for a tree. -/
def printed (n : Node) : String := lines [n.dump.lines]

end ContractLang.CommandLine
