import ContractLang.CommandLine.Run

open ContractLang ContractLang.CommandLine

/-- What a failed file operation means for the path it was given. The system gives the number of
    an error with either sign. -/
def fileError (e : IO.Error) : FileError :=
  match e with
  | .noFileOrDirectory .. => .notFound
  | .invalidArgument .. => .nameTooLong
  | .inappropriateType _ code _ =>
    let number := (FileError.number? .isDirectory).getD 0
    if code.toNat = number ∨ code.toNat + number = UInt32.size then .isDirectory else .notDirectory
  | _ => .notFound

def readPath (p : Path) : IO (Except FileError (List UInt8)) := do
  try
    let bytes ← IO.FS.readBinFile p.text
    return .ok bytes.toList
  catch e => return .error (fileError e)

def present (report : Report) : IO UInt32 := do
  (← IO.getStdout).putStr report.out
  (← IO.getStderr).putStr report.err
  match report.ending with
  | .exit code => return code.toUInt32
  | .died failure =>
    (← IO.getStderr).putStrLn failure.message
    return 1

def performPlan (plan : Plan) : IO UInt32 := do
  match plan with
  | .finish report => present report
  | .write path bytes out =>
    let written ← try
        IO.FS.writeBinFile path.text ⟨bytes.toArray⟩
        pure (Except.ok ())
      catch e => pure (.error (fileError e))
    match written with
    | .ok () => present (.success out "")
    | .error e => present (.death (.file e path))

def main (arguments : List String) : IO UInt32 := do
  let env? ← IO.getEnv "CONTRACTGEN_CONFIG"
  let paths := match Invocation.read arguments with
    | .ok invocation => invocation.paths env?
    | .error _ => []
  let known ← paths.mapM fun p => return (p, ← readPath p)
  let contents (p : Path) : Except FileError (List UInt8) :=
    ((known.find? (·.1 == p)).map (·.2)).getD (.error .notFound)
  performPlan (plan env? contents arguments)
