import GuestSim.CommandLine

/-! The program: the command line on the files, variables and clock of the operating system. -/

namespace GuestSim

/-- The number of an error; inspecting a file gives it negated, opening one does not. -/
def errorNumber (number : UInt32) : UInt32 :=
  if number < 0x80000000 then number else 0 - number

/-- What a failed access to a file means, told apart by the number of the error. -/
def fileError : IO.Error → FileError
  | .noFileOrDirectory .. => .notFound
  | .permissionDenied .. => .permissionDenied
  | .inappropriateType _ number _ =>
    if errorNumber number = 20 then .notDirectory else .isDirectory
  | .invalidArgument _ number text =>
    if errorNumber number = 36 then .nameTooLong else .other text
  | e => .other (toString e)

def systemHost : CommandLine.Host IO where
  readFile path := do
    try return .ok (← IO.FS.readBinFile path).toList
    catch e => return .error (fileError e)
  writeFile path lines := do
    try return .ok (← IO.FS.writeBinFile path ⟨(CommandLine.textBytes lines).toArray⟩)
    catch e => return .error (fileError e)
  now := IO.monoNanosNow

end GuestSim

open GuestSim in
def main (args : List String) : IO UInt32 := do
  let vars ← CommandLine.knownVars.mapM fun name => do return (name, ← IO.getEnv name)
  let report ← CommandLine.report systemHost (fun name => (vars.lookup name).join) args
  for line in report.out do IO.println line
  IO.eprint report.err
  return report.status.toUInt32
