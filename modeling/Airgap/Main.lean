import Airgap.Session.Wallet
import Airgap.WordList.Audit

/-!
# The command line

With `audit` as its only argument the program audits the English word list; otherwise it is a session
whose rolls are typed, one a line.
-/

namespace Airgap.CommandLine

open Entropy (Collector)
open Session (Options Invocation)

/-- The variables that settings are read from, as they are set. -/
def environment : IO (String → Option String) := do
  let values ← Settings.variableNames.mapM fun name => return (name, ← IO.getEnv name)
  return fun name => (values.lookup name).join

/-- Reports a failure. -/
def fail (e : Error) : IO UInt32 := do
  IO.eprintln e.message
  return 1

/-- Asks for rolls until the session is finalized. -/
partial def listen (input output : IO.FS.Stream) (c : Collector) :
    IO (Except Error Collector) := do
  output.putStr Session.prompt
  output.flush
  let line ← input.getLine
  if line.isEmpty then return .error .endOfInput
  match Session.readRoll line with
  | .error e => return .error e
  | .ok none => listen input output c
  | .ok (some roll) =>
    let (next, said) := Session.hear c roll
    output.putStr said
    if next.finalized then return .ok next else listen input output next

/-- A session with the chosen options. -/
def runSession (o : Options) : IO UInt32 := do
  let lookup ← environment
  match Settings.ofVariables lookup >>= fun s => return (s, ← Session.start o s) with
  | .error e => fail e
  | .ok (settings, codec, fresh) =>
    let collected ← if o.demo then pure (Session.demonstrate fresh)
      else listen (← IO.getStdin) (← IO.getStdout) fresh
    match collected with
    | .error e => fail e
    | .ok c =>
      let (result, said) := (Session.finish codec settings.network o codec.rounds c).run.run ""
      IO.print said
      match result with
      | .ok code => return UInt32.ofNat code
      | .error e => fail e

/-- The audit of the English list. -/
def runAudit : IO UInt32 := do
  let l := WordList.english
  let a := WordList.Audit.ofWords l.words.toList
  IO.print (a.report l.language l.words.size)
  return UInt32.ofNat a.exitCode

end Airgap.CommandLine

open Airgap in
/-- Runs what the arguments ask for. -/
def main (args : List String) : IO UInt32 :=
  if args = ["audit"] then CommandLine.runAudit
  else match Session.Invocation.parse args with
    | .run o => CommandLine.runSession o
    | .help => do
      IO.print Session.Options.help
      return 0
    | .refused => do
      IO.eprint Session.Options.help
      return UInt32.ofNat Session.refusedCode
