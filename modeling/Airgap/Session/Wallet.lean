import Airgap.KeyTree.Derive
import Airgap.Mnemonic.Codec
import Airgap.Session.Options
import Airgap.Session.Rolls
import Airgap.Settings

/-!
# From rolls to an account key

A session collects rolls of a six-sided die, tests them, turns them into a mnemonic and its seed,
and shows the fingerprint of the master key and the public key of the first account.

* `targetBits`, `accountPath`: what a scheme asks for.
* `finish`, `showWallet`: all that follows the rolls.
* `run`: a whole session, from its options, variables and typed lines.
* `Invocation.perform`: the same from the arguments of a call.
-/

namespace Airgap.Session

open Entropy (Collector)
open KeyTree (Path)
open Mnemonic (Codec Scheme)

/-- Steps that say something and may fail; what was said before a failure stays said. -/
abbrev Saying := ExceptT Error (StateM String)

/-- Says a text. -/
def say (s : String) : Saying Unit := modify (· ++ s)

/-- A step that says nothing. -/
def quietly {α : Type} (x : Except Error α) : Saying α :=
  match x with
  | .ok a => pure a
  | .error e => throw e

/-- The bits that a mnemonic of twelve words takes. -/
def targetBits : Scheme → Nat
  | .bip39 => 128
  | .electrum => 132

/-- The path of the first account. -/
def accountPath : Scheme → String
  | .bip39 => "m/84'/0'/0'"
  | .electrum => "m/0'"

/-- A number right aligned in two columns. -/
def twoColumns (n : Nat) : String := if n < 10 then s!" {n}" else s!"{n}"

/-- The words, numbered, one a line. -/
def numberedWords (ws : List String) : String :=
  String.join (ws.zipIdx.map fun p => "  " ++ twoColumns (p.2 + 1) ++ ". " ++ p.1 ++ "\n")

/-- The mnemonic of collected entropy. -/
def mnemonicOf (codec : Codec) (entropy : Bytes) : Saying Mnemonic :=
  match codec with
  | .bip39 l => quietly (Mnemonic.Bip39.encode l entropy)
  | .electrum l v => do
    let (m, passed) ← quietly (Mnemonic.Electrum.generate l v entropy none)
    say s!"Electrum search took {passed} iterations\n"
    return m

/-- The words of a mnemonic, and the keys of its wallet: the exit code. -/
def showWallet (codec : Codec) (network : Network) (o : Options) (rounds : Int) (m : Mnemonic) :
    Saying Nat := do
  say ("\nMnemonic:\n" ++ numberedWords m.words)
  let seed ← quietly (codec.toSeed (.ready m) o.passphrase true rounds)
  let root ← quietly (KeyTree.masterKey seed network)
  let path := accountPath codec.scheme
  let steps ← quietly (Path.parse path)
  let account ← quietly (root.derivePath steps)
  let fingerprint ← quietly root.fingerprint
  say ("\nMaster fingerprint: " ++ Bytes.toHex fingerprint ++ "\n")
  let shown ← quietly account.neuter
  let text ← quietly shown.toText
  say ("Account " ++ path ++ " xpub:\n  " ++ text ++ "\n")
  return 0

/-- All that follows the rolls: the exit code. -/
def finish (codec : Codec) (network : Network) (o : Options) (rounds : Int) (c : Collector) :
    Saying Nat := do
  say s!"Collected {c.target} bits from {c.events} rolls ({c.discarded} discarded)\n"
  let report ← quietly c.healthCheck
  say (report.summary ++ "\n")
  let entropy ← quietly (c.entropyBytes (some .right))
  if !report.passes && !o.demo then
    say "\nRolls look non-random; check the die and roll again.\n"
    return 1
  else
    let m ← mnemonicOf codec entropy
    showWallet codec network o rounds m

/-- The codec and the fresh collector of a session. -/
def start (o : Options) (settings : Settings) : Except Error (Codec × Collector) := do
  let scheme := o.scheme.getD settings.scheme
  return (Codec.ofScheme scheme WordList.english,
    ← Collector.create .d6 (targetBits scheme) none)

/-- The finalized session of the fixed rolls. -/
def demonstrate (c : Collector) : Except Error Collector :=
  match (Collector.extend ((demoRolls c.target).map .outcome)).run c with
  | (.ok _, c') => .ok c'
  | (.error e, _) => .error e

/-- A whole session with options: the exit code. -/
def run (o : Options) (lookup : String → Option String) (lines : List String) (rounds : Int) :
    Saying Nat := do
  let settings ← quietly (Settings.ofVariables lookup)
  let (codec, c) ← quietly (start o settings)
  let c ← if o.demo then quietly (demonstrate c) else do
    let (result, said) := converse c lines
    say said
    quietly result
  finish codec settings.network o rounds c

/-- What a session ends in, and all that it said. -/
def transcript (o : Options) (lookup : String → Option String) (lines : List String)
    (rounds : Int) : Except Error Nat × String :=
  (run o lookup lines rounds).run.run ""

/-- The exit code of a call whose arguments are not understood. -/
def refusedCode : Nat := 2

/-- What a call of the program ends in, and all that it said. -/
def Invocation.perform (call : Invocation) (lookup : String → Option String) (lines : List String)
    (rounds : Int) : Except Error Nat × String :=
  match call with
  | .refused => (.ok refusedCode, "")
  | .help => (.ok 0, Options.help)
  | .run o => transcript o lookup lines rounds

end Airgap.Session
