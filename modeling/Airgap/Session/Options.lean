import Airgap.Mnemonic.Scheme
import Airgap.Text.Digit

/-!
# The command line of a session

Options start with two dashes and may be cut short as long as they stay clear; a value follows its
option, or an equals sign. Two dashes after an equals sign take an earlier value back. There are no
other arguments.

* `Token`: what one argument is on its own.
* `Invocation.parse`: what the arguments ask for.
-/

namespace Airgap.Session

open Mnemonic (Scheme)

/-- The choices made on the command line. -/
structure Options where
  scheme : Option Scheme
  /-- Whether fixed rolls are used instead of typed ones. -/
  demo : Bool
  passphrase : String
  deriving DecidableEq, Repr

/-- How the program is called. -/
def Options.help : String :=
  "usage: airgap [-h] [--scheme \x7bbip39,electrum\x7d] [--demo] [--passphrase PASSPHRASE]\n" ++
  "       airgap audit\n\n" ++
  "Walk the whole pipeline from dice rolls to an account xpub.\n\noptions:\n" ++
  "  -h, --help            show this help message and exit\n" ++
  "  --scheme \x7bbip39,electrum\x7d\n  --demo\n  --passphrase PASSPHRASE\n"

/-- What the arguments ask for. -/
inductive Invocation where
  | run (options : Options)
  | help
  /-- The arguments are not understood. -/
  | refused
  deriving DecidableEq, Repr

/-- The options by name. -/
inductive Switch where
  | help
  | scheme
  | demo
  | passphrase
  deriving DecidableEq, Repr

namespace Switch

/-- All options. -/
def all : List Switch := [.help, .scheme, .demo, .passphrase]

/-- The full name of an option. -/
def name : Switch → List Char
  | .help => "--help".toList
  | .scheme => "--scheme".toList
  | .demo => "--demo".toList
  | .passphrase => "--passphrase".toList

/-- The options that a name can be short for. -/
def matching (short : List Char) : List Switch := all.filter fun s => short.isPrefixOf s.name

end Switch

/-- What one argument is on its own. -/
inductive Token where
  /-- An option, with what follows an equals sign. -/
  | option (s : Switch) (value : Option String)
  /-- An option without the value that it may have been given. -/
  | reset (s : Switch)
  /-- The short help option, with what follows it in the argument. -/
  | shortHelp (rest : List Char)
  | ambiguous
  /-- It looks like an option but is none. -/
  | unknown
  | value (text : String)
  /-- Two dashes: all that follows are values. -/
  | separator
  deriving DecidableEq, Repr

/-- Whether characters are one or more decimal digits. -/
def areDigits (cs : List Char) : Bool := !cs.isEmpty && cs.all (Text.decimalValue? · |>.isSome)

/-- Whether the text after a dash makes a negative number. -/
def isNumber (cs : List Char) : Bool :=
  let cs := if cs.getLast? = some '\n' then cs.dropLast else cs
  let fraction := cs.dropWhile (Text.decimalValue? · |>.isSome)
  areDigits cs || (fraction.head? = some '.' && areDigits fraction.tail)

/-- What an argument is that starts with a dash but names no option. -/
def otherToken (arg : List Char) : Token :=
  if isNumber arg.tail || arg.contains ' ' then .value (String.ofList arg) else .unknown

/-- What one argument is on its own. -/
def Token.ofArgument (arg : String) : Token :=
  match arg.toList with
  | ['-', '-'] => .separator
  | '-' :: '-' :: cs =>
    let name := ('-' :: '-' :: cs).takeWhile (· != '=')
    let value := if cs.contains '=' then
      some (String.ofList ((cs.dropWhile (· != '=')).drop 1)) else none
    match Switch.matching name with
    | [] => otherToken ('-' :: '-' :: cs)
    | [s] => if value = some "--" then .reset s else .option s value
    | _ => .ambiguous
  | '-' :: 'h' :: rest => .shortHelp rest
  | '-' :: c :: cs => otherToken ('-' :: c :: cs)
  | _ => .value arg

/-- Whether what follows the short help option in its argument leaves it standing: nothing but the
same letter again, perhaps after an equals sign. -/
def helpStands : List Char → Bool
  | '=' :: rest => !rest.isEmpty && rest.all (· == 'h')
  | rest => rest.all (· == 'h')

/-- What tokens ask for, given the options read so far and whether a stray argument was seen. -/
def Invocation.ofTokens (o : Options) (stray : Bool) : List Token → Invocation
  | [] => if stray then .refused else .run o
  | .option .help none :: _ => .help
  | .option .demo none :: ts => ofTokens { o with demo := true } stray ts
  | .option .scheme (some v) :: ts | .option .scheme none :: .value v :: ts =>
    match Scheme.ofName? v with
    | some s => ofTokens { o with scheme := some s } stray ts
    | none => .refused
  | .option .passphrase (some v) :: ts | .option .passphrase none :: .value v :: ts =>
    ofTokens { o with passphrase := v } stray ts
  | .reset .scheme :: ts => ofTokens { o with scheme := none } stray ts
  | .reset .passphrase :: ts => ofTokens { o with passphrase := "" } stray ts
  | .shortHelp rest :: _ => if helpStands rest then .help else .refused
  | .unknown :: ts | .value _ :: ts => ofTokens o true ts
  | _ => .refused

/-- What the arguments ask for. Arguments after a separator are values. -/
def Invocation.parse (args : List String) : Invocation :=
  let tokens := (args.map Token.ofArgument).takeWhile (· ≠ .separator)
  if tokens.contains .ambiguous then .refused
  else
    ofTokens ⟨none, false, ""⟩ false
      (if tokens.length < args.length then tokens ++ [.separator] else tokens)

end Airgap.Session
