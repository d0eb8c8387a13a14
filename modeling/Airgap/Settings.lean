import Airgap.Error
import Airgap.Network
import Airgap.Text.Case
import Airgap.Text.Split

/-!
# Settings

The few choices an operator can make without touching key material: the network that keys are
written for, the scheme of mnemonics, and how much is logged. They are read from named variables,
blanks around a value and its case being ignored.
-/

namespace Airgap

open Mnemonic (Scheme)

/-- How much is logged. -/
inductive LogLevel where
  | debug
  | info
  | warning
  | error
  | critical
  deriving DecidableEq, Repr

namespace LogLevel

/-- All levels, most talkative first. -/
def all : List LogLevel := [.debug, .info, .warning, .error, .critical]

/-- The name of a level. -/
def name : LogLevel → String
  | .debug => "DEBUG"
  | .info => "INFO"
  | .warning => "WARNING"
  | .error => "ERROR"
  | .critical => "CRITICAL"

/-- The severity from which on messages are logged. -/
def severity : LogLevel → Nat
  | .debug => 10
  | .info => 20
  | .warning => 30
  | .error => 40
  | .critical => 50

/-- The level of a name. -/
def ofName? (s : String) : Option LogLevel := all.find? (·.name == s)

end LogLevel

/-- The choices of an operator. -/
structure Settings where
  network : Network
  scheme : Scheme
  logLevel : LogLevel
  deriving DecidableEq, Repr

namespace Settings

/-- The variable that holds the network. -/
def networkVariable : String := "SEEDKIT_NETWORK"

/-- The variable that holds the scheme. -/
def schemeVariable : String := "SEEDKIT_DEFAULT_SCHEME"

/-- The variable that holds the level of logging. -/
def logLevelVariable : String := "SEEDKIT_LOG_LEVEL"

/-- All variables that are read. -/
def variableNames : List String := [networkVariable, schemeVariable, logLevelVariable]

/-- The value of a variable in upper case, without blanks around it. -/
def upperValue (value : String) : String := String.ofList (Text.upper (Text.strip value.toList))

/-- The value of a variable in lower case, without blanks around it. -/
def lowerValue (value : String) : String := String.ofList (Text.lower (Text.strip value.toList))

/-- The settings that variables hold; a missing one has its default. -/
def ofVariables (lookup : String → Option String) : Except Error Settings := do
  let networkName := upperValue ((lookup networkVariable).getD "mainnet")
  let network ← match Network.ofName? networkName with
    | some n => pure n
    | none => throw (.networkSetting (String.ofList (Text.lower networkName.toList)))
  let schemeName := lowerValue ((lookup schemeVariable).getD "bip39")
  let scheme ← match Scheme.ofName? schemeName with
    | some s => pure s
    | none => throw (.schemeSetting schemeName)
  match LogLevel.ofName? (upperValue ((lookup logLevelVariable).getD "WARNING")) with
  | some level => return ⟨network, scheme, level⟩
  | none => throw .logLevelSetting

end Settings

end Airgap
