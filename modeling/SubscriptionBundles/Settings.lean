import SubscriptionBundles.Bundle.Basic
import SubscriptionBundles.Error
import SubscriptionBundles.Settings.EntryPath

/-!
# Settings

How a service is configured by the variables of its environment.

* `Settings.ofVariables`   the settings that variables name, each with a default;
* `Settings.sharedBelow`   what variables set in a part of the settings shared by all services;
* `readCount?`             a whole number with an optional plus sign, as variables write it;
* `Settings.isProduction`  the environment is called production, in any case of letters.
-/

namespace SubscriptionBundles

structure Settings where
  environment : String
  serviceName : String
  serviceVersion : String
  logLevel : String
  telemetryEndpoint : Option String
  maxExternalKeyLength : Nat
  cachesIdentities : Bool
deriving DecidableEq

/-- the largest count that a variable may give -/
def maxCount : Nat := 18446744073709551615

def readCountChars? (cs : List Char) : Option Nat :=
  let digits := match cs with
    | '+' :: rest => rest
    | _ => cs
  if !digits.isEmpty && digits.all Char.isDigit && Text.ofDigits digits ≤ maxCount then
    some (Text.ofDigits digits)
  else none

def readCount? (text : String) : Option Nat := readCountChars? text.toList

def readSwitch? (text : String) : Option Bool :=
  if text = "true" then some true else if text = "false" then some false else none

namespace Settings

/-- the values that variables give below a root of the shared settings, with the steps to them -/
def sharedBelow (root : String) (given : List (String × String)) :
    List (List PathStep × String) :=
  given.filterMap fun v => do
    let path ← EntryPath.ofVariable? v.1
    if path.root = root then return (path.steps, v.2) else none

/-- of several spellings of the variable the last counts; no step leads on from a text -/
def environmentOf (given : List (String × String)) : Except ServiceError String :=
  let entries := sharedBelow "environment" given
  match entries.findSome? fun e => e.1.head? with
  | some step => .error (.config
      ("invalid type: " ++ step.container ++ ", expected a string for key `environment`"))
  | none => .ok ((entries.getLast?.map Prod.snd).getD "development")

def keyLengthVariable : String := "BUNDLE_MAX_EXTERNAL_KEY_LENGTH"

/-- never above the longest key that any configuration allows -/
def keyLengthOf : Option String → Except ServiceError Nat
  | none => .ok SubscriptionBundles.maxExternalKeyLength
  | some raw =>
    match readCount? raw with
    | none => .error (.config (keyLengthVariable ++ " must be a positive integer, got " ++ raw))
    | some 0 => .error (.config (keyLengthVariable ++ " must be greater than zero"))
    | some n => .ok (min n SubscriptionBundles.maxExternalKeyLength)

def ofVariables (given : List (String × String)) : Except ServiceError Settings := do
  let environment ← environmentOf given
  let keyLength ← keyLengthOf (given.lookup keyLengthVariable)
  return {
    environment := environment
    serviceName := (given.lookup "SERVICE_NAME").getD "subscription-service"
    serviceVersion := (given.lookup "SERVICE_VERSION").getD "0.1.0"
    logLevel := (given.lookup "LOG_LEVEL").getD "info"
    telemetryEndpoint := given.lookup "OTLP_ENDPOINT"
    maxExternalKeyLength := keyLength
    cachesIdentities := ((given.lookup "IDENTITY_CACHE_ENABLED").bind readSwitch?).getD true }

def isProduction (s : Settings) : Bool := Text.sameAscii s.environment "production"

end Settings

end SubscriptionBundles
