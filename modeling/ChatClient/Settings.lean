import ChatClient.Failure
import ChatClient.Settings.Scalar
import ChatClient.Tool

/-! Settings of one completion call. They are kept as given; sampling values are forced into range
and missing values filled in when a request is built. -/

namespace ChatClient

open Json

structure Settings where
  temperature : Binary64
  topP : Binary64
  maxTokens : Option UInt32
  /-- A seed for best-effort repeatable sampling. -/
  seed : Option Int64
  /-- Whether the server should put its safety prompt in front. -/
  safePrompt : Bool
  tools : List FunctionDefinition

namespace Settings

/-- The sampling value of settings that give none. -/
def defaultSampling : Binary64 :=
  Binary.ofInt .double 1

def default : Settings where
  temperature := defaultSampling
  topP := defaultSampling
  maxTokens := none
  seed := none
  safePrompt := false
  tools := []

/-- The settings of a call: those given, or the default. -/
def resolve (given : Option Settings) : Settings :=
  given.getD default

def decode : Decoder Settings :=
  record "ExecutionSettings"
      [slot "temperature", slot "top_p", slot "max_tokens", slot "random_seed",
        ⟨"safe_prompt", ["safe_mode"]⟩, slot "tools"] fun parts =>
    Settings.mk
    <$> parts.withDefault "temperature" defaultSampling (Scalar.decodeWith Scalar.toFloat)
    <*> parts.withDefault "top_p" defaultSampling (Scalar.decodeWith Scalar.toFloat)
    <*> parts.withDefault "max_tokens" none (Decode.optional (Scalar.decodeWith Scalar.toCount))
    <*> parts.withDefault "random_seed" none (Decode.optional (Scalar.decodeWith Scalar.toInteger))
    <*> parts.withDefault "safe_prompt" false (Scalar.decodeWith Scalar.toBool)
    <*> parts.withDefault "tools" [] (Decode.list FunctionDefinition.decode)

/-- The settings in a bag of values handed over by a host. Null is an empty bag, and keys that are
not known are ignored. -/
def ofBag (bag : Value) : Except ClientError Settings :=
  if bag.isNull then .ok default
  else
    match decodeValue decode bag with
    | .ok settings => .ok settings
    | .error error => .error (.invalidSettings error)

def toJson (settings : Settings) : Value :=
  .object (field "temperature" (.float settings.temperature) ++
    field "top_p" (.float settings.topP) ++
    field "max_tokens" (.ofOption (fun n => .nat n.toNat) settings.maxTokens) ++
    field "random_seed" (.ofOption (fun n => .int n.toInt) settings.seed) ++
    field "safe_prompt" (.bool settings.safePrompt) ++
    field "tools" (.array (settings.tools.map FunctionDefinition.toJson)))

/-- The bag of values that settings are handed over in. -/
def toBag (settings : Settings) : Value :=
  settings.toJson.stored

end Settings

end ChatClient
