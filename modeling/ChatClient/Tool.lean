import ChatClient.Json.Record
import ChatClient.Text.Blank

/-! Functions that a model may call: how they are offered to it, and how it asks for a call. -/

namespace ChatClient

open Json

/-- A function on offer. Its parameters are described by a JSON schema. -/
structure FunctionDefinition where
  name : String
  description : Option String
  parameters : Option Value

namespace FunctionDefinition

def of (name : String) : FunctionDefinition :=
  ⟨name, none, none⟩

/-- The name of a plugin's function: plugin and function joined by a hyphen. -/
def qualifiedName (plugin : Option String) (function : String) : String :=
  match plugin with
  | some plugin => if plugin.isEmpty then function else plugin ++ "-" ++ function
  | none => function

def withDescription (definition : FunctionDefinition) (description : String) :
    FunctionDefinition :=
  { definition with description := some description }

/-- Attaches a parameter schema. The empty object is dropped, since the server refuses it for a
function without parameters. -/
def withParameters (definition : FunctionDefinition) (parameters : Value) : FunctionDefinition :=
  { definition with
    parameters :=
      match parameters with
      | .object [] => none
      | other => some other }

def decode : Decoder FunctionDefinition :=
  record "FunctionDefinition" [slot "name", slot "description", slot "parameters"] fun parts =>
    FunctionDefinition.mk <$> parts.required "name" Decode.string
      <*> parts.withDefault "description" none (Decode.optional Decode.string)
      <*> parts.withDefault "parameters" none (Decode.optional Decode.value)

def toJson (definition : FunctionDefinition) : Value :=
  .object (field "name" (.string definition.name) ++
    field? "description" (definition.description.map .string) ++
    field? "parameters" definition.parameters)

end FunctionDefinition

/-- A function in the envelope that requests carry it in. -/
structure Tool where
  type : String
  function : FunctionDefinition

namespace Tool

def offering (function : FunctionDefinition) : Tool :=
  ⟨"function", function⟩

def decode : Decoder Tool :=
  record "Tool" [slot "type", slot "function"] fun parts =>
    Tool.mk <$> parts.required "type" Decode.string
      <*> parts.required "function" FunctionDefinition.decode

def toJson (tool : Tool) : Value :=
  .object (field "type" (.string tool.type) ++ field "function" tool.function.toJson)

end Tool

/-- The function that a model wants called. The arguments are JSON text, as the model wrote them. -/
structure FunctionCall where
  name : String
  arguments : String
  deriving DecidableEq

namespace FunctionCall

/-- The arguments as a value. No text at all stands for no arguments. -/
def parsedArguments (call : FunctionCall) : Except Json.Error Value :=
  if Text.isBlankText call.arguments then .ok (.object [])
  else decodeText Decode.value call.arguments

def decode : Decoder FunctionCall :=
  record "FunctionCall" [slot "name", slot "arguments"] fun parts =>
    FunctionCall.mk <$> parts.required "name" Decode.string
      <*> parts.withDefault "arguments" "" Decode.string

def toJson (call : FunctionCall) : Value :=
  .object (field "name" (.string call.name) ++ field "arguments" (.string call.arguments))

end FunctionCall

/-- A model's request to call a function. It is handed on and never carried out here. -/
structure ToolCall where
  id : String
  type : String
  function : FunctionCall
  deriving DecidableEq

namespace ToolCall

def decode : Decoder ToolCall :=
  record "ToolCall" [slot "id", slot "type", slot "function"] fun parts =>
    ToolCall.mk <$> parts.withDefault "id" "" Decode.string
      <*> parts.withDefault "type" "function" Decode.string
      <*> parts.required "function" FunctionCall.decode

def toJson (call : ToolCall) : Value :=
  .object (field "id" (.string call.id) ++ field "type" (.string call.type) ++
    field "function" call.function.toJson)

end ToolCall

end ChatClient
