import Praxis.Foundations.Json

/-!
# Provider messages

The messages of a conversation with a Provider, and the turn that a Provider answers with. A message
has its content as text or as blocks; the calls of an assistant message are the tool blocks of its
content, with the calls of the first version of the format beside them.
-/

namespace Praxis.Agent

set_option autoImplicit false

open Praxis.Foundations

structure ProviderToolCall where
  id : String
  name : String
  input : Json
deriving DecidableEq

/-- A block of content. References to images and audio, and citations, are kept as their JSON. -/
inductive ProviderContentBlock where
  | text (text : String)
  | reasoning (text : String)
  | toolCall (call : ProviderToolCall)
  | reference (value : Json)

inductive ProviderContent where
  | text (text : String)
  | blocks (blocks : List ProviderContentBlock)

inductive MessageIntent where
  | prompt
  | followUp
  | steer
  | context
deriving DecidableEq

inductive MessageTrust where
  | user
  | low
deriving DecidableEq

inductive ProviderMessage where
  | user (content : ProviderContent) (intent : Option MessageIntent := none)
      (trust : Option MessageTrust := none) (skillInvocation : Option Json := none)
  | assistant (content : ProviderContent) (toolCalls : List ProviderToolCall := [])
  | tool (toolCallId name : String) (content : ProviderContent)
      (skillInvocation : Option Json := none)

def ProviderContentBlock.toJson : ProviderContentBlock → Json
  | .text written => .obj [("type", .str "text"), ("text", .str written)]
  | .reasoning written => .obj [("type", .str "reasoning"), ("text", .str written)]
  | .toolCall call =>
    .obj [("type", .str "tool_call"), ("id", .str call.id), ("name", .str call.name),
      ("input", call.input)]
  | .reference value => value

def ProviderContent.counted : ProviderContent → String
  | .text written => written
  | .blocks items => (Json.arr (items.map (·.toJson))).stringify

def ProviderMessage.content : ProviderMessage → ProviderContent
  | .user content _ _ _ => content
  | .assistant content _ => content
  | .tool _ _ content _ => content

/-- The message answers a tool call. -/
def ProviderMessage.isTool : ProviderMessage → Bool
  | .tool _ _ _ _ => true
  | .user _ _ _ _ | .assistant _ _ => false

end Praxis.Agent
