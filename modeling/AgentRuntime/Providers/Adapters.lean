import AgentRuntime.Domain.UsageRecord
import Mathlib.Data.List.Forall2

/-!
# The provider adapters

`_normalize_response` of `OpenAIProvider` and `AnthropicProvider` (`app/infrastructure/providers/openai.py`,
`anthropic.py`), over the JSON that the provider has answered, and the `ModelResponse` that both make of it
(`app/domain/providers/models.py`). OpenAI sends the arguments of a tool call as a JSON text, Anthropic as an
object; each adapter passes on what it gets. Of several text blocks the Anthropic adapter keeps the first.
-/

namespace AgentRuntime

open Interaction

/-! ## JSON that has been read -/

namespace Json

/-- `value.get(key, default)`. -/
def get (self : Json) (key : String) (default : Json) : Except PyError Json :=
  self.asDict.map fun d => (Dict.get? d key).getD default

/-- `value[key]`. -/
def item (self : Json) (key : String) : Except PyError Json :=
  match self with
  | dict d =>
    match Dict.get? d key with
    | some value => .ok value
    | none => .error (.keyError key)
  | value => .error (.typeError s!"'{value.typeName}' object is not subscriptable by a string")

/-- `value[0]`. -/
def first : Json → Except PyError Json
  | list (x :: _) => .ok x
  | list [] => .error (.external "IndexError: list index out of range")
  | dict _ => .error (.external "KeyError: 0")
  | str s =>
    match s.toList with
    | c :: _ => .ok (str (String.singleton c))
    | [] => .error (.external "IndexError: string index out of range")
  | value => .error (.typeError s!"'{value.typeName}' object is not subscriptable")

/-- What a loop over the value goes through. -/
def elements : Json → Except PyError (List Json)
  | list xs => .ok xs
  | dict entries => .ok (entries.map fun entry => str entry.1)
  | str s => .ok (s.toList.map fun c => str (String.singleton c))
  | value => .error (.typeError s!"'{value.typeName}' object is not iterable")

/-- `value == text`. -/
def isText (self : Json) (text : String) : Bool :=
  match self with
  | str s => s == text
  | _ => false

/-- `a + b` of integers; counts of another kind are refused. -/
def add : Json → Json → Except PyError Json
  | int a, int b => .ok (int (a + b))
  | a, b => .error (.typeError s!"unsupported operand type(s) for +: '{a.typeName}' and '{b.typeName}'")

/-- `value < 0`. -/
def isNegative : Json → Except PyError Bool
  | int n => .ok (n < 0)
  | bool _ => .ok false
  | float text => .ok (text.startsWith "-" && text != "-0.0")
  | value => .error (.typeError s!"'<' not supported between instances of '{value.typeName}' and 'int'")

/-- The entries of a list of tool calls; `None` has none. -/
def asCalls : Json → List Json
  | list entries => entries
  | _ => []

/-- `get` of a key that a dictionary has gives its value, whatever the default is. -/
theorem get_dict {d : Dict} {key : String} {value default : Json} (h : Dict.get? d key = some value) :
    (dict d).get key default = .ok value := by
  simp [get, asDict, Except.map, h]

/-- So does the subscript. -/
theorem item_dict {d : Dict} {key : String} {value : Json} (h : Dict.get? d key = some value) :
    (dict d).item key = .ok value := by
  simp [item, h]

end Json

/-! ## Model responses -/

/-- What an adapter knows of the request, and the latency that it has measured. -/
structure Exchange where
  requestModel : String
  requestId : String
  providerName : String
  latencyMs : Rat
  requestId_ne : requestId ≠ ""
  providerName_ne : providerName ≠ ""
  latencyMs_nonneg : 0 ≤ latencyMs

/-- The unified response format that provider-specific responses get normalized to by each adapter. -/
structure ModelResponse where
  content : Json
  toolCalls : Json
  usage : Dict
  model : Json
  finishReason : Json
  requestId : String
  provider : String
  latencyMs : Rat
  safetyStop : Bool := false

namespace ModelResponse

/-- A token count that is negative is refused. -/
def checkCount (entry : String × Json) : Except PyError Unit := do
  if ← entry.2.isNegative then
    .error (.valueError s!"{entry.1} cannot be negative")
  else
    .ok ()

/-- The keys of the usage. -/
def requiredKeys : List String := ["prompt_tokens", "completion_tokens", "total_tokens"]

/-- `ModelResponse.__post_init__`. -/
def postInit (self : ModelResponse) : Except PyError ModelResponse :=
  if self.model.truthy = false then .error (.valueError "Model cannot be empty")
  else if self.requestId = "" then .error (.valueError "Request ID cannot be empty")
  else if self.provider = "" then .error (.valueError "Provider cannot be empty")
  else if self.finishReason.truthy = false then .error (.valueError "Finish reason cannot be empty")
  else if self.latencyMs < 0 then .error (.valueError "Latency cannot be negative")
  else if (requiredKeys.all fun key => (self.usage.get? key).isSome) = false then
    .error (.valueError "Usage must contain \x7b'prompt_tokens', 'completion_tokens', 'total_tokens'\x7d")
  else do
    self.usage.forM checkCount
    return self

end ModelResponse

/-- A tool call in the internal format. -/
def toolCall (id type name arguments : Json) : Json :=
  .dict [("id", id), ("type", type), ("function", .dict [("name", name), ("arguments", arguments)])]

/-- The usage in the internal format. -/
def usageDict (promptTokens completionTokens totalTokens : Json) : Dict :=
  [("prompt_tokens", promptTokens), ("completion_tokens", completionTokens), ("total_tokens", totalTokens)]

namespace OpenAIProvider

/-- Normalize a tool call to internal format. -/
def normalizeToolCall (tc : Json) : Except PyError Json := do
  let id ← tc.get "id" .null
  let type ← tc.get "type" .null
  let function ← tc.get "function" (.dict [])
  let name ← function.get "name" .null
  let arguments ← function.get "arguments" .null
  return toolCall id type name arguments

/-- `if tool_calls:`, and what it guards. -/
def normalizeToolCalls (toolCalls : Json) : Except PyError Json := do
  if toolCalls.truthy then
    let calls ← toolCalls.elements
    Json.list <$> calls.mapM normalizeToolCall
  else
    return toolCalls

/-- Normalize OpenAI response to internal format. -/
def normalizeResponse (responseData : Json) (exchange : Exchange) : Except PyError ModelResponse := do
  let choice ← (← responseData.item "choices").first
  let message ← choice.item "message"
  let usage ← responseData.item "usage"
  let content ← message.get "content" .null
  let toolCalls ← normalizeToolCalls (← message.get "tool_calls" .null)
  let usageDict := usageDict (← usage.get "prompt_tokens" (.int 0)) (← usage.get "completion_tokens" (.int 0))
    (← usage.get "total_tokens" (.int 0))
  let finishReason ← choice.get "finish_reason" (.str "unknown")
  let safetyStop := finishReason.isText "content_filter"
  let model ← responseData.get "model" (.str exchange.requestModel)
  ModelResponse.postInit {
    content, toolCalls, usage := usageDict, model, finishReason
    requestId := exchange.requestId
    provider := exchange.providerName
    latencyMs := exchange.latencyMs
    safetyStop }

end OpenAIProvider

namespace AnthropicProvider

/-- `[block for block in content_blocks if block.get("type") == kind]`. -/
def blocksOf (kind : String) : List Json → Except PyError (List Json)
  | [] => .ok []
  | block :: blocks => do
    let type ← block.get "type" .null
    let rest ← blocksOf kind blocks
    return if type.isText kind then block :: rest else rest

/-- Normalize a tool call to internal format. -/
def normalizeToolUse (block : Json) : Except PyError Json := do
  let id ← block.get "id" .null
  let name ← block.get "name" .null
  let arguments ← block.get "input" (.dict [])
  return toolCall id (.str "function") name arguments

/-- `if tool_use_blocks:`, and what it guards. -/
def normalizeToolUses : List Json → Except PyError Json
  | [] => .ok .null
  | blocks => Json.list <$> blocks.mapM normalizeToolUse

/-- `if text_blocks:`, and what it guards. -/
def firstText : List Json → Except PyError Json
  | [] => .ok .null
  | block :: _ => block.get "text" .null

/-- `finish_reason_map.get(stop_reason, stop_reason)`. -/
def finishReason : Json → Except PyError Json
  | .str "end_turn" => .ok (.str "stop")
  | .str "max_tokens" => .ok (.str "length")
  | .str "stop_sequence" => .ok (.str "stop")
  | .str "tool_use" => .ok (.str "tool_calls")
  | .list _ => .error (.typeError "unhashable type: 'list'")
  | .dict _ => .error (.typeError "unhashable type: 'dict'")
  | stopReason => .ok stopReason

/-- Normalize Anthropic response to internal format. -/
def normalizeResponse (responseData : Json) (exchange : Exchange) : Except PyError ModelResponse := do
  let contentBlocks ← (← responseData.get "content" (.list [])).elements
  let textBlocks ← blocksOf "text" contentBlocks
  let toolUseBlocks ← blocksOf "tool_use" contentBlocks
  let content ← firstText textBlocks
  let toolCalls ← normalizeToolUses toolUseBlocks
  let usage ← responseData.get "usage" (.dict [])
  let inputTokens ← usage.get "input_tokens" (.int 0)
  let outputTokens ← usage.get "output_tokens" (.int 0)
  let usageDict := usageDict inputTokens outputTokens (← inputTokens.add outputTokens)
  let stopReason ← responseData.get "stop_reason" (.str "end_turn")
  let finishReason ← finishReason stopReason
  let safetyStop := stopReason.isText "content_filter"
  let model ← responseData.get "model" (.str exchange.requestModel)
  ModelResponse.postInit {
    content, toolCalls, usage := usageDict, model, finishReason
    requestId := exchange.requestId
    provider := exchange.providerName
    latencyMs := exchange.latencyMs
    safetyStop }

end AnthropicProvider

/-! ## Well-formed answers -/

/-- A tool call, as a provider means it. -/
structure ToolUse where
  id : String
  name : String
  arguments : Dict

/-- What an answer of OpenAI says. -/
structure OpenAIResponse where
  model : String
  content : Option String
  toolCalls : List ToolUse
  promptTokens : Nat
  completionTokens : Nat
  totalTokens : Nat
  finishReason : String
  model_ne : model ≠ ""
  finishReason_ne : finishReason ≠ ""

/-- A tool call in an answer of OpenAI; `encode` is how it writes the arguments as a text. -/
structure OpenAIProvider.EncodesCall (encode : Dict → String) (call : ToolUse) (tc : Json) : Prop where
  id : tc.get "id" .null = .ok (.str call.id)
  type : tc.get "type" .null = .ok (.str "function")
  function : ∃ function, tc.get "function" (.dict []) = .ok function ∧
    function.get "name" .null = .ok (.str call.name) ∧
    function.get "arguments" .null = .ok (.str (encode call.arguments))

/-- An answer of OpenAI that says this. There may be other keys than those that are read; without tool calls, the
key of these may be missing. -/
structure OpenAIAnswer (encode : Dict → String) (response : OpenAIResponse) where
  data : Dict
  choice : Dict
  message : Dict
  usage : Dict
  rawCalls : List Json
  model : data.get? "model" = some (.str response.model)
  choices : data.get? "choices" = some (.list [.dict choice])
  finishReason : choice.get? "finish_reason" = some (.str response.finishReason)
  messageOfChoice : choice.get? "message" = some (.dict message)
  content : message.get? "content" = some ((response.content.map Json.str).getD .null)
  calls : List.Forall₂ (OpenAIProvider.EncodesCall encode) response.toolCalls rawCalls
  toolCalls : message.get? "tool_calls" = some (.list rawCalls) ∨
    rawCalls = [] ∧ (message.get? "tool_calls").getD .null = .null
  usageOfData : data.get? "usage" = some (.dict usage)
  promptTokens : usage.get? "prompt_tokens" = some (.int response.promptTokens)
  completionTokens : usage.get? "completion_tokens" = some (.int response.completionTokens)
  totalTokens : usage.get? "total_tokens" = some (.int response.totalTokens)

/-- A part of an answer of Anthropic. -/
inductive AnthropicBlock where
  | text (text : String)
  | toolUse (call : ToolUse)

namespace AnthropicBlock

def text? : AnthropicBlock → Option String
  | .text s => some s
  | .toolUse _ => none

def call? : AnthropicBlock → Option ToolUse
  | .text _ => none
  | .toolUse call => some call

/-- The block in an answer. -/
def Encodes : AnthropicBlock → Json → Prop
  | .text s, block => block.get "type" .null = .ok (.str "text") ∧ block.get "text" .null = .ok (.str s)
  | .toolUse call, block => block.get "type" .null = .ok (.str "tool_use") ∧
    block.get "id" .null = .ok (.str call.id) ∧ block.get "name" .null = .ok (.str call.name) ∧
    block.get "input" (.dict []) = .ok (.dict call.arguments)

end AnthropicBlock

/-- What an answer of Anthropic says. -/
structure AnthropicResponse where
  model : String
  content : List AnthropicBlock
  inputTokens : Nat
  outputTokens : Nat
  stopReason : String
  model_ne : model ≠ ""
  stopReason_ne : stopReason ≠ ""

namespace AnthropicResponse

def texts (self : AnthropicResponse) : List String := self.content.filterMap AnthropicBlock.text?

def toolCalls (self : AnthropicResponse) : List ToolUse := self.content.filterMap AnthropicBlock.call?

end AnthropicResponse

/-- An answer of Anthropic that says this. -/
structure AnthropicAnswer (response : AnthropicResponse) where
  data : Dict
  usage : Dict
  blocks : List Json
  model : data.get? "model" = some (.str response.model)
  content : data.get? "content" = some (.list blocks)
  encodes : List.Forall₂ AnthropicBlock.Encodes response.content blocks
  stopReason : data.get? "stop_reason" = some (.str response.stopReason)
  usageOfData : data.get? "usage" = some (.dict usage)
  inputTokens : usage.get? "input_tokens" = some (.int response.inputTokens)
  outputTokens : usage.get? "output_tokens" = some (.int response.outputTokens)

/-! ## What an adapter makes of an answer -/

namespace ModelResponse

/-- The text of a response. -/
def text (self : ModelResponse) : String :=
  match self.content with
  | .str s => s
  | _ => ""

/-- The tool calls of a response. -/
def calls (self : ModelResponse) : List Json := self.toolCalls.asCalls

/-- The total is that of the two counts, so that a usage record of the call can be built. -/
def Totals (self : ModelResponse) : Prop :=
  ∃ (model : String) (promptTokens completionTokens totalTokens : Nat), self.model = .str model ∧
    self.usage = usageDict (.int promptTokens) (.int completionTokens) (.int totalTokens) ∧
    totalTokens = promptTokens + completionTokens ∧
    ∀ (costMicrounits : Nat) (timestamp : Time), timestamp ≠ 0 →
      let record : UsageRecord := {
        provider := self.provider, model, promptTokens, completionTokens, totalTokens, costMicrounits, timestamp
        requestId := self.requestId }
      record.postInit = .ok record

/-- All of the texts are there, in their order. -/
def ContainsText (self : ModelResponse) (texts : List String) : Prop :=
  (texts.flatMap String.toList).Sublist self.text.toList

/-- A response to a request. -/
def answered (exchange : Exchange) (content toolCalls : Json) (model reason : String)
    (promptTokens completionTokens totalTokens : Nat) (safetyStop : Bool) : ModelResponse where
  content := content
  toolCalls := toolCalls
  usage := usageDict (.int promptTokens) (.int completionTokens) (.int totalTokens)
  model := .str model
  finishReason := .str reason
  requestId := exchange.requestId
  provider := exchange.providerName
  latencyMs := exchange.latencyMs
  safetyStop := safetyStop

section

variable {exchange : Exchange} {content toolCalls : Json} {model reason : String}
  {promptTokens completionTokens totalTokens : Nat} {safetyStop : Bool}

/-- A response with counts, a model and a reason is accepted. -/
theorem postInit_answered (hmodel : model ≠ "") (hreason : reason ≠ "") :
    (answered exchange content toolCalls model reason promptTokens completionTokens totalTokens
        safetyStop).postInit =
      .ok (answered exchange content toolCalls model reason promptTokens completionTokens totalTokens
        safetyStop) := by
  have hcount (key : String) (n : Nat) : checkCount (key, .int n) = .ok () := by
    simp [checkCount, Json.isNegative, bind, Except.bind]
  simp [postInit, answered, requiredKeys, Json.truthy, hmodel, hreason, exchange.requestId_ne,
    exchange.providerName_ne, Rat.not_lt.2 exchange.latencyMs_nonneg, usageDict, Dict.get?, hcount, bind,
    Except.bind, pure, Except.pure]

/-- A usage record can be built exactly when the total is that of the counts. -/
theorem totals_answered_iff (hmodel : model ≠ "") :
    (answered exchange content toolCalls model reason promptTokens completionTokens totalTokens
        safetyStop).Totals ↔
      totalTokens = promptTokens + completionTokens := by
  constructor
  · rintro ⟨_, prompt, completion, total, _, husage, htotal, _⟩
    have hcounts : (promptTokens : Int) = prompt ∧ (completionTokens : Int) = completion ∧
        (totalTokens : Int) = total := by
      simpa [answered, usageDict] using husage
    omega
  · intro htotal
    have hsum : (totalTokens : Int) = promptTokens + completionTokens := by exact_mod_cast htotal
    refine ⟨model, promptTokens, completionTokens, totalTokens, rfl, rfl, htotal, fun cost timestamp htime => ?_⟩
    refine UsageRecord.postInit_eq_ok.2 ⟨⟨exchange.providerName_ne, hmodel, ?_, ?_, ?_, ?_, htime,
      exchange.requestId_ne⟩, rfl⟩
    · exact Int.natCast_nonneg _
    · exact Int.natCast_nonneg _
    · exact hsum
    · exact Int.natCast_nonneg _

end

end ModelResponse

/-- What is decoded from lists that correspond. -/
theorem mapM_eq_ok_of_forall₂ {α β γ ε : Type} {R : α → β → Prop} {f : β → Except ε γ} {g : α → γ}
    (hf : ∀ a b, R a b → f b = .ok (g a)) {l : List α} {l' : List β} (h : List.Forall₂ R l l') :
    l'.mapM f = .ok (l.map g) := by
  induction h with
  | nil => rfl
  | cons hab _ ih => exact mapM_cons_eq_ok.2 ⟨_, _, hf _ _ hab, ih, rfl⟩

/-- The content that OpenAI sends. -/
def OpenAIResponse.contentJson (self : OpenAIResponse) : Json := (self.content.map Json.str).getD .null

/-- A tool call as the adapter of OpenAI hands it on: its arguments are a text. -/
def OpenAIProvider.entry (encode : Dict → String) (call : ToolUse) : Json :=
  toolCall (.str call.id) (.str "function") (.str call.name) (.str (encode call.arguments))

/-- A tool call as the adapter of Anthropic hands it on: its arguments are a dictionary. -/
def AnthropicProvider.entry (call : ToolUse) : Json :=
  toolCall (.str call.id) (.str "function") (.str call.name) (.dict call.arguments)

namespace OpenAIProvider

variable {encode : Dict → String} {response : OpenAIResponse}

/-- A tool call of OpenAI becomes an entry with its name and the text of its arguments. -/
theorem normalizeToolCall_eq {call : ToolUse} {tc : Json} (h : EncodesCall encode call tc) :
    normalizeToolCall tc = .ok (entry encode call) := by
  obtain ⟨hid, htype, function, hfunction, hname, harguments⟩ := h
  simp [normalizeToolCall, hid, htype, hfunction, hname, harguments, bind, Except.bind, pure, Except.pure, entry]

/-- The tool calls of an answer become such entries, or nothing where there are none. -/
theorem exists_normalizeToolCalls (answer : OpenAIAnswer encode response) :
    ∃ raw toolCalls, (Json.dict answer.message).get "tool_calls" .null = .ok raw ∧
      normalizeToolCalls raw = .ok toolCalls ∧
      ((toolCalls = .null ∧ response.toolCalls = []) ∨
        toolCalls = .list (response.toolCalls.map (entry encode))) := by
  have hcalls : answer.rawCalls.mapM normalizeToolCall = .ok (response.toolCalls.map (entry encode)) :=
    mapM_eq_ok_of_forall₂ (fun _ _ h => normalizeToolCall_eq h) answer.calls
  have hlength := answer.calls.length_eq
  rcases answer.toolCalls with hlist | ⟨hnone, hnull⟩
  · refine ⟨.list answer.rawCalls, .list (response.toolCalls.map (entry encode)), ?_, ?_, .inr rfl⟩
    · rw [Json.get_dict hlist]
    · cases hraw : answer.rawCalls with
      | nil =>
        rw [hraw, List.length_nil, List.length_eq_zero_iff] at hlength
        rw [hlength]
        rfl
      | cons tc rest =>
        rw [hraw] at hcalls
        simp [normalizeToolCalls, Json.truthy, Json.elements, hcalls, bind, Except.bind]
  · rw [hnone, List.length_nil, List.length_eq_zero_iff] at hlength
    refine ⟨.null, .null, ?_, rfl, .inl ⟨rfl, hlength⟩⟩
    rw [Json.get, Json.asDict]
    exact congrArg Except.ok hnull

/-- What the adapter makes of an answer. -/
theorem exists_normalizeResponse (answer : OpenAIAnswer encode response) (exchange : Exchange) :
    ∃ toolCalls safetyStop, normalizeResponse (.dict answer.data) exchange =
        .ok (.answered exchange response.contentJson toolCalls response.model response.finishReason
          response.promptTokens response.completionTokens response.totalTokens safetyStop) ∧
      toolCalls.asCalls = response.toolCalls.map (entry encode) := by
  obtain ⟨raw, toolCalls, hraw, htoolCalls, hcases⟩ := exists_normalizeToolCalls answer
  refine ⟨toolCalls, (Json.str response.finishReason).isText "content_filter", ?_, ?_⟩
  · simp only [normalizeResponse, Json.item_dict answer.choices, Json.first, Json.item_dict answer.messageOfChoice,
      Json.item_dict answer.usageOfData, Json.get_dict answer.content, hraw, htoolCalls,
      Json.get_dict answer.promptTokens, Json.get_dict answer.completionTokens, Json.get_dict answer.totalTokens,
      Json.get_dict answer.finishReason, Json.get_dict answer.model, bind, Except.bind]
    exact ModelResponse.postInit_answered response.model_ne response.finishReason_ne
  · rcases hcases with ⟨rfl, hnil⟩ | rfl
    · rw [hnil]
      rfl
    · rfl

end OpenAIProvider

namespace AnthropicProvider

variable {response : AnthropicResponse}

/-- The blocks of a kind are those that encode the parts of that kind. -/
theorem blocksOf_eq {kind : String} {α : Type} {select : AnthropicBlock → Option α} {R : α → Json → Prop}
    (hselected : ∀ part block a, part.Encodes block → select part = some a →
      block.get "type" .null = .ok (.str kind) ∧ R a block)
    (hother : ∀ part block, part.Encodes block → select part = none →
      ∃ other, block.get "type" .null = .ok (.str other) ∧ other ≠ kind)
    {parts : List AnthropicBlock} {blocks : List Json} (h : List.Forall₂ AnthropicBlock.Encodes parts blocks) :
    ∃ selected, blocksOf kind blocks = .ok selected ∧ List.Forall₂ R (parts.filterMap select) selected := by
  induction h with
  | nil => exact ⟨[], rfl, .nil⟩
  | @cons part block _ _ hencodes _ ih =>
    obtain ⟨selected, hrest, hR⟩ := ih
    cases hselect : select part with
    | none =>
      obtain ⟨other, htype, hne⟩ := hother _ _ hencodes hselect
      refine ⟨selected, ?_, ?_⟩
      · simp [blocksOf, htype, hrest, Json.isText, hne, bind, Except.bind, pure, Except.pure]
      · rw [List.filterMap_cons_none hselect]
        exact hR
    | some a =>
      obtain ⟨htype, ha⟩ := hselected _ _ _ hencodes hselect
      refine ⟨block :: selected, ?_, ?_⟩
      · simp [blocksOf, htype, hrest, Json.isText, bind, Except.bind, pure, Except.pure]
      · rw [List.filterMap_cons_some hselect]
        exact .cons ha hR

/-- The text blocks of an answer are those with its texts, in their order. -/
theorem blocksOf_text (answer : AnthropicAnswer response) :
    ∃ selected, blocksOf "text" answer.blocks = .ok selected ∧
      List.Forall₂ (fun s block => block.get "text" .null = .ok (.str s)) response.texts selected := by
  refine blocksOf_eq (fun part block s hencodes hs => ?_) (fun part block hencodes hnone => ?_) answer.encodes
  · cases part with
    | text s' =>
      obtain rfl := Option.some.inj hs
      exact hencodes
    | toolUse call => cases hs
  · cases part with
    | text s => cases hnone
    | toolUse call => exact ⟨"tool_use", hencodes.1, by decide⟩

/-- A tool call of Anthropic becomes an entry with its name and the dictionary of its arguments. -/
theorem normalizeToolUse_eq {call : ToolUse} {block : Json} (h : (AnthropicBlock.toolUse call).Encodes block) :
    normalizeToolUse block = .ok (entry call) := by
  obtain ⟨_, hid, hname, harguments⟩ := h
  simp [normalizeToolUse, hid, hname, harguments, bind, Except.bind, pure, Except.pure, entry]

/-- The blocks of tool calls are those with the calls of the response, in their order. -/
theorem blocksOf_toolUse (answer : AnthropicAnswer response) :
    ∃ selected, blocksOf "tool_use" answer.blocks = .ok selected ∧
      List.Forall₂ (fun call block => (AnthropicBlock.toolUse call).Encodes block) response.toolCalls
        selected := by
  refine blocksOf_eq (fun part block call hencodes hcall => ?_) (fun part block hencodes hnone => ?_)
    answer.encodes
  · cases part with
    | text s => cases hcall
    | toolUse call' =>
      obtain rfl := Option.some.inj hcall
      exact ⟨hencodes.1, hencodes⟩
  · cases part with
    | text s => exact ⟨"text", hencodes.1, by decide⟩
    | toolUse call => cases hnone

/-- A reason that is a text has one. -/
theorem finishReason_str {stopReason : String} (h : stopReason ≠ "") :
    ∃ reason, finishReason (.str stopReason) = .ok (.str reason) ∧ reason ≠ "" := by
  unfold finishReason
  split
  · exact ⟨_, rfl, by decide⟩
  · exact ⟨_, rfl, by decide⟩
  · exact ⟨_, rfl, by decide⟩
  · exact ⟨_, rfl, by decide⟩
  · next hlist => cases hlist
  · next hdict => cases hdict
  · exact ⟨stopReason, rfl, h⟩

/-- The content that the adapter makes of the texts: the first of them. -/
def contentJson (texts : List String) : Json := (texts.head?.map Json.str).getD .null

/-- The content is the first of the texts. -/
theorem firstText_eq {texts : List String} {blocks : List Json}
    (h : List.Forall₂ (fun s block => block.get "text" .null = .ok (.str s)) texts blocks) :
    firstText blocks = .ok (contentJson texts) := by
  cases h with
  | nil => rfl
  | cons htext _ => exact htext

/-- The tool calls of an answer become the entries of its calls. -/
theorem exists_normalizeToolUses {calls : List ToolUse} {blocks : List Json}
    (h : List.Forall₂ (fun call block => (AnthropicBlock.toolUse call).Encodes block) calls blocks) :
    ∃ toolCalls, normalizeToolUses blocks = .ok toolCalls ∧ toolCalls.asCalls = calls.map entry := by
  have hentries : blocks.mapM normalizeToolUse = .ok (calls.map entry) :=
    mapM_eq_ok_of_forall₂ (fun _ _ h => normalizeToolUse_eq h) h
  cases h with
  | nil => exact ⟨.null, rfl, rfl⟩
  | cons _ _ =>
    refine ⟨.list _, ?_, rfl⟩
    rw [normalizeToolUses, hentries]
    · rfl
    · exact List.cons_ne_nil _ _

/-- What the adapter makes of an answer. -/
theorem exists_normalizeResponse (answer : AnthropicAnswer response) (exchange : Exchange) :
    ∃ toolCalls reason safetyStop, normalizeResponse (.dict answer.data) exchange =
        .ok (.answered exchange (contentJson response.texts) toolCalls response.model reason response.inputTokens
          response.outputTokens (response.inputTokens + response.outputTokens) safetyStop) ∧
      toolCalls.asCalls = response.toolCalls.map entry := by
  obtain ⟨textBlocks, htextBlocks, htexts⟩ := blocksOf_text answer
  obtain ⟨toolUseBlocks, htoolUseBlocks, hcalls⟩ := blocksOf_toolUse answer
  obtain ⟨reason, hfinish, hreason⟩ := finishReason_str response.stopReason_ne
  obtain ⟨toolCalls, htoolCalls, hasCalls⟩ := exists_normalizeToolUses hcalls
  refine ⟨toolCalls, reason, (Json.str response.stopReason).isText "content_filter", ?_, hasCalls⟩
  simp only [normalizeResponse, Json.get_dict answer.content, Json.elements, htextBlocks, htoolUseBlocks,
    firstText_eq htexts, htoolCalls, Json.get_dict answer.usageOfData, Json.get_dict answer.inputTokens,
    Json.get_dict answer.outputTokens, Json.add, Json.get_dict answer.stopReason, hfinish,
    Json.get_dict answer.model, bind, Except.bind]
  exact ModelResponse.postInit_answered response.model_ne hreason

end AnthropicProvider

/-! ## One unified response -/

namespace ProviderAdapters

/-- The adapters make a unified response of both answers: the totals are right, the text is all there, and a tool
call that both providers make is the same value. -/
def Unified (openaiData anthropicData : Json) (openai : OpenAIResponse) (anthropic : AnthropicResponse)
    (openaiExchange anthropicExchange : Exchange) : Prop :=
  ∃ r r' : ModelResponse, OpenAIProvider.normalizeResponse openaiData openaiExchange = .ok r ∧
    AnthropicProvider.normalizeResponse anthropicData anthropicExchange = .ok r' ∧
    (r.Totals ∧ r'.Totals) ∧ (r.ContainsText openai.content.toList ∧ r'.ContainsText anthropic.texts) ∧
    ∀ (i j : Nat) (call : ToolUse), openai.toolCalls[i]? = some call → anthropic.toolCalls[j]? = some call →
      r.calls[i]? = r'.calls[j]?

/-- The content of OpenAI is all of its text. -/
theorem containsText_openai {r : ModelResponse} {response : OpenAIResponse}
    (h : r.content = response.contentJson) : r.ContainsText response.content.toList := by
  unfold ModelResponse.ContainsText ModelResponse.text
  rw [h, OpenAIResponse.contentJson]
  cases response.content with
  | none => exact .slnil
  | some s => simp

/-- The first text is all of the text exactly when the others are empty. -/
theorem containsText_anthropic_iff {r : ModelResponse} {texts : List String}
    (h : r.content = AnthropicProvider.contentJson texts) :
    r.ContainsText texts ↔ ∀ text ∈ texts.tail, text = "" := by
  unfold ModelResponse.ContainsText ModelResponse.text
  rw [h, AnthropicProvider.contentJson]
  cases texts with
  | nil => simp
  | cons s rest =>
    simp only [List.head?_cons, Option.map_some, Option.getD_some, List.flatMap_cons, List.tail_cons]
    constructor
    · intro hsub text htext
      have hlength := hsub.length_le
      rw [List.length_append] at hlength
      have hnil : rest.flatMap String.toList = [] := List.length_eq_zero_iff.1 (by omega)
      exact String.toList_eq_nil_iff.1 (List.flatMap_eq_nil_iff.1 hnil text htext)
    · intro hempty
      have hnil : rest.flatMap String.toList = [] :=
        List.flatMap_eq_nil_iff.2 fun text htext => String.toList_eq_nil_iff.2 (hempty text htext)
      rw [hnil, List.append_nil]

/-- The arguments of a tool call are a text in one response and a dictionary in the other. -/
theorem entry_ne (encode : Dict → String) (call call' : ToolUse) :
    OpenAIProvider.entry encode call ≠ AnthropicProvider.entry call' := by
  simp [OpenAIProvider.entry, AnthropicProvider.entry, toolCall]

/-- The responses are unified exactly when OpenAI's total is that of its counts, only the first text of Anthropic
says something, and no tool call is made by both. -/
theorem unified_iff (encode : Dict → String) (openai : OpenAIResponse) (anthropic : AnthropicResponse)
    (openaiAnswer : OpenAIAnswer encode openai) (anthropicAnswer : AnthropicAnswer anthropic)
    (openaiExchange anthropicExchange : Exchange) :
    Unified (.dict openaiAnswer.data) (.dict anthropicAnswer.data) openai anthropic openaiExchange
        anthropicExchange ↔
      openai.totalTokens = openai.promptTokens + openai.completionTokens ∧
        (∀ text ∈ anthropic.texts.tail, text = "") ∧ ∀ call ∈ openai.toolCalls, call ∉ anthropic.toolCalls := by
  obtain ⟨toolCalls, safetyStop, hr, hcalls⟩ :=
    OpenAIProvider.exists_normalizeResponse openaiAnswer openaiExchange
  obtain ⟨toolCalls', reason, safetyStop', hr', hcalls'⟩ :=
    AnthropicProvider.exists_normalizeResponse anthropicAnswer anthropicExchange
  constructor
  · rintro ⟨r, r', hok, hok', ⟨htotals, _⟩, ⟨_, htext⟩, hsame⟩
    obtain rfl := Except.ok.inj (hr.symm.trans hok)
    obtain rfl := Except.ok.inj (hr'.symm.trans hok')
    refine ⟨(ModelResponse.totals_answered_iff openai.model_ne).1 htotals,
      (containsText_anthropic_iff rfl).1 htext, fun call hopenai hanthropic => ?_⟩
    obtain ⟨i, hi⟩ := List.getElem?_of_mem hopenai
    obtain ⟨j, hj⟩ := List.getElem?_of_mem hanthropic
    have hentry := hsame i j call hi hj
    rw [ModelResponse.calls, ModelResponse.calls, ModelResponse.answered, ModelResponse.answered, hcalls, hcalls',
      List.getElem?_map, List.getElem?_map, hi, hj] at hentry
    exact entry_ne encode call call (Option.some.inj hentry)
  · rintro ⟨htotal, htexts, hcommon⟩
    refine ⟨_, _, hr, hr', ⟨(ModelResponse.totals_answered_iff openai.model_ne).2 htotal,
      (ModelResponse.totals_answered_iff anthropic.model_ne).2 rfl⟩,
      ⟨containsText_openai rfl, (containsText_anthropic_iff rfl).2 htexts⟩, fun i j call hi hj => ?_⟩
    exact absurd (List.mem_of_getElem? hj) (hcommon call (List.mem_of_getElem? hi))

/-- An answer of OpenAI with a text. -/
def openaiResponse : OpenAIResponse where
  model := "gpt-4"
  content := some "Hello"
  toolCalls := []
  promptTokens := 6
  completionTokens := 4
  totalTokens := 10
  finishReason := "stop"
  model_ne := by decide
  finishReason_ne := by decide

/-- The answer as it is sent. -/
def openaiAnswer (encode : Dict → String) : OpenAIAnswer encode openaiResponse where
  data := [("model", .str "gpt-4"), ("choices", .list [.dict [("finish_reason", .str "stop"),
    ("message", .dict [("content", .str "Hello")])]]),
    ("usage", .dict (usageDict (.int 6) (.int 4) (.int 10)))]
  choice := [("finish_reason", .str "stop"), ("message", .dict [("content", .str "Hello")])]
  message := [("content", .str "Hello")]
  usage := usageDict (.int 6) (.int 4) (.int 10)
  rawCalls := []
  model := rfl
  choices := rfl
  finishReason := rfl
  messageOfChoice := rfl
  content := rfl
  calls := .nil
  toolCalls := .inr ⟨rfl, rfl⟩
  usageOfData := rfl
  promptTokens := rfl
  completionTokens := rfl
  totalTokens := rfl

/-- An answer of Anthropic with two texts. -/
def anthropicResponse : AnthropicResponse where
  model := "claude-3-opus"
  content := [.text "Hello", .text " world"]
  inputTokens := 6
  outputTokens := 4
  stopReason := "end_turn"
  model_ne := by decide
  stopReason_ne := by decide

/-- The block of a text as it is sent. -/
def textBlock (text : String) : Json := .dict [("type", .str "text"), ("text", .str text)]

/-- The answer as it is sent. -/
def anthropicAnswer : AnthropicAnswer anthropicResponse where
  data := [("model", .str "claude-3-opus"), ("content", .list [textBlock "Hello", textBlock " world"]),
    ("stop_reason", .str "end_turn"), ("usage", .dict [("input_tokens", .int 6), ("output_tokens", .int 4)])]
  usage := [("input_tokens", .int 6), ("output_tokens", .int 4)]
  blocks := [textBlock "Hello", textBlock " world"]
  model := rfl
  content := rfl
  encodes := .cons ⟨rfl, rfl⟩ (.cons ⟨rfl, rfl⟩ .nil)
  stopReason := rfl
  usageOfData := rfl
  inputTokens := rfl
  outputTokens := rfl

/-- A request, and what was measured. -/
def exchange (requestModel providerName : String) (providerName_ne : providerName ≠ "") : Exchange where
  requestModel := requestModel
  requestId := "request"
  providerName := providerName
  latencyMs := 1
  requestId_ne := by decide
  providerName_ne := providerName_ne
  latencyMs_nonneg := by decide

/-- Of two texts of Anthropic the second is lost, where OpenAI's content has the whole. -/
theorem not_unified : ¬∀ (encode : Dict → String) (openai : OpenAIResponse) (anthropic : AnthropicResponse)
    (openaiAnswer : OpenAIAnswer encode openai) (anthropicAnswer : AnthropicAnswer anthropic)
    (openaiExchange anthropicExchange : Exchange),
      openai.totalTokens = openai.promptTokens + openai.completionTokens →
        Unified (.dict openaiAnswer.data) (.dict anthropicAnswer.data) openai anthropic openaiExchange
          anthropicExchange := by
  intro h
  have hname : "anthropic" ≠ "" := by decide
  obtain ⟨_, r', _, hr', _, ⟨_, htext⟩, _⟩ := h (fun _ => "") openaiResponse anthropicResponse (openaiAnswer _)
    anthropicAnswer (exchange "gpt-4" "openai" (by decide)) (exchange "claude-3-opus" "anthropic" hname) rfl
  obtain ⟨_, _, _, hok, _⟩ :=
    AnthropicProvider.exists_normalizeResponse anthropicAnswer (exchange "claude-3-opus" "anthropic" hname)
  obtain rfl := Except.ok.inj (hok.symm.trans hr')
  exact absurd ((containsText_anthropic_iff rfl).1 htext " world" List.mem_cons_self) (by decide)

end ProviderAdapters

end AgentRuntime
