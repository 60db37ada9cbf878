import AgentMemory.Model.Codec
import AgentMemory.Model.Runtime

/-! # The built-in model clients

A client posts the prompt as JSON and looks for a text in the answer. How the request is
transported is left open: every request may get any status and any body. -/

namespace AgentMemory

/-! ## Configuration -/

/-- A map of header names to values. -/
abbrev Headers := List (Text × Text)

def Headers.set (headers : Headers) (name : String) (value : Text) : Headers :=
  headers.filter (fun h => h.1 != ascii name) ++ [(ascii name, value)]

structure MemoryModelConfig where
  enabled : Bool := false
  formatType : Text := ascii "openai"
  baseUrl : Text := []
  apiKey : Text := []
  modelName : Text := []
  organization : Text := []
  anthropicVersion : Text := ascii "2023-06-01"
  timeoutSeconds : Int32 := 60
  temperature : ℚ := 0
  maxTokens : Int32 := 0
  headers : Headers := []
  extraParams : Json := .object []

structure ModelConfig where
  baseUrl : Text := []
  apiKey : Text := []
  modelName : Text := []
  timeoutSeconds : Int32 := 60
  temperature : ℚ := 0
  maxTokens : Int32 := 0
  headers : Headers := []
  extraParams : Json := .object []

structure OpenAiModelConfig extends ModelConfig where
  organization : Text := []

structure AnthropicModelConfig extends ModelConfig where
  anthropicVersion : Text := ascii "2023-06-01"

/-! ## The transport -/

structure JsonPostRequest where
  url : Text
  body : Text
  timeoutSeconds : Int32 := 60
  headers : Headers := []

structure HttpResponse where
  status : ℤ := 0
  body : Text := []

abbrev JsonPostTransport := JsonPostRequest → HttpResponse

/-! ## `value(key, default)` -/

/-- A member that is no string cannot be converted to one. -/
def Json.value (json : Json) (key : String) (fallback : Text) : Except CxxException Text :=
  match json.member? (ascii key) with
  | none => .ok fallback
  | some (.string s) => .ok s
  | some _ => .error (.jsonTypeError 302)

/-! ## Requests -/

def withoutTrailingSlashes (url : Text) : Text :=
  (url.reverse.dropWhile (· == 0x2F)).reverse

def systemPrompt : Text :=
  ascii "You are a memory extraction assistant. Output ONLY valid JSON."

def chatMessage (role : String) (content : Text) : Json :=
  .ofMembers [("role", .string (ascii role)), ("content", .string content)]

namespace OpenAiModelConfig

def endpoint (config : OpenAiModelConfig) : Text :=
  let url := withoutTrailingSlashes config.baseUrl
  if (ascii "/chat/completions").isSuffixOf url then url else url ++ ascii "/chat/completions"

/-- `BuildRequestBody`, before it is serialised. -/
def requestBody (printFloat : ℚ → FloatText) (config : OpenAiModelConfig) (prompt : Text) : Json :=
  let body := jsonObject config.extraParams
  let body := body.set (ascii "model") (.string config.modelName)
  let body := body.set (ascii "temperature") (floatToJson printFloat config.temperature)
  let body := if 0 < config.maxTokens.toInt then
      body.set (ascii "max_tokens") (.integer config.maxTokens.toInt)
    else body
  body.set (ascii "messages")
    (.array [chatMessage "system" systemPrompt, chatMessage "user" prompt])

def requestHeaders (config : OpenAiModelConfig) : Headers :=
  let headers := if config.apiKey.isEmpty then config.headers
    else config.headers.set "Authorization" (ascii "Bearer " ++ config.apiKey)
  if config.organization.isEmpty then headers
  else headers.set "OpenAI-Organization" config.organization

end OpenAiModelConfig

namespace AnthropicModelConfig

def endpoint (config : AnthropicModelConfig) : Text :=
  let url := withoutTrailingSlashes config.baseUrl
  if (ascii "/v1/messages").isSuffixOf url then url
  else if (ascii "/v1").isSuffixOf url then url ++ ascii "/messages"
  else url ++ ascii "/v1/messages"

/-- `BuildRequestBody`, before it is serialised. -/
def requestBody (printFloat : ℚ → FloatText) (config : AnthropicModelConfig) (prompt : Text) :
    Json :=
  let maxTokens := if 0 < config.maxTokens.toInt then config.maxTokens.toInt else 4096
  let body := jsonObject config.extraParams
  let body := body.set (ascii "model") (.string config.modelName)
  let body := body.set (ascii "max_tokens") (.integer maxTokens)
  let body := body.set (ascii "temperature") (floatToJson printFloat config.temperature)
  let body := body.set (ascii "system") (.string systemPrompt)
  body.set (ascii "messages") (.array [chatMessage "user" prompt])

def requestHeaders (config : AnthropicModelConfig) : Headers :=
  let headers := if config.apiKey.isEmpty then config.headers
    else config.headers.set "x-api-key" config.apiKey
  if config.anthropicVersion.isEmpty then headers
  else headers.set "anthropic-version" config.anthropicVersion

end AnthropicModelConfig

/-! ## Responses -/

/-- `OpenAiModelClient::ParseResponseBody` on a body that parses. -/
def openAiResponseText (json : Json) : Except CxxException Text :=
  if !json.isObject || (json.member? (ascii "error")).isSome then .ok []
  else
    match json.member? (ascii "choices") with
    | some (.array (choice :: _)) =>
        match choice.member? (ascii "message"), choice.member? (ascii "text") with
        | some (.object members), _ => (Json.object members).value "content" []
        | _, some (.string text) => .ok text
        | _, _ => .ok []
    | _ => .ok []

/-- The loop over the blocks of an answer. -/
def textOfBlocks : List Json → Except CxxException Text
  | [] => .ok []
  | block :: rest =>
      if !block.isObject then textOfBlocks rest
      else do
        let type ← block.value "type" []
        let text := match block.member? (ascii "text") with
          | some (.string text) => if type = ascii "text" then text else []
          | _ => []
        return text ++ (← textOfBlocks rest)

/-- `AnthropicModelClient::ParseResponseBody` on a body that parses. -/
def anthropicResponseText (json : Json) : Except CxxException Text :=
  if !json.isObject || (json.member? (ascii "error")).isSome then .ok []
  else
    match json.member? (ascii "content") with
    | some (.array blocks) => textOfBlocks blocks
    | _ => .ok []

/-! ## Clients -/

inductive ModelClient where
  | openai (config : OpenAiModelConfig)
  | anthropic (config : AnthropicModelConfig)

namespace ModelClient

def provider : ModelClient → String
  | .openai _ => "OpenAI"
  | .anthropic _ => "Anthropic"

def config : ModelClient → ModelConfig
  | .openai config => config.toModelConfig
  | .anthropic config => config.toModelConfig

def requestBody (printFloat : ℚ → FloatText) : ModelClient → Text → Json
  | .openai config => config.requestBody printFloat
  | .anthropic config => config.requestBody printFloat

def postRequest (client : ModelClient) (body : Text) : JsonPostRequest where
  url := match client with
    | .openai config => config.endpoint
    | .anthropic config => config.endpoint
  body := body
  timeoutSeconds := client.config.timeoutSeconds
  headers := match client with
    | .openai config => config.requestHeaders
    | .anthropic config => config.requestHeaders

def responseText : ModelClient → Json → Except CxxException Text
  | .openai _ => openAiResponseText
  | .anthropic _ => anthropicResponseText

/-- `ParseResponseBody`. A body that does not parse is no object. -/
def parseResponseBody (host : Host) (client : ModelClient) (body : Text) :
    Except CxxException Text :=
  match host.parseJson body with
  | some json => client.responseText json
  | none => .ok []

/-- `GenerateMemoryUpdate`, which is the same in both clients but for their names. -/
def generateMemoryUpdate (host : Host) (printFloat : ℚ → FloatText) (transport : JsonPostTransport)
    (client : ModelClient) : MemoryModelClient := fun prompt =>
  if client.config.baseUrl.isEmpty || client.config.modelName.isEmpty then
    .ok {
      errorCode := ascii "invalid_config"
      errorMessage := ascii (client.provider ++ " model config requires baseUrl and modelName") }
  else do
    let body ← (client.requestBody printFloat prompt).dump
    let response := transport (client.postRequest body)
    if response.status < 200 || 300 ≤ response.status then
      return {
        httpStatus := response.status
        errorCode := ascii "http_error"
        errorMessage := ascii (client.provider ++ " model request failed")
        providerError := response.body }
    else
      let text ← client.parseResponseBody host response.body
      if text.isEmpty then
        return {
          httpStatus := response.status
          errorCode := ascii "parse_error"
          errorMessage :=
            ascii (client.provider ++ " model response did not contain memory update text")
          providerError := response.body }
      else return { httpStatus := response.status, text }

end ModelClient

/-! ## The factory -/

structure ModelClientLoadResult where
  client : Option ModelClient := none
  error : Text := []

namespace MemoryModelConfig

def modelConfig (source : MemoryModelConfig) (maxTokens : Int32) : ModelConfig where
  baseUrl := source.baseUrl
  apiKey := source.apiKey
  modelName := source.modelName
  timeoutSeconds := source.timeoutSeconds
  temperature := source.temperature
  maxTokens := maxTokens
  headers := source.headers
  extraParams := source.extraParams

def loadOpenAiConfig (source : MemoryModelConfig) : OpenAiModelConfig where
  toModelConfig := source.modelConfig source.maxTokens
  organization := source.organization

def loadAnthropicConfig (source : MemoryModelConfig) : AnthropicModelConfig where
  toModelConfig := source.modelConfig (if source.maxTokens = 0 then 4096 else source.maxTokens)
  anthropicVersion := if source.anthropicVersion.isEmpty then ascii "2023-06-01"
    else source.anthropicVersion

end MemoryModelConfig

/-- The error of `ValidateCommon`; empty when there is none. -/
def validateCommon (formatType : Text) (config : ModelConfig) : Text :=
  if config.baseUrl.isEmpty then formatType ++ ascii " model config missing baseUrl"
  else if config.modelName.isEmpty then formatType ++ ascii " model config missing modelName"
  else if config.timeoutSeconds.toInt ≤ 0 then
    formatType ++ ascii " model config timeoutSeconds must be positive"
  else if config.maxTokens.toInt < 0 then
    formatType ++ ascii " model config maxTokens must be non-negative"
  else if config.temperature < 0 ∨ 2 < config.temperature then
    formatType ++ ascii " model config temperature must be between 0 and 2"
  else []

def loadModelClientFromConfig (modelConfig : MemoryModelConfig) : ModelClientLoadResult :=
  if !modelConfig.enabled then {}
  else if modelConfig.formatType = ascii "openai" then
    let config := modelConfig.loadOpenAiConfig
    let error := validateCommon modelConfig.formatType config.toModelConfig
    if error.isEmpty then { client := some (.openai config) } else { error }
  else if modelConfig.formatType = ascii "anthropic" then
    let config := modelConfig.loadAnthropicConfig
    let error := validateCommon modelConfig.formatType config.toModelConfig
    if error.isEmpty then { client := some (.anthropic config) } else { error }
  else { error := ascii "unsupported model formatType: " ++ modelConfig.formatType }

end AgentMemory
