/-
# Backends

Supplies backends: a provider, its model, and the way to open a source for a request. Opening may
fail, and may send a request to a server whether it fails or not.
-/

import TokenRelay.Backend.Settings
import TokenRelay.Chat.Request
import TokenRelay.Source.Echo

namespace TokenRelay

/-- What comes of opening a source: the request that was sent for it, and the source. -/
structure Opening where
  sent : Option Chat.Request := none
  source : Except StreamError Script

/-- A way to get answers. -/
structure Backend where
  provider : String
  model : String
  openSource : InferenceRequest → Opening

/-- What servers answer; none if nobody listens. -/
abbrev Network : Type := Chat.Request → Option Chat.Response

namespace BackendSettings

/-- The client that the settings describe. -/
def client (settings : BackendSettings) : Chat.Client where
  model := settings.modelOrDefault
  baseUrl := (settings.baseUrl.map Chat.Client.trimSlashes).getD Chat.Client.defaultUrl
  apiKey := settings.apiKey
  systemPrompt := settings.systemPrompt

/-- The backend that the settings describe. -/
def build (settings : BackendSettings) (network : Network) : Backend where
  provider := settings.provider.name
  model := settings.modelOrDefault
  openSource := fun inference =>
    match settings.provider with
    | .mock => { source := .ok (Source.echo inference.query settings.mockTokenDelay.toNat) }
    | .openai =>
      let opening := settings.client.openStream network inference
      { sent := opening.sent, source := opening.stream.map Chat.Stream.toScript }

end BackendSettings

end TokenRelay
