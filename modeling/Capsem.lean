import Capsem.Python.Json
import Capsem.Models
import Capsem.Policies.DebugPolicy
import Capsem.Policies.DebugTrigger
import Capsem.GenAI.Schema
import Capsem.GenAI.Types
import Capsem.Proxy.Run
import Capsem.Proxy.Plan
import Capsem.Proxy.Integration
import Capsem.Proxy.Gemini
import Capsem.Proxy.GeminiGating
import Capsem.Proxy.GeminiCalls
import Capsem.Proxy.GeminiPreflight
import Capsem.Proxy.GeminiStreamCalls
import Capsem.Spec.RequestStages
import Capsem.Proxy.Staged
import Capsem.Proxy.GeminiStages
import Capsem.Proxy.GeminiProgress
import Capsem.Proxy.GeminiHiding
import Capsem.Proxy.GeminiCredential
import Capsem.Proxy.GeminiToolGate
import Capsem.Proxy.GeminiDefaultPolicy
import Capsem.Schema.Tool
import Capsem.Schema.RoundTrip
