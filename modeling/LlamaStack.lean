import LlamaStack.PyValue
import LlamaStack.StreamEvents
import LlamaStack.VllmStream
import LlamaStack.VllmChunk
import LlamaStack.VllmToolCalls
import LlamaStack.VllmRun
import LlamaStack.VllmAgreement
import LlamaStack.VllmRegister
import LlamaStack.VllmChat
import LlamaStack.EvalJobs
import LlamaStack.GroqStream
import LlamaStack.GroqChat
import LlamaStack.InferenceClient
import LlamaStack.DistributionBuild
import LlamaStack.EvalScoring
import LlamaStack.TgiAdapter
import LlamaStack.MetaInference
import LlamaStack.RegistryStore
import LlamaStack.TelemetrySpans
import LlamaStack.ConsoleTelemetry
