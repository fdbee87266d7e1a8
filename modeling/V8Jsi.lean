import V8Jsi.TcpWrite
import V8Jsi.ReadLoop
import V8Jsi.WsClose
import V8Jsi.AgentWait
import V8Jsi.AgentSessions
import V8Jsi.AgentPause
import V8Jsi.PointerLifetime
import V8Jsi.PointerHandles
import V8Jsi.PointerReclaim
import V8Jsi.PropNames
import V8Jsi.EnvLifetime
import V8Jsi.PromiseRejection
import V8Jsi.IsolateOwnership
import V8Jsi.V8Exceptions
import V8Jsi.ScriptCache
import V8Jsi.ScriptRuns
import V8Jsi.TcpClose
import V8Jsi.FrameText
import V8Jsi.AgentRegistration
import V8Jsi.AgentTasks
import V8Jsi.IsolateData
import V8Jsi.WsFrameBounds
import V8Jsi.BigIntText
import V8Jsi.EnvScopes
import V8Jsi.NativeState
import V8Jsi.EnvFinalizers
import V8Jsi.AllowedHost
import V8Jsi.HttpHeaders
import V8Jsi.BigIntLoop
import V8Jsi.HostObjectProxy
import V8Jsi.AgentStartup
import V8Jsi.HostObjectTraps
import V8Jsi.HostObjectEnumeration
import V8Jsi.TargetList
import V8Jsi.WsFrameCodec
import V8Jsi.HttpRequests
import V8Jsi.AgentWrite
import V8Jsi.MurmurHash
import V8Jsi.TcpPump
import V8Jsi.ErrorStack
import V8Jsi.Base64Encode
import V8Jsi.Sha1Digest
import V8Jsi.MurmurDigest
import V8Jsi.NapiReferenceRuns
import V8Jsi.HostCalls
import V8Jsi.RefTracker
import V8Jsi.WireMessages
import V8Jsi.WireCommands
import V8Jsi.JsiValue
import V8Jsi.TypeTags
import V8Jsi.HttpResponses
