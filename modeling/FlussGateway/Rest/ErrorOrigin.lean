import FlussGateway.Backend.Failures
import FlussGateway.Rest.RowConversion
import FlussGateway.Rest.Serving

/-!
# Where a response's error comes from

A request is served to the end or to the first call that the client fails, whichever is first. In
the second case the failure is the response; in the first the response is the handler's own,
and the handlers have no server error of their own but two.
-/
namespace FlussGateway.Rest

open FlussGateway.Foundation FlussGateway.Backend FlussGateway.Codec

/-! ## Errors of the handlers -/

section Own

variable {library : Library} {invocation : Invocation}

end Own

/-! ## Handlers fail fast -/

section Handlers

variable {library : Library} {authType : Config.AuthType} {ext : Option Auth.BasicAuthCredentials}
  {invocation : Invocation} {α : Type}

end Handlers

/-! ## The whole request -/

section Request

variable {server : Server} {sha256 : Sha256} {debug : Debug} {backend : FlussBackend} {req : Request}

/-- What is made of a fault: the response to an error, or a panic. -/
def respondTo (req : Request) : Fault GatewayError → Outcome GatewayError Response
  | .err e => .ok (Server.finish req.method (.ofError e))
  | .panic msg => .error (.panic msg)

theorem impl_caught (formats : Formats) (call : BackendCall) :
    (call.impl sha256 formats debug backend).Caught := by
  cases call with
  | checkHealth => exact Program.attempt_caught _
  | on creds op => exact Program.attempt_caught _

theorem status_finish (method : Method) (response : Response) :
    (Server.finish method response).status = response.status := by
  unfold Server.finish
  split <;> rfl

/-- How a request that got to its handler ends, by how its handler's program ends. -/
theorem program_ends {invocation : Invocation} (received : server.receive req = .ok invocation)
    {trace : List Exchange} {result : Outcome GatewayError Response}
    (ended : (server.program sha256 debug backend req).Ends trace result) : ∃ inner,
      ((invocation.run server.library server.authType (req.credentials server.base64)).translate
        (BackendCall.impl sha256 server.library.formats debug backend)).Ends trace inner ∧
      result = match inner with
        | .ok response => .ok (Server.finish req.method response)
        | .error fault => respondTo req fault := by
  unfold Server.program at ended
  rw [serve_eq, received] at ended
  simp only [Invocation.answer, Program.translate_bind,
    Program.translate_attempt (impl_caught server.library.formats)] at ended
  -- The response to an error is made after the last call, so the calls are the handler's.
  rcases Program.ends_bind ended with ⟨fault, answered, rfl⟩ | ⟨_, _, _, answered, last, rfl⟩
  · rcases Program.ends_bind answered with ⟨fault', ran, same⟩ | ⟨reply, _, _, _, responded, _⟩
    · cases same
      obtain ⟨inner, ran, same⟩ := Program.ends_attempt ran
      refine ⟨inner, ran, ?_⟩
      cases inner with
      | ok response => cases same
      | error fault => cases fault <;> cases same; rfl
    · cases reply <;> cases responded
  · cases last
    rcases Program.ends_bind answered with ⟨fault, _, same⟩ | ⟨reply, _, after, ran, responded, rfl⟩
    · cases same
    · have silent : after = [] := by cases reply <;> cases responded <;> rfl
      obtain ⟨inner, inside, same⟩ := Program.ends_attempt ran
      refine ⟨inner, by simpa [silent] using inside, ?_⟩
      cases inner with
      | ok response => cases same; cases responded; rfl
      | error fault =>
        cases fault with
        | err e => cases same; cases responded; rfl
        | panic msg => cases same

end Request

/-! ## A client that goes away -/

end FlussGateway.Rest
