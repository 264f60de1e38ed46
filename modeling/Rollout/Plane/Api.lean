import Rollout.Api
import Rollout.Plane

/-!
# Requests to a control plane

A request to a control plane is answered by one of its executors together with the tracker.
-/

namespace Rollout.Plane

/-- What a request to the executor with a number does, and how it is answered. Without such an
executor there is nothing to be asked for. -/
def handle (p : Plane) (executor : Nat) (r : Api.Request) : Api.Reply × Plane :=
  match p.executor? executor with
  | none => (⟨404, none⟩, p)
  | some x =>
    let (reply, s) := Api.State.handle ⟨x, p.env.tracker⟩ r
    (reply,
      { p with env := { p.env with tracker := s.tracker } }.set executor (.executor s.executor))

end Rollout.Plane
