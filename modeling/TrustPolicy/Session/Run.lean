import TrustPolicy.Session.Builders
import TrustPolicy.Session.Policies
import TrustPolicy.Session.Sources
import TrustPolicy.Session.Values

/-!
# Runs of sessions

A session is run step by step from the session without objects. Each step has
an answer, and a step that is refused before it does anything leaves the
session as it was.
-/

namespace TrustPolicy

/-- A step of a session. -/
inductive Step
  | source (step : SourceStep)
  | builder (step : BuilderStep)
  | policy (step : PolicyStep)
  | value (step : ValueStep)
  /-- Show the events since the last time they were shown. -/
  | events

namespace Session

/-- What a step does, or the answer with which it is refused. -/
def attempt (session : Session) : Step → Except Answer (Answer × Session)
  | .source step => step.run session
  | .builder step => step.run session
  | .policy step => step.run session
  | .value step => step.run session
  | .events =>
      .ok (.events session.world.events, session.withWorld { session.world with events := [] })

/-- The answer to a step, and the session after it. -/
def step
    (session : Session)
    (step : Step) : Answer × Session :=
  match session.attempt step with
  | .ok outcome => outcome
  | .error answer => (answer, session)

/-- The answers to steps, and the session after them. -/
def run (session : Session) : List Step → List Answer × Session
  | [] => ([], session)
  | step :: rest =>
      let (answer, next) := session.step step
      let (answers, final) := next.run rest
      (answer :: answers, final)

/-- The answers to the steps of a session from its beginning. -/
def answers (steps : List Step) : List Answer :=
  (initial.run steps).1

end Session
end TrustPolicy
