import StackWatch.Http.Exchange

/-!
# Transcripts

A transcript is a deployment of which the answers are known in advance, in the order of the
requests. It lets a run be carried on one exchange at a time: the run is repeated with what is known
so far, and the first request that it leaves open is the one to be made next.
-/

namespace StackWatch

/-- The answers that are known, and the first request without one. -/
structure Transcript where
  answers : List Answer
  /-- nothing is answered any more once a request is left open -/
  pending : Option Request
  deriving Inhabited

namespace Transcript

/-- A transcript of some answers. -/
def ofAnswers (answers : List Answer) : Transcript := ⟨answers, none⟩

/-- Answers a request with the next answer, and drops it if there is none. -/
def deployment : Deployment Transcript := fun r t =>
  match t.pending, t.answers with
  | none, answer :: rest => (answer, ⟨rest, none⟩)
  | none, [] => (.dropped, ⟨[], some r⟩)
  | some _, _ => (.dropped, t)

/-- A request that has an answer takes it. -/
theorem deployment_cons (r : Request) (a : Answer) (rest : List Answer) :
    deployment r (ofAnswers (a :: rest)) = (a, ofAnswers rest) := rfl

/-- A request that has none is left open. -/
theorem deployment_nil (r : Request) :
    deployment r (ofAnswers []) = (.dropped, ⟨[], some r⟩) := rfl

/-- What is open stays open. -/
theorem deployment_of_pending {t : Transcript} {open' : Request} (h : t.pending = some open')
    (r : Request) : deployment r t = (.dropped, t) := by
  simp only [deployment, h]

end Transcript

end StackWatch
