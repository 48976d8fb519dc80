import ClusterInventory.Api.Server
import ClusterInventory.Json.Decoder

/-! Recorded answers of an API, which can be asked again without it. -/

namespace ClusterInventory.Api

structure Recording where
  moment : Instant
  answers : List (Request × Reply)

namespace Recording

/-- One answer: the target of its request, its code and its body. -/
def answerDecoder : Decoder (Request × Reply) :=
  Decoder.record do
    let target ← Fields.required "target" Decoder.string
    let code ← Fields.withDefault "code" 200 Decoder.uint16
    let body ← Fields.withDefault "body" "" Decoder.string
    let request ← StateT.lift (Request.ofTarget target).toOption
    return (request, .answer code.toNat body)

def decoder : Decoder Recording :=
  Decoder.record do
    let moment ← Fields.required "moment" Decoder.instant
    let answers ← Fields.list "answers" answerDecoder
    return { moment, answers }

/-- The server that gives the recorded answers, whoever asks, and has nothing else. -/
def server (r : Recording) : Server Unit := fun q world =>
  (((r.answers.find? fun a => a.1 == { q with asUser := none }).map (·.2)).getD (.answer 404 ""),
    world)

end Recording

end ClusterInventory.Api
