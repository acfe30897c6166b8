/-! Exchanges with a server whose answers are known beforehand. -/

namespace ImageVerification.Simulation

/-- The questions put so far, and the answers still to come. -/
structure Exchange (Question Answer : Type) where
  answers : List Answer
  asked : List Question

namespace Exchange

variable {Question Answer α : Type}

/-- Puts a question; when no answer is left the usual one is given. -/
def ask (usual : Answer) (question : Question) : StateM (Exchange Question Answer) Answer :=
  fun exchange =>
    match exchange.answers with
    | [] => (usual, { exchange with asked := exchange.asked ++ [question] })
    | answer :: answers => (answer, ⟨answers, exchange.asked ++ [question]⟩)

/-- Runs an exchange to its end, with the questions that were put. -/
def converse (answers : List Answer) (talk : StateM (Exchange Question Answer) α)
    : α × List Question :=
  let (result, exchange) := talk.run ⟨answers, []⟩
  (result, exchange.asked)

end Exchange

end ImageVerification.Simulation
