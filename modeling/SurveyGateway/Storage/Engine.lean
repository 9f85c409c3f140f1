import SurveyGateway.Answer

/-!
# Storage engines

The gateway does not read datasets itself. A storage engine is connected to as some reader, tells whether the
reader may read, and opens a dataset for a task. It changes its own state only when it opens or closes one.
-/

namespace SurveyGateway.Storage

/-- A storage engine with states `σ`, connections `κ` and open datasets `η`. -/
structure Engine (σ κ η : Type) where
  /-- The connection of a reader, or why there is none. -/
  connect : σ → Connection → Except Failure κ
  /-- Whether the reader of a connection may read its dataset. -/
  mayRead : σ → κ → Bool
  /-- The dataset of a connection, opened. -/
  openDataset : σ → κ → Except Failure (η × σ)
  /-- What an open dataset answers to a question. -/
  answer : η → Question → Except (Mishap Failure) Product
  /-- The state when an open dataset is closed. -/
  close : σ → η → σ

end SurveyGateway.Storage
