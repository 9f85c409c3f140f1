import SurveyGateway.Http.Message
import SurveyGateway.Http.Multipart
import SurveyGateway.Run

/-!
# Delivering products

A product that is metadata only is delivered as a document, any other one as a body of several parts: the
metadata first, then every block. A header tells whether the product was stored before.
-/

namespace SurveyGateway.Served

open Http (Response Part)

/-- The value of the header that tells whether the product was stored before. -/
def origin (s : Served) : String := if s.stored then "hit" else "miss"

/-- The response with the metadata as its document. -/
def metadataResponse (s : Served) : Response :=
  (Response.ofBody 200 Response.documentType s.product.metadata).withHeader "x-cache" s.origin

/-- The parts of a product. -/
def parts (s : Served) : List Part :=
  ⟨Response.documentType, s.product.metadata⟩ :: s.product.blocks.map fun block =>
    ⟨"application/octet-stream", block⟩

/-- The response with metadata and blocks as its parts. -/
def partsResponse (boundary : String) (s : Served) : Response :=
  (Response.ofBody 200 (Http.Multipart.contentType boundary)
    (Http.Multipart.write boundary s.parts)).withHeader "x-cache" s.origin

end SurveyGateway.Served
