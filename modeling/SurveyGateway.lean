import SurveyGateway.Access.Resolver
import SurveyGateway.Answer
import SurveyGateway.Cache
import SurveyGateway.Digest.Fnv
import SurveyGateway.Digest.Sha256
import SurveyGateway.Failure
import SurveyGateway.Http.Form
import SurveyGateway.Http.Message
import SurveyGateway.Http.Multipart
import SurveyGateway.Http.Query
import SurveyGateway.Http.Sharing
import SurveyGateway.Http.Target
import SurveyGateway.Json.Cursor
import SurveyGateway.Json.Record
import SurveyGateway.Json.Token
import SurveyGateway.Json.Value
import SurveyGateway.Number.Conversion
import SurveyGateway.Number.Scaled
import SurveyGateway.Number.Shortest
import SurveyGateway.Number.Style
import SurveyGateway.Number.Unsigned
import SurveyGateway.Proofs.Access.Defaults
import SurveyGateway.Proofs.Access.Prefixes
import SurveyGateway.Proofs.Cache.Accounting
import SurveyGateway.Proofs.Cache.Entries
import SurveyGateway.Proofs.Cache.Recency
import SurveyGateway.Proofs.Counting
import SurveyGateway.Proofs.Document.Kernel
import SurveyGateway.Proofs.Document.Questions
import SurveyGateway.Proofs.Document.Told
import SurveyGateway.Proofs.History.Basic
import SurveyGateway.Proofs.History.Credentials
import SurveyGateway.Proofs.History.Replacement
import SurveyGateway.Proofs.History.Retention
import SurveyGateway.Proofs.History.Stored
import SurveyGateway.Proofs.History.Transparency
import SurveyGateway.Proofs.Http.Multipart
import SurveyGateway.Proofs.Http.Query
import SurveyGateway.Proofs.Interleaving.Authorization
import SurveyGateway.Proofs.Interleaving.Basic
import SurveyGateway.Proofs.Interleaving.Handles
import SurveyGateway.Proofs.Interleaving.Provenance
import SurveyGateway.Proofs.Json.Numbers
import SurveyGateway.Proofs.Json.Passing
import SurveyGateway.Proofs.Json.Records
import SurveyGateway.Proofs.Number.Arithmetic
import SurveyGateway.Proofs.Number.Interval
import SurveyGateway.Proofs.Number.Order
import SurveyGateway.Proofs.Number.Precision
import SurveyGateway.Proofs.Number.Rounding
import SurveyGateway.Proofs.Number.Special
import SurveyGateway.Proofs.Number.Text
import SurveyGateway.Proofs.Number.TotalOrder
import SurveyGateway.Proofs.Number.Unpacked
import SurveyGateway.Proofs.Number.Whole
import SurveyGateway.Proofs.Request.Idempotence
import SurveyGateway.Proofs.Request.Normalize
import SurveyGateway.Proofs.Request.RoundTrip
import SurveyGateway.Proofs.Request.Spelling
import SurveyGateway.Proofs.Results
import SurveyGateway.Proofs.Run.Redaction
import SurveyGateway.Proofs.Service.DefaultCredentials
import SurveyGateway.Proofs.Service.Families
import SurveyGateway.Proofs.Service.Histograms
import SurveyGateway.Proofs.Service.Metrics
import SurveyGateway.Proofs.Service.Outcome
import SurveyGateway.Proofs.Statistics.Median
import SurveyGateway.Proofs.Storage.Readers
import SurveyGateway.Proofs.Storage.Rights
import SurveyGateway.Proofs.Text.Blank
import SurveyGateway.Proofs.Text.Find
import SurveyGateway.Proofs.Text.Lowercase
import SurveyGateway.Proofs.Text.Replace
import SurveyGateway.Proofs.Text.Utf8
import SurveyGateway.Proofs.Volume.Blame
import SurveyGateway.Proofs.Volume.Coincident
import SurveyGateway.Proofs.Volume.Cropping
import SurveyGateway.Proofs.Volume.Encoding
import SurveyGateway.Proofs.Volume.Faults
import SurveyGateway.Proofs.Volume.Fences
import SurveyGateway.Proofs.Volume.Leaving
import SurveyGateway.Proofs.Volume.Lines
import SurveyGateway.Proofs.Volume.Maps
import SurveyGateway.Proofs.Volume.Places
import SurveyGateway.Proofs.Volume.Planes
import SurveyGateway.Proofs.Volume.Points
import SurveyGateway.Proofs.Volume.Safety
import SurveyGateway.Proofs.Volume.Shape
import SurveyGateway.Proofs.Volume.Windows
import SurveyGateway.Request.Basic
import SurveyGateway.Request.Inquiry
import SurveyGateway.Request.Reading
import SurveyGateway.Request.Writing
import SurveyGateway.Run
import SurveyGateway.Service.Address
import SurveyGateway.Service.Delivery
import SurveyGateway.Service.Metrics
import SurveyGateway.Service.Server
import SurveyGateway.Service.Settings
import SurveyGateway.Statistics
import SurveyGateway.Storage.Engine
import SurveyGateway.Storage.Memory
import SurveyGateway.Surface
import SurveyGateway.Text.Ascii
import SurveyGateway.Text.Blank
import SurveyGateway.Text.CaseTable
import SurveyGateway.Text.Find
import SurveyGateway.Text.Hex
import SurveyGateway.Text.Lowercase
import SurveyGateway.Text.Quoted
import SurveyGateway.Text.Replace
import SurveyGateway.Text.Split
import SurveyGateway.Text.Utf8
import SurveyGateway.Text.VisibleTable
import SurveyGateway.Vocabulary
import SurveyGateway.Volume.Attributes
import SurveyGateway.Volume.Axis
import SurveyGateway.Volume.Basic
import SurveyGateway.Volume.Metadata
import SurveyGateway.Volume.Slice
import SurveyGateway.Volume.Trace
