import SurveyGateway.Proofs.History.Credentials
import SurveyGateway.Proofs.Volume.Blame
import SurveyGateway.Service.Server

/-!
# How calls for products end

A call for a product ends in one of three ways that are documented: with status 200 and the product, with status 400
if its caller has to mend it, or with status 500. A header tells where a product came from, and there is no such header
otherwise; what went wrong is told in a document. A body that is too long ends in none of these ways: it is refused
before it is read, with a status of its own and a plain text.

## The model

`answered` is what a call comes to if its body is read, however long it is. `Rejected` is a call that its caller has to
mend: it cannot be decoded, it is not in order, or its tokens and numbers are not understood once its dataset has been
opened. `Documented` says of a response that it is what the documentation promises of the call.

## What is proved

* `rejected_iff` — the failures that callers are blamed for are those of requests that are rejected.
* `header?_sent` — what is said about sharing and length covers no header of a response.
* `documented_iff` — a response is documented exactly if the body is not too long.
-/

namespace SurveyGateway

open Storage (Memory)
open History (shown?)

/-! ### Who is blamed -/

/-- A request that its caller has to mend. -/
inductive Request.Rejected (resolver : Resolver) (s : Shared Memory) (r : Request) : Prop where
  /-- It is not in order. -/
  | unordered {refusal : Refusal} (h : r.normalize resolver = .error refusal)
  /-- Its dataset is opened for it, and it is not understood. -/
  | misunderstood {i : Inquiry} {v : Volume} {refusal : Refusal} (hi : r.normalize resolver = .ok i)
      (hshown : shown? s i = none) (hv : s.storage.Reads i.connection v) (htask : i.question.task = .error refusal)

/-- A volume blames a caller only for a question that it does not understand. -/
theorem Volume.refusal_of_answer {v : Volume} {i : Inquiry} {e : Mishap Failure} (h : v.answer i.question = .error e)
    (hblame : (i.report e).blame = .caller) : ∃ refusal, i.question.task = .error refusal := by
  cases e with
  | brokenOff => cases hblame
  | failed f =>
    rcases Volume.refusal_or_fault h with ⟨refusal, htask, -⟩ | ⟨fault, rfl⟩
    · exact ⟨refusal, htask⟩
    · simp [Inquiry.report, VolumeFault.toFailure] at hblame

theorem Storage.Memory.blame_reply {m : Memory} {i : Inquiry} {f : Failure} (h : m.reply i = .error f)
    (hblame : f.blame = .caller) : ∃ v refusal, m.Reads i.connection v ∧ i.question.task = .error refusal := by
  by_cases hread : m.CanRead i.connection
  · obtain ⟨v, hv⟩ := (canRead_iff_reads m _).mp hread
    rw [reply_of_reads hv] at h
    cases hanswer : v.answer i.question with
    | ok p =>
      rw [hanswer] at h
      cases h
    | error e =>
      rw [hanswer] at h
      cases h
      obtain ⟨refusal, htask⟩ := v.refusal_of_answer hanswer hblame
      exact ⟨v, refusal, hv, htask⟩
  · unfold reply at h
    cases ho : m.openVolume (connect i.connection) with
    | ok opening => exact absurd ((openVolume_ok_iff m _ _ _).mp ho).1 hread
    | error d =>
      rw [ho] at h
      cases h
      simp [Denial.toFailure] at hblame

/-- **Who has to mend a failure.** A caller is blamed for exactly those requests that are rejected. -/
theorem Request.rejected_iff {resolver : Resolver} {s : Shared Memory} {r : Request} :
    r.Rejected resolver s ↔ ∃ f, (s.serve Memory.engine resolver r).1 = .error f ∧ f.blame = .caller := by
  constructor
  · rintro (@⟨refusal, h⟩ | @⟨i, v, refusal, hi, hshown, hv, htask⟩)
    · exact ⟨refusal.toFailure, by rw [History.serve_refused h], rfl⟩
    · have hreply : s.storage.reply i = .error (refusal.toFailure.redact i.connection.credential.token) := by
        rw [Storage.Memory.reply_of_reads hv, Volume.answer, htask]
        rfl
      refine ⟨refusal.toFailure.redact i.connection.credential.token, ?_, Failure.blame_redact _ _⟩
      rw [History.serve_computed hi hshown, hreply]
  · rintro ⟨f, hf, hblame⟩
    cases hi : r.normalize resolver with
    | error refusal => exact .unordered hi
    | ok i =>
      rcases History.outcome_cases (s := s) hi with ⟨p, -, ho⟩ | ⟨hshown, ho⟩
      · cases ho.symm.trans hf
      · rw [ho] at hf
        cases hreply : s.storage.reply i with
        | ok p =>
          rw [hreply] at hf
          cases hf
        | error f' =>
          rw [hreply] at hf
          cases hf
          obtain ⟨v, refusal, hv, htask⟩ := Storage.Memory.blame_reply hreply hblame
          exact .misunderstood hi hshown hv htask

end SurveyGateway

namespace SurveyGateway.Service

open Http (Call Response SharingPolicy)
open Json (Value)
open Storage (Memory)

/-! ### What a call comes to -/

/-- The request that a call makes, however long its body is. -/
def askOf (kind : Kind) (c : Call) : Except Failure Request :=
  if c.method = "POST" then Request.ofBody kind c.body else Request.ofTarget kind c.target

/-- What a call comes to, however long its body is. -/
def answered (resolver : Resolver) (s : Shared Memory) (kind : Kind) (c : Call) : Outcome :=
  match askOf kind c with
  | .error f => .error f
  | .ok r => (s.serve Memory.engine resolver r).1

/-- A call that its caller has to mend. -/
inductive Rejected (resolver : Resolver) (s : Shared Memory) (kind : Kind) (c : Call) : Prop where
  | undecoded {f : Failure} (h : askOf kind c = .error f)
  | request {r : Request} (h : askOf kind c = .ok r) (hr : r.Rejected resolver s)

/-- A call whose body is not read. -/
def TooLong (c : Call) : Prop := c.method = "POST" ∧ bodyLimit < c.body.length

theorem requestOf_of_not_tooLong {kind : Kind} {c : Call} (h : ¬ TooLong c) :
    requestOf kind c = (askOf kind c).mapError Failure.response := by
  unfold requestOf askOf
  by_cases hpost : c.method = "POST"
  · rw [if_pos hpost, if_pos hpost, if_neg fun hlong => h ⟨hpost, hlong⟩]
  · rw [if_neg hpost, if_neg hpost]

theorem requestOf_of_tooLong {kind : Kind} {c : Call} (h : TooLong c) : requestOf kind c = .error tooLong := by
  unfold requestOf
  rw [if_pos h.1, if_pos h.2]

/-- A document that is not read blames its caller. -/
theorem blame_of_askOf {kind : Kind} {c : Call} {f : Failure} (h : askOf kind c = .error f) : f.blame = .caller := by
  unfold askOf at h
  split at h
  · unfold Request.ofBody at h
    cases hread : Request.read kind c.body with
    | ok r =>
      rw [hread] at h
      cases h
    | error complaint =>
      rw [hread] at h
      cases h
      rfl
  · unfold Request.ofTarget at h
    split at h
    · cases h
      rfl
    · next document _ =>
      cases hread : Request.read kind (Text.utf8 document.toList) with
      | ok r =>
        rw [hread] at h
        cases h
      | error complaint =>
        rw [hread] at h
        cases h
        rfl
    · cases h
      rfl

/-- A caller is blamed for exactly those calls that are rejected. -/
theorem rejected_iff {resolver : Resolver} {s : Shared Memory} {kind : Kind} {c : Call} :
    Rejected resolver s kind c ↔ ∃ f, answered resolver s kind c = .error f ∧ f.blame = .caller := by
  unfold answered
  cases hask : askOf kind c with
  | error f =>
    constructor
    · intro _
      exact ⟨f, rfl, blame_of_askOf hask⟩
    · intro _
      exact .undecoded hask
  | ok r =>
    dsimp only
    rw [← Request.rejected_iff]
    constructor
    · rintro (⟨h⟩ | ⟨h, hr⟩)
      · cases hask.symm.trans h
      · cases hask.symm.trans h
        exact hr
    · exact .request hask

/-! ### Documented responses -/

/-- A response with a product: where it came from is told in a header. -/
structure Delivers (kind : Kind) (boundary : String) (served : Served) (r : Response) : Prop where
  status : r.status = 200
  origin : r.header? "x-cache" = some served.origin
  contentType : r.header? "content-type" =
    some (if kind = .metadata then Response.documentType else Http.Multipart.contentType boundary)
  body : r.body =
    if kind = .metadata then served.product.metadata else Http.Multipart.write boundary served.parts

/-- A response that tells of a failure, with its message as the only member of a document. -/
structure Tells (f : Failure) (r : Response) : Prop where
  status : r.status = 400 ∨ r.status = 500
  origin : r.header? "x-cache" = none
  contentType : r.header? "content-type" = some Response.documentType
  body : r.body = (Value.object [("error", .text f.message)]).bytes

/-- A response is what the documentation promises of a call: the product or the failure that the call comes to, and
the status of a bad request exactly if the call is rejected. -/
def Documented (resolver : Resolver) (boundary : String) (s : Shared Memory) (kind : Kind) (c : Call) (r : Response) :
    Prop :=
  (match answered resolver s kind c with
    | .ok served => Delivers kind boundary served r
    | .error f => Tells f r) ∧
  (r.status = 400 ↔ Rejected resolver s kind c)

/-! ### Headers -/

/-- The headers that are put on every response. -/
def outerHeaders : List String :=
  ["access-control-allow-origin", "vary", "access-control-expose-headers", "allow", "content-length"]

theorem mem_commonHeaders {policy : SharingPolicy} {c : Call} :
    ∀ h ∈ policy.commonHeaders c, h.1 ∈ outerHeaders := by
  intro h hmem
  unfold SharingPolicy.commonHeaders at hmem
  rcases List.mem_append.mp hmem with hmem | hmem
  · obtain ⟨origin, -, rfl⟩ := Option.map_eq_some_iff.mp (Option.mem_toList.mp hmem)
    simp [outerHeaders]
  · obtain rfl := List.mem_singleton.mp hmem
    simp [outerHeaders]

theorem mem_allowHeader {e : Option Endpoint} {method : String} :
    ∀ h ∈ Server.allowHeader e method, h.1 ∈ outerHeaders := by
  intro h hmem
  unfold Server.allowHeader at hmem
  split at hmem
  · cases hmem
  · split at hmem
    · cases hmem
    · obtain rfl := List.mem_singleton.mp hmem
      simp [outerHeaders]

/-- What is put on a response covers none of its own headers. -/
theorem header?_sent {name : String} (hname : name ∉ outerHeaders) (policy : SharingPolicy) (e : Option Endpoint)
    (c : Call) (r : Response) : (Server.sent e c.method (policy.share c r)).header? name = r.header? name := by
  have hnone : ∀ hs : List (String × String), (∀ h ∈ hs, h.1 ∈ outerHeaders) → hs.find? (·.1 == name) = none := by
    intro hs hmem
    refine List.find?_eq_none.mpr fun h hh heq => hname ?_
    rw [← beq_iff_eq.mp heq]
    exact hmem h hh
  have hexpose : ([("access-control-expose-headers", "x-cache")] : List (String × String)).find? (·.1 == name) = none :=
    hnone _ (by simp [outerHeaders])
  have hlength : ∀ text, ([("content-length", text)] : List (String × String)).find? (·.1 == name) = none :=
    fun text => hnone _ (by simp [outerHeaders])
  simp only [Response.header?, Server.sent, SharingPolicy.share, List.find?_append, hnone _ mem_commonHeaders,
    hnone _ mem_allowHeader, hexpose, hlength, Option.or_none]

/-! ### How a call for a product ends -/

variable {resolver : Resolver} {s : Server Memory} {kind : Kind} {c : Call} (now : Circumstances)

/-- A call for a product is answered by its endpoint. -/
theorem respond_product (setup : Setup Memory Storage.Reader Volume) (hpath : s.endpoint? c = some (.product kind))
    (hmethod : c.method = "GET" ∨ c.method = "POST") :
    (s.respond setup now c).1 = Server.sent (some (.product kind)) c.method
      (setup.policy.share c (s.replyProduct setup now.boundary kind c).1.response) := by
  have hplain : SharingPolicy.isPreflight c = false := by
    unfold SharingPolicy.isPreflight
    rcases hmethod with h | h <;> rw [h] <;> decide
  have hmem : c.method ∈ (Endpoint.product kind).methods := by
    rcases hmethod with h | h <;> rw [h] <;> simp [Endpoint.methods]
  simp only [Server.respond, hplain, Bool.false_eq_true, if_false, Server.reply, hpath, if_pos hmem, Server.replyOf]

/-- The reply of an endpoint for products. -/
theorem replyProduct_response (policy : SharingPolicy) (boundary : String) (h : ¬ TooLong c) :
    (s.replyProduct ⟨Memory.engine, resolver, policy⟩ boundary kind c).1.response =
      match answered resolver s.shared kind c with
      | .ok served => if kind = .metadata then served.metadataResponse else served.partsResponse boundary
      | .error f => f.response := by
  unfold Server.replyProduct answered
  rw [requestOf_of_not_tooLong h]
  cases askOf kind c with
  | error f => rfl
  | ok r =>
    simp only [Except.mapError]
    cases (s.shared.serve Memory.engine resolver r).1 with
    | error f => rfl
    | ok served => rfl

theorem status_eq_caller_iff (f : Failure) : f.response.status = 400 ↔ f.blame = .caller := by
  obtain ⟨blame, message⟩ := f
  cases blame <;> simp [Failure.response, Failure.status, Response.ofDocument, Response.ofBody]

/-- A failure is told of as the documentation says. -/
theorem tells_sent (policy : SharingPolicy) (f : Failure) (hmethod : c.method = "GET" ∨ c.method = "POST")
    (e : Option Endpoint) : Tells f (Server.sent e c.method (policy.share c f.response)) where
  status := by
    obtain ⟨blame, message⟩ := f
    cases blame with
    | caller => exact Or.inl rfl
    | gateway => exact Or.inr rfl
  origin := by
    rw [header?_sent (by decide)]
    rfl
  contentType := by
    rw [header?_sent (by decide)]
    rfl
  body := by
    have hbody : c.method ≠ "HEAD" := by rcases hmethod with h | h <;> rw [h] <;> decide
    exact if_neg hbody

/-- A product is delivered as the documentation says. -/
theorem delivers_sent (kind : Kind) (policy : SharingPolicy) (boundary : String) (served : Served)
    (hmethod : c.method = "GET" ∨ c.method = "POST") (e : Option Endpoint) :
    Delivers kind boundary served (Server.sent e c.method (policy.share c
      (if kind = .metadata then served.metadataResponse else served.partsResponse boundary))) := by
  have hbody : c.method ≠ "HEAD" := by rcases hmethod with h | h <;> rw [h] <;> decide
  by_cases hkind : kind = .metadata
  · rw [if_pos hkind]
    refine ⟨rfl, ?_, ?_, ?_⟩
    · rw [header?_sent (by decide)]
      rfl
    · rw [header?_sent (by decide), if_pos hkind]
      rfl
    · rw [if_pos hkind]
      exact if_neg hbody
  · rw [if_neg hkind]
    refine ⟨rfl, ?_, ?_, ?_⟩
    · rw [header?_sent (by decide)]
      rfl
    · rw [header?_sent (by decide), if_neg hkind]
      rfl
    · rw [if_neg hkind]
      exact if_neg hbody

/-- A call whose body is too long gets a status of its own. -/
theorem status_of_tooLong (setup : Setup Memory Storage.Reader Volume)
    (hpath : s.endpoint? c = some (.product kind)) (h : TooLong c) : (s.respond setup now c).1.status = 413 := by
  rw [respond_product now setup hpath (Or.inr h.1)]
  unfold Server.replyProduct
  rw [requestOf_of_tooLong h]
  rfl

/-- It is told so in a plain text. -/
theorem contentType_of_tooLong (setup : Setup Memory Storage.Reader Volume)
    (hpath : s.endpoint? c = some (.product kind)) (h : TooLong c) :
    (s.respond setup now c).1.header? "content-type" = some "text/plain; charset=utf-8" := by
  rw [respond_product now setup hpath (Or.inr h.1), header?_sent (by decide)]
  unfold Server.replyProduct
  rw [requestOf_of_tooLong h]
  rfl

/-- No response is documented for a body that is too long. -/
theorem not_documented_of_tooLong (setup : Setup Memory Storage.Reader Volume) (resolver : Resolver) (boundary : String)
    (hpath : s.endpoint? c = some (.product kind)) (h : TooLong c) :
    ¬ Documented resolver boundary s.shared kind c (s.respond setup now c).1 := by
  rintro ⟨hended, -⟩
  have hstatus := status_of_tooLong now setup hpath h
  split at hended
  · rw [hended.status] at hstatus
    cases hstatus
  · rcases hended.status with h | h <;> rw [h] at hstatus <;> cases hstatus

/-- **When the response to a call for a product is documented.** Whatever the state of the server, the query of the
target and the bytes of the body: a call with GET or POST for a product ends with status 200, the product and the header
that tells where it came from, or with status 400 or 500, without that header, and with its message as a document, and
with 400 exactly if the call is rejected, unless its body is too long to be read, and never if it is. -/
theorem documented_iff (resolver : Resolver) (policy : SharingPolicy) (now : Circumstances) (s : Server Memory)
    {kind : Kind} {c : Call} (hpath : s.endpoint? c = some (.product kind))
    (hmethod : c.method = "GET" ∨ c.method = "POST") :
    Documented resolver now.boundary s.shared kind c (s.respond ⟨Memory.engine, resolver, policy⟩ now c).1 ↔
      ¬ TooLong c := by
  constructor
  · intro hdocumented hlong
    exact not_documented_of_tooLong now _ resolver now.boundary hpath hlong hdocumented
  · intro hshort
    rw [respond_product now _ hpath hmethod, replyProduct_response policy now.boundary hshort]
    unfold Documented
    rw [rejected_iff]
    cases answered resolver s.shared kind c with
    | ok served =>
      have hdelivers := delivers_sent kind policy now.boundary served hmethod (some (.product kind))
      refine ⟨hdelivers, ?_⟩
      rw [hdelivers.status]
      simp
    | error f =>
      refine ⟨tells_sent policy f hmethod _, ?_⟩
      have hstatus : (Server.sent (some (.product kind)) c.method (policy.share c f.response)).status = 400 ↔
          f.blame = .caller := status_eq_caller_iff f
      rw [hstatus]
      simp

/-! ### A body that is too long -/

/-- A server that has answered nothing yet. -/
def freshServer : Server Memory := ⟨.fresh Sample.memory 0xffffffff, none⟩

/-- Surroundings of a call. -/
def calm : Circumstances := ⟨"0123456789abcdef0123456789abcdef", 0, 0⟩

/-- A call for metadata with a document and blanks behind it. -/
def paddedCall (blanks : ℕ) : Call where
  method := "POST"
  target := ⟨Text.utf8 "/metadata".toList, none⟩
  headers := []
  body := Text.utf8 "\x7b\"vds\":\"a\",\"sas\":\"first\"\x7d".toList ++ List.replicate blanks 32

theorem endpoint_paddedCall (blanks : ℕ) : freshServer.endpoint? (paddedCall blanks) = some (.product .metadata) := by
  have hpath : (⟨Text.utf8 "/metadata".toList, none⟩ : Http.Target).pathText = "/metadata" := by decide
  exact congrArg (Endpoint.ofPath? false) hpath

theorem length_paddedCall (blanks : ℕ) : (paddedCall blanks).body.length = 25 + blanks := by
  have hdocument : (Text.utf8 "\x7b\"vds\":\"a\",\"sas\":\"first\"\x7d".toList).length = 25 := by decide
  simp only [paddedCall, List.length_append, List.length_replicate, hdocument]

theorem documented_iff_sample :
    Documented Sample.resolver calm.boundary freshServer.shared .metadata (paddedCall 0)
        (freshServer.respond ⟨Memory.engine, Sample.resolver, ⟨none, 0⟩⟩ calm (paddedCall 0)).1 ∧
      ¬ TooLong (paddedCall 0) := by
  have hshort : ¬ TooLong (paddedCall 0) := by
    rintro ⟨-, hlong⟩
    rw [length_paddedCall] at hlong
    exact absurd hlong (by decide)
  exact ⟨(documented_iff Sample.resolver ⟨none, 0⟩ calm freshServer (endpoint_paddedCall 0) (Or.inr rfl)).mpr hshort,
    hshort⟩

/-- A document with enough blanks behind it is refused with a status and a text that are not documented. -/
theorem long_body_undocumented :
    (freshServer.respond ⟨Memory.engine, Sample.resolver, ⟨none, 0⟩⟩ calm (paddedCall bodyLimit)).1.status = 413 ∧
      (freshServer.respond ⟨Memory.engine, Sample.resolver, ⟨none, 0⟩⟩ calm (paddedCall bodyLimit)).1.header?
        "content-type" = some "text/plain; charset=utf-8" ∧
      ¬ Documented Sample.resolver calm.boundary freshServer.shared .metadata (paddedCall bodyLimit)
        (freshServer.respond ⟨Memory.engine, Sample.resolver, ⟨none, 0⟩⟩ calm (paddedCall bodyLimit)).1 := by
  have hlong : TooLong (paddedCall bodyLimit) := by
    refine ⟨rfl, ?_⟩
    rw [length_paddedCall]
    exact Nat.lt_add_of_pos_left (by decide)
  have hpath := endpoint_paddedCall bodyLimit
  exact ⟨status_of_tooLong calm _ hpath hlong, contentType_of_tooLong calm _ hpath hlong,
    not_documented_of_tooLong calm _ Sample.resolver calm.boundary hpath hlong⟩

end SurveyGateway.Service
