import SurveyGateway.Proofs.Document.Questions
import SurveyGateway.Proofs.Json.Numbers
import SurveyGateway.Proofs.Json.Records
import SurveyGateway.Request.Reading

/-!
# Requests are read back

The document of a request leaves out what may be left out: a token and a fill value that are not there, and bounds where
there are none. What reads a request puts the same back in their place. So the two agree, for every kind of request,
although each goes through the members in its own way.

## The model

Floats go through decimal texts. That the text of a float is read as that float is taken as given for the floats of the
request (`ReadsBack`); nothing is taken as given of how such a text stands inside the document.

## What is proved

* `Request.read_toValue` — a request without infinities and NaN is what its document is read as.
-/

namespace SurveyGateway

open Json Number

/-! ### Parts of requests -/

/-- A list is read as its items are. -/
theorem reads_map {α : Type} {item : Reader α} {f : α → Value} {xs : List α} (h : ∀ x ∈ xs, Reads item (f x) x) :
    Reads (Json.list item) (.list (xs.map f)) xs :=
  reads_list (List.forall₂_map_left_iff.mpr (List.forall₂_same.mpr h))

theorem reads_texts (ss : List String) : Reads (Json.list Json.text) (Value.texts ss) ss :=
  reads_map fun s _ => reads_text s

/-- A float that is read back. -/
structure Readable (x : Float32) : Prop where
  isFinite : x.isFinite = true
  readsBack : ReadsBack x

theorem Readable.reads {x : Float32} (h : Readable x) : Reads Json.float32 (.float32 x) x :=
  reads_float32 h.isFinite h.readsBack

theorem reads_numberRows {xss : List (List Float32)} (h : ∀ x ∈ xss.flatten, Readable x) :
    Reads numberRows (.list (xss.map Value.floats32)) xss :=
  reads_map fun _ hxs => reads_map fun x hx => (h x (List.mem_flatten_of_mem hxs hx)).reads

theorem reads_bound {b : SliceBound} (h : ∀ x ∈ b.floats, Readable x) :
    Reads (Json.record SliceBound.record) b.toValue b := by
  simp only [SliceBound.floats, List.forall_mem_cons] at h
  obtain ⟨hlower, hupper, -⟩ := h
  exact reads_record (List.cons_ne_nil _ _)
    (.store rfl rfl (reads_text b.direction) <|
      .store rfl rfl hlower.reads <|
      .store rfl rfl hupper.reads <|
      .nil _)
    rfl

theorem reads_surface {s : Surface} (h : ∀ x ∈ s.floats, Readable x) :
    Reads (Json.record Surface.record) s.toValue s := by
  simp only [Surface.floats, List.forall_mem_append, List.forall_mem_cons] at h
  obtain ⟨hvalues, hxori, hyori, hxinc, hyinc, hrotation, hfill, -⟩ := h
  exact reads_record (List.cons_ne_nil _ _)
    (.store rfl rfl (reads_numberRows hvalues) <|
      .store rfl rfl hxori.reads <|
      .store rfl rfl hyori.reads <|
      .store rfl rfl hxinc.reads <|
      .store rfl rfl hyinc.reads <|
      .store rfl rfl hrotation.reads <|
      .store rfl rfl hfill.reads <|
      .nil _)
    rfl

/-! ### Members that may be left out -/

section Optional

variable {α δ : Type} {members : List (Member δ)} {draft : δ}

/-- A member that is left out where there is none. -/
theorem gathers_optional {name : String} {reader : Reader (Option α)} {f : α → Value} {value : Option α}
    {set : δ → Option α → δ} {isPresent : δ → Bool}
    (hfind : members.find? (·.name == name) = some ⟨name, fun d => return set d (← reader), isPresent, true⟩)
    (habsent : isPresent draft = false) (hread : ∀ x ∈ value, Reads reader (f x) (some x)) :
    Gathers members draft (optionalMember name (value.map f)) (value.elim draft fun x => set draft (some x)) := by
  cases value with
  | none => exact .nil draft
  | some x => exact .store hfind habsent (hread x rfl) (.nil _)

end Optional

/-- A token. -/
theorem reads_token (s : String) : Reads (Json.optional Json.text) (.text s) (some s) :=
  reads_optional ⟨34, _, by rw [Value.bytes, Value.render, utf8_textText], by decide⟩ (reads_text s)

/-- A fill value. -/
theorem Readable.reads_optional {x : Float32} (h : Readable x) :
    Reads (Json.optional Json.float32) (.float32 x) (some x) := by
  obtain ⟨b, bs, hbytes, hb, -⟩ := bytes_float32 h.isFinite
  refine Json.reads_optional ⟨b, bs, hbytes, ?_⟩ h.reads
  rintro rfl
  cases hb

/-! ### Requests of each kind -/

section Kinds

variable (dataset : String) (token : Option String)

theorem reads_metadata : Reads (Json.record metadataRecord) (Request.toValue ⟨dataset, token, .metadata⟩)
    ⟨dataset, token, .metadata⟩ := by
  refine reads_record (List.cons_ne_nil _ _)
    (.store rfl rfl (reads_text dataset) <| gathers_optional rfl rfl fun s _ => reads_token s) ?_
  cases token <;> rfl

theorem reads_slice (q : SliceQuestion) (hline : -2147483648 ≤ q.line ∧ q.line ≤ 2147483647)
    (hfloats : ∀ x ∈ (Question.slice q).floats, Readable x) :
    Reads (Json.record sliceRecord) (Request.toValue ⟨dataset, token, .slice q⟩) ⟨dataset, token, .slice q⟩ := by
  obtain ⟨direction, line, bounds⟩ := q
  have hbounds : Reads (Json.list (Json.record SliceBound.record)) (.list (bounds.map SliceBound.toValue)) bounds :=
    reads_map fun b hb => reads_bound fun x hx => hfloats x (List.mem_flatMap_of_mem hb hx)
  cases bounds with
  | nil =>
    refine reads_record (List.cons_ne_nil _ _)
      (.store rfl rfl (reads_text dataset) <|
        .store rfl rfl (reads_text direction) <|
        .store rfl rfl (reads_int32 hline) <|
        gathers_optional rfl rfl fun s _ => reads_token s) ?_
    cases token <;> rfl
  | cons bound bounds =>
    refine reads_record (List.cons_ne_nil _ _)
      (.store rfl rfl (reads_text dataset) <|
        .store rfl rfl (reads_text direction) <|
        .store rfl rfl (reads_int32 hline) <|
        .store rfl rfl hbounds <|
        gathers_optional rfl rfl fun s _ => reads_token s) ?_
    cases token <;> rfl

theorem reads_fence (q : FenceQuestion) (hfloats : ∀ x ∈ (Question.fence q).floats, Readable x) :
    Reads (Json.record fenceRecord) (Request.toValue ⟨dataset, token, .fence q⟩) ⟨dataset, token, .fence q⟩ := by
  obtain ⟨system, coordinates, interpolation, fillValue⟩ := q
  simp only [Question.floats, List.forall_mem_append, Option.mem_toList] at hfloats
  obtain ⟨hcoordinates, hfill⟩ := hfloats
  refine reads_record (List.cons_ne_nil _ _)
    (.store rfl rfl (reads_text dataset) <|
      .append
        (.store rfl rfl (reads_text system) <|
          .store rfl rfl (reads_numberRows hcoordinates) <|
          .store rfl rfl (reads_text interpolation) <|
          gathers_optional rfl rfl fun x hx => (hfill x hx).reads_optional)
        (gathers_optional rfl ?_ fun s _ => reads_token s)) ?_
  · cases fillValue <;> rfl
  · cases fillValue <;> cases token <;> rfl

theorem reads_along (q : AlongQuestion) (hfloats : ∀ x ∈ (Question.along q).floats, Readable x) :
    Reads (Json.record alongRecord) (Request.toValue ⟨dataset, token, .along q⟩) ⟨dataset, token, .along q⟩ := by
  simp only [Question.floats, List.forall_mem_append, List.forall_mem_cons] at hfloats
  obtain ⟨hsurface, habove, hbelow, hstep, -⟩ := hfloats
  refine reads_record (List.cons_ne_nil _ _)
    (.store rfl rfl (reads_text dataset) <|
      .store rfl rfl (reads_surface hsurface) <|
      .store rfl rfl habove.reads <|
      .store rfl rfl hbelow.reads <|
      .store rfl rfl hstep.reads <|
      .store rfl rfl (reads_texts q.attributes) <|
      .store rfl rfl (reads_text q.interpolation) <|
      gathers_optional rfl rfl fun s _ => reads_token s) ?_
  cases token <;> rfl

theorem reads_between (q : BetweenQuestion) (hfloats : ∀ x ∈ (Question.between q).floats, Readable x) :
    Reads (Json.record betweenRecord) (Request.toValue ⟨dataset, token, .between q⟩)
      ⟨dataset, token, .between q⟩ := by
  simp only [Question.floats, List.forall_mem_append, List.forall_mem_cons] at hfloats
  obtain ⟨⟨hprimary, hsecondary⟩, hstep, -⟩ := hfloats
  refine reads_record (List.cons_ne_nil _ _)
    (.store rfl rfl (reads_text dataset) <|
      .store rfl rfl (reads_surface hprimary) <|
      .store rfl rfl (reads_surface hsecondary) <|
      .store rfl rfl hstep.reads <|
      .store rfl rfl (reads_texts q.attributes) <|
      .store rfl rfl (reads_text q.interpolation) <|
      gathers_optional rfl rfl fun s _ => reads_token s) ?_
  cases token <;> rfl

end Kinds

/-! ### Requests -/

/-- Lines are integers of 32 bits. -/
def Question.HasLine32 : Question → Prop
  | .slice q => -2147483648 ≤ q.line ∧ q.line ≤ 2147483647
  | _ => True

theorem Request.reads_toValue (r : Request) (hline : r.question.HasLine32)
    (hfloats : ∀ x ∈ r.question.floats, Readable x) : Reads (Json.record r.question.kind.record) r.toValue r := by
  obtain ⟨dataset, token, question⟩ := r
  cases question with
  | metadata => exact reads_metadata dataset token
  | slice q => exact reads_slice dataset token q hline hfloats
  | fence q => exact reads_fence dataset token q hfloats
  | along q => exact reads_along dataset token q hfloats
  | between q => exact reads_between dataset token q hfloats

/-- **A request is what its document is read as.** Take a request of any kind, with any texts, lists of any length, and
any members that may be left out there or not. Let its floats be finite, and let the text of each of them alone be read as
that float. Then the document of the request is read as the request. -/
theorem Request.read_toValue (r : Request) (hline : r.question.HasLine32)
    (hfinite : ∀ x ∈ r.question.floats, x.isFinite = true)
    (hreadsBack : ∀ x ∈ r.question.floats, x.isFinite = true → ReadsBack x) :
    Request.read r.question.kind r.toValue.bytes = .ok r :=
  (r.reads_toValue hline fun x hx => ⟨hfinite x hx, hreadsBack x hx (hfinite x hx)⟩).document

/-- Escapes of every sort, an empty token, coordinates that are no pairs, and floats at the ends of their range. -/
theorem Request.read_toValue_sample :
    let floats : List (List Float32) := [[0.1, -0.0], [], [.ofBits 1, .ofBits 0x7f7fffff, 16777216]]
    let r : Request := ⟨"a/\"é\\\n\x1f😀", some "", .fence ⟨"i\tj", floats, "", some 1e-7⟩⟩
    r.question.HasLine32 ∧ (∀ x ∈ r.question.floats, x.isFinite = true ∧ ReadsBack x) ∧
      Request.read .fence r.toValue.bytes = .ok r := by
  intro floats r
  have hfloats : ∀ x ∈ r.question.floats, x.isFinite = true ∧ ReadsBack x := by decide +kernel
  exact ⟨trivial, hfloats,
    Request.read_toValue r trivial (fun x hx => (hfloats x hx).1) fun x hx _ => (hfloats x hx).2⟩

end SurveyGateway
