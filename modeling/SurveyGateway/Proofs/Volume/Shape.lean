import SurveyGateway.Proofs.Request.Spelling
import SurveyGateway.Proofs.Volume.Encoding

/-!
# Documents describe their blocks

The document of a product is made apart from its samples: from the bounds of a slice, the coordinates of a fence, or
the surface of an attribute map. It still says of each block how many rows and columns it has.

## The model

`shape?` reads the shape out of a document. `Describes document blocks shape` says that it is there, and that each
block has as many samples. `Question.Delivers` says what the document and the blocks of a question have to be.

## What is proved

* `length_slice`, `length_fenceTrace`, `length_gridAttributes` — what each computation on a volume gives, if it gives
  anything: whole planes, whole traces, and one value for each point of a surface.
* `delivers` — document and blocks of a task are what its question asks for.
* `product_described` — so a product can be taken apart by its own metadata.
-/

namespace SurveyGateway

open Json (Value)

/-! ### Slices -/

namespace Volume

variable {v : Volume}

theorem length_indices (first last : ℕ) : (indices first last).length = last - first + 1 := by
  rw [indices, List.length_map, List.length_range]

/-- A slice has the rows and columns that are said of it, and these are the samples of its axes. -/
theorem length_slice {direction : Direction} {line : ℤ} {bounds : List Bound} {m : SliceMetadata}
    {samples : List Float32} (h : v.slice direction line bounds = .ok (m, samples)) :
    m.shape = (m.y.samples, m.x.samples) ∧ samples.length = m.y.samples * m.x.samples := by
  unfold slice at h
  simp only [bind_eq_ok_iff] at h
  obtain ⟨index, -, rows, -, columns, -, data, hdata, h⟩ := h
  cases h
  refine ⟨rfl, ?_⟩
  have hrows : ∀ row ∈ data, row.length = columns.2 - columns.1 + 1 :=
    forall_of_mapM hdata fun row _ values hvalues => by rw [length_of_mapM hvalues, length_indices]
  rw [length_flatten_rows hrows, length_of_mapM hdata, length_indices]
  rfl

/-! ### Traces -/

theorem length_trace {i j : ℕ} {samples : List Float32} (h : v.trace i j = .ok samples) :
    samples.length = v.traceLength := by
  unfold trace at h
  simp only at h
  split at h
  · cases h
    rw [Array.length_toList, Array.size_extract]
    omega
  · cases h

theorem length_addWeighted {trace : List Float} {samples : List Float32} {n : ℕ} (htrace : trace.length = n)
    (hsamples : samples.length = n) (weight : Float) : (addWeighted trace samples weight).length = n := by
  rw [addWeighted, List.length_zipWith, htrace, hsamples, Nat.min_self]

theorem length_traceAt {i j : Float} {interpolation : Interpolation} {trace : List Float}
    (h : v.traceAt i j interpolation = .ok (some trace)) : trace.length = v.traceLength := by
  unfold traceAt at h
  split at h
  · cases h
  · split at h
    · obtain ⟨samples, hsamples, h⟩ := bind_eq_ok_iff.mp h
      cases h
      rw [List.length_map, length_trace hsamples]
    · simp only [bind_eq_ok_iff] at h
      obtain ⟨s00, h00, s10, h10, s01, h01, s11, h11, h⟩ := h
      cases h
      -- each of the four traces is as long as what it is added to
      refine length_addWeighted ?_ (length_trace h11) _
      refine length_addWeighted ?_ (length_trace h01) _
      refine length_addWeighted ?_ (length_trace h10) _
      exact length_addWeighted List.length_replicate (length_trace h00) _

theorem length_fenceTrace {system : CoordinateSystem} {interpolation : Interpolation} {fill : Option Float32}
    {coordinate : Float32 × Float32} {position : ℕ} {samples : List Float32}
    (h : v.fenceTrace system interpolation fill coordinate position = .ok samples) :
    samples.length = v.traceLength := by
  unfold fenceTrace at h
  simp only [bind_eq_ok_iff] at h
  obtain ⟨⟨i, j⟩, -, trace, htrace, h⟩ := h
  split at h
  · cases h
    rw [List.length_map, length_traceAt htrace]
  · cases h
    rw [List.length_replicate]
  · cases h

theorem length_fence {system : CoordinateSystem} {coordinates : List (Float32 × Float32)}
    {interpolation : Interpolation} {fill : Option Float32} {samples : List Float32}
    (h : v.fence system coordinates interpolation fill = .ok samples) :
    samples.length = coordinates.length * v.traceLength := by
  unfold fence at h
  obtain ⟨traces, htraces, h⟩ := bind_eq_ok_iff.mp h
  cases h
  rw [length_flatten_rows (forall_of_mapM htraces fun _ _ _ hx => length_fenceTrace hx), length_of_mapM htraces,
    List.length_zipIdx]

/-! ### Attribute maps -/

/-- A window for each point of a grid. -/
def IsGrid (windows : List (List (Option WindowSpec))) (rows columns : ℕ) : Prop :=
  windows.length = rows ∧ ∀ row ∈ windows, row.length = columns

theorem length_gridAttributes {s : Surface} {windows : List (List (Option WindowSpec))} {step : Float}
    {attributes : List Attribute} {interpolation : Interpolation} {points : List (Option (List Float32))}
    {rows columns : ℕ} (hgrid : IsGrid windows rows columns)
    (h : v.gridAttributes s windows step attributes interpolation = .ok points) : points.length = rows * columns := by
  obtain ⟨hrows, hcolumns⟩ := hgrid
  unfold gridAttributes at h
  obtain ⟨results, hresults, h⟩ := bind_eq_ok_iff.mp h
  cases h
  obtain ⟨hlength, hresult⟩ := length_of_mapM_rows hcolumns hresults
  rw [length_flatten_rows hresult, hlength, hrows]

theorem length_mapsOf (count : ℕ) (fill : Float32) (points : List (Option (List Float32))) :
    (mapsOf count fill points).length = count := by
  rw [mapsOf, List.length_map, List.length_range]

theorem length_of_mem_mapsOf {count : ℕ} {fill : Float32} {points : List (Option (List Float32))} :
    ∀ map ∈ mapsOf count fill points, map.length = points.length := by
  intro map hmap
  obtain ⟨index, -, rfl⟩ := List.mem_map.mp hmap
  rw [List.length_map]

theorem isGrid_windowsAlong {s : Surface} (hs : ∀ row ∈ s.values, row.length = s.columns) (window : VerticalWindow) :
    IsGrid (windowsAlong s window) s.rows s.columns := by
  refine ⟨List.length_map _, fun row hrow => ?_⟩
  obtain ⟨values, hvalues, rfl⟩ := List.mem_map.mp hrow
  rw [List.length_map, hs values hvalues]

/-- Two surfaces of one shape leave no point without a partner. -/
theorem isGrid_windowsBetween {s t : Surface} (hs : ∀ row ∈ s.values, row.length = s.columns)
    (ht : ∀ row ∈ t.values, row.length = t.columns) (hshape : (s.rows, s.columns) = (t.rows, t.columns)) :
    IsGrid (windowsBetween s t) s.rows s.columns := by
  obtain ⟨hrows, hcolumns⟩ := Prod.mk.inj hshape
  constructor
  · rw [windowsBetween, List.length_zipWith]
    exact Nat.min_eq_left hrows.le
  · intro row hrow
    rw [windowsBetween, ← List.map_uncurry_zip_eq_zipWith] at hrow
    obtain ⟨⟨values, others⟩, hmem, rfl⟩ := List.mem_map.mp hrow
    obtain ⟨hvalues, hothers⟩ := List.of_mem_zip hmem
    simp only [Function.uncurry_apply_pair, List.length_zipWith, hs values hvalues, ht others hothers, hcolumns,
      Nat.min_self]

theorem length_attributesAlong {s : Surface} {window : VerticalWindow} {attributes : List Attribute}
    {interpolation : Interpolation} {maps : List (List Float32)} (hs : ∀ row ∈ s.values, row.length = s.columns)
    (h : v.attributesAlong s window attributes interpolation = .ok maps) :
    maps.length = attributes.length ∧ ∀ map ∈ maps, map.length = s.rows * s.columns := by
  unfold attributesAlong at h
  obtain ⟨points, hpoints, h⟩ := bind_eq_ok_iff.mp h
  cases h
  rw [← length_gridAttributes (isGrid_windowsAlong hs window) hpoints]
  exact ⟨length_mapsOf _ _ _, length_of_mem_mapsOf⟩

theorem length_attributesBetween {s t : Surface} {stepsize : Float32} {attributes : List Attribute}
    {interpolation : Interpolation} {maps : List (List Float32)} (hs : ∀ row ∈ s.values, row.length = s.columns)
    (ht : ∀ row ∈ t.values, row.length = t.columns)
    (h : v.attributesBetween s t stepsize attributes interpolation = .ok maps) :
    maps.length = attributes.length ∧ ∀ map ∈ maps, map.length = s.rows * s.columns := by
  unfold attributesBetween at h
  by_cases hshape : (s.rows, s.columns) = (t.rows, t.columns)
  · simp only [hshape, ne_eq, not_true_eq_false, if_false, bind_eq_ok_iff] at h
    obtain ⟨points, hpoints, h⟩ := h
    cases h
    rw [← length_gridAttributes (isGrid_windowsBetween hs ht hshape) hpoints]
    exact ⟨length_mapsOf _ _ _, length_of_mem_mapsOf⟩
  · simp only [hshape, ne_eq, not_false_eq_true, if_true, bind_eq_ok_iff] at h
    obtain ⟨_, hfail, _⟩ := h
    cases hfail

end Volume

/-! ### Questions in order -/

/-- The rows of a surface in order are of one length. -/
theorem Surface.length_row {s : Surface} (h : s.validate = .ok ()) : ∀ row ∈ s.values, row.length = s.columns := by
  unfold validate at h
  split at h
  · cases h
  · next first rest hvalues =>
    split at h
    · cases h
    · split at h
      · cases h
      · next hnone =>
        have hcolumns : s.columns = first.length := by rw [columns, hvalues]; rfl
        intro row hrow
        rw [hvalues] at hrow
        rcases List.mem_cons.mp hrow with rfl | hrow
        · exact hcolumns.symm
        · rw [← List.zipIdx_map_fst 1 rest] at hrow
          obtain ⟨⟨row, index⟩, hmem, rfl⟩ := List.mem_map.mp hrow
          have hsame := List.find?_eq_none.mp hnone _ hmem
          rw [hcolumns]
          simpa using hsame

theorem length_coordinatePairsFrom {position : ℕ} {coordinates : List (List Float32)}
    {pairs : List (Float32 × Float32)} (h : coordinatePairsFrom position coordinates = .ok pairs) :
    pairs.length = coordinates.length := by
  fun_induction coordinatePairsFrom position coordinates generalizing pairs with
  | case1 position =>
    cases h
    rfl
  | case2 position x y rest ih =>
    obtain ⟨tail, htail, h⟩ := bind_eq_ok_iff.mp h
    cases h
    rw [List.length_cons, List.length_cons, ih htail]
  | case3 position values rest hvalues => cases h

/-- There is an attribute for each token, and there is a token. -/
theorem Attribute.length_parseAll {tokens : List String} {attributes : List Attribute}
    (h : parseAll tokens = .ok attributes) : attributes.length = tokens.length ∧ 0 < tokens.length := by
  unfold parseAll at h
  split at h
  · cases h
  · next hsome =>
    refine ⟨length_of_mapM h, List.length_pos_iff.mpr ?_⟩
    simpa using hsome

/-! ### Documents -/

/-- The rows and columns that a document tells of. -/
def shape? : Value → Option (ℕ × ℕ)
  | .object members =>
    match members.lookup "shape" with
    | some (.list [.integer rows, .integer columns]) => some (rows.toNat, columns.toNat)
    | _ => none
  | _ => none

theorem shape?_shapeValue (shape : ℕ × ℕ) : shape? (shapeValue shape) = some shape := rfl

theorem shape?_slice (m : SliceMetadata) : shape? m.toValue = some m.shape := rfl

/-- A document has a shape, and each block has a sample for each row and column of it. -/
def Describes (document : Value) (blocks : List (List Float32)) (shape : ℕ × ℕ) : Prop :=
  shape? document = some shape ∧ ∀ block ∈ blocks, block.length = shape.1 * shape.2

/-- What is delivered for a question to a volume: the blocks that are asked for, and a document that describes them. -/
def Question.Delivers (v : Volume) (document : Value) (blocks : List (List Float32)) : Question → Prop
  | .metadata => blocks = []
  | .slice _ => blocks.length = 1 ∧
      ∃ m : SliceMetadata, document = m.toValue ∧ Describes document blocks (m.y.samples, m.x.samples)
  | .fence q => blocks.length = 1 ∧ Describes document blocks (q.coordinates.length, v.traceLength)
  | .along q => blocks.length = q.attributes.length ∧ 0 < blocks.length ∧
      Describes document blocks (q.surface.rows, q.surface.columns)
  | .between q => blocks.length = q.attributes.length ∧ 0 < blocks.length ∧
      Describes document blocks (q.primary.rows, q.primary.columns)

/-- A task is delivered as its question asks for it. -/
theorem delivers {v : Volume} {q : Question} {task : Task} {document : Value} {blocks : List (List Float32)}
    (hq : q.validate = .ok ()) (htask : q.task = .ok task) (hdocument : v.document task = .ok document)
    (hblocks : v.samples task = .ok blocks) : q.Delivers v document blocks := by
  cases q with
  | metadata =>
    cases htask
    cases hblocks
    rfl
  | slice q =>
    simp only [Question.task, bind_eq_ok_iff] at htask
    obtain ⟨direction, -, bounds, -, htask⟩ := htask
    cases htask
    simp only [Volume.document, Volume.sliceMetadata, bind_eq_ok_iff] at hdocument
    obtain ⟨m, ⟨⟨m', samples'⟩, hslice', hm⟩, hdocument⟩ := hdocument
    cases hm
    cases hdocument
    simp only [Volume.samples, Volume.sliceSamples, bind_eq_ok_iff] at hblocks
    obtain ⟨samples, ⟨⟨m'', samples''⟩, hslice, hsamples⟩, hblocks⟩ := hblocks
    cases hsamples
    cases hblocks
    -- the slice is computed twice, with one result
    cases hslice'.symm.trans hslice
    obtain ⟨hshape, hlength⟩ := Volume.length_slice hslice
    refine ⟨rfl, _, rfl, ?_, ?_⟩
    · rw [shape?_slice, hshape]
    · simpa using hlength
  | fence q =>
    simp only [Question.task, bind_eq_ok_iff] at htask
    obtain ⟨system, -, coordinates, hcoordinates, interpolation, -, htask⟩ := htask
    cases htask
    cases hdocument
    simp only [Volume.samples, bind_eq_ok_iff] at hblocks
    obtain ⟨samples, hsamples, hblocks⟩ := hblocks
    cases hblocks
    have hlength := length_coordinatePairsFrom hcoordinates
    refine ⟨rfl, ?_, ?_⟩
    · rw [shape?_shapeValue, hlength]
    · simpa [← hlength] using Volume.length_fence hsamples
  | along q =>
    simp only [Question.task, bind_eq_ok_iff] at htask
    obtain ⟨window, -, interpolation, -, attributes, hattributes, htask⟩ := htask
    cases htask
    cases hdocument
    obtain ⟨hcount, hsome⟩ := Attribute.length_parseAll hattributes
    obtain ⟨hmaps, hlength⟩ := Volume.length_attributesAlong (Surface.length_row hq) hblocks
    exact ⟨hmaps.trans hcount, by omega, shape?_shapeValue _, hlength⟩
  | between q =>
    simp only [Question.validate, bind_eq_ok_iff] at hq
    obtain ⟨_, hprimary, hsecondary⟩ := hq
    simp only [Question.task, bind_eq_ok_iff] at htask
    obtain ⟨_, -, interpolation, -, attributes, hattributes, htask⟩ := htask
    cases htask
    cases hdocument
    obtain ⟨hcount, hsome⟩ := Attribute.length_parseAll hattributes
    obtain ⟨hmaps, hlength⟩ :=
      Volume.length_attributesBetween (Surface.length_row hprimary) (Surface.length_row hsecondary) hblocks
    exact ⟨hmaps.trans hcount, by omega, shape?_shapeValue _, hlength⟩

/-! ### Products -/

theorem Computation.report_eq_ok_iff {α : Type} {x : Computation α} {a : α} : x.report = .ok a ↔ x = .ok a := by
  cases x with
  | ok b => simp [report]
  | error mishap => cases mishap <;> simp [report]

/-- What a product is made of. -/
theorem Volume.perform_eq_ok_iff {v : Volume} {task : Task} {p : Product} :
    v.perform task = .ok p ↔ ∃ document blocks, v.document task = .ok document ∧ v.samples task = .ok blocks ∧
      p = ⟨document.bytes, blocks.map encodeSamples⟩ := by
  simp only [perform, bind_eq_ok_iff, pure, Except.pure, Except.ok.injEq]
  constructor
  · rintro ⟨document, hdocument, blocks, hblocks, h⟩
    exact ⟨document, blocks, hdocument, hblocks, h.symm⟩
  · rintro ⟨document, blocks, hdocument, hblocks, h⟩
    exact ⟨document, hdocument, blocks, hblocks, h.symm⟩

/-- An answer is the product of a task. -/
theorem Volume.answer_eq_ok_iff {v : Volume} {q : Question} {p : Product} :
    v.answer q = .ok p ↔ ∃ task, q.task = .ok task ∧ v.perform task = .ok p := by
  unfold answer
  cases q.task with
  | error refusal => simp
  | ok task => simp [Computation.report_eq_ok_iff]

/-- **Metadata and blocks always agree.** For every request that comes to an inquiry, and every volume that answers it:
there is no block for metadata, one for a slice or a fence, and one for each attribute, of which there is at least one.
Every block is read back as the very samples that the volume computed. There are as many of them as the shape in the
metadata says: the samples of the axes of a slice, whatever its bounds, the coordinates of a fence by the length of a
trace, or the rows and columns of the first surface. -/
theorem product_described {resolver : Resolver} {r : Request} {i : Inquiry} {v : Volume} {p : Product}
    (hi : r.normalize resolver = .ok i) (hp : v.answer i.question = .ok p) :
    ∃ task document blocks, i.question.task = .ok task ∧ v.document task = .ok document ∧
      v.samples task = .ok blocks ∧ p.metadata = document.bytes ∧ p.blocks = blocks.map encodeSamples ∧
      p.blocks.map decodeSamples = blocks ∧ i.question.Delivers v document blocks := by
  obtain ⟨task, htask, hperform⟩ := Volume.answer_eq_ok_iff.mp hp
  obtain ⟨document, blocks, hdocument, hblocks, rfl⟩ := Volume.perform_eq_ok_iff.mp hperform
  obtain ⟨-, hvalid, -, hquestion⟩ := Request.normalize_eq_ok_iff.mp hi
  have hq : i.question.validate = .ok () := by rw [hquestion, Question.validate_canonical, hvalid]
  have hread : decodeSamples ∘ encodeSamples = id := funext decodeSamples_encodeSamples
  refine ⟨task, document, blocks, htask, hdocument, hblocks, rfl, rfl, ?_, delivers hq htask hdocument hblocks⟩
  rw [List.map_map, hread, List.map_id]

theorem product_described_sample :
    ∃ i p document blocks, spelledFence.normalize Sample.resolver = .ok i ∧
      Volume.wellKnown.answer i.question = .ok p ∧ p.metadata = document.bytes ∧ shape? document = some (1, 4) ∧
      p.blocks.map decodeSamples = blocks ∧ blocks.length = 1 ∧ ∀ block ∈ blocks, block.length = 4 := by
  obtain ⟨p, hp⟩ : ∃ p, Volume.wellKnown.answer spelledFence.question.canonical = .ok p := by
    have hsome : (Volume.wellKnown.answer spelledFence.question.canonical).toOption.isSome = true := by decide
    cases hanswer : Volume.wellKnown.answer spelledFence.question.canonical with
    | error e => simp [hanswer, Except.toOption] at hsome
    | ok p => exact ⟨p, rfl⟩
  obtain ⟨task, document, blocks, -, -, -, hmetadata, -, hread, hcount, hshape, hlength⟩ :=
    product_described normalize_spelledFence hp
  exact ⟨_, p, document, blocks, normalize_spelledFence, hp, hmetadata, hshape, hread, hcount, hlength⟩

end SurveyGateway
