import SurveyGateway.Proofs.Volume.Faults

/-!
# Attribute maps, one attribute at a time

At each point of a surface one window is made up, and all attributes are computed from it. So the windows can be made up
first, and each map be read off them on its own: what is asked for beside it makes no difference, not even to whether
there is a map at all.

## The model

`gridWindows` makes up the windows of a grid, and `attributeMap` reads the map of one attribute off them. `growMaps` lets
all maps grow side by side instead, by one value at each point. `Independent` says of a way to compute something for
each of a list of attributes that it is computed as if it were asked for alone.

## What is proved

* `attributesAlong_eq`, `attributesBetween_eq` — the maps are read off windows that are made up without the attributes.
* `attributesAlong_eq_growMaps`, `attributesBetween_eq_growMaps` — they may as well grow side by side.
* `exists_attributesAlong`, `exists_attributesBetween` — there are maps unless a window is too large, or the transform
  does not tell positions apart.
* `independent_of_read` — what is read off so is independent.
* `attributes_independent` — both kinds of attribute maps are, and so are the blocks of their products.
-/

namespace SurveyGateway

open Number SurveyGateway.Computation

namespace Volume

variable {v : Volume}

/-! ### Windows of a grid -/

/-- The samples of a window, and the index of the reference among them. -/
abbrev Found := Option (List Float × ℕ)

/-- What is found at a point: its window, if it has one and the window does not leave the trace. -/
def cellWindow (v : Volume) (s : Surface) (row column : ℕ) (step : Float) (interpolation : Interpolation) :
    Option WindowSpec → Computation Found
  | none => return none
  | some window => v.pointWindow s row column window step interpolation

/-- What is found at the points of a grid, row by row. -/
def gridWindows (v : Volume) (s : Surface) (windows : List (List (Option WindowSpec))) (step : Float)
    (interpolation : Interpolation) : Computation (List (List Found)) :=
  windows.zipIdx.mapM fun (rowWindows, row) =>
    rowWindows.zipIdx.mapM fun (window, column) => v.cellWindow s row column step interpolation window

/-- The value of an attribute at a point, or the fill value. -/
def valueAt (fill : Float32) (a : Attribute) : Found → Float32
  | none => fill
  | some (samples, reference) => Statistics.compute a samples reference

/-- The map of an attribute, row by row. -/
def attributeMap (fill : Float32) (found : List (List Found)) (a : Attribute) : List Float32 :=
  found.flatten.map (valueAt fill a)

/-- The values of all attributes at a point. -/
def valuesAt (attributes : List Attribute) : Found → Option (List Float32) :=
  Option.map fun (samples, reference) => attributes.map fun a => Statistics.compute a samples reference

/-- The windows are made up without the attributes. -/
theorem gridAttributes_eq (s : Surface) (windows : List (List (Option WindowSpec))) (step : Float)
    (attributes : List Attribute) (interpolation : Interpolation) :
    v.gridAttributes s windows step attributes interpolation =
      (fun found => found.flatten.map (valuesAt attributes)) <$> v.gridWindows s windows step interpolation := by
  have hcells : v.gridAttributes s windows step attributes interpolation = (do
      let points ← windows.zipIdx.mapM fun row => row.1.zipIdx.mapM fun cell =>
        valuesAt attributes <$> v.cellWindow s row.2 cell.2 step interpolation cell.1
      return points.flatten) := by
    unfold gridAttributes
    congr 2
    funext ⟨rowWindows, row⟩
    dsimp only
    congr 1
    funext ⟨window, column⟩
    cases window with
    | none => rfl
    | some window =>
      dsimp only [cellWindow]
      rw [pointAttributes_eq, map_eq_pure_bind]
      rfl
  rw [hcells]
  simp only [mapM_map_result]
  unfold gridWindows
  rw [map_eq_pure_bind, map_eq_pure_bind, bind_assoc]
  simp only [pure_bind, List.map_flatten]

/-- A map for each attribute, each read off on its own. -/
theorem mapsOf_valuesAt (attributes : List Attribute) (fill : Float32) (found : List (List Found)) :
    mapsOf attributes.length fill (found.flatten.map (valuesAt attributes)) =
      attributes.map (attributeMap fill found) := by
  apply List.ext_getElem
  · rw [length_mapsOf, List.length_map]
  · intro p hp hp'
    have hlt : p < attributes.length := by rwa [length_mapsOf] at hp
    simp only [mapsOf, attributeMap, List.getElem_map, List.getElem_range, List.map_map]
    refine List.map_congr_left fun x _ => ?_
    cases x with
    | none => rfl
    | some window => simp [valuesAt, valueAt, hlt]

theorem attributesAlong_eq (s : Surface) (window : VerticalWindow) (attributes : List Attribute)
    (interpolation : Interpolation) :
    v.attributesAlong s window attributes interpolation =
      (fun found => attributes.map (attributeMap s.fillValue found)) <$>
        v.gridWindows s (windowsAlong s window) (v.resampleStep window.stepsize) interpolation := by
  unfold attributesAlong
  rw [gridAttributes_eq, map_eq_pure_bind, map_eq_pure_bind, bind_assoc]
  simp only [pure_bind, mapsOf_valuesAt]

/-- What is found between two surfaces, which have to have one shape. -/
def windowsFoundBetween (v : Volume) (primary secondary : Surface) (stepsize : Float32)
    (interpolation : Interpolation) : Computation (List (List Found)) :=
  if (primary.rows, primary.columns) ≠ (secondary.rows, secondary.columns) then
    .fail (.shapesDiffer (primary.rows, primary.columns) (secondary.rows, secondary.columns))
  else v.gridWindows primary (windowsBetween primary secondary) (v.resampleStep stepsize) interpolation

theorem attributesBetween_eq (primary secondary : Surface) (stepsize : Float32) (attributes : List Attribute)
    (interpolation : Interpolation) :
    v.attributesBetween primary secondary stepsize attributes interpolation =
      (fun found => attributes.map (attributeMap primary.fillValue found)) <$>
        v.windowsFoundBetween primary secondary stepsize interpolation := by
  unfold attributesBetween windowsFoundBetween
  dsimp only
  split
  · rfl
  · rw [gridAttributes_eq, map_eq_pure_bind, map_eq_pure_bind, bind_assoc]
    simp only [pure_bind, mapsOf_valuesAt]

/-- Maps are there if the windows are. -/
theorem attributesAlong_eq_ok_iff {s : Surface} {window : VerticalWindow} {attributes : List Attribute}
    {interpolation : Interpolation} {maps : List (List Float32)} :
    v.attributesAlong s window attributes interpolation = .ok maps ↔
      ∃ found, v.gridWindows s (windowsAlong s window) (v.resampleStep window.stepsize) interpolation = .ok found ∧
        attributes.map (attributeMap s.fillValue found) = maps := by
  rw [attributesAlong_eq, map_eq_ok_iff]

theorem attributesBetween_eq_ok_iff {primary secondary : Surface} {stepsize : Float32} {attributes : List Attribute}
    {interpolation : Interpolation} {maps : List (List Float32)} :
    v.attributesBetween primary secondary stepsize attributes interpolation = .ok maps ↔
      (primary.rows, primary.columns) = (secondary.rows, secondary.columns) ∧
      ∃ found, v.gridWindows primary (windowsBetween primary secondary) (v.resampleStep stepsize) interpolation =
          .ok found ∧
        attributes.map (attributeMap primary.fillValue found) = maps := by
  rw [attributesBetween_eq, map_eq_ok_iff]
  unfold windowsFoundBetween
  split
  · next h =>
    constructor
    · rintro ⟨found, hfail, -⟩
      cases hfail
    · exact fun hok => (h hok.1).elim
  · next h => exact ⟨fun hok => ⟨not_not.mp h, hok⟩, fun hok => hok.2⟩

/-! ### Maps that grow point by point -/

/-- A point comes behind the others in each map, with its own value there, or with the fill value. -/
def pushPoint (fill : Float32) (maps : List (List Float32)) : Option (List Float32) → List (List Float32)
  | none => maps.map (· ++ [fill])
  | some values => maps.zipWith (fun map value => map ++ [value]) values ++ maps.drop values.length

/-- One more point makes the maps grow by this point. -/
theorem mapsOf_concat {count : ℕ} (fill : Float32) (points : List (Option (List Float32)))
    {point : Option (List Float32)} (hpoint : ∀ values ∈ point, values.length = count) :
    mapsOf count fill (points ++ [point]) = pushPoint fill (mapsOf count fill points) point := by
  cases point with
  | none => simp [mapsOf, pushPoint]
  | some values =>
    have hlength : values.length = count := hpoint values rfl
    have hrest : (mapsOf count fill points).drop values.length = [] :=
      List.drop_eq_nil_of_le (by rw [length_mapsOf, hlength])
    rw [pushPoint, hrest, List.append_nil]
    apply List.ext_getElem
    · rw [length_mapsOf, List.length_zipWith, length_mapsOf, hlength, Nat.min_self]
    · intro p hp hp'
      have hlt : p < values.length := by rwa [hlength, ← length_mapsOf count fill (points ++ [some values])]
      simp [mapsOf, hlt]

theorem mapsOf_eq_foldl {count : ℕ} (fill : Float32) {points : List (Option (List Float32))}
    (hpoints : ∀ point ∈ points, ∀ values ∈ point, values.length = count) :
    mapsOf count fill points = points.foldl (pushPoint fill) (List.replicate count []) := by
  induction points using List.reverseRecOn with
  | nil => simp [mapsOf]
  | append_singleton points point ih =>
    obtain ⟨hrest, hpoint⟩ := List.forall_mem_append.mp hpoints
    rw [mapsOf_concat fill points (hpoint point List.mem_cons_self), ih hrest, List.foldl_append]
    rfl

/-- The maps of a grid, which grow row by row and point by point until a point fails. -/
def growMaps (v : Volume) (s : Surface) (windows : List (List (Option WindowSpec))) (step : Float)
    (attributes : List Attribute) (interpolation : Interpolation) : Computation (List (List Float32)) :=
  windows.zipIdx.foldlM (fun maps row => row.1.zipIdx.foldlM (fun maps cell =>
    pushPoint s.fillValue maps <$> (valuesAt attributes <$> v.cellWindow s row.2 cell.2 step interpolation cell.1))
    maps) (List.replicate attributes.length [])

/-- Maps that grow are those that are read off the windows, with the same failure if there is one. -/
theorem growMaps_eq (s : Surface) (windows : List (List (Option WindowSpec))) (step : Float)
    (attributes : List Attribute) (interpolation : Interpolation) :
    v.growMaps s windows step attributes interpolation =
      (fun found => attributes.map (attributeMap s.fillValue found)) <$> v.gridWindows s windows step interpolation := by
  have hgrown (found : List (List Found)) :
      (found.map (·.map (valuesAt attributes))).foldl (List.foldl (pushPoint s.fillValue))
        (List.replicate attributes.length []) = attributes.map (attributeMap s.fillValue found) := by
    have hvalues : ∀ point ∈ found.flatten.map (valuesAt attributes), ∀ values ∈ point,
        values.length = attributes.length := by
      intro point hpoint values hvalues
      obtain ⟨f, -, rfl⟩ := List.mem_map.mp hpoint
      obtain ⟨window, -, rfl⟩ := Option.map_eq_some_iff.mp hvalues
      exact List.length_map _
    rw [← mapsOf_valuesAt, mapsOf_eq_foldl s.fillValue hvalues, List.map_flatten, List.foldl_flatten]
  unfold growMaps
  simp only [foldlM_eq_mapM, mapM_map_result]
  rw [Functor.map_map]
  simp only [hgrown]
  rfl

theorem attributesAlong_eq_growMaps (s : Surface) (window : VerticalWindow) (attributes : List Attribute)
    (interpolation : Interpolation) :
    v.attributesAlong s window attributes interpolation =
      v.growMaps s (windowsAlong s window) (v.resampleStep window.stepsize) attributes interpolation := by
  rw [attributesAlong_eq, growMaps_eq]

theorem attributesBetween_eq_growMaps {primary secondary : Surface}
    (hshape : (primary.rows, primary.columns) = (secondary.rows, secondary.columns)) (stepsize : Float32)
    (attributes : List Attribute) (interpolation : Interpolation) :
    v.attributesBetween primary secondary stepsize attributes interpolation =
      v.growMaps primary (windowsBetween primary secondary) (v.resampleStep stepsize) attributes interpolation := by
  rw [attributesBetween_eq, growMaps_eq, windowsFoundBetween, if_neg (not_not.mpr hshape)]

/-! ### Windows that are there -/

/-- There are windows in a grid if they reach outward, none is too large, and the transform tells positions apart. -/
theorem exists_gridWindows (hv : v.Sampled) (hdegenerate : ¬ v.Degenerate) {windows : List (List (Option WindowSpec))}
    {step : Float} (hreach : ∀ row ∈ windows, ∀ window, some window ∈ row → window.Reaches)
    (hlarge : ∀ row ∈ windows, ∀ window, some window ∈ row → ¬ TooLarge window.above window.below step) (s : Surface)
    (interpolation : Interpolation) : ∃ found, v.gridWindows s windows step interpolation = .ok found := by
  refine exists_mapM fun row hrow => exists_mapM fun point hpoint => ?_
  obtain ⟨window, column⟩ := point
  cases window with
  | none => exact ⟨none, rfl⟩
  | some window =>
    have hrow' := List.fst_mem_of_mem_zipIdx hrow
    have hpoint' := List.fst_mem_of_mem_zipIdx hpoint
    have hmeets := meets_pointWindow hv (hreach _ hrow' window hpoint') s row.2 column step interpolation
    refine hmeets.exists_ok ((failsWith_pointWindow s row.2 column window step interpolation).mono fun f hf => ?_)
    cases hf with
    | degenerate h => exact hdegenerate h
    | tooLarge h => exact hlarge _ hrow' window hpoint' h

/-- There are maps along any surface if the window is within the limit. -/
theorem exists_attributesAlong (hv : v.Sampled) (hdegenerate : ¬ v.Degenerate) {above below stepsize : Float32}
    {extents : VerticalWindow} (hextents : VerticalWindow.make above below stepsize = .ok extents)
    (hlarge : ¬ TooLarge (widen extents.above) (widen extents.below) (v.resampleStep extents.stepsize)) (s : Surface)
    (attributes : List Attribute) (interpolation : Interpolation) :
    ∃ maps, v.attributesAlong s extents attributes interpolation = .ok maps := by
  have hsize : ∀ row ∈ windowsAlong s extents, ∀ window, some window ∈ row →
      ¬ TooLarge window.above window.below (v.resampleStep extents.stepsize) := by
    intro row hrow window hwindow
    obtain ⟨values, -, rfl⟩ := List.mem_map.mp hrow
    obtain ⟨x, -, hx⟩ := List.mem_map.mp hwindow
    split at hx
    · cases hx
    · cases hx
      exact hlarge
  obtain ⟨found, hfound⟩ := exists_gridWindows hv hdegenerate (reaches_windowsAlong hextents s) hsize s interpolation
  exact ⟨_, attributesAlong_eq_ok_iff.mpr ⟨found, hfound, rfl⟩⟩

/-- There are maps between any two surfaces of one shape if all windows are within the limit. -/
theorem exists_attributesBetween (hv : v.Sampled) (hdegenerate : ¬ v.Degenerate) {primary secondary : Surface}
    (hshape : (primary.rows, primary.columns) = (secondary.rows, secondary.columns)) {stepsize : Float32}
    (hlarge : ∀ row ∈ windowsBetween primary secondary, ∀ window, some window ∈ row →
      ¬ TooLarge window.above window.below (v.resampleStep stepsize))
    (attributes : List Attribute) (interpolation : Interpolation) :
    ∃ maps, v.attributesBetween primary secondary stepsize attributes interpolation = .ok maps := by
  have hreach := reaches_windowsBetween primary secondary
  obtain ⟨found, hfound⟩ := exists_gridWindows hv hdegenerate hreach hlarge primary interpolation
  exact ⟨_, attributesBetween_eq_ok_iff.mpr ⟨hshape, found, hfound, rfl⟩⟩

/-! ### Independence -/

/-- What is computed for each of a list of attributes is computed as if it were asked for alone. -/
structure Independent {β : Type} (compute : List Attribute → Computation (List β)) : Prop where
  /-- Whether there is a result, and why there is none, does not depend on the attributes. -/
  fails : ∀ attributes others mishap, compute attributes = .error mishap → compute others = .error mishap
  /-- There is a result for each attribute, which is the one for this attribute alone. -/
  alone : ∀ attributes results, compute attributes = .ok results → results.length = attributes.length ∧
    ∀ (p : ℕ) (a : Attribute), attributes[p]? = some a →
      ∃ result, results[p]? = some result ∧ compute [a] = .ok [result]
  /-- Attributes that are put into another order, repeated or left out have their results along with them. -/
  selected : ∀ attributes results, compute attributes = .ok results → ∀ order : List ℕ,
    compute (order.filterMap (attributes[·]?)) = .ok (order.filterMap (results[·]?))

/-- What is read off one thing for each attribute is independent. -/
theorem independent_of_read {β φ : Type} {compute : List Attribute → Computation (List β)} (x : Computation φ)
    (read : φ → Attribute → β) (h : ∀ attributes, compute attributes = (attributes.map <| read ·) <$> x) :
    Independent compute := by
  cases x with
  | error mishap =>
    have herror : ∀ attributes, compute attributes = .error mishap := h
    constructor
    · intro attributes others e he
      rw [herror] at he ⊢
      exact he
    · intro attributes results hresults
      cases (herror attributes).symm.trans hresults
    · intro attributes results hresults
      cases (herror attributes).symm.trans hresults
  | ok found =>
    have hok : ∀ attributes, compute attributes = .ok (attributes.map (read found)) := h
    constructor
    · intro attributes others e he
      cases (hok attributes).symm.trans he
    · intro attributes results hresults
      cases (hok attributes).symm.trans hresults
      refine ⟨List.length_map _, fun p a ha => ⟨read found a, ?_, hok [a]⟩⟩
      rw [List.getElem?_map, ha]
      rfl
    · intro attributes results hresults order
      cases (hok attributes).symm.trans hresults
      simp only [hok, List.map_filterMap, List.getElem?_map]

/-- A task whose document is the same for all attributes, and whose samples are read off one thing for each. -/
theorem independent_of_task (task : List Attribute → Task) {document : Json.Value} {φ : Type} (x : Computation φ)
    (read : φ → Attribute → List Float32) (hdocument : ∀ attributes, v.document (task attributes) = .ok document)
    (hsamples : ∀ attributes, v.samples (task attributes) = (attributes.map <| read ·) <$> x) :
    Independent (fun attributes => v.samples (task attributes)) ∧
      Independent (fun attributes => Product.blocks <$> v.perform (task attributes)) ∧
      ∀ attributes p, v.perform (task attributes) = .ok p → p.metadata = document.bytes := by
  refine ⟨independent_of_read x read hsamples, ?_, fun attributes p hp => ?_⟩
  · refine independent_of_read x (fun found a => encodeSamples (read found a)) fun attributes => ?_
    simp only [perform, hdocument, hsamples]
    cases x with
    | error mishap => rfl
    | ok found =>
      show Except.ok ((attributes.map (read found)).map encodeSamples) = _
      rw [List.map_map]
      rfl
  · obtain ⟨document', blocks, hdocument', -, rfl⟩ := perform_eq_ok_iff.mp hp
    cases (hdocument attributes).symm.trans hdocument'
    rfl

/-- **Attributes are computed independently.** For every volume, the maps along a surface and those between two, and
the blocks of the products they are delivered in, succeed or fail regardless of the attributes, and with the same error.
If they succeed, there is one for each attribute of the list, repeated ones included, in the order of the list: the one
that is delivered for this attribute alone. So another order of the attributes is that order of the maps and of the
blocks, behind the same metadata. -/
theorem attributes_independent (v : Volume) (interpolation : Interpolation) :
    (∀ (s : Surface) (window : VerticalWindow),
      Independent (fun attributes => v.attributesAlong s window attributes interpolation) ∧
      Independent (fun attributes => Product.blocks <$> v.perform (.along s window attributes interpolation)) ∧
      ∀ attributes p, v.perform (.along s window attributes interpolation) = .ok p →
        p.metadata = (shapeValue (s.rows, s.columns)).bytes) ∧
    (∀ (primary secondary : Surface) (stepsize : Float32),
      Independent (fun attributes => v.attributesBetween primary secondary stepsize attributes interpolation) ∧
      Independent (fun attributes =>
        Product.blocks <$> v.perform (.between primary secondary stepsize attributes interpolation)) ∧
      ∀ attributes p, v.perform (.between primary secondary stepsize attributes interpolation) = .ok p →
        p.metadata = (shapeValue (primary.rows, primary.columns)).bytes) := by
  constructor
  · intro s window
    exact independent_of_task (fun attributes => .along s window attributes interpolation) _
      (attributeMap s.fillValue) (fun _ => rfl) fun attributes => attributesAlong_eq s window attributes interpolation
  · intro primary secondary stepsize
    exact independent_of_task (fun attributes => .between primary secondary stepsize attributes interpolation) _
      (attributeMap primary.fillValue) (fun _ => rfl) fun attributes =>
        attributesBetween_eq primary secondary stepsize attributes interpolation

/-- A surface at the second sample of the small survey, with one point that has no data. -/
def Sample.horizon : Surface := ⟨[[8, -999.25]], 2, 0, 1, 1, 0, -999.25⟩

/-- A window of one sample above and one below a surface. -/
def Sample.extents : VerticalWindow := ⟨4, 4, 0⟩

/-- The window is accepted. -/
theorem make_extents : VerticalWindow.make 4 4 0 = .ok Sample.extents := by decide

set_option maxRecDepth 4000 in
theorem not_degenerate_wellKnown : ¬ wellKnown.Degenerate := by decide

/-- It is not too large for the small survey. -/
theorem not_tooLarge_extents :
    ¬ TooLarge (widen 4) (widen 4) (wellKnown.resampleStep Sample.extents.stepsize) := by decide

/-- There are maps of the surface, wherever its points come to lie. -/
theorem exists_attributesAlong_horizon (attributes : List Attribute) : ∃ maps,
    wellKnown.attributesAlong Sample.horizon Sample.extents attributes .nearest = .ok maps :=
  exists_attributesAlong sampled_wellKnown not_degenerate_wellKnown make_extents not_tooLarge_extents Sample.horizon
    attributes .nearest

/-- Two attributes, one of them asked for twice. -/
theorem attributes_independent_sample :
    let compute := fun attributes =>
      wellKnown.attributesAlong Sample.horizon Sample.extents attributes .nearest
    ∃ lowest highest, compute [.max, .min, .max] = .ok [highest, lowest, highest] ∧
      compute [.min] = .ok [lowest] ∧ compute [.min, .max] = .ok [lowest, highest] := by
  intro compute
  obtain ⟨maps, hmaps⟩ := exists_attributesAlong_horizon [.max, .min, .max]
  obtain ⟨-, halone, hselected⟩ := ((attributes_independent wellKnown .nearest).1 Sample.horizon Sample.extents).1
  obtain ⟨-, hmap⟩ := halone _ _ hmaps
  obtain ⟨highest, h0, hmax⟩ := hmap 0 .max rfl
  obtain ⟨lowest, h1, hmin⟩ := hmap 1 .min rfl
  obtain ⟨highest', h2, hmax'⟩ := hmap 2 .max rfl
  cases hmax.symm.trans hmax'
  have hall := hselected _ _ hmaps [0, 1, 2]
  have hpair := hselected _ _ hmaps [1, 0]
  simp only [List.filterMap_cons, List.filterMap_nil, h0, h1, h2] at hall hpair
  exact ⟨lowest, highest, hall, hmin, hpair⟩

end Volume

end SurveyGateway
