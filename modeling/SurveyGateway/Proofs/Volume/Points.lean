import SurveyGateway.Proofs.Volume.Maps

/-!
# Attribute maps, one point at a time

The value of a map at a point is computed from the trace there and from the values of the surfaces at this point. What
the surfaces are elsewhere has no influence on it, and it is found in the place of the point in each map.

## The model

`valueIn?` reads a value out of some maps, rows behind one another. `Surface.only` is a surface with a single point
left, all others having no data, and `KeepsOnly` says what becomes of the maps then. A surface may have any other values
in the same frame, that is, with the same place in the world and the same fill value (`Surface.SameFrame`).

## What is proved

* `cell_of_gridWindows`, `exists_gridWindows_of_cells` — the windows of a grid are there if each of them is, and each is
  found in its row and column.
* `valueIn?_attributeMaps` — and so is its value in the maps.
* `attributes_pointwise` — both kinds of maps are made up point by point.
-/

namespace SurveyGateway

open Number

/-! ### Surfaces -/

namespace Surface

variable {s t : Surface}

/-- The rows of a surface are of one length. -/
def IsRectangular (s : Surface) : Prop := ∀ row ∈ s.values, row.length = s.columns

/-- A surface differs from another one in nothing but its values. -/
def SameFrame (s t : Surface) : Prop := t = { s with values := t.values }

/-- A surface with data at one of its points only. -/
def only (s : Surface) (row column : ℕ) : Surface :=
  { s with values := s.values.mapIdx fun i values => values.mapIdx fun j value =>
      if (i, j) = (row, column) then value else s.fillValue }

theorem rows_only (s : Surface) (row column : ℕ) : (s.only row column).rows = s.rows := List.length_mapIdx

theorem columns_only (s : Surface) (row column : ℕ) : (s.only row column).columns = s.columns := by
  unfold columns only
  cases s.values with
  | nil => rfl
  | cons first rest => simp

theorem sameFrame_only (s : Surface) (row column : ℕ) : s.SameFrame (s.only row column) := rfl

theorem IsRectangular.only (h : s.IsRectangular) (row column : ℕ) : (s.only row column).IsRectangular := by
  intro values hvalues
  obtain ⟨i, hi, rfl⟩ := List.mem_mapIdx.mp hvalues
  rw [List.length_mapIdx, columns_only]
  exact h _ (List.getElem_mem hi)

theorem cell?_only (s : Surface) (row column i j : ℕ) : cell? (s.only row column).values i j =
    (cell? s.values i j).map fun value => if (i, j) = (row, column) then value else s.fillValue :=
  cell?_mapIdx _ s.values i j

/-- The fill value marks a point without data, whether it is a number or not. -/
theorem isFill_fillValue (s : Surface) : s.isFill s.fillValue = true := by
  unfold isFill
  cases hnan : s.fillValue.isNaN with
  | true => exact Bool.or_true _
  | false =>
    rw [Bool.or_false]
    exact beq32_iff.mpr ⟨hnan, hnan, rfl⟩

theorem SameFrame.toWorld_eq (h : s.SameFrame t) (row column : ℕ) : t.toWorld row column = s.toWorld row column := by
  rw [h]
  rfl

theorem SameFrame.fillValue_eq (h : s.SameFrame t) : t.fillValue = s.fillValue := by rw [h]

end Surface

namespace Volume

variable {v : Volume}

/-! ### Windows at a point -/

/-- The window along a surface at a point with the given value. -/
def windowAlong (s : Surface) (window : VerticalWindow) (value : Float32) : Option WindowSpec :=
  if s.isFill value then none else some ⟨widen value, widen window.above, widen window.below⟩

/-- The window from one surface to another at a point with the given values. -/
def windowBetween (primary secondary : Surface) (value other : Float32) : Option WindowSpec :=
  if primary.isFill value || secondary.isFill other then none
  else some ⟨widen value, maximum (widen value - widen other) 0.0, maximum (widen other - widen value) 0.0⟩

theorem cell?_windowsAlong (s : Surface) (window : VerticalWindow) (row column : ℕ) :
    cell? (windowsAlong s window) row column = (cell? s.values row column).map (windowAlong s window) :=
  cell?_map _ s.values row column

theorem cell?_windowsBetween_eq_some_iff {primary secondary : Surface} {row column : ℕ} {window : Option WindowSpec} :
    cell? (windowsBetween primary secondary) row column = some window ↔
      ∃ value other, cell? primary.values row column = some value ∧ cell? secondary.values row column = some other ∧
        windowBetween primary secondary value other = window :=
  cell?_zipWith_eq_some_iff

/-- A surface with a single point left has the fill value everywhere else. -/
theorem eq_fillValue_of_only {s : Surface} {row column i j : ℕ} {value : Float32} (hplace : (i, j) ≠ (row, column))
    (h : cell? (s.only row column).values i j = some value) : value = s.fillValue := by
  rw [Surface.cell?_only] at h
  obtain ⟨value, -, rfl⟩ := Option.map_eq_some_iff.mp h
  exact if_neg hplace

theorem cell?_only_here {s : Surface} {row column : ℕ} {value : Float32} (h : cell? s.values row column = some value) :
    cell? (s.only row column).values row column = some value := by
  rw [Surface.cell?_only, h, Option.map_some, if_pos rfl]

/-- There is a window at no other point then. -/
theorem windowsAlong_only {s : Surface} {extents : VerticalWindow} {row column i j : ℕ} {window : Option WindowSpec}
    (hplace : (i, j) ≠ (row, column)) (h : cell? (windowsAlong (s.only row column) extents) i j = some window) :
    window = none := by
  rw [cell?_windowsAlong] at h
  obtain ⟨value, hvalue, rfl⟩ := Option.map_eq_some_iff.mp h
  rw [eq_fillValue_of_only hplace hvalue]
  exact if_pos (s.only row column).isFill_fillValue

theorem windowsBetween_only {primary secondary : Surface} {row column i j : ℕ} {window : Option WindowSpec}
    (hplace : (i, j) ≠ (row, column))
    (h : cell? (windowsBetween (primary.only row column) (secondary.only row column)) i j = some window) :
    window = none := by
  obtain ⟨value, other, hvalue, -, rfl⟩ := cell?_windowsBetween_eq_some_iff.mp h
  rw [eq_fillValue_of_only hplace hvalue]
  exact if_pos (Bool.or_eq_true_iff.mpr (Or.inl (primary.only row column).isFill_fillValue))

/-! ### What is found at a point -/

section Found

variable {s t : Surface} {windows others : List (List (Option WindowSpec))} {step : Float}
  {interpolation : Interpolation} {found : List (List Found)} {rows columns row column : ℕ}

/-- What is found at a point depends on its place in the world, and on nothing else of the surface. -/
theorem cellWindow_of_sameFrame (h : s.SameFrame t) (row column : ℕ) (step : Float) (interpolation : Interpolation)
    (window : Option WindowSpec) :
    v.cellWindow t row column step interpolation window = v.cellWindow s row column step interpolation window := by
  cases window with
  | none => rfl
  | some window =>
    show v.pointWindow t row column window step interpolation = v.pointWindow s row column window step interpolation
    unfold pointWindow
    rw [h.toWorld_eq]

theorem cell_of_gridWindows (h : v.gridWindows s windows step interpolation = .ok found) {window : Option WindowSpec}
    (hwindow : cell? windows row column = some window) :
    ∃ f, cell? found row column = some f ∧ v.cellWindow s row column step interpolation window = .ok f := by
  obtain ⟨items, hitems, hitem⟩ := cell?_eq_some_iff.mp hwindow
  have hrow : windows.zipIdx[row]? = some (items, row) := by rw [List.getElem?_zipIdx, hitems]; simp
  have hcolumn : items.zipIdx[column]? = some (window, column) := by rw [List.getElem?_zipIdx, hitem]; simp
  obtain ⟨foundRow, hfoundRow, hitems'⟩ := getElem?_of_mapM h hrow
  obtain ⟨f, hf, hitem'⟩ := getElem?_of_mapM hitems' hcolumn
  exact ⟨f, cell?_eq_some_iff.mpr ⟨foundRow, hfoundRow, hf⟩, hitem'⟩

theorem exists_gridWindows_of_cells
    (h : ∀ row column window, cell? windows row column = some window →
      ∃ f, v.cellWindow s row column step interpolation window = .ok f) :
    ∃ found, v.gridWindows s windows step interpolation = .ok found := by
  refine exists_mapM fun ⟨items, row⟩ hrow => exists_mapM fun ⟨window, column⟩ hcolumn => ?_
  have hitems : windows[row]? = some items := List.mem_zipIdx_iff_getElem?.mp hrow
  have hwindow : items[column]? = some window := List.mem_zipIdx_iff_getElem?.mp hcolumn
  exact h row column window (cell?_eq_some_iff.mpr ⟨items, hitems, hwindow⟩)

/-- There is something found for each window. -/
theorem length_of_gridWindows (hgrid : IsGrid windows rows columns)
    (h : v.gridWindows s windows step interpolation = .ok found) :
    found.length = rows ∧ ∀ row ∈ found, row.length = columns := by
  obtain ⟨rfl, hcolumns⟩ := hgrid
  exact length_of_mapM_rows hcolumns h

/-- If only one point is left a window, it is found what was found there with all of them, and nothing elsewhere. -/
theorem exists_gridWindows_only (hothers : IsGrid others rows columns) (hframe : s.SameFrame t)
    {window : Option WindowSpec} (hwindow : cell? windows row column = some window)
    (hhere : cell? others row column = some window)
    (helsewhere : ∀ i j other, (i, j) ≠ (row, column) → cell? others i j = some other → other = none)
    (h : v.gridWindows s windows step interpolation = .ok found) :
    ∃ alone, v.gridWindows t others step interpolation = .ok alone ∧
      cell? alone row column = cell? found row column ∧
      ∀ i < rows, ∀ j < columns, (i, j) ≠ (row, column) → cell? alone i j = some none := by
  obtain ⟨f, hfound, hf⟩ := cell_of_gridWindows h hwindow
  rw [← cellWindow_of_sameFrame hframe] at hf
  have hcells : ∀ i j other, cell? others i j = some other →
      ∃ f, v.cellWindow t i j step interpolation other = .ok f := by
    intro i j other hother
    by_cases hplace : (i, j) = (row, column)
    · obtain ⟨rfl, rfl⟩ := Prod.mk.inj hplace
      cases hhere.symm.trans hother
      exact ⟨f, hf⟩
    · rw [helsewhere i j other hplace hother]
      exact ⟨none, rfl⟩
  obtain ⟨alone, halone⟩ := exists_gridWindows_of_cells hcells
  refine ⟨alone, halone, ?_, fun i hi j hj hplace => ?_⟩
  · obtain ⟨f', hfound', hf'⟩ := cell_of_gridWindows halone hhere
    cases hf.symm.trans hf'
    rw [hfound', hfound]
  · obtain ⟨other, hother⟩ := (exists_cell?_iff hothers.2).mpr ⟨hothers.1.symm ▸ hi, hj⟩
    obtain ⟨f', hfound', hf'⟩ := cell_of_gridWindows halone hother
    rw [helsewhere i j other hplace hother] at hf'
    cases hf'
    exact hfound'

end Found

/-! ### Maps at a point -/

/-- The value of the map with the given number at a point of its grid, whose rows are put one behind the other. -/
def valueIn? (maps : List (List Float32)) (columns p row column : ℕ) : Option Float32 :=
  maps[p]?.bind (·[row * columns + column]?)

/-- Some maps have the values that others have at one point, and the fill value at all other points. -/
structure KeepsOnly (fill : Float32) (rows columns row column : ℕ) (maps alone : List (List Float32)) : Prop where
  count : alone.length = maps.length
  size : ∀ map ∈ alone, map.length = rows * columns
  here : ∀ p, valueIn? alone columns p row column = valueIn? maps columns p row column
  elsewhere : ∀ p < maps.length, ∀ i < rows, ∀ j < columns, (i, j) ≠ (row, column) →
    valueIn? alone columns p i j = some fill

/-- The value of a map at a point is that of its attribute for what is found there. -/
theorem valueIn?_attributeMaps {found : List (List Found)} {columns column : ℕ}
    (hfound : ∀ items ∈ found, items.length = columns) (hcolumn : column < columns) (attributes : List Attribute)
    (fill : Float32) (p row : ℕ) :
    valueIn? (attributes.map (attributeMap fill found)) columns p row column =
      attributes[p]?.bind fun a => (cell? found row column).map (valueAt fill a) := by
  unfold valueIn?
  rw [List.getElem?_map]
  cases attributes[p]? with
  | none => rfl
  | some a =>
    show (attributeMap fill found a)[row * columns + column]? = (cell? found row column).map (valueAt fill a)
    rw [attributeMap, List.getElem?_map, getElem?_flatten_rows hfound row hcolumn]

/-- If only one point is left a window, its values are kept in the maps, and nothing else is. -/
theorem exists_keepsOnly {s t : Surface} {windows others : List (List (Option WindowSpec))} {step : Float}
    {interpolation : Interpolation} {found : List (List Found)} {rows columns row column : ℕ}
    {window : Option WindowSpec} (hgrid : IsGrid windows rows columns) (hothers : IsGrid others rows columns)
    (hframe : s.SameFrame t) (hwindow : cell? windows row column = some window)
    (hhere : cell? others row column = some window)
    (helsewhere : ∀ i j other, (i, j) ≠ (row, column) → cell? others i j = some other → other = none)
    (h : v.gridWindows s windows step interpolation = .ok found) (attributes : List Attribute) (fill : Float32) :
    ∃ alone, v.gridWindows t others step interpolation = .ok alone ∧
      KeepsOnly fill rows columns row column (attributes.map (attributeMap fill found))
        (attributes.map (attributeMap fill alone)) := by
  obtain ⟨alone, halone, hkept, hrest⟩ := exists_gridWindows_only hothers hframe hwindow hhere helsewhere h
  have hfound := length_of_gridWindows hgrid h
  have hsize := length_of_gridWindows hothers halone
  have hcolumn := ((exists_cell?_iff hgrid.2).mp ⟨_, hwindow⟩).2
  refine ⟨alone, halone, ?_, ?_, fun p => ?_, fun p hp i hi j hj hplace => ?_⟩
  · rw [List.length_map, List.length_map]
  · intro map hmap
    obtain ⟨a, -, rfl⟩ := List.mem_map.mp hmap
    rw [attributeMap, List.length_map, length_flatten_rows hsize.2, hsize.1]
  · rw [valueIn?_attributeMaps hsize.2 hcolumn, valueIn?_attributeMaps hfound.2 hcolumn, hkept]
  · rw [List.length_map] at hp
    rw [valueIn?_attributeMaps hsize.2 hj, hrest i hi j hj hplace, List.getElem?_eq_getElem hp]
    rfl

/-- In two runs with the same window at a point of one frame, the maps have the same values there. -/
theorem valueIn?_same {s t : Surface} {windows others : List (List (Option WindowSpec))} {step : Float}
    {interpolation : Interpolation} {found found' : List (List Found)} {rows columns rows' columns' row column : ℕ}
    {window : Option WindowSpec} (hgrid : IsGrid windows rows columns) (hgrid' : IsGrid others rows' columns')
    (hframe : s.SameFrame t) (hwindow : cell? windows row column = some window)
    (hwindow' : cell? others row column = some window)
    (h : v.gridWindows s windows step interpolation = .ok found)
    (h' : v.gridWindows t others step interpolation = .ok found') (attributes : List Attribute) (p : ℕ) :
    valueIn? (attributes.map (attributeMap t.fillValue found')) columns' p row column =
      valueIn? (attributes.map (attributeMap s.fillValue found)) columns p row column := by
  obtain ⟨f, hf, hcomputed⟩ := cell_of_gridWindows h hwindow
  obtain ⟨f', hf', hcomputed'⟩ := cell_of_gridWindows h' hwindow'
  rw [cellWindow_of_sameFrame hframe, hcomputed] at hcomputed'
  cases hcomputed'
  have hcolumn := ((exists_cell?_iff hgrid.2).mp ⟨_, hwindow⟩).2
  have hcolumn' := ((exists_cell?_iff hgrid'.2).mp ⟨_, hwindow'⟩).2
  rw [valueIn?_attributeMaps (length_of_gridWindows hgrid' h').2 hcolumn',
    valueIn?_attributeMaps (length_of_gridWindows hgrid h).2 hcolumn, hf, hf', hframe.fillValue_eq]

/-- A point without a window has the fill value. -/
theorem valueIn?_of_none {s : Surface} {windows : List (List (Option WindowSpec))} {step : Float}
    {interpolation : Interpolation} {found : List (List Found)} {rows columns row column : ℕ}
    (hgrid : IsGrid windows rows columns) (hwindow : cell? windows row column = some none)
    (h : v.gridWindows s windows step interpolation = .ok found) {attributes : List Attribute} {p : ℕ}
    (hp : p < attributes.length) (fill : Float32) :
    valueIn? (attributes.map (attributeMap fill found)) columns p row column = some fill := by
  obtain ⟨f, hf, hcomputed⟩ := cell_of_gridWindows h hwindow
  cases hcomputed
  have hcolumn := ((exists_cell?_iff hgrid.2).mp ⟨_, hwindow⟩).2
  rw [valueIn?_attributeMaps (length_of_gridWindows hgrid h).2 hcolumn, hf, List.getElem?_eq_getElem hp]
  rfl

/-- **Attribute maps are made up point by point.** For every volume, and every rectangular surface or every two of one
shape, from which maps can be computed: each map has a value for each point, rows behind one another. Take any point. If
it has no data in one of the surfaces, it gets the fill value of the first one in every map. Maps can be computed, too,
if all other points lose their data; they have the same values at this point, and the fill value everywhere else. And
whatever the surfaces are elsewhere, even of another shape, in the same frame the values at this point remain. -/
theorem attributes_pointwise (v : Volume) (attributes : List Attribute) (interpolation : Interpolation) :
    (∀ (s : Surface) (window : VerticalWindow) (maps : List (List Float32)), s.IsRectangular →
      v.attributesAlong s window attributes interpolation = .ok maps →
      (maps.length = attributes.length ∧ ∀ map ∈ maps, map.length = s.rows * s.columns) ∧
      ∀ row column value, cell? s.values row column = some value →
        (s.isFill value = true → ∀ p < attributes.length,
          valueIn? maps s.columns p row column = some s.fillValue) ∧
        (∃ alone, v.attributesAlong (s.only row column) window attributes interpolation = .ok alone ∧
          KeepsOnly s.fillValue s.rows s.columns row column maps alone) ∧
        ∀ t others, t.IsRectangular → s.SameFrame t → cell? t.values row column = some value →
          v.attributesAlong t window attributes interpolation = .ok others →
          ∀ p, valueIn? others t.columns p row column = valueIn? maps s.columns p row column) ∧
    (∀ (primary secondary : Surface) (stepsize : Float32) (maps : List (List Float32)), primary.IsRectangular →
      secondary.IsRectangular →
      v.attributesBetween primary secondary stepsize attributes interpolation = .ok maps →
      (maps.length = attributes.length ∧ ∀ map ∈ maps, map.length = primary.rows * primary.columns) ∧
      ∀ row column value other, cell? primary.values row column = some value →
        cell? secondary.values row column = some other →
        (primary.isFill value = true ∨ secondary.isFill other = true → ∀ p < attributes.length,
          valueIn? maps primary.columns p row column = some primary.fillValue) ∧
        (∃ alone, v.attributesBetween (primary.only row column) (secondary.only row column) stepsize attributes
            interpolation = .ok alone ∧
          KeepsOnly primary.fillValue primary.rows primary.columns row column maps alone) ∧
        ∀ t u others, t.IsRectangular → u.IsRectangular → primary.SameFrame t →
          u.fillValue = secondary.fillValue → cell? t.values row column = some value →
          cell? u.values row column = some other →
          v.attributesBetween t u stepsize attributes interpolation = .ok others →
          ∀ p, valueIn? others t.columns p row column = valueIn? maps primary.columns p row column) := by
  constructor
  · intro s window maps hs hmaps
    refine ⟨length_attributesAlong hs hmaps, fun row column value hvalue => ?_⟩
    obtain ⟨found, hfound, rfl⟩ := attributesAlong_eq_ok_iff.mp hmaps
    have hgrid := isGrid_windowsAlong hs window
    have hwindow : cell? (windowsAlong s window) row column = some (windowAlong s window value) := by
      rw [cell?_windowsAlong, hvalue]
      rfl
    refine ⟨fun hfill p hp => ?_, ?_, fun t others ht hframe hvalue' hothers p => ?_⟩
    · rw [windowAlong, if_pos hfill] at hwindow
      exact valueIn?_of_none hgrid hwindow hfound hp s.fillValue
    · have honly := isGrid_windowsAlong (hs.only row column) window
      rw [Surface.rows_only, Surface.columns_only] at honly
      have hhere : cell? (windowsAlong (s.only row column) window) row column = some (windowAlong s window value) := by
        rw [cell?_windowsAlong, cell?_only_here hvalue]
        rfl
      obtain ⟨alone, halone, hkeeps⟩ := exists_keepsOnly hgrid honly (s.sameFrame_only row column) hwindow hhere
        (fun i j other hplace hother => windowsAlong_only hplace hother) hfound attributes s.fillValue
      exact ⟨_, attributesAlong_eq_ok_iff.mpr ⟨alone, halone, rfl⟩, hkeeps⟩
    · obtain ⟨found', hfound', rfl⟩ := attributesAlong_eq_ok_iff.mp hothers
      have hwindow' : cell? (windowsAlong t window) row column = some (windowAlong s window value) := by
        rw [cell?_windowsAlong, hvalue', hframe]
        rfl
      exact valueIn?_same hgrid (isGrid_windowsAlong ht window) hframe hwindow hwindow' hfound hfound' attributes p
  · intro primary secondary stepsize maps hprimary hsecondary hmaps
    refine ⟨length_attributesBetween hprimary hsecondary hmaps, fun row column value other hvalue hother => ?_⟩
    obtain ⟨hshape, found, hfound, rfl⟩ := attributesBetween_eq_ok_iff.mp hmaps
    have hgrid := isGrid_windowsBetween hprimary hsecondary hshape
    have hwindow := cell?_windowsBetween_eq_some_iff.mpr ⟨value, other, hvalue, hother, rfl⟩
    refine ⟨fun hfill p hp => ?_, ?_, fun t u others ht hu hframe hfillValue hvalue' hother' hothers p => ?_⟩
    · rw [windowBetween, if_pos (Bool.or_eq_true_iff.mpr hfill)] at hwindow
      exact valueIn?_of_none hgrid hwindow hfound hp primary.fillValue
    · have hshape' : ((primary.only row column).rows, (primary.only row column).columns) =
          ((secondary.only row column).rows, (secondary.only row column).columns) := by
        simp only [Surface.rows_only, Surface.columns_only, hshape]
      have honly := isGrid_windowsBetween (hprimary.only row column) (hsecondary.only row column) hshape'
      rw [Surface.rows_only, Surface.columns_only] at honly
      have hhere : cell? (windowsBetween (primary.only row column) (secondary.only row column)) row column =
          some (windowBetween primary secondary value other) :=
        cell?_windowsBetween_eq_some_iff.mpr ⟨value, other, cell?_only_here hvalue, cell?_only_here hother, rfl⟩
      obtain ⟨alone, halone, hkeeps⟩ := exists_keepsOnly hgrid honly (primary.sameFrame_only row column) hwindow hhere
        (fun i j other hplace hother => windowsBetween_only hplace hother) hfound attributes primary.fillValue
      exact ⟨_, attributesBetween_eq_ok_iff.mpr ⟨hshape', alone, halone, rfl⟩, hkeeps⟩
    · obtain ⟨hshape', found', hfound', rfl⟩ := attributesBetween_eq_ok_iff.mp hothers
      have hsame : windowBetween t u value other = windowBetween primary secondary value other := by
        unfold windowBetween Surface.isFill
        rw [hframe.fillValue_eq, hfillValue]
      have hwindow' := cell?_windowsBetween_eq_some_iff.mpr ⟨value, other, hvalue', hother', hsame⟩
      have hgrid' := isGrid_windowsBetween ht hu hshape'
      exact valueIn?_same hgrid hgrid' hframe hwindow hwindow' hfound hfound' attributes p

/-- A surface with data at the first of its two points, alone and with itself. -/
theorem attributes_pointwise_sample :
    let s := Sample.horizon
    (∃ maps alone, wellKnown.attributesAlong s Sample.extents [.max, .min] .nearest = .ok maps ∧
      valueIn? maps 2 1 0 1 = some (-999.25) ∧
      wellKnown.attributesAlong (s.only 0 0) Sample.extents [.max, .min] .nearest = .ok alone ∧
      KeepsOnly (-999.25) 1 2 0 0 maps alone) ∧
    ∃ maps alone, wellKnown.attributesBetween s s 0 [.max, .min] .nearest = .ok maps ∧
      valueIn? maps 2 1 0 1 = some (-999.25) ∧
      wellKnown.attributesBetween (s.only 0 0) (s.only 0 0) 0 [.max, .min] .nearest = .ok alone ∧
      KeepsOnly (-999.25) 1 2 0 0 maps alone := by
  intro s
  have hs : s.IsRectangular := by
    intro row hrow
    obtain rfl := List.mem_singleton.mp hrow
    rfl
  have hvalue : cell? s.values 0 0 = some 8 := rfl
  have hfill : cell? s.values 0 1 = some s.fillValue := rfl
  obtain ⟨hattributes, hbetween⟩ := attributes_pointwise wellKnown [.max, .min] .nearest
  constructor
  · obtain ⟨maps, hmaps⟩ := exists_attributesAlong_horizon [.max, .min]
    obtain ⟨-, hpoint⟩ := hattributes s Sample.extents maps hs hmaps
    obtain ⟨-, ⟨alone, halone, hkeeps⟩, -⟩ := hpoint 0 0 8 hvalue
    exact ⟨maps, alone, hmaps, (hpoint 0 1 _ hfill).1 s.isFill_fillValue 1 (by decide), halone, hkeeps⟩
  · have hlarge : ∀ row ∈ windowsBetween s s, ∀ window, some window ∈ row →
        ¬ TooLarge window.above window.below (wellKnown.resampleStep 0) := by
      intro row hrow window hwindow
      obtain rfl : row = [windowBetween s s 8 8, windowBetween s s s.fillValue s.fillValue] :=
        List.mem_singleton.mp hrow
      have hnone : windowBetween s s s.fillValue s.fillValue = none :=
        if_pos (Bool.or_eq_true_iff.mpr (Or.inl s.isFill_fillValue))
      rw [hnone] at hwindow
      have hfirst : some window = windowBetween s s 8 8 := by simpa using hwindow
      unfold windowBetween at hfirst
      split at hfirst
      · cases hfirst
      · cases hfirst
        decide
    obtain ⟨maps, hmaps⟩ :=
      exists_attributesBetween sampled_wellKnown not_degenerate_wellKnown rfl hlarge [.max, .min] .nearest
    obtain ⟨-, hpoint⟩ := hbetween s s 0 maps hs hs hmaps
    obtain ⟨-, ⟨alone, halone, hkeeps⟩, -⟩ := hpoint 0 0 8 8 hvalue hvalue
    exact ⟨maps, alone, hmaps, (hpoint 0 1 _ _ hfill hfill).1 (Or.inl s.isFill_fillValue) 1 (by decide), halone, hkeeps⟩

end Volume

end SurveyGateway
