import Mathlib.Algebra.BigOperators.Group.List.Basic

/-!
# Computations that may fail

A chain of computations gives a result if each link does (`bind_eq_ok_iff`), and so does a list of them
(`mapM_eq_ok_iff`), with one result for each. `Except.toOption` forgets why a computation failed: two computations that
agree up to that agree link by link (`toOption_bind`) and item by item (`toOption_mapM`). Rows of one length that are
put one behind the other keep their items where they can be found (`getElem?_flatten_rows`).
-/

namespace SurveyGateway

variable {ε α β γ : Type}

/-! ### Results -/

theorem bind_eq_ok_iff {x : Except ε α} {f : α → Except ε β} {b : β} :
    x >>= f = .ok b ↔ ∃ a, x = .ok a ∧ f a = .ok b := by
  cases x with
  | error e => simp [bind, Except.bind]
  | ok a => simp [bind, Except.bind]

theorem map_eq_ok_iff {x : Except ε α} {f : α → β} {b : β} : f <$> x = .ok b ↔ ∃ a, x = .ok a ∧ f a = b := by
  cases x with
  | error e => simp [Functor.map, Except.map]
  | ok a => simp [Functor.map, Except.map]

/-- A list of computations gives a result if each of them does. -/
theorem mapM_eq_ok_iff {f : α → Except ε β} {xs : List α} {ys : List β} :
    xs.mapM f = .ok ys ↔ List.Forall₂ (fun x y => f x = .ok y) xs ys := by
  induction xs generalizing ys with
  | nil => cases ys <;> simp [pure, Except.pure]
  | cons x xs ih =>
    simp only [List.mapM_cons, bind_eq_ok_iff, ih]
    constructor
    · rintro ⟨y, hy, ys, hys, h⟩
      cases h
      exact .cons hy hys
    · rintro (_ | ⟨hy, hys⟩)
      exact ⟨_, hy, _, hys, rfl⟩

theorem length_of_mapM {f : α → Except ε β} {xs : List α} {ys : List β} (h : xs.mapM f = .ok ys) :
    ys.length = xs.length :=
  (mapM_eq_ok_iff.mp h).length_eq.symm

/-- What holds of each result. -/
theorem forall_of_mapM {f : α → Except ε β} {P : β → Prop} {xs : List α} {ys : List β} (h : xs.mapM f = .ok ys)
    (hf : ∀ x ∈ xs, ∀ y, f x = .ok y → P y) : ∀ y ∈ ys, P y := by
  induction mapM_eq_ok_iff.mp h with
  | nil => simp
  | cons hy hys ih =>
    intro z hz
    rcases List.mem_cons.mp hz with rfl | hz
    · exact hf _ List.mem_cons_self _ hy
    · exact ih (mapM_eq_ok_iff.mpr hys) (fun x hx => hf x (List.mem_cons_of_mem _ hx)) z hz

/-- The result at a position is that of the item there. -/
theorem getElem?_of_mapM {f : α → Except ε β} {xs : List α} {ys : List β} (h : xs.mapM f = .ok ys) {i : ℕ} {x : α}
    (hx : xs[i]? = some x) : ∃ y, ys[i]? = some y ∧ f x = .ok y := by
  induction mapM_eq_ok_iff.mp h generalizing i with
  | nil => simp at hx
  | cons hy hys ih =>
    cases i with
    | zero =>
      obtain rfl : _ = x := Option.some.inj hx
      exact ⟨_, rfl, hy⟩
    | succ i => exact ih (mapM_eq_ok_iff.mpr hys) hx

theorem exists_mapM {f : α → Except ε β} {xs : List α} (h : ∀ x ∈ xs, ∃ y, f x = .ok y) :
    ∃ ys, xs.mapM f = .ok ys := by
  induction xs with
  | nil => exact ⟨[], rfl⟩
  | cons x xs ih =>
    obtain ⟨y, hy⟩ := h x List.mem_cons_self
    obtain ⟨ys, hys⟩ := ih fun x hx => h x (List.mem_cons_of_mem _ hx)
    exact ⟨y :: ys, mapM_eq_ok_iff.mpr (.cons hy (mapM_eq_ok_iff.mp hys))⟩

/-- Results may be changed one by one, or afterwards. -/
theorem mapM_map_result (f : α → Except ε β) (g : β → γ) (xs : List α) :
    (xs.mapM fun x => g <$> f x) = List.map g <$> xs.mapM f := by
  induction xs with
  | nil => rfl
  | cons x xs ih =>
    rw [List.mapM_cons, List.mapM_cons, ih]
    cases f x with
    | error e => rfl
    | ok y => cases xs.mapM f <;> rfl

/-- Lists of results may be put together as they come, or at the end. -/
theorem mapM_flatMap (f : β → Except ε γ) (g : α → List β) (xs : List α) :
    (xs.flatMap g).mapM f = List.flatten <$> xs.mapM fun x => (g x).mapM f := by
  induction xs with
  | nil => rfl
  | cons x xs ih =>
    rw [List.flatMap_cons, List.mapM_append, List.mapM_cons, ih]
    cases (g x).mapM f with
    | error e => rfl
    | ok ys => cases xs.mapM (fun x => (g x).mapM f) <;> rfl

theorem mapError_eq_ok_iff {ε' : Type} {x : Except ε α} {g : ε → ε'} {a : α} : x.mapError g = .ok a ↔ x = .ok a := by
  cases x <;> simp [Except.mapError]

/-- Failures may be changed one by one, or afterwards. -/
theorem mapM_mapError {ε' : Type} (f : α → Except ε β) (g : ε → ε') (xs : List α) :
    (xs.mapM fun x => (f x).mapError g) = (xs.mapM f).mapError g := by
  induction xs with
  | nil => rfl
  | cons x xs ih =>
    rw [List.mapM_cons, List.mapM_cons, ih]
    cases f x with
    | error e => rfl
    | ok y => cases xs.mapM f <;> rfl

/-- Results may be taken up one by one as they come, or all at the end. -/
theorem foldlM_eq_mapM {σ : Type} (f : α → Except ε β) (g : σ → β → σ) (s : σ) (xs : List α) :
    (xs.foldlM (fun s x => g s <$> f x) s) = (List.foldl g s ·) <$> xs.mapM f := by
  induction xs generalizing s with
  | nil => rfl
  | cons x xs ih =>
    rw [List.foldlM_cons, List.mapM_cons]
    cases f x with
    | error e => rfl
    | ok y =>
      show (xs.foldlM (fun s x => g s <$> f x) (g s y)) = _
      rw [ih]
      cases xs.mapM f <;> rfl

/-- What holds of each pair may be told from the first items if it can be told from the first item of each. -/
theorem forall₂_iff_forall_mem {R S : α → β → Prop} {P : α → Prop} {xs : List α} {ys : List β}
    (h : List.Forall₂ S xs ys) (hS : ∀ x y, S x y → (R x y ↔ P x)) : List.Forall₂ R xs ys ↔ ∀ x ∈ xs, P x := by
  induction h with
  | nil => simp
  | cons hxy hrest ih => rw [List.forall₂_cons, List.forall_mem_cons, hS _ _ hxy, ih]

/-! ### Results up to their failures -/

theorem toOption_bind (x : Except ε α) (f : α → Except ε β) :
    (x >>= f).toOption = x.toOption.bind fun a => (f a).toOption := by
  cases x <;> rfl

theorem toOption_pure (a : α) : (pure a : Except ε α).toOption = some a := rfl

theorem toOption_mapM (f : α → Except ε β) (xs : List α) :
    (xs.mapM f).toOption = xs.mapM fun x => (f x).toOption := by
  induction xs with
  | nil => rfl
  | cons x xs ih =>
    simp only [List.mapM_cons, toOption_bind, ih, toOption_pure]
    rfl

/-- Items that are changed one by one, with no difference to a computation, make none to the list. -/
theorem toOption_mapM_map {f : α → Except ε β} {g : α → α} (hg : ∀ x, (f (g x)).toOption = (f x).toOption)
    (xs : List α) : ((xs.map g).mapM f).toOption = (xs.mapM f).toOption := by
  have hsame : (fun x => (f x).toOption) ∘ g = fun x => (f x).toOption := funext hg
  rw [toOption_mapM, toOption_mapM, List.mapM_map, hsame]

/-! ### Rows -/

theorem length_flatten_rows {rows : List (List α)} {columns : ℕ} (h : ∀ row ∈ rows, row.length = columns) :
    rows.flatten.length = rows.length * columns := by
  have hall : ∀ n ∈ rows.map List.length, n = columns := by simpa using h
  rw [List.length_flatten, List.sum_eq_card_nsmul _ _ hall, List.length_map, Nat.nsmul_eq_mul]

/-- The item in a row and a column. -/
def cell? (grid : List (List α)) (row column : ℕ) : Option α := grid[row]?.bind (·[column]?)

theorem cell?_eq_some_iff {grid : List (List α)} {row column : ℕ} {x : α} :
    cell? grid row column = some x ↔ ∃ items, grid[row]? = some items ∧ items[column]? = some x :=
  Option.bind_eq_some_iff

theorem cell?_map (f : α → β) (grid : List (List α)) (row column : ℕ) :
    cell? (grid.map fun items => items.map f) row column = (cell? grid row column).map f := by
  unfold cell?
  rw [List.getElem?_map]
  cases grid[row]? with
  | none => rfl
  | some items => exact List.getElem?_map

theorem cell?_mapIdx (f : ℕ → ℕ → α → β) (grid : List (List α)) (row column : ℕ) :
    cell? (grid.mapIdx fun i items => items.mapIdx fun j x => f i j x) row column =
      (cell? grid row column).map (f row column) := by
  unfold cell?
  rw [List.getElem?_mapIdx]
  cases grid[row]? with
  | none => rfl
  | some items => exact List.getElem?_mapIdx

theorem cell?_zipWith_eq_some_iff {f : α → β → γ} {grid : List (List α)} {others : List (List β)} {row column : ℕ}
    {z : γ} :
    cell? (grid.zipWith (fun items others => items.zipWith f others) others) row column = some z ↔
      ∃ x y, cell? grid row column = some x ∧ cell? others row column = some y ∧ f x y = z := by
  simp only [cell?_eq_some_iff, List.getElem?_zipWith_eq_some]
  constructor
  · rintro ⟨_, ⟨items, items', hitems, hitems', rfl⟩, hz⟩
    obtain ⟨x, y, hx, hy, rfl⟩ := List.getElem?_zipWith_eq_some.mp hz
    exact ⟨x, y, ⟨items, hitems, hx⟩, ⟨items', hitems', hy⟩, rfl⟩
  · rintro ⟨x, y, ⟨items, hitems, hx⟩, ⟨items', hitems', hy⟩, rfl⟩
    exact ⟨_, ⟨items, items', hitems, hitems', rfl⟩, List.getElem?_zipWith_eq_some.mpr ⟨x, y, hx, hy, rfl⟩⟩

/-- Rows of one length have an item in each of their columns, and in no other one. -/
theorem exists_cell?_iff {grid : List (List α)} {columns : ℕ} (h : ∀ items ∈ grid, items.length = columns)
    {row column : ℕ} : (∃ x, cell? grid row column = some x) ↔ row < grid.length ∧ column < columns := by
  constructor
  · rintro ⟨x, hx⟩
    obtain ⟨items, hitems, hx⟩ := cell?_eq_some_iff.mp hx
    obtain ⟨hrow, rfl⟩ := List.getElem?_eq_some_iff.mp hitems
    obtain ⟨hcolumn, -⟩ := List.getElem?_eq_some_iff.mp hx
    exact ⟨hrow, h _ (List.getElem_mem hrow) ▸ hcolumn⟩
  · rintro ⟨hrow, hcolumn⟩
    have hlength : column < grid[row].length := by rwa [h _ (List.getElem_mem hrow)]
    refine ⟨grid[row][column], cell?_eq_some_iff.mpr ⟨grid[row], List.getElem?_eq_getElem hrow, ?_⟩⟩
    exact List.getElem?_eq_getElem hlength

/-- What is computed from the items of rows of one length comes in as many rows of this length. -/
theorem length_of_mapM_rows {f : List α × ℕ → α × ℕ → Except ε β} {grid : List (List α)} {results : List (List β)}
    {columns : ℕ} (hgrid : ∀ items ∈ grid, items.length = columns)
    (h : (grid.zipIdx.mapM fun row => row.1.zipIdx.mapM (f row)) = .ok results) :
    results.length = grid.length ∧ ∀ items ∈ results, items.length = columns := by
  refine ⟨by rw [length_of_mapM h, List.length_zipIdx], ?_⟩
  refine forall_of_mapM h fun row hrow items hitems => ?_
  rw [length_of_mapM hitems, List.length_zipIdx]
  exact hgrid _ (List.fst_mem_of_mem_zipIdx hrow)

/-- Rows of one length that are put one behind the other. -/
theorem getElem?_flatten_rows {rows : List (List α)} {columns : ℕ} (h : ∀ row ∈ rows, row.length = columns) (row : ℕ)
    {column : ℕ} (hcolumn : column < columns) : rows.flatten[row * columns + column]? = cell? rows row column := by
  induction rows generalizing row with
  | nil => rfl
  | cons first rest ih =>
    obtain ⟨hfirst, hrest⟩ := List.forall_mem_cons.mp h
    rw [List.flatten_cons]
    cases row with
    | zero =>
      rw [Nat.zero_mul, Nat.zero_add, List.getElem?_append_left (by omega)]
      rfl
    | succ row =>
      have hindex : (row + 1) * columns + column - first.length = row * columns + column := by
        rw [Nat.succ_mul, hfirst]
        omega
      rw [List.getElem?_append_right (by rw [Nat.succ_mul]; omega), hindex, ih hrest row]
      rfl

end SurveyGateway
