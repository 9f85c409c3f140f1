import Mathlib.Data.List.DropRight
import SurveyGateway.Text.Blank

/-!
# Texts without blanks at their ends

`trimmed` takes away blanks around a text and nothing else: what is put around a text in blanks makes no difference
(`trimmed_pad`), and a text that neither starts nor ends with a blank is left as it is (`trimmed_eq_self`). A map of
characters that tells blanks from other characters can be applied before or afterwards (`trimmed_map`).
-/

namespace SurveyGateway.Text

variable {cs : List Char}

theorem dropEndWhile_eq (p : Char → Bool) (cs : List Char) : dropEndWhile p cs = cs.rdropWhile p := by
  induction cs with
  | nil => rfl
  | cons c cs ih =>
    rw [dropEndWhile, ih]
    cases h : cs.rdropWhile p with
    | nil =>
      have hall : ∀ x ∈ cs.reverse, p x = true := by
        simpa using List.rdropWhile_eq_nil_iff.mp h
      by_cases hc : p c <;> simp [List.rdropWhile, List.dropWhile_append, List.dropWhile_eq_nil_iff.mpr hall, hc]
    | cons d ds =>
      have hne : cs.reverse.dropWhile p ≠ [] := by
        intro hnil
        rw [List.rdropWhile, hnil] at h
        cases h
      simp only [List.rdropWhile] at h ⊢
      rw [List.reverse_cons, List.dropWhile_append, if_neg (by simpa using hne), List.reverse_append,
        List.reverse_singleton, h]
      rfl

theorem trimmed_eq (cs : List Char) : trimmed cs = (cs.dropWhile isBlank).rdropWhile isBlank :=
  dropEndWhile_eq _ _

theorem dropEndWhile_isPrefix (p : Char → Bool) (cs : List Char) : dropEndWhile p cs <+: cs := by
  rw [dropEndWhile_eq]
  exact List.rdropWhile_prefix p cs

/-- Trimming takes characters away and leaves the others in their order. -/
theorem trimmed_sublist (cs : List Char) : (trimmed cs).Sublist cs :=
  (dropEndWhile_isPrefix isBlank _).sublist.trans (List.dropWhile_suffix isBlank).sublist

/-- A text that ends with no such character. -/
theorem dropEndWhile_eq_self {p : Char → Bool} (h : ∀ c ∈ cs.getLast?, p c = false) : dropEndWhile p cs = cs := by
  rw [dropEndWhile_eq, List.rdropWhile_eq_self_iff]
  intro hne
  simpa using h _ (List.getLast?_eq_getLast_of_ne_nil hne)

/-- What is put behind a text in such characters makes no difference. -/
theorem dropEndWhile_append {p : Char → Bool} (cs : List Char) {ds : List Char} (h : ∀ c ∈ ds, p c = true) :
    dropEndWhile p (cs ++ ds) = dropEndWhile p cs := by
  have hds : ds.reverse.dropWhile p = [] := List.dropWhile_eq_nil_iff.mpr fun c hc => h c (List.mem_reverse.mp hc)
  simp [dropEndWhile_eq, List.rdropWhile, List.dropWhile_append, hds]

/-- Blanks around a text make no difference. -/
theorem trimmed_pad {ahead behind : List Char} (ha : ∀ c ∈ ahead, isBlank c = true)
    (hb : ∀ c ∈ behind, isBlank c = true) (cs : List Char) : trimmed (ahead ++ cs ++ behind) = trimmed cs := by
  unfold trimmed
  rw [List.append_assoc, List.dropWhile_append, if_pos (by simpa [List.dropWhile_eq_nil_iff] using ha),
    List.dropWhile_append]
  split
  · next hnil =>
    -- nothing but blanks is left of the text, and so of what is behind it
    have hbehind : behind.dropWhile isBlank = [] := List.dropWhile_eq_nil_iff.mpr hb
    rw [hbehind, List.isEmpty_iff.mp hnil]
  · exact dropEndWhile_append _ hb

/-- A text without blanks at its ends. -/
theorem trimmed_eq_self (hhead : ∀ c ∈ cs.head?, isBlank c = false) (hlast : ∀ c ∈ cs.getLast?, isBlank c = false) :
    trimmed cs = cs := by
  have hdrop : cs.dropWhile isBlank = cs := by
    cases cs with
    | nil => rfl
    | cons c cs => rw [List.dropWhile_cons_of_neg (by simp [hhead c rfl])]
  rw [trimmed, hdrop, dropEndWhile_eq_self hlast]

/-- A trimmed text does not start with a blank. -/
theorem head?_trimmed : ∀ c ∈ (trimmed cs).head?, isBlank c = false := by
  intro c hc
  obtain ⟨tail, htail⟩ : trimmed cs <+: cs.dropWhile isBlank := dropEndWhile_isPrefix _ _
  have hhead : (cs.dropWhile isBlank).head? = some c := by
    rw [← htail, List.head?_append, Option.mem_def.mp hc]
    rfl
  have hnot := List.head?_dropWhile_not isBlank cs
  rwa [hhead] at hnot

/-- A trimmed text does not end with a blank. -/
theorem getLast?_trimmed : ∀ c ∈ (trimmed cs).getLast?, isBlank c = false := by
  intro c hc
  rw [trimmed_eq] at hc
  obtain ⟨hne, rfl⟩ := List.mem_getLast?_eq_getLast hc
  exact Bool.eq_false_iff.mpr (List.rdropWhile_last_not _ _ hne)

/-- Nothing is left of blanks only. -/
theorem trimmed_eq_nil_iff : trimmed cs = [] ↔ cs.all isBlank = true := by
  rw [List.all_eq_true, trimmed_eq, List.rdropWhile_eq_nil_iff]
  constructor
  · intro h
    have hnil : cs.dropWhile isBlank = [] := by
      by_contra hne
      obtain ⟨c, rest, hdrop⟩ := List.exists_cons_of_ne_nil hne
      have hnot : isBlank c = false := by simpa [hdrop] using List.head?_dropWhile_not isBlank cs
      have hblank : isBlank c = true := h c (hdrop ▸ List.mem_cons_self)
      rw [hnot] at hblank
      cases hblank
    exact List.dropWhile_eq_nil_iff.mp hnil
  · intro h
    rw [List.dropWhile_eq_nil_iff.mpr h]
    simp

theorem trimmed_map {f : Char → Char} (hf : ∀ c, isBlank (f c) = isBlank c) (cs : List Char) :
    trimmed (cs.map f) = (trimmed cs).map f := by
  have hcomp : isBlank ∘ f = isBlank := funext hf
  simp [trimmed_eq, List.rdropWhile, List.dropWhile_map, ← List.map_reverse, hcomp]

end SurveyGateway.Text
