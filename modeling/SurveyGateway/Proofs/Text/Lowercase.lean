import Mathlib
import SurveyGateway.Proofs.Text.Blank
import SurveyGateway.Text.Lowercase

/-!
# Texts in lowercase

A text in lowercase is its own lowercase form, whatever letters it was made from, and it starts and ends with a blank
exactly if the text did. Letters of ASCII can be put into lowercase beforehand.

## The model

`caseRuns` are all letters that have a lowercase form: the capital letters of ASCII, the dotted capital I, and the runs
of the table. A character is `Settled` if it is none of them. The facts on characters are facts on runs: `apart r q`
says that the lowercase forms of `r` are no letters of `q`, by looking at the ends of both runs and at the parity of
their letters, and it holds of any two runs (`apart_caseRuns`).

## What is proved

* `lowercaseFrom_cons` — the form of one letter is settled, and blank if the letter is.
* `lowercaseFrom_eq_self` — a settled text is left as it is; `lowercaseFrom_lowercaseFrom`, `trimmed_lowercaseFrom`.
* `lowercaseFrom_map_toLower` — the case of ASCII letters makes no difference.
-/

namespace SurveyGateway.Text

/-! ### Runs of letters -/

/-- The letters that have a lowercase form. -/
def caseRuns : List (ℕ × ℕ × ℕ × ℕ) := (65, 90, 1, 97) :: (0x130, 0x130, 1, 0x69) :: lowercaseRuns.toList

/-- The number is that of a letter of the run. -/
def InRun (q : ℕ × ℕ × ℕ × ℕ) (n : ℕ) : Prop := q.1 ≤ n ∧ n ≤ q.2.1 ∧ (n - q.1) % q.2.2.1 = 0

instance (q : ℕ × ℕ × ℕ × ℕ) (n : ℕ) : Decidable (InRun q n) := inferInstanceAs (Decidable (_ ∧ _))

/-- The lowercase forms of `r` lie ahead of `q`, behind it, or between its letters. -/
def apart (r q : ℕ × ℕ × ℕ × ℕ) : Bool :=
  Nat.blt (r.2.2.2 + (r.2.1 - r.1)) q.1 || Nat.blt q.2.1 r.2.2.2 ||
    (Nat.beq q.2.2.1 2 && (Nat.beq r.2.2.1 2 || Nat.beq r.2.1 r.1) && Nat.beq ((r.2.2.2 + q.1) % 2) 1)

theorem apart_caseRuns : caseRuns.all (fun r => caseRuns.all (apart r)) = true := by
  decide +kernel

/-- The lowercase form of a letter of `r` is no letter of a run apart from it. -/
theorem not_inRun_of_apart {r q : ℕ × ℕ × ℕ × ℕ} {n : ℕ} (h : apart r q = true) (hn : InRun r n) :
    ¬ InRun q (r.2.2.2 + (n - r.1)) := by
  obtain ⟨rfirst, rlast, rstep, rtarget⟩ := r
  obtain ⟨qfirst, qlast, qstep, qtarget⟩ := q
  simp only [apart, Bool.or_eq_true, Bool.and_eq_true, Nat.blt_eq, Nat.beq_eq] at h
  simp only [InRun] at hn ⊢
  rintro ⟨hfirst, hlast, hstep⟩
  rcases h with (h | h) | ⟨⟨rfl, rfl | rfl⟩, hodd⟩ <;> omega

/-- Numbers of characters, and none of a blank. -/
def Solid (first last : ℕ) : Prop :=
  (last < 0xd800 ∨ 0xdfff < first ∧ last < 0x110000) ∧
    ∀ q ∈ [(9, 13), (0x20, 0x20), (0x85, 0x85), (0xa0, 0xa0), (0x1680, 0x1680), (0x2000, 0x200a), (0x2028, 0x2029),
      (0x202f, 0x202f), (0x205f, 0x205f), (0x3000, 0x3000)], last < q.1 ∨ q.2 < first

instance (first last : ℕ) : Decidable (Solid first last) := inferInstanceAs (Decidable (_ ∧ _))

set_option maxRecDepth 4000 in
theorem solid_caseRuns : ∀ r ∈ caseRuns, Solid r.1 r.2.1 ∧ Solid r.2.2.2 (r.2.2.2 + (r.2.1 - r.1)) := by
  decide

set_option maxRecDepth 4000 in
/-- The runs of the table lie behind ASCII. -/
theorem le_lowercaseRuns : ∀ q ∈ lowercaseRuns.toList, 128 ≤ q.1 := by
  decide

theorem Solid.isValid {first last n : ℕ} (h : Solid first last) (hf : first ≤ n) (hl : n ≤ last) : n.isValidChar := by
  have := h.1
  unfold Nat.isValidChar
  omega

theorem Solid.not_isBlank {first last : ℕ} {c : Char} (h : Solid first last) (hf : first ≤ c.toNat)
    (hl : c.toNat ≤ last) : isBlank c = false := by
  have hranges := h.2
  simp only [List.forall_mem_cons, List.not_mem_nil, false_imp_iff, implies_true, and_true] at hranges
  rw [Bool.eq_false_iff]
  simp only [isBlank, ne_eq, Bool.or_eq_true, Bool.and_eq_true, decide_eq_true_eq, beq_iff_eq]
  omega

theorem toNat_ofNat_of_isValidChar {n : ℕ} (h : n.isValidChar) : (Char.ofNat n).toNat = n := by
  rw [Char.ofNat, dif_pos h]
  rfl

/-! ### Characters -/

/-- The character has no other lowercase form. -/
def Settled (c : Char) : Prop := ∀ q ∈ caseRuns, ¬ InRun q c.toNat

instance (c : Char) : Decidable (Settled c) := inferInstanceAs (Decidable (∀ q ∈ caseRuns, _))

/-- What a letter becomes that has a lowercase form. -/
theorem settled_of_inRun {r : ℕ × ℕ × ℕ × ℕ} (hr : r ∈ caseRuns) {n : ℕ} (hn : InRun r n) :
    Settled (Char.ofNat (r.2.2.2 + (n - r.1))) ∧ isBlank (Char.ofNat (r.2.2.2 + (n - r.1))) = false := by
  have hsolid := (solid_caseRuns r hr).2
  have hlast : r.2.2.2 + (n - r.1) ≤ r.2.2.2 + (r.2.1 - r.1) := Nat.add_le_add_left (Nat.sub_le_sub_right hn.2.1 _) _
  have hnat := toNat_ofNat_of_isValidChar (hsolid.isValid (Nat.le_add_right _ _) hlast)
  constructor
  · intro q hq
    rw [hnat]
    exact not_inRun_of_apart (List.all_eq_true.mp (List.all_eq_true.mp apart_caseRuns r hr) q hq) hn
  · exact hsolid.not_isBlank (by rw [hnat]; exact Nat.le_add_right _ _) (by rw [hnat]; exact hlast)

theorem not_isBlank_of_inRun {r : ℕ × ℕ × ℕ × ℕ} (hr : r ∈ caseRuns) {c : Char} (hn : InRun r c.toNat) :
    isBlank c = false :=
  (solid_caseRuns r hr).1.not_isBlank hn.1 hn.2.1

/-- A capital letter of ASCII, or a character that has no other case there. -/
theorem toLower_cases (c : Char) :
    (∃ n < 26, c = Char.ofNat (65 + n) ∧ c.toLower = Char.ofNat (97 + n)) ∨
      ¬ (65 ≤ c.toNat ∧ c.toNat ≤ 90) ∧ c.toLower = c := by
  by_cases hupper : 65 ≤ c.toNat ∧ c.toNat ≤ 90
  · have hletters : ∀ n < 26, (Char.ofNat (65 + n)).toLower = Char.ofNat (97 + n) := by decide
    have hc : Char.ofNat (65 + (c.toNat - 65)) = c := by
      rw [Nat.add_sub_cancel' hupper.1]
      exact Char.ofNat_toNat c
    refine Or.inl ⟨c.toNat - 65, by omega, hc.symm, ?_⟩
    rw [← hletters (c.toNat - 65) (by omega), hc]
  · refine Or.inr ⟨hupper, ?_⟩
    rw [Char.toLower, dif_neg]
    exact hupper

/-- Either a letter has no other form, or it has the one that its run tells. -/
theorem lowercaseChar_cases {c : Char} (hc : c ≠ 'İ') :
    Settled c ∧ lowercaseChar c = c ∨
      ∃ r ∈ caseRuns, InRun r c.toNat ∧ lowercaseChar c = Char.ofNat (r.2.2.2 + (c.toNat - r.1)) := by
  have hdotted : c.toNat ≠ 0x130 := fun h => hc (Char.toNat_inj.mp h)
  unfold lowercaseChar
  split
  · next hascii =>
    rcases toLower_cases c with ⟨n, hn, rfl, hlower⟩ | ⟨hupper, hlower⟩
    · have hnat : (Char.ofNat (65 + n)).toNat = 65 + n := toNat_ofNat_of_isValidChar (Or.inl (by omega))
      refine Or.inr ⟨_, List.mem_cons_self, ?_, ?_⟩
      · rw [hnat]
        exact ⟨Nat.le_add_right _ _, Nat.add_le_add_left (Nat.le_of_lt_succ hn) 65, Nat.mod_one _⟩
      · rw [hlower, hnat, Nat.add_sub_cancel_left]
    · refine Or.inl ⟨?_, hlower⟩
      intro q hq hin
      simp only [caseRuns, List.mem_cons] at hq
      rcases hq with rfl | rfl | hq
      · exact hupper ⟨hin.1, hin.2.1⟩
      · exact hdotted (Nat.le_antisymm hin.2.1 hin.1)
      · have hfirst := le_lowercaseRuns q hq
        have hle := hin.1
        omega
  · next hascii =>
    split
    · next first last step target hfind =>
      have hmem := Array.mem_of_find?_eq_some hfind
      have hin := Array.find?_some hfind
      simp only [Bool.and_eq_true, decide_eq_true_eq, beq_iff_eq] at hin
      refine Or.inr ⟨(first, last, step, target), ?_, ⟨hin.1.1, hin.1.2, hin.2⟩, rfl⟩
      exact List.mem_cons_of_mem _ (List.mem_cons_of_mem _ (Array.mem_toList_iff.mpr hmem))
    · next hfind =>
      refine Or.inl ⟨?_, rfl⟩
      intro q hq hin
      simp only [caseRuns, List.mem_cons] at hq
      rcases hq with rfl | rfl | hq
      · exact hascii (Nat.lt_of_le_of_lt hin.2.1 (by decide))
      · exact hdotted (Nat.le_antisymm hin.2.1 hin.1)
      · refine Array.find?_eq_none.mp hfind q (Array.mem_toList_iff.mp hq) ?_
        simp only [Bool.and_eq_true, decide_eq_true_eq, beq_iff_eq]
        exact ⟨⟨hin.1, hin.2.1⟩, hin.2.2⟩

theorem settled_lowercaseChar {c : Char} (hc : c ≠ 'İ') : Settled (lowercaseChar c) := by
  rcases lowercaseChar_cases hc with ⟨hsettled, heq⟩ | ⟨r, hr, hin, heq⟩
  · rw [heq]
    exact hsettled
  · rw [heq]
    exact (settled_of_inRun hr hin).1

theorem isBlank_lowercaseChar {c : Char} (hc : c ≠ 'İ') : isBlank (lowercaseChar c) = isBlank c := by
  rcases lowercaseChar_cases hc with ⟨-, heq⟩ | ⟨r, hr, hin, heq⟩
  · rw [heq]
  · rw [heq, (settled_of_inRun hr hin).2, not_isBlank_of_inRun hr hin]

theorem Settled.lowercaseChar_eq {c : Char} (h : Settled c) (hc : c ≠ 'İ') : lowercaseChar c = c := by
  rcases lowercaseChar_cases hc with ⟨-, heq⟩ | ⟨r, hr, hin, -⟩
  · exact heq
  · exact absurd hin (h r hr)

/-- Neither the capital sigma nor the dotted capital I is settled. -/
theorem Settled.ne {c : Char} (h : Settled c) : c ≠ 'Σ' ∧ c ≠ 'İ' := by
  constructor
  · rintro rfl
    exact h (0x3a3, 0x3ab, 1, 0x3c3) (by decide) (by decide)
  · rintro rfl
    exact h _ (List.mem_cons_of_mem _ List.mem_cons_self) (by decide)

set_option maxRecDepth 4000 in
/-- The forms of the capital sigma. -/
theorem settled_sigmas : Settled 'ς' ∧ Settled 'σ' := by
  decide

set_option maxRecDepth 4000 in
/-- The form of the dotted capital I. -/
theorem settled_dotted : Settled 'i' ∧ Settled '\u0307' := by
  decide

/-! ### Texts -/

/-- One letter of a text in lowercase: at least one character, all of them settled, and blanks for blanks. -/
theorem lowercaseFrom_cons (before : List Char) (c : Char) (cs : List Char) :
    ∃ form, form ≠ [] ∧ (∀ d ∈ form, Settled d ∧ isBlank d = isBlank c) ∧
      lowercaseFrom before (c :: cs) = form ++ lowercaseFrom (c :: before) cs := by
  refine ⟨_, ?_, ?_, rfl⟩
  · split
    · exact List.cons_ne_nil _ _
    · split <;> exact List.cons_ne_nil _ _
  · intro d hd
    split at hd
    · next hsigma =>
      have hforms : ∀ d ∈ ['ς', 'σ'], Settled d ∧ isBlank d = isBlank 'Σ' :=
        List.forall_mem_cons.mpr ⟨⟨settled_sigmas.1, rfl⟩, List.forall_mem_singleton.mpr ⟨settled_sigmas.2, rfl⟩⟩
      rw [hsigma]
      refine hforms d ?_
      rw [List.mem_singleton.mp hd]
      split <;> simp
    · split at hd
      · next hdotted =>
        have hforms : ∀ d ∈ ['i', '\u0307'], Settled d ∧ isBlank d = isBlank 'İ' :=
          List.forall_mem_cons.mpr ⟨⟨settled_dotted.1, rfl⟩, List.forall_mem_singleton.mpr ⟨settled_dotted.2, rfl⟩⟩
        rw [hdotted]
        exact hforms d hd
      · next hdotted =>
        obtain rfl := List.mem_singleton.mp hd
        exact ⟨settled_lowercaseChar hdotted, isBlank_lowercaseChar hdotted⟩

theorem settled_of_mem_lowercaseFrom {before cs : List Char} : ∀ d ∈ lowercaseFrom before cs, Settled d := by
  induction cs generalizing before with
  | nil => simp [lowercaseFrom]
  | cons c cs ih =>
    obtain ⟨form, -, hform, heq⟩ := lowercaseFrom_cons before c cs
    intro d hd
    rw [heq] at hd
    rcases List.mem_append.mp hd with hd | hd
    · exact (hform d hd).1
    · exact ih d hd

/-- A settled text is its own lowercase form. -/
theorem lowercaseFrom_eq_self {cs : List Char} (h : ∀ c ∈ cs, Settled c) (before : List Char) :
    lowercaseFrom before cs = cs := by
  induction cs generalizing before with
  | nil => rfl
  | cons c cs ih =>
    have hc := h c List.mem_cons_self
    simp only [lowercaseFrom, if_neg hc.ne.1, if_neg hc.ne.2, hc.lowercaseChar_eq hc.ne.2,
      ih fun d hd => h d (List.mem_cons_of_mem c hd)]
    rfl

/-- A text in lowercase is its own lowercase form. -/
theorem lowercaseFrom_lowercaseFrom (before before' cs : List Char) :
    lowercaseFrom before' (lowercaseFrom before cs) = lowercaseFrom before cs :=
  lowercaseFrom_eq_self settled_of_mem_lowercaseFrom before'

theorem lowercaseFrom_eq_nil_iff {before cs : List Char} : lowercaseFrom before cs = [] ↔ cs = [] := by
  cases cs with
  | nil => simp [lowercaseFrom]
  | cons c cs =>
    obtain ⟨form, hne, -, heq⟩ := lowercaseFrom_cons before c cs
    simp [heq, hne]

theorem head?_lowercaseFrom {before cs : List Char} (h : ∀ c ∈ cs.head?, isBlank c = false) :
    ∀ d ∈ (lowercaseFrom before cs).head?, isBlank d = false := by
  cases cs with
  | nil => simp [lowercaseFrom]
  | cons c cs =>
    obtain ⟨form, hne, hform, heq⟩ := lowercaseFrom_cons before c cs
    obtain ⟨x, xs, rfl⟩ := List.exists_cons_of_ne_nil hne
    intro d hd
    rw [heq, List.cons_append, List.head?_cons, Option.mem_some] at hd
    subst hd
    rw [(hform x List.mem_cons_self).2, h c rfl]

theorem getLast?_lowercaseFrom {before cs : List Char} (h : ∀ c ∈ cs.getLast?, isBlank c = false) :
    ∀ d ∈ (lowercaseFrom before cs).getLast?, isBlank d = false := by
  induction cs generalizing before with
  | nil => simp [lowercaseFrom]
  | cons c cs ih =>
    obtain ⟨form, hne, hform, heq⟩ := lowercaseFrom_cons before c cs
    intro d hd
    rw [heq, List.getLast?_append] at hd
    cases cs with
    | nil =>
      have hmem := List.mem_of_getLast? (Option.mem_def.mp (by simpa [lowercaseFrom] using hd))
      rw [(hform d hmem).2, h c rfl]
    | cons c' cs =>
      -- the end of the text is behind the first letter
      have hlast : (lowercaseFrom (c :: before) (c' :: cs)).getLast? ≠ none := by
        rw [ne_eq, List.getLast?_eq_none_iff, lowercaseFrom_eq_nil_iff]
        exact List.cons_ne_nil _ _
      obtain ⟨e, he⟩ := Option.ne_none_iff_exists'.mp hlast
      rw [he, Option.some_or, Option.mem_some] at hd
      subst hd
      exact ih (fun x hx => h x (by rwa [List.getLast?_cons_cons])) e he

/-- Lowercase puts no blanks at the ends of a text. -/
theorem trimmed_lowercaseFrom (before cs : List Char) :
    trimmed (lowercaseFrom before (trimmed cs)) = lowercaseFrom before (trimmed cs) :=
  trimmed_eq_self (head?_lowercaseFrom head?_trimmed) (getLast?_lowercaseFrom getLast?_trimmed)

/-! ### The case of ASCII letters -/

/-- What does not tell the cases of ASCII letters apart. -/
theorem eq_of_toLower {β : Type} {f : Char → β} (h : ∀ n < 26, f (Char.ofNat (97 + n)) = f (Char.ofNat (65 + n)))
    (c : Char) : f c.toLower = f c := by
  rcases toLower_cases c with ⟨n, hn, hc, hlower⟩ | ⟨-, hlower⟩
  · rw [hlower, hc, h n hn]
  · rw [hlower]

theorem isBlank_toLower (c : Char) : isBlank c.toLower = isBlank c := eq_of_toLower (by decide) c

theorem lowercaseChar_toLower (c : Char) : lowercaseChar c.toLower = lowercaseChar c :=
  eq_of_toLower (by decide) c

theorem isCased_toLower (c : Char) : isCased c.toLower = isCased c := eq_of_toLower (by decide) c

set_option maxRecDepth 4000 in
/-- No range of characters that are passed over has a letter of ASCII. -/
theorem caseIgnorableRanges_apart :
    ∀ q ∈ caseIgnorableRanges.toList, q.2 < 65 ∨ 122 < q.1 ∨ 90 < q.1 ∧ q.2 < 97 := by
  decide

/-- The letters of ASCII are not passed over. -/
theorem not_isCaseIgnorable {n : ℕ} (h : 65 ≤ n ∧ n ≤ 90 ∨ 97 ≤ n ∧ n ≤ 122) : isCaseIgnorable (Char.ofNat n) = false := by
  have hnat : (Char.ofNat n).toNat = n := toNat_ofNat_of_isValidChar (Or.inl (by omega))
  rw [isCaseIgnorable, inRanges, ← Array.any_toList, List.any_eq_false, hnat]
  intro q hq
  have := caseIgnorableRanges_apart q hq
  simp only [Bool.and_eq_true, decide_eq_true_eq]
  omega

theorem isCaseIgnorable_toLower (c : Char) : isCaseIgnorable c.toLower = isCaseIgnorable c := by
  refine eq_of_toLower (fun n hn => ?_) c
  rw [not_isCaseIgnorable (by omega), not_isCaseIgnorable (by omega)]

theorem nextIsCased_map_toLower (cs : List Char) : nextIsCased (cs.map Char.toLower) = nextIsCased cs := by
  have hcomp : isCaseIgnorable ∘ Char.toLower = isCaseIgnorable := by
    funext c
    rw [Function.comp_apply, isCaseIgnorable_toLower]
  unfold nextIsCased
  rw [List.dropWhile_map, hcomp]
  cases cs.dropWhile isCaseIgnorable with
  | nil => rfl
  | cons c _ => exact isCased_toLower c

/-- The case of ASCII letters makes no difference to the lowercase form. -/
theorem lowercaseFrom_map_toLower (before cs : List Char) :
    lowercaseFrom (before.map Char.toLower) (cs.map Char.toLower) = lowercaseFrom before cs := by
  induction cs generalizing before with
  | nil => rfl
  | cons c cs ih =>
    have hsigma : c.toLower = 'Σ' ↔ c = 'Σ' := by
      simpa using eq_of_toLower (f := fun c => decide (c = 'Σ')) (by decide) c
    have hdotted : c.toLower = 'İ' ↔ c = 'İ' := by
      simpa using eq_of_toLower (f := fun c => decide (c = 'İ')) (by decide) c
    rw [List.map_cons, lowercaseFrom, lowercaseFrom, ← List.map_cons, ih]
    simp only [hsigma, hdotted, nextIsCased_map_toLower, lowercaseChar_toLower]

end SurveyGateway.Text
