import SurveyGateway.Proofs.Access.Prefixes
import SurveyGateway.Proofs.Request.Spelling

/-!
# Requests made from inquiries

An inquiry says what a request comes to: a dataset, a credential, and a question in canonical form. The request that
is made from an inquiry, of just these parts, should come to the same again. The questions do: tokens in canonical
spelling, and the interpolation that stands for a blank, are left as they are (`Question.canonical_canonical`).

Locators and credentials need not be left as they are. Blanks are taken away from their ends first and slashes, or
question marks, afterwards, so that a blank that was covered by one of these comes to light and is taken away only the
next time. For a locator that is another dataset (`canonicalPrefix_canonicalPrefix_iff`); for a credential it is a
matter of whether anything is left at all, and of what the account has for callers that bring none.

* `Request.normalizes_again_iff` — exactly when an inquiry is come to again.
* `blanks_uncovered` — when it is not.
-/

namespace SurveyGateway

open Text (isBlank isBlankText trimmed)

/-- The request that is made from an inquiry. -/
def Inquiry.request (i : Inquiry) : Request := ⟨i.dataset, some i.connection.credential.token, i.question⟩

/-! ### Questions -/

theorem canonicalInterpolation_canonicalInterpolation (s : String) :
    canonicalInterpolation (canonicalInterpolation s) = canonicalInterpolation s := by
  rw [canonicalInterpolation_eq s]
  split
  · decide
  · next hblank =>
    rw [canonicalInterpolation_eq, isBlankText_canonicalToken, if_neg hblank, canonicalToken_canonicalToken]

/-- What changes nothing the second time does not do so item by item either. -/
theorem map_map_self {α : Type} {f : α → α} (hf : ∀ x, f (f x) = f x) (xs : List α) : (xs.map f).map f = xs.map f := by
  rw [List.map_map]
  exact List.map_congr_left fun x _ => hf x

theorem SliceBound.canonical_canonical (b : SliceBound) : b.canonical.canonical = b.canonical := by
  simp only [canonical, canonicalToken_canonicalToken]

/-- A question in canonical form is its own canonical form. -/
theorem Question.canonical_canonical (q : Question) : q.canonical.canonical = q.canonical := by
  have htokens := map_map_self canonicalToken_canonicalToken
  cases q with
  | metadata => rfl
  | slice q => simp only [canonical, canonicalToken_canonicalToken, map_map_self SliceBound.canonical_canonical]
  | fence q => simp only [canonical, canonicalToken_canonicalToken, canonicalInterpolation_canonicalInterpolation]
  | along q => simp only [canonical, htokens, canonicalInterpolation_canonicalInterpolation]
  | between q => simp only [canonical, htokens, canonicalInterpolation_canonicalInterpolation]

/-! ### Locators -/

theorem toList_canonicalPrefix (s : String) :
    (canonicalPrefix s).toList = Text.dropEndWhile (· == '/') (trimmed s.toList) := by
  unfold canonicalPrefix Text.trimEnd Text.trim
  rw [String.toList_ofList, String.toList_ofList]

theorem canonicalDataset_eq_ok_iff {s dataset : String} :
    canonicalDataset s = .ok dataset ↔ canonicalPrefix s = dataset ∧ dataset ≠ "" ∧ '?' ∉ dataset.toList := by
  have hshape : canonicalDataset s =
      if (canonicalPrefix s).isEmpty then .error (.emptyMember "vds")
      else if (canonicalPrefix s).toList.contains '?' then .error .signedLocator
      else .ok (canonicalPrefix s) := rfl
  rw [hshape]
  generalize canonicalPrefix s = start
  constructor
  · intro h
    split at h
    · cases h
    · next hempty =>
      split at h
      · cases h
      · next hsigned =>
        obtain rfl := Except.ok.inj h
        exact ⟨rfl, by simpa using hempty, by simpa using hsigned⟩
  · rintro ⟨rfl, hne, hunsigned⟩
    rw [if_neg (by simpa using hne), if_neg (by simpa using hunsigned)]

/-- A locator or prefix is taken as it is, the second time, unless it now ends with a blank. -/
theorem canonicalPrefix_canonicalPrefix_iff (s : String) :
    canonicalPrefix (canonicalPrefix s) = canonicalPrefix s ↔
      ∀ c ∈ (canonicalPrefix s).toList.getLast?, isBlank c = false := by
  rw [← String.toList_inj, toList_canonicalPrefix (canonicalPrefix s)]
  constructor
  · -- what is taken away twice leaves no less than what was there only if there was no blank to take away
    intro h
    have hsub : (canonicalPrefix s).toList.Sublist (trimmed (canonicalPrefix s).toList) := by
      conv_lhs => rw [← h]
      exact (Text.dropEndWhile_isPrefix _ _).sublist
    have hsame : trimmed (canonicalPrefix s).toList = (canonicalPrefix s).toList := (Text.trimmed_sublist _).antisymm hsub
    rw [← hsame]
    exact Text.getLast?_trimmed
  · intro hlast
    have hhead : ∀ c ∈ (canonicalPrefix s).toList.head?, isBlank c = false := by
      intro c hc
      obtain ⟨slashes, hslashes⟩ : (canonicalPrefix s).toList <+: trimmed s.toList := by
        rw [toList_canonicalPrefix]
        exact Text.dropEndWhile_isPrefix _ _
      refine @Text.head?_trimmed s.toList c ?_
      rw [← hslashes, List.head?_append, Option.mem_def.mp hc]
      rfl
    rw [Text.trimmed_eq_self hhead hlast]
    refine Text.dropEndWhile_eq_self fun c hc => ?_
    rw [beq_eq_false_iff_ne]
    rintro rfl
    exact Resolver.getLast?_canonicalPrefix s hc

/-- A dataset that a locator names is named by its own name, unless that ends with a blank. -/
theorem canonicalDataset_again_iff {s dataset : String} (h : canonicalDataset s = .ok dataset) :
    canonicalDataset dataset = .ok dataset ↔ ∀ c ∈ dataset.toList.getLast?, isBlank c = false := by
  obtain ⟨rfl, hne, hunsigned⟩ := canonicalDataset_eq_ok_iff.mp h
  rw [canonicalDataset_eq_ok_iff, ← canonicalPrefix_canonicalPrefix_iff, and_iff_left ⟨hne, hunsigned⟩]

/-! ### Callers -/

namespace Resolver

/-- The account that has a dataset has a default credential. -/
def HasFallback (r : Resolver) (dataset : String) : Prop :=
  ∃ a, r.accounts.find? (·.contains dataset) = some a ∧ a.defaultCredential.isSome

theorem suppliedToken_eq_none_iff {token : Option String} : suppliedToken token = none ↔ NoToken token := by
  refine ⟨fun h t ht => ?_, suppliedToken_of_noToken⟩
  obtain rfl := Option.mem_def.mp ht
  by_contra hne
  rw [suppliedToken_of_stripped hne] at h
  cases h

/-- Who is let in to a dataset that an account has: callers with a token, and all if the account has a default. -/
theorem exists_resolve_iff {r : Resolver} {dataset : String} {token : Option String} :
    (∃ c, r.resolve dataset token = .ok c) ↔
      (r.accounts.find? (·.contains dataset)).isSome ∧ (NoToken token → r.HasFallback dataset) := by
  unfold resolve HasFallback
  rw [← suppliedToken_eq_none_iff]
  cases r.accounts.find? (·.contains dataset) with
  | none => simp
  | some a =>
    cases suppliedToken token with
    | some t => simp
    | none =>
      obtain ⟨start, fallback⟩ := a
      cases fallback <;> simp

end Resolver

/-! ### Inquiries -/

/-- **When an inquiry is come to again.** Whatever the request that is made from an inquiry comes to asks the same
question. It comes to an inquiry of the same dataset, and so with the same fingerprint, if and only if the dataset does
not end with a blank, and the credential is a token to a caller who brings it, or the account has a default one. -/
theorem Request.normalizes_again_iff {resolver : Resolver} {r : Request} {i : Inquiry}
    (h : r.normalize resolver = .ok i) :
    (∀ j, i.request.normalize resolver = .ok j → j.question = i.question) ∧
      ((∃ j, i.request.normalize resolver = .ok j ∧ j.dataset = i.dataset ∧ j.question = i.question ∧
          j.fingerprint = i.fingerprint) ↔
        (∀ c ∈ i.dataset.toList.getLast?, isBlank c = false) ∧
          (Resolver.NoToken (some i.connection.credential.token) → resolver.HasFallback i.dataset)) := by
  obtain ⟨hdataset, hvalid, hconnection, hquestion⟩ := normalize_eq_ok_iff.mp h
  have hlisted := (Resolver.exists_resolve_iff.mp ⟨_, hconnection⟩).1
  have hcanonical : i.question.canonical = i.question := by
    rw [hquestion, Question.canonical_canonical]
  have hvalid' : i.question.validate = .ok () := by
    rw [hquestion, Question.validate_canonical, hvalid]
  have hask : ∀ j, i.request.normalize resolver = .ok j → j.question = i.question := by
    intro j hj
    obtain ⟨-, -, -, hquestion'⟩ := normalize_eq_ok_iff.mp hj
    exact hquestion'.trans hcanonical
  refine ⟨hask, ?_⟩
  rw [← canonicalDataset_again_iff hdataset]
  constructor
  · rintro ⟨j, hj, hsame, -, -⟩
    obtain ⟨hdataset', -, hconnection', -⟩ := normalize_eq_ok_iff.mp hj
    rw [hsame] at hdataset' hconnection'
    exact ⟨hdataset', (Resolver.exists_resolve_iff.mp ⟨_, hconnection'⟩).2⟩
  · rintro ⟨hdataset', hfallback⟩
    obtain ⟨c, hc⟩ := Resolver.exists_resolve_iff.mpr ⟨hlisted, hfallback⟩
    obtain ⟨dataset, credential⟩ := c
    obtain rfl : dataset = i.dataset := Resolver.dataset_of_resolve hc
    have hj : i.request.normalize resolver = .ok ⟨⟨i.dataset, credential⟩, i.question⟩ :=
      normalize_eq_ok_iff.mpr ⟨hdataset', hvalid', hc, hcanonical.symm⟩
    exact ⟨_, hj, rfl, rfl, rfl⟩

/-- A token of which nothing is left the second time, in place of which the default credential is taken then. -/
theorem normalizes_again_iff_sample :
    let resolver : Resolver := ⟨[⟨"a", some ⟨"key"⟩⟩]⟩
    let r : Request := ⟨" a/b// ", some "? ?", .fence ⟨" IJ", [[0, 0]], " ", none⟩⟩
    let i : Inquiry := ⟨⟨"a/b", ⟨" ?"⟩⟩, r.question.canonical⟩
    r.normalize resolver = .ok i ∧ Resolver.NoToken (some i.connection.credential.token) ∧
      ∃ j, i.request.normalize resolver = .ok j ∧ j.dataset = i.dataset ∧ j.question = i.question ∧
        j.fingerprint = i.fingerprint := by
  intro resolver r i
  have hi : r.normalize resolver = .ok i := Request.normalize_eq_ok_iff.mpr ⟨by decide, by decide, by decide, rfl⟩
  have htoken : Resolver.NoToken (some i.connection.credential.token) :=
    Resolver.suppliedToken_eq_none_iff.mp (by decide)
  have hlast : ∀ c ∈ i.dataset.toList.getLast?, isBlank c = false := by
    have hb : i.dataset.toList.getLast? = some 'b' := by decide
    intro c hc
    rw [hb] at hc
    obtain rfl := Option.mem_some.mp hc
    decide
  have hfallback : resolver.HasFallback i.dataset := ⟨⟨"a", some ⟨"key"⟩⟩, by decide, rfl⟩
  exact ⟨hi, htoken, (Request.normalizes_again_iff hi).2.mpr ⟨hlast, fun _ => hfallback⟩⟩

/-- A blank ahead of a slash that is taken away stays behind, and makes another dataset the next time. One behind a
question mark keeps a token that is none the next time, so that its caller is not let in again. -/
theorem blanks_uncovered :
    ((⟨"a/b /", some "first", .metadata⟩ : Request).normalize Sample.resolver = .ok ⟨⟨"a/b ", ⟨"first"⟩⟩, .metadata⟩ ∧
      (Inquiry.request ⟨⟨"a/b ", ⟨"first"⟩⟩, .metadata⟩).normalize Sample.resolver =
        .ok ⟨⟨"a/b", ⟨"first"⟩⟩, .metadata⟩) ∧
    ((⟨"a/b", some "? ?", .metadata⟩ : Request).normalize Sample.resolver = .ok ⟨⟨"a/b", ⟨" ?"⟩⟩, .metadata⟩ ∧
      (Inquiry.request ⟨⟨"a/b", ⟨" ?"⟩⟩, .metadata⟩).normalize Sample.resolver = .error (.noCredentials "a/b")) := by
  decide

end SurveyGateway
