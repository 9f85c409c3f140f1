import SurveyGateway.Answer
import SurveyGateway.Proofs.Request.Normalize
import SurveyGateway.Proofs.Storage.Readers
import SurveyGateway.Proofs.Text.Lowercase

/-!
# Spellings of one question

Requests may spell one question in many ways: tokens in any letter case and with blanks around them, an interpolation
that is left out or spelled out, a locator with slashes behind it. All spellings have one canonical form, so that they
share one fingerprint, and the canonical form means what every spelling means: a token is canonicalized once when a
request is taken in, and again, on its own, when it is looked up in its vocabulary.

## The model

`Padded s cs` says that `s` is the text `cs` with blanks around it. `SameToken` and `SameLocator` say what two
spellings of a token and of a locator may differ in, and `Question.SameSpelling` puts them together over the five
kinds of questions.

## What is proved

* `canonicalToken_congr`, `canonicalInterpolation_congr`, `canonicalDataset_congr` — spellings of the same have one
  canonical form, and so have questions (`Question.SameSpelling.canonical_eq`).
* `canonicalToken_canonicalToken` — canonicalizing again changes nothing, and so a vocabulary understands a token
  exactly if it understands the canonical form (`Vocabulary.parse_canonicalToken`).
* `Question.task_canonical`, `Question.validate_canonical`, `answer_canonical` — the canonical form sets the same task,
  is in order alike, and has the same answer.
* `same_question_same_key` — requests that differ in spelling and credentials only share their fingerprint.
-/

namespace SurveyGateway

open Text (isBlank isBlankText trimmed lowercaseFrom)

/-! ### Canonical tokens -/

theorem toList_canonicalToken (s : String) : (canonicalToken s).toList = lowercaseFrom [] (trimmed s.toList) := by
  unfold canonicalToken Text.lowercase Text.trim
  rw [String.toList_ofList, String.toList_ofList]

theorem canonicalToken_canonicalToken (s : String) : canonicalToken (canonicalToken s) = canonicalToken s := by
  rw [← String.toList_inj, toList_canonicalToken, toList_canonicalToken, Text.trimmed_lowercaseFrom,
    Text.lowercaseFrom_lowercaseFrom]

theorem isBlankText_iff {s : String} : isBlankText s = true ↔ trimmed s.toList = [] := Text.trimmed_eq_nil_iff.symm

theorem isEmpty_canonicalToken (s : String) : (canonicalToken s).isEmpty = isBlankText s := by
  rw [Bool.eq_iff_iff, String.isEmpty_iff, ← String.toList_eq_nil_iff, toList_canonicalToken,
    Text.lowercaseFrom_eq_nil_iff, isBlankText_iff]

theorem isBlankText_canonicalToken (s : String) : isBlankText (canonicalToken s) = isBlankText s := by
  rw [Bool.eq_iff_iff, isBlankText_iff, isBlankText_iff, toList_canonicalToken, Text.trimmed_lowercaseFrom,
    Text.lowercaseFrom_eq_nil_iff]

/-! ### Spellings -/

/-- A text with blanks around it. -/
def Padded (s : String) (cs : List Char) : Prop :=
  ∃ ahead behind, s.toList = ahead ++ cs ++ behind ∧ ahead.all isBlank = true ∧ behind.all isBlank = true

/-- Two texts that differ only in the case of ASCII letters and in blanks around them. -/
def SameToken (s t : String) : Prop :=
  ∃ cs ds, Padded s cs ∧ Padded t ds ∧ cs.map Char.toLower = ds.map Char.toLower

/-- A way to ask for the nearest trace: by its token, or by a blank. -/
def AsksNearest (s : String) : Prop := isBlankText s = true ∨ SameToken s Interpolation.defaultToken

/-- Two tokens of one method; a blank is the default one. -/
def SameInterpolation (s t : String) : Prop := SameToken s t ∨ AsksNearest s ∧ AsksNearest t

/-- Two locators that differ only in slashes behind them and in blanks around them. -/
def SameLocator (s t : String) : Prop :=
  ∃ locator m n, (∀ c ∈ locator.getLast?, c ≠ '/' ∧ isBlank c = false) ∧
    Padded s (locator ++ List.replicate m '/') ∧ Padded t (locator ++ List.replicate n '/')

/-- Two bounds that differ only in the spelling of their directions. -/
def SliceBound.SameSpelling (a b : SliceBound) : Prop :=
  SameToken a.direction b.direction ∧ a.lower = b.lower ∧ a.upper = b.upper

/-- Two questions that differ only in the spelling of their tokens. -/
def Question.SameSpelling : Question → Question → Prop
  | .metadata, .metadata => True
  | .slice a, .slice b =>
    SameToken a.direction b.direction ∧ a.line = b.line ∧ List.Forall₂ SliceBound.SameSpelling a.bounds b.bounds
  | .fence a, .fence b =>
    SameToken a.coordinateSystem b.coordinateSystem ∧ a.coordinates = b.coordinates ∧
      SameInterpolation a.interpolation b.interpolation ∧ a.fillValue = b.fillValue
  | .along a, .along b =>
    a.surface = b.surface ∧ a.above = b.above ∧ a.below = b.below ∧ a.stepsize = b.stepsize ∧
      List.Forall₂ SameToken a.attributes b.attributes ∧ SameInterpolation a.interpolation b.interpolation
  | .between a, .between b =>
    a.primary = b.primary ∧ a.secondary = b.secondary ∧ a.stepsize = b.stepsize ∧
      List.Forall₂ SameToken a.attributes b.attributes ∧ SameInterpolation a.interpolation b.interpolation
  | _, _ => False

/-- Two requests for the same, of any callers. -/
structure Request.SameSpelling (r r' : Request) : Prop where
  dataset : SameLocator r.dataset r'.dataset
  question : r.question.SameSpelling r'.question

theorem Padded.trimmed_eq {s : String} {cs : List Char} (h : Padded s cs) : trimmed s.toList = trimmed cs := by
  obtain ⟨ahead, behind, heq, ha, hb⟩ := h
  rw [heq, Text.trimmed_pad (List.all_eq_true.mp ha) (List.all_eq_true.mp hb)]

theorem canonicalToken_congr {s t : String} (h : SameToken s t) : canonicalToken s = canonicalToken t := by
  obtain ⟨cs, ds, hs, ht, hletters⟩ := h
  have htrimmed : (trimmed cs).map Char.toLower = (trimmed ds).map Char.toLower := by
    rw [← Text.trimmed_map Text.isBlank_toLower, ← Text.trimmed_map Text.isBlank_toLower, hletters]
  rw [← String.toList_inj, toList_canonicalToken, toList_canonicalToken, hs.trimmed_eq, ht.trimmed_eq]
  calc lowercaseFrom [] (trimmed cs)
      = lowercaseFrom [] ((trimmed cs).map Char.toLower) := (Text.lowercaseFrom_map_toLower [] _).symm
    _ = lowercaseFrom [] ((trimmed ds).map Char.toLower) := by rw [htrimmed]
    _ = lowercaseFrom [] (trimmed ds) := Text.lowercaseFrom_map_toLower [] _

theorem canonicalToken_defaultToken : canonicalToken Interpolation.defaultToken = Interpolation.defaultToken := by
  decide

theorem canonicalInterpolation_eq (s : String) :
    canonicalInterpolation s = if isBlankText s then Interpolation.defaultToken else canonicalToken s := by
  unfold canonicalInterpolation
  rw [← isEmpty_canonicalToken]

theorem AsksNearest.canonical_eq {s : String} (h : AsksNearest s) :
    canonicalInterpolation s = Interpolation.defaultToken := by
  rw [canonicalInterpolation_eq]
  rcases h with h | h
  · rw [if_pos h]
  · rw [canonicalToken_congr h, canonicalToken_defaultToken, ite_self]

theorem canonicalInterpolation_congr {s t : String} (h : SameInterpolation s t) :
    canonicalInterpolation s = canonicalInterpolation t := by
  rcases h with h | ⟨hs, ht⟩
  · have htoken := canonicalToken_congr h
    unfold canonicalInterpolation
    rw [htoken]
  · rw [hs.canonical_eq, ht.canonical_eq]

/-! ### Canonical locators -/

/-- What is left of a locator with slashes behind it is all but the blanks ahead of it. -/
theorem canonical_locator {locator : List Char} (hlast : ∀ c ∈ locator.getLast?, c ≠ '/' ∧ isBlank c = false) (n : ℕ) :
    Text.dropEndWhile (· == '/') (trimmed (locator ++ List.replicate n '/')) = locator.dropWhile isBlank := by
  have hslashes : ∀ c ∈ List.replicate n '/', c = '/' := fun c hc => List.eq_of_mem_replicate hc
  have hkept : ∀ c ∈ (locator.dropWhile isBlank).getLast?, c ≠ '/' ∧ isBlank c = false := by
    intro c hc
    obtain ⟨ahead, hahead⟩ := List.dropWhile_suffix (l := locator) isBlank
    apply hlast
    rw [← hahead, List.getLast?_append, Option.mem_def.mp hc]
    rfl
  have hdrop : (locator ++ List.replicate n '/').dropWhile isBlank
      = locator.dropWhile isBlank ++ List.replicate n '/' := by
    rw [List.dropWhile_append]
    split
    · next hnil =>
      rw [List.isEmpty_iff.mp hnil]
      cases n <;> rfl
    · rfl
  have htrimmed : trimmed (locator ++ List.replicate n '/') = locator.dropWhile isBlank ++ List.replicate n '/' := by
    rw [trimmed, hdrop]
    apply Text.dropEndWhile_eq_self
    intro c hc
    rw [List.getLast?_append] at hc
    cases n with
    | zero => exact (hkept c hc).2
    | succ n =>
      obtain rfl : '/' = c := by simpa [List.getLast?_replicate] using hc
      decide
  rw [htrimmed, Text.dropEndWhile_append _ (fun c hc => beq_iff_eq.mpr (hslashes c hc))]
  exact Text.dropEndWhile_eq_self fun c hc => beq_eq_false_iff_ne.mpr (hkept c hc).1

theorem canonicalDataset_congr {s t : String} (h : SameLocator s t) : canonicalDataset s = canonicalDataset t := by
  obtain ⟨locator, m, n, hlast, hs, ht⟩ := h
  have hsame : Text.trimEnd '/' (Text.trim s) = Text.trimEnd '/' (Text.trim t) := by
    unfold Text.trimEnd Text.trim
    rw [String.toList_ofList, String.toList_ofList, hs.trimmed_eq, ht.trimmed_eq, canonical_locator hlast m,
      canonical_locator hlast n]
  unfold canonicalDataset
  rw [hsame]

/-! ### Canonical questions -/

theorem SliceBound.SameSpelling.canonical_eq {a b : SliceBound} (h : a.SameSpelling b) : a.canonical = b.canonical := by
  obtain ⟨hdirection, hlower, hupper⟩ := h
  unfold SliceBound.canonical
  rw [canonicalToken_congr hdirection, hlower, hupper]

theorem map_eq_of_forall₂ {α β : Type} {R : α → α → Prop} {f : α → β} {xs ys : List α}
    (h : List.Forall₂ R xs ys) (hf : ∀ a b, R a b → f a = f b) : xs.map f = ys.map f := by
  induction h with
  | nil => rfl
  | cons hxy _ ih => rw [List.map_cons, List.map_cons, hf _ _ hxy, ih]

theorem Question.SameSpelling.canonical_eq {q q' : Question} (h : q.SameSpelling q') : q.canonical = q'.canonical := by
  cases q with
  | metadata =>
    cases q' with
    | metadata => rfl
    | _ => exact h.elim
  | slice a =>
    cases q' with
    | slice b =>
      obtain ⟨hdirection, hline, hbounds⟩ := h
      simp only [canonical, canonicalToken_congr hdirection, hline,
        map_eq_of_forall₂ hbounds fun _ _ => SliceBound.SameSpelling.canonical_eq]
    | _ => exact h.elim
  | fence a =>
    cases q' with
    | fence b =>
      obtain ⟨hsystem, hcoordinates, hinterpolation, hfill⟩ := h
      simp only [canonical, canonicalToken_congr hsystem, hcoordinates, canonicalInterpolation_congr hinterpolation,
        hfill]
    | _ => exact h.elim
  | along a =>
    cases q' with
    | along b =>
      obtain ⟨hsurface, habove, hbelow, hstep, hattributes, hinterpolation⟩ := h
      simp only [canonical, hsurface, habove, hbelow, hstep, map_eq_of_forall₂ hattributes fun _ _ => canonicalToken_congr,
        canonicalInterpolation_congr hinterpolation]
    | _ => exact h.elim
  | between a =>
    cases q' with
    | between b =>
      obtain ⟨hprimary, hsecondary, hstep, hattributes, hinterpolation⟩ := h
      simp only [canonical, hprimary, hsecondary, hstep, map_eq_of_forall₂ hattributes fun _ _ => canonicalToken_congr,
        canonicalInterpolation_congr hinterpolation]
    | _ => exact h.elim

/-! ### What the canonical form means -/

/-- A vocabulary looks tokens up by their canonical form. -/
theorem Vocabulary.parse_canonicalToken {α : Type} (v : Vocabulary α) (token : String) :
    (v.parse (canonicalToken token)).toOption = (v.parse token).toOption := by
  unfold parse
  rw [canonicalToken_canonicalToken]
  split <;> simp only [Except.toOption]

theorem Interpolation.parse_canonical (token : String) :
    (parse (canonicalInterpolation token)).toOption = (parse token).toOption := by
  rw [canonicalInterpolation_eq]
  by_cases hblank : Text.isBlankText token = true
  · rw [if_pos hblank, parse, parse, if_pos hblank]
    rfl
  · rw [if_neg hblank, parse, parse, if_neg hblank, if_neg (by rwa [isBlankText_canonicalToken])]
    exact vocabulary.parse_canonicalToken token

theorem SliceBound.parse_canonical (b : SliceBound) : b.canonical.parse.toOption = b.parse.toOption := by
  simp only [parse, canonical, toOption_bind, Direction.parse, Vocabulary.parse_canonicalToken]

theorem Attribute.parseAll_canonical (tokens : List String) :
    (parseAll (tokens.map canonicalToken)).toOption = (parseAll tokens).toOption := by
  unfold parseAll
  rw [List.isEmpty_map]
  split
  · rfl
  · exact toOption_mapM_map vocabulary.parse_canonicalToken tokens

/-- The canonical form of a question sets the task that the question sets, and is refused if it is. -/
theorem Question.task_canonical (q : Question) : q.canonical.task.toOption = q.task.toOption := by
  cases q with
  | metadata => rfl
  | slice q =>
    simp only [canonical, task, toOption_bind, Direction.parse, Vocabulary.parse_canonicalToken,
      toOption_mapM_map SliceBound.parse_canonical]
  | fence q =>
    simp only [canonical, task, toOption_bind, CoordinateSystem.parse, Vocabulary.parse_canonicalToken,
      Interpolation.parse_canonical]
  | along q =>
    simp only [canonical, task, toOption_bind, Interpolation.parse_canonical, Attribute.parseAll_canonical]
  | between q =>
    simp only [canonical, task, toOption_bind, Interpolation.parse_canonical, Attribute.parseAll_canonical]

/-- Who has to act on a mishap that has been reported. -/
def Mishap.blame : Mishap Failure → Mishap Blame
  | .failed f => .failed f.blame
  | .brokenOff => .brokenOff

/-- A volume gives the canonical form of a question the answer it gives the question: the same product, or a failure
of the same blame. Only a refusal may quote a token as it was spelled. -/
theorem answer_canonical (v : Volume) (q : Question) :
    (v.answer q.canonical).mapError Mishap.blame = (v.answer q).mapError Mishap.blame := by
  have htask := q.task_canonical
  unfold Volume.answer
  cases hcanonical : q.canonical.task with
  | error refusal =>
    cases hq : q.task with
    | error refusal' => rfl
    | ok task =>
      rw [hcanonical, hq] at htask
      cases htask
  | ok task =>
    cases hq : q.task with
    | error refusal =>
      rw [hcanonical, hq] at htask
      cases htask
    | ok task' =>
      rw [hcanonical, hq] at htask
      cases htask
      rfl

theorem requireToken_canonicalToken (name token : String) :
    requireToken name (canonicalToken token) = requireToken name token := by
  unfold requireToken
  rw [isBlankText_canonicalToken]

/-- The canonical form of a question is in order if the question is, and is refused for the same reason if not. -/
theorem Question.validate_canonical (q : Question) : q.canonical.validate = q.validate := by
  cases q with
  | metadata => rfl
  | slice q =>
    simp only [canonical, validate, requireToken_canonicalToken, List.forM_eq_forM, List.forM_map,
      SliceBound.canonical]
  | fence q => simp only [canonical, validate, requireToken_canonicalToken]
  | along q => rfl
  | between q => rfl

/-- A member that holds the interpolation method may be left out where a blank would stand. -/
theorem value?_without_interpolation (kind : Kind) (d : RequestDraft) :
    kind.record.value? { d with interpolation := none } = kind.record.value? { d with interpolation := some "" } := by
  cases kind <;> rfl

/-! ### One key -/

/-- **Equal questions share one key.** Two requests that come to an inquiry, and differ only in how they spell tokens
and the locator and in their callers, ask the same canonical question of the same dataset, and so share their
fingerprint. The canonical question means what either request asks: any volume has the same product for it, or fails
by the same blame. And it makes no difference whether the interpolation method is left out or blank. -/
theorem same_question_same_key (resolver : Resolver) {r r' : Request} {i i' : Inquiry} (h : r.SameSpelling r')
    (hi : r.normalize resolver = .ok i) (hi' : r'.normalize resolver = .ok i') :
    i.dataset = i'.dataset ∧ i.question = i'.question ∧ i.fingerprint = i'.fingerprint ∧
      (∀ v : Volume, (v.answer i.question).mapError Mishap.blame = (v.answer r.question).mapError Mishap.blame ∧
        (v.answer i.question).mapError Mishap.blame = (v.answer r'.question).mapError Mishap.blame) ∧
      ∀ (kind : Kind) (d : RequestDraft),
        kind.record.value? { d with interpolation := none } = kind.record.value? { d with interpolation := some "" } := by
  obtain ⟨hdataset, -, -, hquestion⟩ := Request.normalize_eq_ok_iff.mp hi
  obtain ⟨hdataset', -, -, hquestion'⟩ := Request.normalize_eq_ok_iff.mp hi'
  rw [← canonicalDataset_congr h.dataset] at hdataset'
  have hsame : i.dataset = i'.dataset := Except.ok.inj (hdataset.symm.trans hdataset')
  have hask : i.question = i'.question := by
    rw [hquestion, hquestion', h.question.canonical_eq]
  refine ⟨hsame, hask, ?_, ?_, value?_without_interpolation⟩
  · rw [Inquiry.fingerprint, Inquiry.fingerprint, hsame, hask]
  · intro v
    constructor
    · rw [hquestion, answer_canonical]
    · rw [hask, hquestion', answer_canonical]

/-- A fence, with the method spelled out. -/
def spelledFence : Request := ⟨"a", some "first", .fence ⟨"ij", [[0, 0]], "NEAREST ", none⟩⟩

/-- The same fence for another caller, without the method, and with blanks and slashes that do not matter. -/
def paddedFence : Request := ⟨" a// ", some "second", .fence ⟨" IJ", [[0, 0]], "", none⟩⟩

theorem spelledFence_sameSpelling : spelledFence.SameSpelling paddedFence where
  dataset := by
    have hlast : ∀ c ∈ ['a'].getLast?, c ≠ '/' ∧ isBlank c = false := by
      intro c hc
      obtain rfl := Option.mem_some.mp hc
      decide
    exact ⟨['a'], 0, 2, hlast, ⟨[], [], by decide, by decide, by decide⟩,
      ⟨[' '], [' '], by decide, by decide, by decide⟩⟩
  question := by
    have hsystem : SameToken "ij" " IJ" :=
      ⟨['i', 'j'], ['I', 'J'], ⟨[], [], by decide, by decide, by decide⟩, ⟨[' '], [], by decide, by decide, by decide⟩,
        by decide⟩
    have hnearest : SameToken "NEAREST " Interpolation.defaultToken :=
      ⟨"NEAREST".toList, "nearest".toList, ⟨[], [' '], by decide, by decide, by decide⟩,
        ⟨[], [], by decide, by decide, by decide⟩, by decide⟩
    exact ⟨hsystem, rfl, Or.inr ⟨Or.inr hnearest, Or.inl (by decide)⟩, rfl⟩

theorem normalize_spelledFence :
    spelledFence.normalize Sample.resolver = .ok ⟨⟨"a", ⟨"first"⟩⟩, spelledFence.question.canonical⟩ :=
  Request.normalize_eq_ok_iff.mpr ⟨by decide, by decide, by decide, rfl⟩

theorem same_question_same_key_sample :
    ∃ i i', spelledFence.SameSpelling paddedFence ∧ spelledFence.normalize Sample.resolver = .ok i ∧
      paddedFence.normalize Sample.resolver = .ok i' ∧ i.connection ≠ i'.connection ∧
      i.fingerprint = i'.fingerprint := by
  have hi' : paddedFence.normalize Sample.resolver = .ok ⟨⟨"a", ⟨"second"⟩⟩, paddedFence.question.canonical⟩ :=
    Request.normalize_eq_ok_iff.mpr ⟨by decide, by decide, by decide, rfl⟩
  obtain ⟨-, -, hkey, -⟩ := same_question_same_key Sample.resolver spelledFence_sameSpelling normalize_spelledFence hi'
  exact ⟨_, _, spelledFence_sameSpelling, normalize_spelledFence, hi', by decide, hkey⟩

end SurveyGateway
