import SurveyGateway.Proofs.Document.Kernel
import SurveyGateway.Proofs.History.Stored

/-!
# Volumes that are replaced

A volume can be registered in place of another one, and it then has readers of its own. The cache knows nothing of
that: it goes on to show what was computed from the volume that is gone, to anyone who can read the new one. This
module says exactly when that gives a caller the product of a volume that it could never read.

## The model

`Entitled` is a volume that a caller could read, at some time up to now, while it was registered at the locator of
the request. An outcome is `Justified` if a product is what an entitled volume answers.

## What is proved

* `justified_iff` — for all outcomes of a history to be justified it takes that, whenever a product is shown from the
  cache, some entitled volume gives the answer that the volume of the last stored inquiry gave. That is so if nothing
  is registered at a locator once it has been asked, and runs that share a fingerprint ask the same.
* `replaced_product_shown` — it is not so in general: the new reader of a locator is shown metadata of the volume that
  was there before.
-/

namespace SurveyGateway.History

open Json (Kernel MemberKernel kernel_const kernel_text utf8_inj)
open Storage (Memory digestOf)

section Definitions

variable (resolver : Resolver) (s : Shared Memory)

/-- The caller could read the volume at some time up to now, while it was registered at the locator. -/
def Entitled (past : List Step) (i : Inquiry) (v : Volume) : Prop :=
  ∃ earlier later, past = earlier ++ later ∧ (after resolver s earlier).storage.Reads i.connection v

/-- If the request comes to a product, that is the answer of an entitled volume. -/
def Justified (past : List Step) (r : Request) : Prop :=
  ∀ i p stored, r.normalize resolver = .ok i → outcome resolver s past r = .ok ⟨p, stored⟩ →
    ∃ v, Entitled resolver s past i v ∧ v.answer i.question = .ok p

/-- Requests that share a fingerprint ask the same question of the same dataset. -/
def Distinguished (steps : List Step) : Prop :=
  ∀ r r' i i', .ask r ∈ steps → .ask r' ∈ steps → r.normalize resolver = .ok i → r'.normalize resolver = .ok i' →
    i.fingerprint = i'.fingerprint → i.dataset = i'.dataset ∧ i.question = i'.question

end Definitions

variable {resolver : Resolver} {s : Shared Memory} {f : Fingerprint} {past : List Step} {i j : Inquiry} {v w : Volume}
  {p : Product} {r : Request}

/-! ### When outcomes are justified -/

/-- A caller who can read a volume now is entitled to it. -/
theorem entitled_now (h : (after resolver s past).storage.Reads i.connection v) : Entitled resolver s past i v :=
  ⟨past, [], (List.append_nil past).symm, h⟩

/-- A product that has been computed is the answer of the volume that is there now. -/
theorem entitled_of_computed (hi : r.normalize resolver = .ok i) (ho : outcome resolver s past r = .ok ⟨p, false⟩) :
    ∃ v, Entitled resolver s past i v ∧ v.answer i.question = .ok p := by
  obtain ⟨-, hreply⟩ := (computed_iff hi).mp ho
  obtain ⟨v, hv, hp⟩ := (Memory.reply_ok_iff _ _ _).mp hreply
  exact ⟨v, entitled_now hv, hp⟩

/-- **When a product is that of an entitled volume.** Behind any history, for any budget:

The outcome of a request is justified exactly if, in case it is shown a product from the cache, some volume the
caller is entitled to gives the answer that the volume of the last stored inquiry gave to that inquiry. And it is
justified if nothing has been registered at a locator once that was asked, and requests of one fingerprint ask the
same. -/
theorem justified_iff (resolver : Resolver) (m : Memory) (budget : ℕ) (past : List Step) (r : Request) :
    (Justified resolver (.fresh m budget) past r ↔
      ∀ i p j v, r.normalize resolver = .ok i → outcome resolver (.fresh m budget) past r = .ok ⟨p, true⟩ →
        LastStored resolver (.fresh m budget) i.fingerprint past j v →
        ∃ w, Entitled resolver (.fresh m budget) past i w ∧ w.answer i.question = v.answer j.question) ∧
    (Unreplaced resolver past → Distinguished resolver (past ++ [.ask r]) →
      Justified resolver (.fresh m budget) past r) := by
  have hiff : Justified resolver (.fresh m budget) past r ↔
      ∀ i p j v, r.normalize resolver = .ok i → outcome resolver (.fresh m budget) past r = .ok ⟨p, true⟩ →
        LastStored resolver (.fresh m budget) i.fingerprint past j v →
        ∃ w, Entitled resolver (.fresh m budget) past i w ∧ w.answer i.question = v.answer j.question := by
    constructor
    · intro h i p j v hi ho hlast
      obtain ⟨-, j', v', hlast', hp⟩ := lastStored_of_shown hi ho
      obtain ⟨rfl, rfl⟩ := hlast.unique hlast'
      obtain ⟨w, hw, hanswer⟩ := h i p true hi ho
      exact ⟨w, hw, hanswer.trans hp.symm⟩
    · intro h i p stored hi ho
      cases stored with
      | false => exact entitled_of_computed hi ho
      | true =>
        obtain ⟨-, j, v, hlast, hp⟩ := lastStored_of_shown hi ho
        obtain ⟨w, hw, hanswer⟩ := h i p j v hi ho hlast
        exact ⟨w, hw, hanswer.trans hp⟩
  refine ⟨hiff, fun hun hdist => hiff.mpr fun i p j v hi ho hlast => ?_⟩
  -- the caller can read the volume that is there now, and that is still the one that answered
  obtain ⟨before, r', rest, hpast, hj, hf, -⟩ := hlast.asked
  obtain ⟨hdataset, hquestion⟩ := hdist r r' i j (by simp) (by simp [hpast]) hi hj hf.symm
  obtain ⟨⟨d, hd, hc⟩, -⟩ := lastStored_of_shown hi ho
  have hv := hlast.volume hun
  rw [← hdataset, Inquiry.dataset, hd] at hv
  obtain rfl := Option.some.inj hv
  exact ⟨d.volume, entitled_now ⟨d, hd, hc, rfl⟩, by rw [hquestion]⟩

/-! ### A volume that is replaced -/

/-- The well-known volume under other names. -/
def replacement : Volume := { Volume.wellKnown with provenance := ⟨"other", "other", "other"⟩ }

/-- The volume at `a` is replaced when its reader has been answered, and `second` is granted the new one. -/
def replacedHistory : List Step :=
  [.register "a" .wellKnown, .grant "a" ⟨"first"⟩, .ask (Sample.request "first" .metadata), .register "a" replacement,
    .grant "a" ⟨"second"⟩]

theorem answer_metadata (v : Volume) : v.answer .metadata = .ok ⟨v.metadata.toValue.bytes, []⟩ := rfl

theorem kernel_provenance (v : Volume) :
    Kernel (fun p => ({ v with provenance := p } : Volume).metadata.toValue) fun p p' =>
      True ∧ True ∧ p.crs = p'.crs ∧ p.inputFileName = p'.inputFileName ∧ p.importTimeStamp = p'.importTimeStamp ∧
        True :=
  MemberKernel.object
    (.cons "axis" (kernel_const fun _ _ => rfl) <| .cons "boundingBox" (kernel_const fun _ _ => rfl) <|
      .cons "crs" (kernel_text.comap Provenance.crs) <|
      .cons "inputFileName" (kernel_text.comap Provenance.inputFileName) <|
      .cons "importTimeStamp" (kernel_text.comap Provenance.importTimeStamp) <|
      .last "format" (kernel_const fun _ _ => rfl))
    fun _ => List.cons_ne_nil _ _

/-- The metadata document of a volume tells its names, whatever its axes are. -/
theorem provenance_inj {v : Volume} {p q : Provenance}
    (h : ({ v with provenance := p } : Volume).metadata.toValue.bytes =
      ({ v with provenance := q } : Volume).metadata.toValue.bytes) : p = q := by
  obtain ⟨-, -, hcrs, hfile, htime, -⟩ := (kernel_provenance v).render_eq_iff.mp (utf8_inj h)
  cases p
  cases q
  exact (Provenance.mk.injEq ..).mpr ⟨hcrs, hfile, htime⟩

theorem metadata_replacement :
    replacement.metadata.toValue.bytes ≠ Volume.wellKnown.metadata.toValue.bytes := fun h =>
  absurd (provenance_inj (v := .wellKnown) (q := Volume.wellKnown.provenance) h) (by decide)

/-- The first steps of that history: a volume with a reader who is answered. -/
def answeredHistory : List Step :=
  [.register "a" .wellKnown, .grant "a" ⟨"first"⟩, .ask (Sample.request "first" .metadata)]

/-- Metadata that have just been asked are in the cache, for a caller who can read them. -/
theorem answered_history :
    (after Sample.resolver (.fresh .empty 0xffffffff) answeredHistory).storage.CanRead ⟨"a", ⟨"first"⟩⟩ ∧
      (after Sample.resolver (.fresh .empty 0xffffffff) answeredHistory).cache.entries.find?
        (Sample.inquiry "first" .metadata).fingerprint = some Sample.product := by
  have hi := Sample.normalize_first
  have hsplit : answeredHistory =
      [.register "a" .wellKnown, .grant "a" ⟨"first"⟩] ++ [.ask (Sample.request "first" .metadata)] := rfl
  rw [hsplit, after_concat]
  have hreads : (after Sample.resolver (.fresh .empty 0xffffffff)
      [.register "a" .wellKnown, .grant "a" ⟨"first"⟩]).storage.Reads ⟨"a", ⟨"first"⟩⟩ Volume.wellKnown :=
    Memory.reads_register_grant _ _ _ _
  have hcache : (after Sample.resolver (.fresh .empty 0xffffffff)
      [.register "a" .wellKnown, .grant "a" ⟨"first"⟩]).cache = .ofBudget 0xffffffff := rfl
  generalize after Sample.resolver (.fresh .empty 0xffffffff)
    [.register "a" .wellKnown, .grant "a" ⟨"first"⟩] = s at hreads hcache ⊢
  have hnone : shown? s (Sample.inquiry "first" .metadata) = none := by
    unfold shown?
    rw [hcache]
    split <;> rfl
  have hreply : s.storage.reply (Sample.inquiry "first" .metadata) = .ok Sample.product :=
    (Memory.reply_ok_iff _ _ _).mpr ⟨_, hreads, answer_metadata _⟩
  refine ⟨(Memory.canRead_congr (datasets_ask _ s _) _).mpr hreads.canRead, find?_ask hi hnone hreply ?_ ?_⟩
  · rw [hcache]
    exact Sample.product.weight_le
  · rw [hcache]
    rfl

/-- The reader who asks again is shown the same metadata, and they are those of the volume it can read. -/
theorem justified_iff_sample :
    Justified Sample.resolver (.fresh .empty 0xffffffff) answeredHistory (Sample.request "first" .metadata) ∧
      ∃ w, Entitled Sample.resolver (.fresh .empty 0xffffffff) answeredHistory (Sample.inquiry "first" .metadata) w ∧
        w.answer .metadata = .ok Sample.product := by
  have hi := Sample.normalize_first
  have hshown : outcome Sample.resolver (.fresh .empty 0xffffffff) answeredHistory
      (Sample.request "first" .metadata) = .ok ⟨Sample.product, true⟩ :=
    outcome_shown _ hi (shown?_eq_some_iff.mpr answered_history)
  obtain ⟨hiff, hsafe⟩ :=
    justified_iff Sample.resolver .empty 0xffffffff answeredHistory (Sample.request "first" .metadata)
  have hjustified := hsafe
    (by
      intro past r i mid locator v rest hsplit
      rcases past with _ | ⟨a, _ | ⟨b, _ | ⟨c, past⟩⟩⟩ <;> simp [answeredHistory] at hsplit)
    (by
      intro r r' i i' hr hr' hi hi' _
      simp only [answeredHistory, List.cons_append, List.nil_append, List.mem_cons, reduceCtorEq, Step.ask.injEq,
        List.not_mem_nil, or_false, false_or, or_self] at hr hr'
      subst hr hr'
      obtain rfl := Except.ok.inj (hi.symm.trans hi')
      exact ⟨rfl, rfl⟩)
  obtain ⟨-, j, v, hlast, hanswer⟩ := lastStored_of_shown hi hshown
  obtain ⟨w, hw, hsame⟩ := hiff.mp hjustified _ _ j v hi hshown hlast
  exact ⟨hjustified, w, hw, hsame.trans hanswer⟩

/-- The reader of a new volume is shown the metadata of the volume in whose place it stands, which it never could
read. -/
theorem replaced_product_shown :
    outcome Sample.resolver (.fresh .empty 0xffffffff) replacedHistory (Sample.request "second" .metadata) =
        .ok ⟨Sample.product, true⟩ ∧
      ¬ Justified Sample.resolver (.fresh .empty 0xffffffff) replacedHistory (Sample.request "second" .metadata) := by
  have hi := Sample.normalize_second
  have hfind := answered_history.2
  have hsplit : replacedHistory = answeredHistory ++ [.register "a" replacement] ++ [.grant "a" ⟨"second"⟩] := rfl
  have hreads : (after Sample.resolver (.fresh .empty 0xffffffff) replacedHistory).storage.Reads
      ⟨"a", ⟨"second"⟩⟩ replacement := by
    rw [hsplit, after_concat, after_concat]
    exact Memory.reads_register_grant _ _ _ _
  have hshown : outcome Sample.resolver (.fresh .empty 0xffffffff) replacedHistory
      (Sample.request "second" .metadata) = .ok ⟨Sample.product, true⟩ := by
    refine outcome_shown Sample.resolver hi (shown?_eq_some_iff.mpr ⟨hreads.canRead, ?_⟩)
    have hkey : (Sample.inquiry "second" .metadata).fingerprint = (Sample.inquiry "first" .metadata).fingerprint :=
      Inquiry.fingerprint_congr rfl rfl
    rw [hkey, hsplit, after_concat, after_concat, cache_grant, cache_register]
    exact hfind
  refine ⟨hshown, fun h => ?_⟩
  obtain ⟨v, ⟨earlier, later, hpast, hv⟩, hanswer⟩ := h _ _ _ hi hshown
  have hprefix : earlier <+: replacedHistory := ⟨later, hpast.symm⟩
  rw [hsplit] at hprefix
  rcases List.prefix_concat_iff.mp hprefix with rfl | hprefix
  · obtain rfl := hreads.unique hv
    have hquestion : (Sample.inquiry "second" .metadata).question = .metadata := rfl
    rw [hquestion, answer_metadata, Except.ok.injEq] at hanswer
    exact metadata_replacement (congrArg Product.metadata hanswer)
  · have hnone : ¬ (Shared.fresh .empty 0xffffffff).storage.CanRead ⟨"a", ⟨"second"⟩⟩ := by
      rintro ⟨d, hd, -⟩
      cases hd
    refine not_canRead_after hnone earlier (fun step hstep => ?_) hv.canRead
    have hmem : step ∈ answeredHistory ++ [.register "a" replacement] := hprefix.subset hstep
    simp only [answeredHistory, List.cons_append, List.nil_append, List.mem_cons, List.not_mem_nil, or_false] at hmem
    rcases hmem with rfl | rfl | rfl | rfl
    · exact id
    · exact fun hgrant => Sample.digestOf_first_ne hgrant.2
    · exact id
    · exact id

end SurveyGateway.History
