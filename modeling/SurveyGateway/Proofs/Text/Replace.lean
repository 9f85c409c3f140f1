import SurveyGateway.Proofs.Text.Find
import SurveyGateway.Text.Replace

/-!
# Texts that come up again where they were replaced

`replaceFrom` goes through a text once, from left to right. All occurrences of the old text that it finds are gone then,
but the new text may be part of another one: together with what stands around it, or on its own. Whether that can happen
at all is a question about the two texts alone, since an occurrence that comes up again overlaps the new text somehow.

## The model

`Leads old ahead` says that an occurrence of `old` right behind `ahead` is the first one there. `Entangled old new` lists
the ways in which the two texts may overlap so that `old` comes up again. One overlap does no harm: where `old` ends as
`new` begins but begins so itself, it is found too early for the overlap to come about.

## What is proved

* `replaceFrom_eq_self`, `replaceFrom_append` — a text without occurrences is left as it is, and what is ahead of
  the first occurrence stays ahead of the new text.
* `not_infix_replaceFrom` — texts that are not entangled never come up again.
* `exists_infix_replaceFrom` — texts that are do so somewhere, if the new text does not repeat its first character.
-/

namespace SurveyGateway.Text

variable {old new ahead : List Char}

/-! ### Going through a text -/

/-- An occurrence of a text right behind `ahead` is the first one. -/
def Leads (old ahead : List Char) : Prop := ¬ old <:+: ahead ++ old.dropLast

theorem replaceFrom_skip (old new : List Char) (skip : ℕ) (cs : List Char) :
    replaceFrom old new skip cs = replaceFrom old new 0 (cs.drop skip) := by
  induction cs generalizing skip with
  | nil => simp [replaceFrom]
  | cons c cs ih =>
    cases skip with
    | zero => rfl
    | succ skip => rw [replaceFrom, ih, List.drop_succ_cons]

theorem replaceFrom_eq_self {cs : List Char} (h : ¬ old <:+: cs) : replaceFrom old new 0 cs = cs := by
  induction cs with
  | nil => rfl
  | cons c cs ih =>
    rw [List.infix_cons_iff, not_or] at h
    rw [replaceFrom, if_neg (fun hp => h.1 (List.isPrefixOf_iff_prefix.mp hp)), ih h.2]

theorem Leads.of_cons {c : Char} (h : Leads old (c :: ahead)) : Leads old ahead := fun hin => h (List.infix_cons hin)

theorem leads_nil (hold : old ≠ []) : Leads old [] := by
  intro hin
  have hle := hin.length_le
  have hpos := List.length_pos_of_ne_nil hold
  rw [List.nil_append, List.length_dropLast] at hle
  omega

/-- What is ahead of the first occurrence stays ahead of the new text. -/
theorem replaceFrom_append (hold : old ≠ []) (h : Leads old ahead) (rest : List Char) :
    replaceFrom old new 0 (ahead ++ (old ++ rest)) = ahead ++ (new ++ replaceFrom old new 0 rest) := by
  induction ahead with
  | nil =>
    obtain ⟨c, cs, rfl⟩ := List.exists_cons_of_ne_nil hold
    have hfound : (c :: cs).isPrefixOf (c :: (cs ++ rest)) = true :=
      List.isPrefixOf_iff_prefix.mpr (List.prefix_append (c :: cs) rest)
    rw [List.nil_append, List.nil_append, List.cons_append, replaceFrom, if_pos hfound, replaceFrom_skip,
      List.length_cons, Nat.add_sub_cancel, List.drop_left]
  | cons c ahead ih =>
    have habsent : ¬ old <+: c :: (ahead ++ (old ++ rest)) := by
      intro hp
      -- the occurrence would end ahead of the last character of the one that is first
      have hshort : c :: ahead ++ old.dropLast <+: c :: (ahead ++ (old ++ rest)) := by
        rw [← List.cons_append, List.prefix_append_right_inj]
        exact (List.dropLast_prefix old).trans (List.prefix_append old rest)
      refine h (List.prefix_of_prefix_length_le hp hshort ?_).isInfix
      have hpos := List.length_pos_of_ne_nil hold
      rw [List.length_append, List.length_cons, List.length_dropLast]
      omega
    rw [List.cons_append, replaceFrom, if_neg (fun hp => habsent (List.isPrefixOf_iff_prefix.mp hp)), ih h.of_cons]
    rfl

/-- Where a text occurs, it has a first occurrence. -/
theorem exists_leads {cs : List Char} (hold : old ≠ []) (h : old <:+: cs) :
    ∃ ahead rest, cs = ahead ++ (old ++ rest) ∧ Leads old ahead := by
  induction cs with
  | nil => exact absurd (List.infix_nil.mp h) hold
  | cons c cs ih =>
    by_cases hp : old <+: c :: cs
    · obtain ⟨rest, hrest⟩ := hp
      exact ⟨[], rest, hrest.symm, leads_nil hold⟩
    · obtain ⟨ahead, rest, rfl, hleads⟩ := ih ((List.infix_cons_iff.mp h).resolve_left hp)
      refine ⟨c :: ahead, rest, rfl, fun hin => ?_⟩
      rw [List.cons_append, List.infix_cons_iff] at hin
      rcases hin with hp' | hin
      · refine hp (hp'.trans (List.cons_prefix_cons.mpr ⟨rfl, ?_⟩))
        rw [List.prefix_append_right_inj]
        exact (List.dropLast_prefix old).trans (List.prefix_append old rest)
      · exact hleads hin

/-! ### Overlaps -/

/-- The old text may come up again where it has been replaced: it is part of the new text or has it as a part, begins as
the new text ends, or ends as the new text begins but does not begin so. -/
def Entangled (old new : List Char) : Prop :=
  old <:+: new ∨ new <:+: old ∨ (∃ l ∈ new.tails, l ≠ [] ∧ l <+: old) ∨ ∃ l ∈ new.inits, l ≠ [] ∧ l <:+ old ∧ ¬ l <+: old

instance (old new : List Char) : Decidable (Entangled old new) := inferInstanceAs (Decidable (_ ∨ _ ∨ _ ∨ _))

/-- No occurrence begins in the new text, if there is none behind it. -/
theorem not_infix_new_append (h : ¬ Entangled old new) {out : List Char} (hout : ¬ old <:+: out) :
    ¬ old <:+: new ++ out := by
  rw [List.infix_append_iff]
  rintro (hnew | hbehind | ⟨l, r, rfl, hl, hr⟩)
  · exact h (Or.inl hnew)
  · exact hout hbehind
  · cases l with
    | nil => exact hout hr.isInfix
    | cons c l =>
      exact h (Or.inr (Or.inr (Or.inl ⟨c :: l, (List.mem_tails _ _).mpr hl, List.cons_ne_nil c l, List.prefix_append _ r⟩)))

/-- A text that begins as it ends is found as soon as an occurrence could overlap what takes its place. -/
theorem not_leads_of_border {l r : List Char} (h : ¬ Entangled old new) (heq : old = l ++ r) (hl : l <:+ ahead)
    (hnew : r <+: new) (hearly : r <+: old) : ¬ Leads old ahead := by
  have hne : l ≠ [] := by
    rintro rfl
    exact h (Or.inl (heq ▸ hnew.isInfix))
  have hshort : r <+: old.dropLast := by
    refine List.prefix_of_prefix_length_le hearly (List.dropLast_prefix old) ?_
    have hpos := List.length_pos_of_ne_nil hne
    rw [List.length_dropLast, heq, List.length_append]
    omega
  have hreach : old <:+: ahead ++ r := by
    obtain ⟨front, rfl⟩ := hl
    exact ⟨front, [], by rw [heq, List.append_nil, List.append_assoc]⟩
  exact fun hleads => hleads (hreach.trans ((List.prefix_append_right_inj ahead).mpr hshort).isInfix)

/-- No occurrence begins ahead of the new text, either. -/
theorem not_infix_ahead_append (h : ¬ Entangled old new) (hleads : Leads old ahead) {out : List Char}
    (hout : ¬ old <:+: out) : ¬ old <:+: ahead ++ (new ++ out) := by
  rw [List.infix_append_iff]
  rintro (hahead | hbehind | ⟨l, r, heq, hl, hr⟩)
  · exact hleads (hahead.trans (List.prefix_append ahead _).isInfix)
  · exact not_infix_new_append h hout hbehind
  · have hend : r <:+ old := heq ▸ List.suffix_append l r
    rcases List.prefix_or_prefix_of_prefix hr (List.prefix_append new out) with hstart | hwhole
    · by_cases hempty : r = []
      · subst hempty
        rw [List.append_nil] at heq
        subst heq
        exact hleads (hl.isInfix.trans (List.prefix_append ahead _).isInfix)
      · by_cases hearly : r <+: old
        · exact not_leads_of_border h heq hl hstart hearly hleads
        · exact h (Or.inr (Or.inr (Or.inr ⟨r, (List.mem_inits _ _).mpr hstart, hempty, hend, hearly⟩)))
    · exact h (Or.inr (Or.inl (hwhole.isInfix.trans hend.isInfix)))

/-- A text that is not entangled with what takes its place does not come up again anywhere. -/
theorem not_infix_replaceFrom (hold : old ≠ []) (h : ¬ Entangled old new) (cs : List Char) :
    ¬ old <:+: replaceFrom old new 0 cs := by
  induction hn : cs.length using Nat.strong_induction_on generalizing cs with
  | _ n ih =>
    by_cases hin : old <:+: cs
    · obtain ⟨ahead, rest, rfl, hleads⟩ := exists_leads hold hin
      rw [replaceFrom_append hold hleads]
      refine not_infix_ahead_append h hleads (ih rest.length ?_ rest rfl)
      have hpos := List.length_pos_of_ne_nil hold
      simp only [List.length_append] at hn
      omega
    · rwa [replaceFrom_eq_self hin]

/-! ### Texts that come up again -/

/-- A text is found where it stands behind its own beginning, up to a part whose first character does not come again: if
it were found earlier, it would begin with that part. -/
theorem leads_of_append {c : Char} {part behind : List Char} (hc : c ∉ part) (hold : old = ahead ++ (c :: part ++ behind))
    (hstart : ¬ c :: part <+: old) : Leads old ahead := by
  rintro ⟨front, back, heq⟩
  obtain ⟨tail, htail⟩ : ∃ tail, c :: part ++ behind = tail := ⟨_, rfl⟩
  have hne : tail ≠ [] := htail ▸ List.cons_ne_nil c _
  rw [htail] at hold
  have hdrop : old.dropLast = ahead ++ tail.dropLast := by rw [hold, List.dropLast_append_of_ne_nil hne]
  have hlength := congrArg List.length heq
  have hpos := List.length_pos_of_ne_nil hne
  rw [hdrop, hold] at heq hlength
  simp only [List.length_append, List.length_dropLast] at hlength
  have hfront : front <+: ahead ++ (ahead ++ tail.dropLast) := ⟨ahead ++ tail ++ back, by simp [← heq]⟩
  obtain ⟨mid, rfl⟩ := List.prefix_of_prefix_length_le hfront (List.prefix_append ahead _) (by omega)
  -- the beginning is the same when it is turned round, so the part goes on behind `mid` as it does behind all of it
  have hturned : (front ++ mid) ++ (tail ++ back) = (mid ++ front) ++ (mid ++ tail.dropLast) := by
    simpa [List.append_assoc] using heq
  obtain ⟨hround, hbehind⟩ := List.append_inj hturned (by simp [Nat.add_comm])
  have hmid : mid ≠ [] := by
    rintro rfl
    rw [List.append_nil] at hlength
    omega
  have hgoes : c :: part <+: mid ++ (c :: part ++ behind) := by
    rw [htail]
    refine List.IsPrefix.trans ⟨behind ++ back, ?_⟩ ((List.prefix_append_right_inj mid).mpr (List.dropLast_prefix tail))
    rw [← hbehind, ← htail, List.append_assoc]
  refine not_prefix_of_straddle hc hmid behind (fun hp => hstart (hp.trans ?_)) hgoes
  rw [hold, hround, List.append_assoc]
  exact List.prefix_append mid _

/-- A text with one occurrence, in whose place the old text comes up again. -/
theorem exists_infix_of_leads (behind : List Char) (hleads : Leads old ahead) (hshort : behind.length < old.length)
    (hin : old <:+: ahead ++ (new ++ behind)) : ∃ cs, old <:+: replaceFrom old new 0 cs := by
  have hold : old ≠ [] := List.ne_nil_of_length_pos (by omega)
  refine ⟨ahead ++ (old ++ behind), ?_⟩
  rwa [replaceFrom_append hold hleads, replaceFrom_eq_self fun h => absurd h.length_le (by omega)]

/-- A text that begins as the new text ends. -/
theorem exists_infix_of_begins {l : List Char} (hne : l ≠ []) (hend : l <:+ new) (hstart : l <+: old) :
    ∃ cs, old <:+: replaceFrom old new 0 cs := by
  obtain ⟨behind, rfl⟩ := hstart
  obtain ⟨front, rfl⟩ := hend
  have hpos := List.length_pos_of_ne_nil hne
  refine exists_infix_of_leads behind (leads_nil (List.append_ne_nil_of_left_ne_nil hne behind)) ?_ ?_
  · rw [List.length_append]
    omega
  · exact ⟨front, [], by simp⟩

/-- An entangled text comes up again somewhere. -/
theorem exists_infix_replaceFrom {c : Char} {part : List Char} (hold : old ≠ []) (hc : c ∉ part)
    (h : Entangled old (c :: part)) : ∃ cs, old <:+: replaceFrom old (c :: part) 0 cs := by
  rcases h with hpart | ⟨front, behind, hwhole⟩ | ⟨l, hl, hne, hbegins⟩ | ⟨l, hl, hne, ⟨front, hends⟩, hstart⟩
  · refine exists_infix_of_leads [] (leads_nil hold) (List.length_pos_of_ne_nil hold) ?_
    rwa [List.nil_append, List.append_nil]
  · by_cases hstart : c :: part <+: old
    · exact exists_infix_of_begins (List.cons_ne_nil c part) List.suffix_rfl hstart
    · have heq : old = front ++ (c :: part ++ behind) := by rw [← hwhole, List.append_assoc]
      refine exists_infix_of_leads behind (leads_of_append hc heq hstart) ?_ (heq ▸ List.infix_rfl)
      rw [heq, List.length_append, List.length_append, List.length_cons]
      omega
  · exact exists_infix_of_begins hne ((List.mem_tails _ _).mp hl) hbegins
  · -- the new text goes on behind its beginning, with which the old text ends
    obtain ⟨rest, hrest⟩ := (List.mem_inits _ _).mp hl
    obtain ⟨d, l, rfl⟩ := List.exists_cons_of_ne_nil hne
    obtain ⟨rfl, rfl⟩ := List.cons_eq_cons.mp hrest
    have heq : old = front ++ (d :: l ++ []) := by rw [← hends, List.append_nil]
    have hleads := leads_of_append (fun hd => hc (List.mem_append_left rest hd)) heq hstart
    refine exists_infix_of_leads [] hleads (List.length_pos_of_ne_nil hold) ⟨[], rest, ?_⟩
    rw [← hends]
    simp

end SurveyGateway.Text
