import Mathlib.Data.List.Induction
import Mathlib.Tactic.Common
import SurveyGateway.Access.Resolver

/-!
# Default credentials

A resolver is set up by prefixes that are mentioned one after the other, with a default credential or without one. A
caller that brings no token is given a default credential, but only one account is asked for it: of the prefixes that
have the dataset, the one that was mentioned first. A default credential further inside, or further outside, is never
found behind that account.

## The model

A `Setting` is one mention of a prefix, and `built` is the resolver after some of them. `Below` says that a prefix has
a dataset. `HasDefault` says that a default credential is configured for some prefix that has the dataset,
`FirstHasDefault` that one is configured for the first of them.

## What is proved

* `find?_built` — whatever is asked of prefixes, the first account for which it holds is that of the first mention, with
  the credential that was configured last.
* `resolve_of_noToken` — what a caller without a token is told.
* `usable_iff` — default credentials are usable for a dataset exactly if no first prefix without one stands in the way.
* `shadowed_default` — one that does.
-/

namespace SurveyGateway.Resolver

/-! ### Prefixes and datasets -/

/-- A prefix has a dataset: it is the dataset itself, or ends in it where a slash follows. -/
def Below (start dataset : String) : Prop :=
  dataset = start ∨ ∃ rest, dataset.toList = start.toList ++ '/' :: rest

theorem contains_iff_below (a : Account) (dataset : String) : a.contains dataset = true ↔ Below a.pathPrefix dataset := by
  unfold Account.contains Below
  rw [Bool.and_eq_true, List.isPrefixOf_iff_prefix]
  constructor
  · rintro ⟨⟨rest, hrest⟩, hbehind⟩
    rw [← hrest, List.drop_left] at hbehind
    cases rest with
    | nil => exact Or.inl (String.toList_inj.mp (by simpa using hrest.symm))
    | cons c cs =>
      obtain rfl : c = '/' := by simpa using hbehind
      exact Or.inr ⟨cs, hrest.symm⟩
  · rintro (rfl | ⟨rest, hrest⟩)
    · exact ⟨List.prefix_rfl, by rw [List.drop_length]⟩
    · rw [hrest, List.drop_left]
      exact ⟨List.prefix_append _ _, rfl⟩

instance (start dataset : String) : Decidable (Below start dataset) :=
  decidable_of_iff _ (contains_iff_below ⟨start, none⟩ dataset)

/-! ### Settings -/

/-- One mention of a prefix while a resolver is set up. -/
inductive Setting where
  | allow (start : String)
  | withDefault (start : String) (credential : Credential)

namespace Setting

/-- The prefix that is mentioned. -/
def start : Setting → String
  | .allow s => canonicalPrefix s
  | .withDefault s _ => canonicalPrefix s

/-- The default credential that is configured for a prefix. -/
def defaultFor? (start : String) : Setting → Option Credential
  | .allow _ => none
  | .withDefault s credential => if canonicalPrefix s = start then some credential else none

end Setting

/-- The resolver after one more mention. -/
def mention (r : Resolver) : Setting → Resolver
  | .allow s => r.allow s
  | .withDefault s credential => r.withDefault s credential

/-- The resolver that some mentions make. -/
def built (settings : List Setting) : Resolver := settings.foldl mention .empty

/-- The default credential of a prefix, which is the last one that was configured. -/
def lastDefault? (settings : List Setting) (start : String) : Option Credential :=
  settings.reverse.findSome? (·.defaultFor? start)

variable {settings : List Setting} {dataset : String} {token : Option String}

theorem lastDefault?_concat (settings : List Setting) (s : Setting) (start : String) :
    lastDefault? (settings ++ [s]) start = (s.defaultFor? start).or (lastDefault? settings start) := by
  rw [lastDefault?, List.reverse_concat, List.findSome?_cons]
  cases s.defaultFor? start <;> rfl

/-- A prefix has a default credential if one was ever configured for it. -/
theorem isSome_lastDefault?_iff {start : String} : (lastDefault? settings start).isSome ↔
    ∃ s credential, .withDefault s credential ∈ settings ∧ canonicalPrefix s = start := by
  rw [lastDefault?, List.findSome?_isSome_iff]
  constructor
  · rintro ⟨last, hmem, h⟩
    cases last with
    | allow s => cases h
    | withDefault s credential =>
      refine ⟨s, credential, List.mem_reverse.mp hmem, ?_⟩
      by_contra hne
      simp [Setting.defaultFor?, hne] at h
  · rintro ⟨s, credential, hmem, hs⟩
    exact ⟨_, List.mem_reverse.mpr hmem, by simp [Setting.defaultFor?, hs]⟩

/-! ### Accounts -/

theorem built_concat (settings : List Setting) (s : Setting) :
    built (settings ++ [s]) = (built settings).mention s := by
  rw [built, List.foldl_append]
  rfl

theorem find?_allow (p : String → Bool) (r : Resolver) (s : String) :
    (r.allow s).accounts.find? (p ·.pathPrefix) =
      (r.accounts.find? (p ·.pathPrefix)).or
        (if p (canonicalPrefix s) then some ⟨canonicalPrefix s, none⟩ else none) := by
  unfold allow
  simp only
  split
  · next hpresent =>
    -- the prefix is there, so where nothing is found it is not looked for
    obtain ⟨a, ha, hs⟩ := List.any_eq_true.mp hpresent
    cases hfind : r.accounts.find? (p ·.pathPrefix) with
    | some a => rfl
    | none =>
      have hnot := List.find?_eq_none.mp hfind a ha
      rw [eq_of_beq hs] at hnot
      rw [if_neg hnot]
      rfl
  · rw [List.find?_append]
    congr 1
    simp only [List.find?_singleton]

theorem find?_setDefault (p : String → Bool) (start : String) (credential : Credential) (accounts : List Account) :
    (setDefault start credential accounts).find? (p ·.pathPrefix) =
      match accounts.find? (p ·.pathPrefix) with
      | some a => some (if a.pathPrefix = start then ⟨start, some credential⟩ else a)
      | none => if p start then some ⟨start, some credential⟩ else none := by
  induction accounts with
  | nil => simp only [setDefault, List.find?_singleton, List.find?_nil]
  | cons a rest ih =>
    rw [setDefault]
    split
    · next hs =>
      obtain rfl : a.pathPrefix = start := eq_of_beq hs
      by_cases hp : p a.pathPrefix = true
      · simp [hp]
      · have hskip : ∀ d, (⟨a.pathPrefix, d⟩ :: rest).find? (p ·.pathPrefix) = rest.find? (p ·.pathPrefix) :=
          fun _ => List.find?_cons_of_neg hp
        rw [hskip, hskip a.defaultCredential]
        cases hfind : rest.find? (p ·.pathPrefix) with
        | none => rw [if_neg hp]
        | some b =>
          have hb : p b.pathPrefix = true := List.find?_some (p := fun a : Account => p a.pathPrefix) hfind
          have hne : b.pathPrefix ≠ a.pathPrefix := fun h => hp (h ▸ hb)
          exact congrArg some (if_neg hne).symm
    · next hs =>
      have hne : a.pathPrefix ≠ start := fun h => hs (beq_iff_eq.mpr h)
      by_cases hp : p a.pathPrefix = true
      · simp [hp, hne]
      · rw [List.find?_cons_of_neg (p := fun a : Account => p a.pathPrefix) hp,
          List.find?_cons_of_neg (p := fun a : Account => p a.pathPrefix) hp, ih]

/-- Whatever is asked of prefixes, the first account for which it holds is that of the first mention. -/
theorem find?_built (p : String → Bool) (settings : List Setting) :
    (built settings).accounts.find? (p ·.pathPrefix) =
      (settings.find? (p ·.start)).map fun s => ⟨s.start, lastDefault? settings s.start⟩ := by
  induction settings using List.reverseRecOn with
  | nil => rfl
  | append_singleton settings last ih =>
    have hlast : ∀ start, lastDefault? (settings ++ [last]) start =
        (last.defaultFor? start).or (lastDefault? settings start) := lastDefault?_concat settings last
    rw [built_concat, List.find?_append, List.find?_singleton]
    cases last with
    | allow s =>
      rw [mention, find?_allow, ih]
      cases hfind : settings.find? (p ·.start) with
      | some t => simp [hlast, Setting.defaultFor?]
      | none =>
        by_cases hp : p (canonicalPrefix s) = true
        · -- a prefix that is mentioned for the first time has no credential yet
          have hnone : lastDefault? settings (canonicalPrefix s) = none := by
            by_contra hne
            obtain ⟨s', credential, hmem, hs'⟩ := isSome_lastDefault?_iff.mp (Option.isSome_iff_ne_none.mpr hne)
            have hnot := List.find?_eq_none.mp hfind _ hmem
            rw [Setting.start, hs'] at hnot
            exact hnot hp
          simp [hlast, Setting.start, Setting.defaultFor?, hp, hnone]
        · simp [Setting.start, hp]
    | withDefault s credential =>
      rw [mention, withDefault, find?_setDefault, ih]
      cases hfind : settings.find? (p ·.start) with
      | some t =>
        by_cases hs : t.start = canonicalPrefix s
        · simp [hlast, Setting.defaultFor?, hs]
        · simp [hlast, Setting.defaultFor?, hs, Ne.symm hs]
      | none => by_cases hp : p (canonicalPrefix s) = true <;> simp [hlast, Setting.start, Setting.defaultFor?, hp]

/-- The account that is asked for a dataset is that of the first mention of a prefix that has it. -/
theorem find?_contains_built (settings : List Setting) (dataset : String) :
    (built settings).accounts.find? (·.contains dataset) =
      (settings.find? fun s => Below s.start dataset).map fun s => ⟨s.start, lastDefault? settings s.start⟩ := by
  have hcontains : (fun a : Account => a.contains dataset) = fun a => decide (Below a.pathPrefix dataset) := by
    funext a
    exact Bool.eq_iff_iff.mpr ((contains_iff_below a dataset).trans decide_eq_true_iff.symm)
  rw [hcontains]
  exact find?_built (fun start => decide (Below start dataset)) settings

/-! ### Callers without a token -/

/-- The caller brings no token: none at all, or nothing but blanks and question marks. -/
def NoToken (token : Option String) : Prop := ∀ t ∈ token, Text.trimStart '?' (Text.trim t) = ""

theorem suppliedToken_of_noToken (h : NoToken token) : suppliedToken token = none := by
  cases token with
  | none => rfl
  | some t =>
    unfold suppliedToken
    rw [Option.map_some, h t rfl]
    rfl

/-- What a caller without a token is told: the first account that has the dataset decides. -/
theorem resolve_of_noToken (settings : List Setting) (dataset : String) (h : NoToken token) :
    (built settings).resolve dataset token =
      match settings.find? fun s => Below s.start dataset with
      | none => .error (.unsupportedAccount dataset)
      | some s =>
        match lastDefault? settings s.start with
        | some credential => .ok ⟨dataset, credential⟩
        | none => .error (.noCredentials dataset) := by
  unfold resolve
  rw [find?_contains_built, suppliedToken_of_noToken h]
  cases hfind : settings.find? fun s => Below s.start dataset with
  | none => rfl
  | some s => cases hlast : lastDefault? settings s.start <;> simp [hlast]

/-! ### Datasets with a default credential -/

/-- A default credential is configured for a prefix that has the dataset. -/
def HasDefault (settings : List Setting) (dataset : String) : Prop :=
  ∃ s credential, .withDefault s credential ∈ settings ∧ Below (canonicalPrefix s) dataset

/-- A default credential is configured for the first prefix that has the dataset. -/
def FirstHasDefault (settings : List Setting) (dataset : String) : Prop :=
  ∃ ahead first behind, settings = ahead ++ first :: behind ∧ Below first.start dataset ∧
    (∀ s ∈ ahead, ¬ Below s.start dataset) ∧
      ∃ s credential, .withDefault s credential ∈ settings ∧ canonicalPrefix s = first.start

/-- Default credentials are usable for a dataset: a caller without a token is let in if and only if one is configured
for a prefix that has the dataset, and is told that there are no credentials only where none is. -/
structure DefaultsUsable (settings : List Setting) (dataset : String) (token : Option String) : Prop where
  connects : (∃ c, (built settings).resolve dataset token = .ok c) ↔ HasDefault settings dataset
  refused : (built settings).resolve dataset token = .error (.noCredentials dataset) → ¬ HasDefault settings dataset

theorem FirstHasDefault.hasDefault (h : FirstHasDefault settings dataset) : HasDefault settings dataset := by
  obtain ⟨_, first, _, -, hbelow, -, s, credential, hmem, hs⟩ := h
  exact ⟨s, credential, hmem, hs ▸ hbelow⟩

/-- A caller without a token is let in exactly if a default credential is configured for the first prefix. -/
theorem connects_iff_firstHasDefault (settings : List Setting) (dataset : String) (h : NoToken token) :
    (∃ c, (built settings).resolve dataset token = .ok c) ↔ FirstHasDefault settings dataset := by
  rw [resolve_of_noToken settings dataset h]
  constructor
  · rintro ⟨c, hc⟩
    cases hfind : settings.find? fun s => Below s.start dataset with
    | none => simp [hfind] at hc
    | some first =>
      cases hlast : lastDefault? settings first.start with
      | none => simp [hfind, hlast] at hc
      | some credential =>
        obtain ⟨hbelow, ahead, behind, hsplit, hahead⟩ := List.find?_eq_some_iff_append.mp hfind
        refine ⟨ahead, first, behind, hsplit, of_decide_eq_true hbelow, fun s hs => by simpa using hahead s hs, ?_⟩
        exact isSome_lastDefault?_iff.mp (by rw [hlast]; rfl)
  · rintro ⟨ahead, first, behind, hsplit, hbelow, hahead, hdefault⟩
    have hfind : settings.find? (fun s => Below s.start dataset) = some first :=
      List.find?_eq_some_iff_append.mpr
        ⟨decide_eq_true hbelow, ahead, behind, hsplit, fun s hs => by simpa using hahead s hs⟩
    obtain ⟨credential, hlast⟩ := Option.isSome_iff_exists.mp (isSome_lastDefault?_iff.mpr hdefault)
    exact ⟨⟨dataset, credential⟩, by simp [hfind, hlast]⟩

/-- **When default credentials are usable.** For every way to set up a resolver, every dataset and every caller without
a token, default credentials are usable for the dataset if and only if one is configured for the first prefix that has
the dataset, in case one is configured for any prefix that has it. -/
theorem usable_iff (settings : List Setting) (dataset : String) (token : Option String) (h : NoToken token) :
    DefaultsUsable settings dataset token ↔ (HasDefault settings dataset → FirstHasDefault settings dataset) := by
  constructor
  · intro husable hdefault
    exact (connects_iff_firstHasDefault settings dataset h).mp (husable.connects.mpr hdefault)
  · intro hfirst
    have hconnects : (∃ c, (built settings).resolve dataset token = .ok c) ↔ HasDefault settings dataset :=
      (connects_iff_firstHasDefault settings dataset h).trans ⟨FirstHasDefault.hasDefault, hfirst⟩
    refine ⟨hconnects, fun hrefused hdefault => ?_⟩
    obtain ⟨c, hc⟩ := hconnects.mpr hdefault
    cases hc.symm.trans hrefused

/-- A prefix inside another one that is mentioned later: its default credential is found. -/
theorem usable_iff_sample :
    let settings : List Setting := [.withDefault " a/b/ " ⟨"inner"⟩, .allow "a", .withDefault "a/b" ⟨"token"⟩]
    NoToken (some " ?? ") ∧ DefaultsUsable settings "a/b/c" (some " ?? ") ∧
      (built settings).resolve "a/b/c" (some " ?? ") = .ok ⟨"a/b/c", ⟨"token"⟩⟩ := by
  intro settings
  have htoken : NoToken (some " ?? ") := by
    rintro t ⟨⟩
    decide
  have hfirst : FirstHasDefault settings "a/b/c" :=
    ⟨[], _, _, rfl, by decide, by simp, "a/b", ⟨"token"⟩, by simp [settings], by decide⟩
  exact ⟨htoken, (usable_iff settings "a/b/c" _ htoken).mpr fun _ => hfirst, by decide⟩

/-- A prefix without a default credential stands in the way of one inside it. -/
theorem shadowed_default :
    let settings : List Setting := [.allow "a", .withDefault "a/b" ⟨"token"⟩]
    HasDefault settings "a/b/c" ∧ (built settings).resolve "a/b/c" none = .error (.noCredentials "a/b/c") := by
  intro settings
  exact ⟨⟨"a/b", ⟨"token"⟩, by simp [settings], by decide⟩, by decide⟩

end SurveyGateway.Resolver
