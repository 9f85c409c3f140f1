import Mathlib.Data.List.Nodup
import SurveyGateway.Proofs.Access.Defaults
import SurveyGateway.Proofs.Text.Blank

/-!
# The list of served prefixes

Only datasets below a prefix that was mentioned while the resolver was set up are served. The resolver keeps one account
for each prefix, and a caller that brings a token is let in by the prefixes alone: it makes no difference in which order
they were mentioned, how often, and with which default credentials.

## The model

`Listed` says that some prefix that was mentioned has a dataset, and `ConfiguredLast` that a credential is the one that
a prefix was given last. `Orderly` says what the accounts of a resolver are, as told by the mentions it was built from.

## What is proved

* `prefixes_mention` — what one more mention does to the prefixes.
* `mem_accounts_built_iff` — the accounts are the prefixes that were mentioned, each with its last default.
* `resolve_of_token` — what a caller with a token is told.
* `admitted_exactly` — the resolver is orderly, and a caller with a token is let in exactly to the datasets listed.
-/

namespace SurveyGateway.Resolver

variable {settings : List Setting} {dataset token : String}

/-! ### Prefixes -/

theorem pathPrefix_setDefault (start : String) (credential : Credential) (accounts : List Account) :
    (setDefault start credential accounts).map (·.pathPrefix) =
      if start ∈ accounts.map (·.pathPrefix) then accounts.map (·.pathPrefix)
      else accounts.map (·.pathPrefix) ++ [start] := by
  induction accounts with
  | nil => rfl
  | cons a rest ih =>
    rw [setDefault]
    split
    · next hs => simp [eq_of_beq hs]
    · next hs =>
      have hne : start ≠ a.pathPrefix := fun h => hs (beq_iff_eq.mpr h.symm)
      rw [List.map_cons, ih]
      by_cases hmem : start ∈ rest.map (·.pathPrefix) <;> simp [hmem, hne]

theorem prefixes_allow (r : Resolver) (s : String) :
    (r.allow s).prefixes =
      if canonicalPrefix s ∈ r.prefixes then r.prefixes else r.prefixes ++ [canonicalPrefix s] := by
  have hany : r.accounts.any (·.pathPrefix == canonicalPrefix s) = decide (canonicalPrefix s ∈ r.prefixes) := by
    rw [Bool.eq_iff_iff, decide_eq_true_iff]
    simp [prefixes]
  unfold allow
  simp only [hany, decide_eq_true_eq]
  split
  · rfl
  · exact List.map_append

/-- A prefix that is mentioned is added behind the others, unless it is there. -/
theorem prefixes_mention (r : Resolver) (s : Setting) :
    (r.mention s).prefixes = if s.start ∈ r.prefixes then r.prefixes else r.prefixes ++ [s.start] := by
  cases s with
  | allow s => exact prefixes_allow r s
  | withDefault s credential => exact pathPrefix_setDefault _ _ _

/-- Every prefix that was mentioned is kept once, in order of first mention. -/
theorem prefixes_built (settings : List Setting) :
    (built settings).prefixes = (settings.map (·.start)).eraseDups := by
  induction settings using List.reverseRecOn with
  | nil => rfl
  | append_singleton settings s ih =>
    rw [built_concat, prefixes_mention, ih, List.map_append, List.eraseDups_append]
    simp only [List.mem_eraseDups]
    by_cases hmem : s.start ∈ settings.map (·.start)
    · have hold : [s.start].removeAll (settings.map (·.start)) = [] := by
        rw [List.removeAll, List.filter_cons_of_neg (by simpa using hmem), List.filter_nil]
      rw [if_pos hmem, List.map_singleton, hold, List.eraseDups_nil, List.append_nil]
    · have hnew : [s.start].removeAll (settings.map (·.start)) = [s.start] := by
        rw [List.removeAll, List.filter_cons_of_pos (by simpa using hmem), List.filter_nil]
      rw [if_neg hmem, List.map_singleton, hnew]
      rfl

theorem nodup_prefixes_built (settings : List Setting) : (built settings).prefixes.Nodup := by
  induction settings using List.reverseRecOn with
  | nil => exact List.nodup_nil
  | append_singleton settings s ih =>
    rw [built_concat, prefixes_mention]
    split
    · exact ih
    · next hnew =>
      rw [← List.concat_eq_append]
      exact ih.concat hnew

theorem mem_prefixes_built_iff {start : String} :
    start ∈ (built settings).prefixes ↔ ∃ s ∈ settings, s.start = start := by
  rw [prefixes_built, List.mem_eraseDups, List.mem_map]

theorem getLast?_canonicalPrefix (s : String) : (canonicalPrefix s).toList.getLast? ≠ some '/' := by
  intro hlast
  unfold canonicalPrefix Text.trimEnd at hlast
  rw [String.toList_ofList, Text.dropEndWhile_eq] at hlast
  obtain ⟨hne, hslash⟩ := List.mem_getLast?_eq_getLast hlast
  exact List.rdropWhile_last_not (· == '/') _ hne (beq_iff_eq.mpr hslash.symm)

theorem Setting.exists_start_eq (s : Setting) : ∃ t, s.start = canonicalPrefix t := by
  cases s with
  | allow t => exact ⟨t, rfl⟩
  | withDefault t credential => exact ⟨t, rfl⟩

/-! ### Defaults -/

/-- A credential was configured for a prefix, and no other one later on. -/
def ConfiguredLast (settings : List Setting) (start : String) (credential : Credential) : Prop :=
  ∃ earlier s later, settings = earlier ++ .withDefault s credential :: later ∧ canonicalPrefix s = start ∧
    ∀ s' credential', .withDefault s' credential' ∈ later → canonicalPrefix s' ≠ start

theorem Setting.defaultFor?_eq_some_iff {s : Setting} {start : String} {credential : Credential} :
    s.defaultFor? start = some credential ↔ ∃ t, s = .withDefault t credential ∧ canonicalPrefix t = start := by
  cases s with
  | allow t => simp [defaultFor?]
  | withDefault t c =>
    by_cases ht : canonicalPrefix t = start <;> simp [defaultFor?, ht]

theorem lastDefault?_eq_some_iff {start : String} {credential : Credential} :
    lastDefault? settings start = some credential ↔ ConfiguredLast settings start credential := by
  rw [lastDefault?, List.findSome?_eq_some_iff]
  constructor
  · rintro ⟨later, s, earlier, hsplit, hs, hlater⟩
    obtain ⟨t, rfl, ht⟩ := Setting.defaultFor?_eq_some_iff.mp hs
    refine ⟨earlier.reverse, t, later.reverse, ?_, ht, fun s' credential' hmem hs' => ?_⟩
    · rw [← settings.reverse_reverse, hsplit]
      simp
    · have hnone := hlater _ (List.mem_reverse.mp hmem)
      rw [Setting.defaultFor?_eq_some_iff.mpr ⟨s', rfl, hs'⟩] at hnone
      cases hnone
  · rintro ⟨earlier, t, later, rfl, ht, hlater⟩
    refine ⟨later.reverse, _, earlier.reverse, by simp, Setting.defaultFor?_eq_some_iff.mpr ⟨t, rfl, ht⟩, ?_⟩
    intro s hs
    rw [Option.eq_none_iff_forall_ne_some]
    intro credential' hcredential
    obtain ⟨s', rfl, hs'⟩ := Setting.defaultFor?_eq_some_iff.mp hcredential
    exact hlater s' credential' (List.mem_reverse.mp hs) hs'

/-! ### Accounts -/

/-- Where no two accounts have one prefix, each is found by its own. -/
theorem find?_pathPrefix {accounts : List Account} (h : (accounts.map (·.pathPrefix)).Nodup) {a : Account}
    (ha : a ∈ accounts) : accounts.find? (·.pathPrefix == a.pathPrefix) = some a := by
  induction accounts with
  | nil => cases ha
  | cons b rest ih =>
    obtain ⟨hnew, hrest⟩ := List.nodup_cons.mp h
    rcases List.mem_cons.mp ha with rfl | ha
    · simp
    · have hne : b.pathPrefix ≠ a.pathPrefix := fun hsame => hnew (List.mem_map.mpr ⟨a, ha, hsame.symm⟩)
      rw [List.find?_cons_of_neg (by simpa using hne), ih hrest ha]

/-- The accounts are the prefixes that were mentioned, each with its last default. -/
theorem mem_accounts_built_iff {a : Account} :
    a ∈ (built settings).accounts ↔
      (∃ s ∈ settings, s.start = a.pathPrefix) ∧ a.defaultCredential = lastDefault? settings a.pathPrefix := by
  have hfound := find?_built (· == a.pathPrefix) settings
  constructor
  · intro ha
    refine ⟨mem_prefixes_built_iff.mp (List.mem_map_of_mem ha), ?_⟩
    rw [find?_pathPrefix (nodup_prefixes_built settings) ha] at hfound
    obtain ⟨s, hs, rfl⟩ := Option.map_eq_some_iff.mp hfound.symm
    rfl
  · rintro ⟨⟨s, hs, hstart⟩, hdefault⟩
    obtain ⟨b, hb, hsame⟩ := List.mem_map.mp (mem_prefixes_built_iff.mpr ⟨s, hs, hstart⟩)
    have hfoundb := find?_pathPrefix (nodup_prefixes_built settings) hb
    rw [hsame, hfound] at hfoundb
    obtain ⟨t, ht, rfl⟩ := Option.map_eq_some_iff.mp hfoundb
    obtain ⟨start, credential⟩ := a
    obtain rfl : t.start = start := hsame
    obtain rfl : credential = lastDefault? settings t.start := hdefault
    exact hb

/-- What the accounts of a resolver are, as told by the mentions that it was built from. -/
structure Orderly (settings : List Setting) (r : Resolver) : Prop where
  distinct : r.prefixes.Nodup
  firstMention : r.prefixes = (settings.map (·.start)).eraseDups
  noSlash : ∀ start ∈ r.prefixes, start.toList.getLast? ≠ some '/'
  allow_keeps : ∀ s, ∀ a ∈ r.accounts, a ∈ (r.allow s).accounts
  lastDefault : ∀ a ∈ r.accounts, ∀ credential,
    a.defaultCredential = some credential ↔ ConfiguredLast settings a.pathPrefix credential

theorem orderly_built (settings : List Setting) : Orderly settings (built settings) where
  distinct := nodup_prefixes_built settings
  firstMention := prefixes_built settings
  noSlash start hstart := by
    obtain ⟨s, -, rfl⟩ := mem_prefixes_built_iff.mp hstart
    obtain ⟨t, ht⟩ := s.exists_start_eq
    rw [ht]
    exact getLast?_canonicalPrefix t
  allow_keeps s a ha := by
    unfold allow
    dsimp only
    split
    · exact ha
    · exact List.mem_append_left _ ha
  lastDefault a ha credential := by
    rw [(mem_accounts_built_iff.mp ha).2]
    exact lastDefault?_eq_some_iff

/-! ### Callers with a token -/

/-- Some prefix that was mentioned has the dataset. -/
def Listed (settings : List Setting) (dataset : String) : Prop := ∃ s ∈ settings, Below s.start dataset

instance (settings : List Setting) (dataset : String) : Decidable (Listed settings dataset) :=
  inferInstanceAs (Decidable (∃ s ∈ settings, Below s.start dataset))

theorem listed_iff {settings : List Setting} :
    Listed settings dataset ↔ ∃ start, (∃ s ∈ settings, s.start = start) ∧ Below start dataset :=
  ⟨fun ⟨s, hs, hbelow⟩ => ⟨_, ⟨s, hs, rfl⟩, hbelow⟩, fun ⟨_, ⟨s, hs, hstart⟩, hbelow⟩ => ⟨s, hs, hstart ▸ hbelow⟩⟩

/-- What is left of a caller's token. -/
def stripped (token : String) : String := Text.trimStart '?' (Text.trim token)

theorem suppliedToken_of_stripped (h : stripped token ≠ "") : suppliedToken (some token) = some (stripped token) := by
  unfold suppliedToken
  rw [Option.map_some]
  exact Option.filter_eq_some_iff.mpr ⟨rfl, by simpa using h⟩

/-- A caller with a token is let in with that token to every dataset that is listed. -/
theorem resolve_of_token (settings : List Setting) (dataset : String) (h : stripped token ≠ "") :
    (built settings).resolve dataset (some token) =
      if Listed settings dataset then .ok ⟨dataset, ⟨stripped token⟩⟩ else .error (.unsupportedAccount dataset) := by
  unfold resolve
  rw [find?_contains_built, suppliedToken_of_stripped h]
  cases hfind : settings.find? fun s => Below s.start dataset with
  | none =>
    have hnot : ¬ Listed settings dataset := fun ⟨s, hs, hbelow⟩ => by
      simpa [hbelow] using List.find?_eq_none.mp hfind s hs
    rw [if_neg hnot]
    rfl
  | some s =>
    have hlisted : Listed settings dataset :=
      ⟨s, List.mem_of_find?_eq_some hfind, by simpa using List.find?_some hfind⟩
    rw [if_pos hlisted]
    rfl

/-- **The list of served prefixes is exact.** However a resolver was set up, its prefixes are pairwise distinct, in
order of first mention, and end in no slash; serving one more prefix takes no default credential away, and the last one
that a prefix is given is the one it has. A caller with a token is let in exactly if some prefix that was mentioned is
the dataset, or is followed by a slash in it; then to this dataset and with the stripped token. Any other way to set up a
resolver that mentions the same prefixes, in whatever order, however often and with whatever default credentials, tells
the caller the same. -/
theorem admitted_exactly (settings : List Setting) :
    Orderly settings (built settings) ∧
      ∀ dataset token, stripped token ≠ "" →
        ((∃ c, (built settings).resolve dataset (some token) = .ok c) ↔ Listed settings dataset) ∧
        (∀ c, (built settings).resolve dataset (some token) = .ok c → c = ⟨dataset, ⟨stripped token⟩⟩) ∧
        ∀ others : List Setting, (∀ start, (∃ s ∈ others, s.start = start) ↔ ∃ s ∈ settings, s.start = start) →
          (built others).resolve dataset (some token) = (built settings).resolve dataset (some token) := by
  refine ⟨orderly_built settings, fun dataset token htoken => ⟨?_, fun c hc => ?_, fun others hsame => ?_⟩⟩
  · rw [resolve_of_token settings dataset htoken]
    by_cases hlisted : Listed settings dataset <;> simp [hlisted]
  · rw [resolve_of_token settings dataset htoken] at hc
    split at hc
    · cases hc
      rfl
    · cases hc
  · have hlisted : Listed others dataset ↔ Listed settings dataset := by simp only [listed_iff, hsame]
    rw [resolve_of_token settings dataset htoken, resolve_of_token others dataset htoken]
    simp only [hlisted]

/-- A prefix with a slash at its end, mentioned twice: what continues its last part is not below it, and the order of
mentions does not matter. -/
theorem admitted_exactly_sample :
    let settings : List Setting := [.allow "a.n/", .withDefault "m" ⟨"d"⟩, .allow " a.n"]
    let others : List Setting := [.withDefault "a.n" ⟨"e"⟩, .allow "m/"]
    stripped " ?t " = "t" ∧ (built settings).prefixes = ["a.n", "m"] ∧
      (built settings).resolve "a.n/c" (some " ?t ") = .ok ⟨"a.n/c", ⟨"t"⟩⟩ ∧
      (¬ ∃ c, (built settings).resolve "a.nu/c" (some " ?t ") = .ok c) ∧
      (built others).resolve "a.n/c" (some " ?t ") = .ok ⟨"a.n/c", ⟨"t"⟩⟩ := by
  intro settings others
  have hstripped : stripped " ?t " = "t" := by decide
  have htoken : stripped " ?t " ≠ "" := hstripped ▸ by decide
  have hstarts : settings.map (·.start) = ["a.n", "m", "a.n"] := by decide
  have hothers : others.map (·.start) = ["a.n", "m"] := by decide
  obtain ⟨horderly, hadmitted⟩ := admitted_exactly settings
  obtain ⟨hconnects, hconnection, hsame⟩ := hadmitted "a.n/c" " ?t " htoken
  obtain ⟨c, hc⟩ := hconnects.mpr (by decide)
  obtain rfl := hconnection c hc
  rw [hstripped] at hc
  refine ⟨hstripped, horderly.firstMention.trans (hstarts ▸ by decide), hc, ?_, ?_⟩
  · rw [(hadmitted "a.nu/c" " ?t " htoken).1]
    decide
  · rw [hsame others fun start => ?_, hc]
    rw [← List.mem_map, ← List.mem_map, hothers, hstarts]
    simp only [List.mem_cons, List.not_mem_nil, or_false]
    grind

end SurveyGateway.Resolver
