import Mathlib.Tactic.Common
import SurveyGateway.Proofs.Access.Prefixes
import SurveyGateway.Proofs.Text.Blank
import SurveyGateway.Proofs.Text.Find
import SurveyGateway.Service.Settings

/-!
# The list of default credentials

One variable lists the default credentials: items with commas between them, each a prefix, an equals sign and a
credential. The first equals sign ends the prefix, so a credential may hold more of them. What is no such pair is left
out, and its neighbours are not touched.

## The model

`Listable` says which pairs can be listed, and `Malformed` which items are no pairs. `Listing` relates items to the
pairs that they list: a pair may have blanks around it, and malformed items may stand anywhere.

## What is proved

* `defaultCredential?_pair`, `defaultCredential?_malformed` — what one item gives.
* `defaultCredentials_of_listing` — a list is read back.
* `resolver_eq_built` — the resolver mentions the storage accounts, and then the prefixes with a default credential.
* `default_credentials_kept` — the pairs that are listed are those of the settings, and the resolver has for each prefix
  the credential that was listed last.
-/

namespace SurveyGateway.Service

/-! ### Items -/

/-- Nothing but blanks. -/
def Blanks (cs : List Char) : Prop := ∀ c ∈ cs, Text.isBlank c = true

instance (cs : List Char) : Decidable (Blanks cs) := List.decidableBAll (fun c => Text.isBlank c = true) cs

/-- A pair that can be listed. Its prefix is not empty, has no blanks at its ends, and holds neither a comma nor an
equals sign; its credential is not empty, does not end with a blank, and holds no comma. -/
structure Listable (pair : String × Credential) : Prop where
  start_ne : pair.1.toList ≠ []
  start_head : ∀ c ∈ pair.1.toList.head?, Text.isBlank c = false
  start_last : ∀ c ∈ pair.1.toList.getLast?, Text.isBlank c = false
  start_comma : ',' ∉ pair.1.toList
  start_equals : '=' ∉ pair.1.toList
  token_ne : pair.2.token.toList ≠ []
  token_last : ∀ c ∈ pair.2.token.toList.getLast?, Text.isBlank c = false
  token_comma : ',' ∉ pair.2.token.toList

/-- A pair as it is written. -/
def pairText (pair : String × Credential) : List Char := pair.1.toList ++ '=' :: pair.2.token.toList

/-- An item that is no pair. -/
inductive Malformed : List Char → Prop where
  /-- It holds no equals sign. -/
  | unsigned {item : List Char} (h : '=' ∉ item) : Malformed item
  /-- There is no prefix, or it is blank. -/
  | unnamed {ahead behind : List Char} (h : Blanks ahead) : Malformed (ahead ++ '=' :: behind)
  /-- There is no credential. -/
  | unpaired {start behind : List Char} (hstart : '=' ∉ start) (h : Blanks behind) : Malformed (start ++ '=' :: behind)

/-- Items that list some pairs. -/
inductive Listing : List (List Char) → List (String × Credential) → Prop where
  | nil : Listing [] []
  /-- A pair with blanks around it. -/
  | pair {ahead behind : List Char} {pair : String × Credential} {items : List (List Char)}
      {pairs : List (String × Credential)} (hahead : Blanks ahead) (hbehind : Blanks behind)
      (hrest : Listing items pairs) : Listing ((ahead ++ pairText pair ++ behind) :: items) (pair :: pairs)
  /-- An item that is left out. -/
  | malformed {item : List Char} {items : List (List Char)} {pairs : List (String × Credential)} (h : Malformed item)
      (hcomma : ',' ∉ item) (hrest : Listing items pairs) : Listing (item :: items) pairs

variable {pair : String × Credential} {pairs : List (String × Credential)} {items : List (List Char)}

theorem Blanks.notMem {cs : List Char} (h : Blanks cs) {c : Char} (hc : Text.isBlank c = false) : c ∉ cs := by
  intro hmem
  rw [h c hmem] at hc
  cases hc

theorem Listable.comma_notMem (h : Listable pair) : ',' ∉ pairText pair := by
  simp [pairText, h.start_comma, h.token_comma]

/-- A pair starts with its prefix and ends with its credential, so there are no blanks to trim. -/
theorem Listable.trimmed_pairText (h : Listable pair) : Text.trimmed (pairText pair) = pairText pair := by
  refine Text.trimmed_eq_self (fun c hc => h.start_head c ?_) (fun c hc => h.token_last c ?_)
  · rwa [pairText, List.head?_append_of_ne_nil _ h.start_ne] at hc
  · rwa [pairText, List.getLast?_append_of_ne_nil _ (List.cons_ne_nil _ _), List.getLast?_cons_of_ne_nil h.token_ne]
      at hc

/-- A pair is read back, whatever blanks are around it. -/
theorem defaultCredential?_pair (h : Listable pair) {ahead behind : List Char} (ha : Blanks ahead)
    (hb : Blanks behind) : defaultCredential? (ahead ++ pairText pair ++ behind) = some pair := by
  obtain ⟨c, cs, hstart⟩ := List.exists_cons_of_ne_nil h.start_ne
  obtain ⟨d, ds, htoken⟩ := List.exists_cons_of_ne_nil h.token_ne
  have hpair : pair = (String.ofList (c :: cs), ⟨String.ofList (d :: ds)⟩) := by
    rw [← hstart, ← htoken, String.ofList_toList, String.ofList_toList]
  have htrimmed : Text.trimmed pair.1.toList = c :: cs := by
    rw [Text.trimmed_eq_self h.start_head h.start_last, hstart]
  rw [defaultCredential?, Text.trimmed_pad ha hb, h.trimmed_pairText, pairText, Text.cut_append h.start_equals]
  simp only [htrimmed, htoken]
  exact congrArg some hpair.symm

/-- What starts with an equals sign keeps it when it is trimmed. -/
theorem exists_trimmed_equals (cs : List Char) : ∃ kept, Text.trimmed ('=' :: cs) = '=' :: kept := by
  rw [Text.trimmed, List.dropWhile_cons_of_neg (by decide), Text.dropEndWhile]
  cases Text.dropEndWhile Text.isBlank cs with
  | nil => exact ⟨[], rfl⟩
  | cons d kept => exact ⟨d :: kept, rfl⟩

/-- What ends with an equals sign keeps it. -/
theorem trimmed_append_equals (cs : List Char) :
    Text.trimmed (cs ++ ['=']) = cs.dropWhile Text.isBlank ++ ['='] := by
  have hequals : ['='].dropWhile Text.isBlank = ['='] := List.dropWhile_cons_of_neg (by decide)
  have hdrop : (cs ++ ['=']).dropWhile Text.isBlank = cs.dropWhile Text.isBlank ++ ['='] := by
    rw [List.dropWhile_append, hequals]
    split
    · next hnil => rw [List.isEmpty_iff.mp hnil, List.nil_append]
    · rfl
  rw [Text.trimmed, hdrop, Text.dropEndWhile_eq_self]
  intro c hc
  obtain rfl : '=' = c := by simpa using hc
  decide

/-- An item that is no pair gives none. -/
theorem defaultCredential?_malformed {item : List Char} (h : Malformed item) : defaultCredential? item = none := by
  cases h with
  | unsigned h =>
    have hequals : '=' ∉ Text.trimmed item := fun hmem => h ((Text.trimmed_sublist item).subset hmem)
    rw [defaultCredential?, Text.cut_of_notMem hequals]
    cases hstart : Text.trimmed (Text.trimmed item) <;> simp [hstart]
  | @unnamed ahead behind h =>
    obtain ⟨kept, hkept⟩ := exists_trimmed_equals behind
    have hpad : Text.trimmed (ahead ++ '=' :: behind) = '=' :: kept := by
      simpa [hkept] using Text.trimmed_pad h (List.forall_mem_nil _) ('=' :: behind)
    rw [defaultCredential?, hpad]
    rfl
  | @unpaired start behind hstart h =>
    have hpad : Text.trimmed (start ++ '=' :: behind) = start.dropWhile Text.isBlank ++ ['='] := by
      rw [← trimmed_append_equals, ← Text.trimmed_pad (List.forall_mem_nil _) h (start ++ ['='])]
      simp
    have hequals : '=' ∉ start.dropWhile Text.isBlank := fun hmem => hstart ((List.dropWhile_subset _) hmem)
    rw [defaultCredential?, hpad, Text.cut_append hequals]
    cases hname : Text.trimmed (start.dropWhile Text.isBlank) <;> simp [hname]

/-! ### Lists -/

theorem Listing.comma_notMem (h : Listing items pairs) (hpairs : ∀ pair ∈ pairs, Listable pair) :
    ∀ item ∈ items, ',' ∉ item := by
  induction h with
  | nil => exact List.forall_mem_nil _
  | pair hahead hbehind hrest ih =>
    obtain ⟨hpair, hpairs⟩ := List.forall_mem_cons.mp hpairs
    refine List.forall_mem_cons.mpr ⟨?_, ih hpairs⟩
    simp [hahead.notMem (c := ',') (by decide), hbehind.notMem (c := ',') (by decide), hpair.comma_notMem]
  | malformed hmalformed hcomma hrest ih => exact List.forall_mem_cons.mpr ⟨hcomma, ih hpairs⟩

theorem Listing.filterMap_eq (h : Listing items pairs) (hpairs : ∀ pair ∈ pairs, Listable pair) :
    items.filterMap defaultCredential? = pairs := by
  induction h with
  | nil => rfl
  | pair hahead hbehind hrest ih =>
    obtain ⟨hpair, hpairs⟩ := List.forall_mem_cons.mp hpairs
    rw [List.filterMap_cons_some (defaultCredential?_pair hpair hahead hbehind), ih hpairs]
  | malformed hmalformed hcomma hrest ih =>
    rw [List.filterMap_cons_none (defaultCredential?_malformed hmalformed), ih hpairs]

/-- The pairs that are listed are read back, in their order. -/
theorem defaultCredentials_of_listing (h : Listing items pairs) (hpairs : ∀ pair ∈ pairs, Listable pair) :
    defaultCredentials (String.ofList (List.intercalate [','] items)) = pairs := by
  rw [defaultCredentials, String.toList_ofList]
  by_cases hne : items = []
  · -- an empty list is one empty item, which is left out
    subst hne
    cases h
    rfl
  · rw [Text.split_intercalate hne (h.comma_notMem hpairs), h.filterMap_eq hpairs]

/-! ### The resolver -/

open Resolver (Setting built)

/-- The resolver mentions the storage accounts first, and then the prefixes with a default credential. -/
theorem Settings.resolver_eq_built (s : Settings) :
    s.resolver = built (s.storageAccounts.map .allow ++
      s.defaultCredentials.map fun pair => .withDefault pair.1 pair.2) := by
  rw [Resolver.built, List.foldl_append, List.foldl_map, List.foldl_map]
  rfl

/-- The account of a prefix has the default credential that was listed last for it. -/
theorem Settings.find?_resolver (s : Settings) {start : String} {credential : Credential}
    {earlier later : List (String × Credential)}
    (hsplit : s.defaultCredentials = earlier ++ (start, credential) :: later)
    (hlast : ∀ pair ∈ later, canonicalPrefix pair.1 ≠ canonicalPrefix start) :
    s.resolver.accounts.find? (·.pathPrefix == canonicalPrefix start) =
      some ⟨canonicalPrefix start, some credential⟩ := by
  rw [s.resolver_eq_built]
  set settings := s.storageAccounts.map Setting.allow ++
    s.defaultCredentials.map fun pair => .withDefault pair.1 pair.2 with hsettings
  have hmentioned : .withDefault start credential ∈ settings := by simp [hsettings, hsplit]
  have hdefault : Resolver.lastDefault? settings (canonicalPrefix start) = some credential := by
    refine Resolver.lastDefault?_eq_some_iff.mpr ⟨s.storageAccounts.map .allow ++
      earlier.map fun pair => .withDefault pair.1 pair.2, start, later.map fun pair => .withDefault pair.1 pair.2,
      by simp [hsettings, hsplit], rfl, fun s' credential' hmem => ?_⟩
    obtain ⟨pair, hpair, heq⟩ := List.mem_map.mp hmem
    cases heq
    exact hlast pair hpair
  exact Resolver.find?_pathPrefix (a := ⟨canonicalPrefix start, some credential⟩)
    (Resolver.nodup_prefixes_built settings) (Resolver.mem_accounts_built_iff.mpr ⟨⟨_, hmentioned, rfl⟩, hdefault.symm⟩)

/-! ### Settings -/

/-- **Default credentials survive configuration.** Let some pairs be listed in the variable, with commas between the
items, any blanks around them, and any malformed items in between. Then the settings have exactly these pairs, in their
order. The resolver has one account for each prefix, and that of a prefix that is listed has the credential of the last
pair that comes to the same prefix. -/
theorem default_credentials_kept {env : Variables} (hpairs : ∀ pair ∈ pairs, Listable pair)
    (hitems : Listing items pairs) (henv : env "SEISGATE_DEFAULT_CREDENTIALS" = some (String.ofList (List.intercalate [','] items))) :
    let settings := Settings.read env
    settings.defaultCredentials = pairs ∧ settings.resolver.prefixes.Nodup ∧
      ∀ earlier start credential later, pairs = earlier ++ (start, credential) :: later →
        (∀ pair ∈ later, canonicalPrefix pair.1 ≠ canonicalPrefix start) →
        settings.resolver.accounts.find? (·.pathPrefix == canonicalPrefix start) =
          some ⟨canonicalPrefix start, some credential⟩ := by
  intro settings
  have hread : settings.defaultCredentials = pairs := by
    show ((env "SEISGATE_DEFAULT_CREDENTIALS").map defaultCredentials).getD [] = pairs
    rw [henv, Option.map_some, Option.getD_some, defaultCredentials_of_listing hitems hpairs]
  refine ⟨hread, ?_, fun earlier start credential later hsplit hlast =>
    settings.find?_resolver (hread.trans hsplit) hlast⟩
  rw [settings.resolver_eq_built]
  exact Resolver.nodup_prefixes_built _

/-- A prefix that is listed twice, in two spellings and behind a storage account of the same name, among items of every
malformed kind; its credentials hold equals signs, question marks and blanks ahead. -/
theorem default_credentials_kept_sample :
    let env : Variables := fun name =>
      if name = "SEISGATE_DEFAULT_CREDENTIALS" then some " a/=x=y&\t,broken, =t,b= ,a= ?z"
      else if name = "SEISGATE_STORAGE_ACCOUNTS" then some "a" else none
    (Settings.read env).defaultCredentials = [("a/", ⟨"x=y&"⟩), ("a", ⟨" ?z"⟩)] ∧
      (Settings.read env).resolver.accounts.find? (·.pathPrefix == "a") = some ⟨"a", some ⟨" ?z"⟩⟩ := by
  intro env
  have hfirst : Listable ("a/", ⟨"x=y&"⟩) := by
    constructor <;> simp <;> decide
  have hsecond : Listable ("a", ⟨" ?z"⟩) := by
    constructor <;> simp <;> decide
  have hitems : Listing [[' '] ++ pairText ("a/", ⟨"x=y&"⟩) ++ ['\t'], "broken".toList, [' '] ++ '=' :: ['t'],
      ['b'] ++ '=' :: [' '], [] ++ pairText ("a", ⟨" ?z"⟩) ++ []] [("a/", ⟨"x=y&"⟩), ("a", ⟨" ?z"⟩)] :=
    .pair (by decide) (by decide) <| .malformed (.unsigned (by decide)) (by decide) <|
      .malformed (.unnamed (by decide)) (by decide) <|
      .malformed (.unpaired (by decide) (by decide)) (by decide) <| .pair (by decide) (by decide) .nil
  have henv : env "SEISGATE_DEFAULT_CREDENTIALS" = some (String.ofList (List.intercalate [','] [
      [' '] ++ pairText ("a/", ⟨"x=y&"⟩) ++ ['\t'], "broken".toList, [' '] ++ '=' :: ['t'], ['b'] ++ '=' :: [' '],
      [] ++ pairText ("a", ⟨" ?z"⟩) ++ []])) := by decide
  obtain ⟨hread, -, hresolver⟩ := default_credentials_kept (by simp [hfirst, hsecond]) hitems henv
  have hstart : canonicalPrefix "a" = "a" := by decide
  have haccount := hresolver [("a/", ⟨"x=y&"⟩)] "a" ⟨" ?z"⟩ [] rfl (List.forall_mem_nil _)
  rw [hstart] at haccount
  exact ⟨hread, haccount⟩

end SurveyGateway.Service
