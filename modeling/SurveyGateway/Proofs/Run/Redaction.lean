import SurveyGateway.Proofs.Access.Defaults
import SurveyGateway.Proofs.History.Credentials
import SurveyGateway.Proofs.Text.Replace

/-!
# What a failure shows of a credential

A storage engine may quote the credential it was given in whatever it reports, any number of times. A run takes the
credential out before it reports a failure, and puts a mask in its place. The message goes through that once. So the
credential is gone if it cannot come up again around the mask, which is a question about the credential alone; but there
are credentials that can.

## The model

`Failure.Quotes` says that a message holds a secret. `Run.Step` is one step of a run, with whatever is shared then: others
may have done anything in between. `Run.Reports` says of a failure that a run may end in it when it is not connected, its
dataset is not opened, or its question is not answered.

## What is proved

* `Failure.exists_quotes_redact_iff` — a secret comes up again in some message if it is entangled with the mask.
* `Run.Reports.redacted` — what a run reports has been redacted, at whichever step it fails.
* `redacted_iff` — so failures are free of a secret, and reports of a credential, if it is not entangled with the mask.
* `not_entangled_of_plain` — no credential without angle brackets is, unless it is a piece of the word between them.
* `credential_formed_again` — a credential that comes up again.
-/

namespace SurveyGateway

open Storage (Engine)
open Text (Entangled)

/-! ### Messages -/

namespace Failure

/-- What takes the place of a secret. -/
def mask : List Char := "<redacted>".toList

/-- The message holds the secret. -/
def Quotes (f : Failure) (secret : String) : Prop := secret.toList <:+: f.message.toList

instance (f : Failure) (secret : String) : Decidable (f.Quotes secret) := List.decidableInfix _ _

theorem toList_message_redact {secret : String} (h : secret ≠ "") (f : Failure) :
    (f.redact secret).message.toList = Text.replaceFrom secret.toList mask 0 f.message.toList := by
  have hempty : secret.isEmpty = false := by
    rw [Bool.eq_false_iff, Ne, String.isEmpty_iff]
    exact h
  rw [redact, hempty]
  exact String.toList_ofList

/-- A secret comes up again in some message exactly if it is entangled with the mask. -/
theorem exists_quotes_redact_iff {secret : String} (h : secret ≠ "") :
    (∃ message, (redact secret ⟨.gateway, message⟩).Quotes secret) ↔ Entangled secret.toList mask := by
  have hne : secret.toList ≠ [] := fun hnil => h (String.toList_eq_nil_iff.mp hnil)
  constructor
  · rintro ⟨message, hquotes⟩
    by_contra hfree
    rw [Quotes, toList_message_redact h] at hquotes
    exact Text.not_infix_replaceFrom hne hfree _ hquotes
  · intro hentangled
    have hmask : mask = '<' :: "redacted>".toList := by decide
    rw [hmask] at hentangled
    obtain ⟨cs, hcs⟩ := Text.exists_infix_replaceFrom hne (by decide) hentangled
    refine ⟨String.ofList cs, ?_⟩
    rwa [Quotes, toList_message_redact h, String.toList_ofList]

end Failure

/-! ### Runs -/

namespace Run

variable {σ κ η : Type}

/-- A run takes a step, with whatever is shared then. -/
inductive Step (engine : Engine σ κ η) : Run κ η → Run κ η → Prop
  | advance {run : Run κ η} (s : Shared σ) (h : run.outcome? = none) : Step engine run (run.advance engine s).1

/-- The ticket of a run that is not over. -/
def ticket? : Run κ η → Option Ticket
  | connecting t | lookingUp t _ | checking t _ _ | opening t _ | computing t _ | closing t _ _ | storing t _ => some t
  | finished _ => none

/-- The computation of a run has broken off. -/
def BrokeOff : Run κ η → Prop
  | closing _ _ (.error .brokenOff) => True
  | _ => False

/-- A run may end in a failure, and not because its computation broke off. -/
def Reports (engine : Engine σ κ η) (run : Run κ η) (f : Failure) : Prop :=
  ∃ last, Relation.ReflTransGen (Step engine) run last ∧ ¬ last.BrokeOff ∧ Step engine last (finished (.error f))

variable {engine : Engine σ κ η} {run run' : Run κ η} {t : Ticket} {f : Failure}

/-- A run keeps its ticket until it is over: it is served, fails with a failure that has been redacted, or its computation
has broken off. -/
theorem Step.outcome_cases (h : Step engine run run') : ∃ t, run.ticket? = some t ∧
    (run'.ticket? = some t ∨ (∃ served, run' = finished (.ok served)) ∨ (∃ f, run' = finished (.error (t.redact f))) ∨
      run.BrokeOff ∧ run' = finished (.error brokenOff)) := by
  obtain ⟨s, hnot⟩ := h
  cases run with
  | connecting t =>
    refine ⟨t, rfl, ?_⟩
    simp only [Run.advance]
    split
    · exact Or.inr (Or.inr (Or.inl ⟨_, rfl⟩))
    · exact Or.inl rfl
  | lookingUp t c =>
    refine ⟨t, rfl, Or.inl ?_⟩
    simp only [Run.advance]
    split <;> rfl
  | checking t c p =>
    refine ⟨t, rfl, ?_⟩
    simp only [Run.advance]
    split
    · exact Or.inr (Or.inl ⟨_, rfl⟩)
    · exact Or.inl rfl
  | opening t c =>
    refine ⟨t, rfl, ?_⟩
    simp only [Run.advance]
    split
    · exact Or.inr (Or.inr (Or.inl ⟨_, rfl⟩))
    · exact Or.inl rfl
  | computing t dataset => exact ⟨t, rfl, Or.inl rfl⟩
  | closing t dataset result =>
    refine ⟨t, rfl, ?_⟩
    simp only [Run.advance, closed]
    split
    · exact Or.inl rfl
    · exact Or.inr (Or.inr (Or.inl ⟨_, rfl⟩))
    · exact Or.inr (Or.inr (Or.inr ⟨trivial, rfl⟩))
  | storing t p => exact ⟨t, rfl, Or.inr (Or.inl ⟨_, rfl⟩)⟩
  | finished outcome => cases hnot

theorem ticket?_of_steps (h : Relation.ReflTransGen (Step engine) run run') (hrun' : run'.ticket? = some t) :
    run.ticket? = some t := by
  induction h with
  | refl => exact hrun'
  | tail _ hstep ih =>
    obtain ⟨t', ht', hkept | ⟨served, rfl⟩ | ⟨f, rfl⟩ | ⟨-, rfl⟩⟩ := hstep.outcome_cases
    · exact ih (ht'.trans (hkept.symm.trans hrun'))
    · cases hrun'
    · cases hrun'
    · cases hrun'

/-- What a run reports has been redacted by its ticket. -/
theorem Reports.redacted (h : Reports engine run f) : ∃ t f₀, run.ticket? = some t ∧ f = t.redact f₀ := by
  obtain ⟨last, hsteps, hlast, hstep⟩ := h
  obtain ⟨t, ht, hkept | ⟨served, hserved⟩ | ⟨f₀, hfailed⟩ | ⟨hbroke, -⟩⟩ := hstep.outcome_cases
  · cases hkept
  · cases hserved
  · cases hfailed
    exact ⟨t, f₀, ticket?_of_steps hsteps ht, rfl⟩
  · exact absurd hbroke hlast

end Run

/-! ### Secrets that are never shown -/

/-- No failure shows the secret once it has been redacted. -/
def Hidden (secret : String) : Prop := ∀ f : Failure, ¬ (f.redact secret).Quotes secret

/-- No run whose credential it is reports a failure that shows the secret, over any storage engine. -/
def NeverReported (secret : String) : Prop :=
  ∀ (σ κ η : Type) (engine : Engine σ κ η) (resolver : Resolver) (r : Request) (i : Inquiry) (f : Failure),
    r.normalize resolver = .ok i → i.connection.credential.token = secret →
      Run.Reports engine (Run.start resolver r) f → ¬ f.Quotes secret

variable {secret : String}

theorem hidden_iff (h : secret ≠ "") : Hidden secret ↔ ¬ Entangled secret.toList Failure.mask := by
  rw [← Failure.exists_quotes_redact_iff h, not_exists]
  constructor
  · exact fun hhidden message => hhidden ⟨.gateway, message⟩
  · intro hnone f hquotes
    refine hnone f.message ?_
    rw [Failure.Quotes, Failure.toList_message_redact h] at hquotes ⊢
    exact hquotes

/-- An engine that connects nobody, and says why. -/
def refusing (f : Failure) : Engine Unit Unit Unit where
  connect _ _ := .error f
  mayRead _ _ := false
  openDataset _ _ := .error f
  answer _ _ := .error .brokenOff
  close _ _ := ()

/-- Runs report what a redacted failure says, whatever it is, and nothing else. -/
theorem neverReported_iff : NeverReported secret ↔ Hidden secret := by
  constructor
  · intro hnever f
    let resolver : Resolver := ⟨[⟨"a", some ⟨secret⟩⟩]⟩
    let i : Inquiry := ⟨⟨"a", ⟨secret⟩⟩, .metadata⟩
    have hdataset : canonicalDataset "a" = .ok "a" := by decide
    have haccount : resolver.accounts.find? (·.contains "a") = some ⟨"a", some ⟨secret⟩⟩ :=
      List.find?_cons_of_pos ((Resolver.contains_iff_below _ "a").mpr (Or.inl rfl))
    have hresolve : resolver.resolve "a" none = .ok ⟨"a", ⟨secret⟩⟩ := by
      unfold Resolver.resolve
      rw [haccount]
      rfl
    have hi : Request.normalize resolver ⟨"a", none, .metadata⟩ = .ok i :=
      Request.normalize_eq_ok_iff.mpr ⟨hdataset, rfl, hresolve, rfl⟩
    refine hnever Unit Unit Unit (refusing f) resolver ⟨"a", none, .metadata⟩ i _ hi rfl ?_
    rw [Run.start_eq_connecting hi]
    exact ⟨_, .refl, id, .advance ⟨(), .ofBudget 0, 0⟩ rfl⟩
  · intro hhidden σ κ η engine resolver r i f hi hsecret hreports
    rw [Run.start_eq_connecting hi] at hreports
    obtain ⟨t, f₀, ht, rfl⟩ := hreports.redacted
    cases ht
    exact hsecret ▸ hhidden f₀

/-- Most credentials are not entangled with the mask. -/
theorem not_entangled_of_plain (hopen : '<' ∉ secret.toList) (hclose : '>' ∉ secret.toList)
    (hword : ¬ secret.toList <:+: "redacted".toList) : ¬ Entangled secret.toList Failure.mask := by
  have hparts : ∀ t ∈ Failure.mask.tails, ∀ l ∈ t.inits, '<' ∉ l → '>' ∉ l → l <:+: "redacted".toList := by decide
  have htails : ∀ l ∈ Failure.mask.tails, l ≠ [] → '>' ∈ l := by decide
  have hinits : ∀ l ∈ Failure.mask.inits, l ≠ [] → '<' ∈ l := by decide
  rintro (hpart | hwhole | ⟨l, hl, hne, hstart⟩ | ⟨l, hl, hne, hend, -⟩)
  · obtain ⟨t, hstart, hend⟩ := List.infix_iff_prefix_suffix.mp hpart
    exact hword (hparts t ((List.mem_tails _ _).mpr hend) _ ((List.mem_inits _ _).mpr hstart) hopen hclose)
  · exact hopen (hwhole.subset (by decide))
  · exact hclose (hstart.subset (htails l hl hne))
  · exact hopen (hend.subset (hinits l hl hne))

/-- **When redaction is complete.** Redacting a failure leaves it to whoever had to act on it. For every secret that is not
empty, no message shows the secret once it has been redacted, and no run that it is the credential of reports a failure
that shows it, over any storage engine and whatever others do in the meantime, if and only if the secret is not entangled
with the mask. A secret without angle brackets is not, unless it is a piece of the word between them. -/
theorem redacted_iff (secret : String) (h : secret ≠ "") :
    (∀ f : Failure, (f.redact secret).blame = f.blame) ∧
      (Hidden secret ↔ ¬ Entangled secret.toList Failure.mask) ∧
      (NeverReported secret ↔ ¬ Entangled secret.toList Failure.mask) ∧
      ('<' ∉ secret.toList → '>' ∉ secret.toList → ¬ secret.toList <:+: "redacted".toList →
        ¬ Entangled secret.toList Failure.mask) :=
  ⟨Failure.blame_redact secret, hidden_iff h, neverReported_iff.trans (hidden_iff h), not_entangled_of_plain⟩

/-- A secret that ends as the mask begins, but begins so itself. -/
theorem redacted_iff_sample : "<sig<" ≠ "" ∧ Hidden "<sig<" ∧ NeverReported "<sig<" := by
  have hne : "<sig<" ≠ "" := by decide
  have hfree : ¬ Entangled "<sig<".toList Failure.mask := by decide
  obtain ⟨-, hhidden, hnever, -⟩ := redacted_iff "<sig<" hne
  exact ⟨hne, hhidden.mpr hfree, hnever.mpr hfree⟩

/-- An engine that opens nothing, and quotes whatever it was given. -/
def Sample.quoting : Engine Unit Connection Unit where
  connect _ c := .ok c
  mayRead _ _ := false
  openDataset _ c :=
    .error ⟨.gateway, "Could not open VDS: " ++ c.dataset ++ "?" ++ c.credential.token ++ " refused the request"⟩
  answer _ _ := .error .brokenOff
  close _ _ := ()

/-- A credential that repeats what stands ahead of it, up to the first character of the mask. -/
theorem credential_formed_again :
    let request := Sample.request "a?<" .metadata
    let f : Failure := ⟨.gateway, "Could not open VDS: a?a?< refused the request"⟩
    request.normalize Sample.resolver = .ok (Sample.inquiry "a?<" .metadata) ∧
      Run.Reports Sample.quoting (Run.start Sample.resolver request) (f.redact "a?<") ∧
      (f.redact "a?<").message = "Could not open VDS: a?<redacted> refused the request" ∧
      (f.redact "a?<").Quotes "a?<" := by
  intro request f
  have hnormalize : request.normalize Sample.resolver = .ok (Sample.inquiry "a?<" .metadata) :=
    Sample.normalize (by decide) rfl
  refine ⟨hnormalize, ?_, by decide, by decide⟩
  rw [Run.start_eq_connecting hnormalize]
  let s : Shared Unit := ⟨(), .ofBudget 0, 0⟩
  refine ⟨.opening (.ofInquiry (Sample.inquiry "a?<" .metadata)) ⟨"a", ⟨"a?<"⟩⟩, ?_, id, .advance s rfl⟩
  exact .tail (.single (.advance s rfl)) (.advance s rfl)

end SurveyGateway
