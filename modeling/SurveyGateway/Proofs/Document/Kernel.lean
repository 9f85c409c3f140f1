import SurveyGateway.Json.Value
import SurveyGateway.Proofs.Number.Text

/-!
# What the text of a document tells

A document is written from some data. `Kernel f R` says that the text of the document `f a` tells `a` up to `R`: data
that are related by `R` have one text, and data that are not have two, even if the text is only the start of a longer
one. Kernels are put together as documents are: from numbers and texts over lists to objects.

## What is proved

* `kernel_text`, `kernel_integer` — texts and integers are told exactly.
* `kernel_float32`, `kernel_optional` — finite floats are told exactly; infinities, NaN and a number that is not
  there are all written `null`.
* `Kernel.list`, `MemberKernel.object` — lists and objects are told as their items and members are.
* `utf8_inj` — bytes tell the text.
-/

namespace SurveyGateway.Json

open Number

/-! ### Texts inside a document -/

/-- What follows a value inside a document: nothing, or a delimiter. -/
def Delimited (rest : List Char) : Prop :=
  ∀ c cs, rest = c :: cs → c = ',' ∨ c = ']' ∨ c = '\x7d'

/-- A text without delimiters. -/
def Plain (cs : List Char) : Prop := ∀ c ∈ cs, c ≠ ',' ∧ c ≠ ']' ∧ c ≠ '\x7d'

theorem delimited_nil : Delimited [] := fun _ _ h => by cases h

theorem delimited_cons {c : Char} (cs : List Char) (h : c = ',' ∨ c = ']' ∨ c = '\x7d') : Delimited (c :: cs) := by
  intro d ds heq
  obtain ⟨rfl, -⟩ := List.cons.inj heq
  exact h

/-- A text without delimiters ends where the first delimiter stands. -/
theorem Plain.append_inj {cs ds s t : List Char} (hc : Plain cs) (hd : Plain ds) (hs : Delimited s)
    (ht : Delimited t) (h : cs ++ s = ds ++ t) : cs = ds ∧ s = t := by
  have hclash : ∀ {c : Char} {ds s : List Char}, Plain (c :: ds) → Delimited s → ∀ t, s ≠ c :: t := by
    rintro c ds _ hplain hdel t rfl
    obtain ⟨h₁, h₂, h₃⟩ := hplain c List.mem_cons_self
    rcases hdel c t rfl with h | h | h
    · exact h₁ h
    · exact h₂ h
    · exact h₃ h
  induction cs generalizing ds with
  | nil =>
    cases ds with
    | nil => exact ⟨rfl, h⟩
    | cons d ds => exact absurd h (hclash hd hs _)
  | cons c cs ih =>
    cases ds with
    | nil => exact absurd h.symm (hclash hc ht _)
    | cons d ds =>
      obtain ⟨rfl, htail⟩ := List.cons.inj h
      obtain ⟨rfl, rfl⟩ := ih (fun a ha => hc a (List.mem_cons_of_mem _ ha))
        (fun a ha => hd a (List.mem_cons_of_mem _ ha)) htail
      exact ⟨rfl, rfl⟩

/-! ### Kernels -/

/-- The text of the document `f a` tells `a` up to `R`. -/
structure Kernel {α : Type} (f : α → Value) (R : α → α → Prop) : Prop where
  congr : ∀ {a b}, R a b → (f a).render = (f b).render
  inj : ∀ {a b s t}, Delimited s → Delimited t → (f a).render ++ s = (f b).render ++ t → R a b ∧ s = t

variable {α β : Type} {f : α → Value} {R : α → α → Prop}

theorem Kernel.render_eq_iff (h : Kernel f R) {a b : α} : (f a).render = (f b).render ↔ R a b :=
  ⟨fun heq => (h.inj delimited_nil delimited_nil (congrArg (· ++ []) heq)).1, h.congr⟩

theorem Kernel.comap (h : Kernel f R) (g : β → α) : Kernel (fun b => f (g b)) fun b b' => R (g b) (g b') :=
  ⟨h.congr, h.inj⟩

/-- A document that is the same for all data tells nothing of them. -/
theorem kernel_const (h : ∀ a b, f a = f b) : Kernel f fun _ _ => True where
  congr _ := congrArg Value.render (h _ _)
  inj {a b _ _} _ _ heq := by
    rw [h a b] at heq
    exact ⟨trivial, List.append_cancel_left heq⟩

theorem kernel_of_plain (hplain : ∀ a, Plain (f a).render) (hR : ∀ a b, (f a).render = (f b).render ↔ R a b) :
    Kernel f R where
  congr h := (hR _ _).mpr h
  inj hs ht h := by
    obtain ⟨heq, rfl⟩ := (hplain _).append_inj (hplain _) hs ht h
    exact ⟨(hR _ _).mp heq, rfl⟩

/-! ### Numbers -/

/-- The characters that numbers are written with. -/
def numberChars : List Char := ['-', '+', '.', 'e', '0', '1', '2', '3', '4', '5', '6', '7', '8', '9']

theorem toNat_of_isDigit {c : Char} (h : c.isDigit = true) : 48 ≤ c.toNat ∧ c.toNat ≤ 57 := by
  simpa [Char.isDigit, UInt32.le_iff_toNat_le] using h

theorem mem_numberChars {c : Char} (h : c.isDigit = true) : c ∈ numberChars := by
  have hdigits : ∀ n < 58, 48 ≤ n → Char.ofNat n ∈ numberChars := by decide
  obtain ⟨hlow, hhigh⟩ := toNat_of_isDigit h
  rw [← Char.ofNat_toNat c]
  exact hdigits _ (by omega) hlow

theorem subset_of_allDigits {cs : List Char} (h : AllDigits cs) : cs ⊆ numberChars :=
  fun c hc => mem_numberChars (h c hc)

/-- A text of such characters has no delimiter. -/
theorem plain_of_subset {cs : List Char} (h : cs ⊆ numberChars) : Plain cs := by
  have hplain : Plain numberChars := by simp [Plain, numberChars]
  exact fun c hc => hplain c (h hc)

theorem head_natText_ne (n : ℕ) (cs : List Char) : natText n ≠ '-' :: cs := by
  intro h
  have hdigit := allDigits_natText n '-' (by rw [h]; exact List.mem_cons_self)
  cases hdigit

theorem intText_inj {m n : ℤ} (h : intText m = intText n) : m = n := by
  cases m with
  | ofNat m =>
    cases n with
    | ofNat n => rw [natText_inj h]
    | negSucc n => exact absurd h (head_natText_ne m _)
  | negSucc m =>
    cases n with
    | ofNat n => exact absurd h.symm (head_natText_ne n _)
    | negSucc n =>
      have := natText_inj (List.cons.inj h).2
      rw [Nat.succ.inj this]

theorem intText_subset (n : ℤ) : intText n ⊆ numberChars := by
  cases n with
  | ofNat n => exact subset_of_allDigits (allDigits_natText n)
  | negSucc n => exact List.cons_subset.mpr ⟨by decide, subset_of_allDigits (allDigits_natText (n + 1))⟩

/-- An integer is told by its text. -/
theorem kernel_integer : Kernel Value.integer Eq :=
  kernel_of_plain (fun n => by rw [Value.render]; exact plain_of_subset (intText_subset n))
    fun m n => by rw [Value.render, Value.render]; exact ⟨intText_inj, congrArg _⟩

/-! ### Floats -/

theorem zeros_subset (n : ℕ) : List.replicate n '0' ⊆ numberChars := subset_of_allDigits (allDigits_zeros n)

theorem exponentText_subset (power : ℤ) : Style.exponentText power ⊆ numberChars := by
  unfold Style.exponentText
  refine List.cons_subset.mpr ⟨by decide, List.cons_subset.mpr ⟨?_, subset_of_allDigits (allDigits_natText _)⟩⟩
  split <;> decide

theorem decimalText_subset (style : Style) (d : Decimal) : style.decimalText d ⊆ numberChars := by
  have hd : natText d.digits ⊆ numberChars := subset_of_allDigits (allDigits_natText d.digits)
  unfold Style.decimalText
  generalize natText d.digits = digits at hd
  simp only
  split
  · split
    · refine List.append_subset.mpr ⟨List.append_subset.mpr ⟨hd, zeros_subset _⟩, ?_⟩
      split <;> decide
    · split
      · exact List.append_subset.mpr ⟨fun c hc => hd (List.mem_of_mem_take hc),
          List.cons_subset.mpr ⟨by decide, fun c hc => hd (List.mem_of_mem_drop hc)⟩⟩
      · exact List.cons_subset.mpr ⟨by decide, List.cons_subset.mpr ⟨by decide,
          List.append_subset.mpr ⟨zeros_subset _, hd⟩⟩⟩
  · refine List.append_subset.mpr ⟨?_, exponentText_subset _⟩
    split
    · exact hd
    · exact hd
    · obtain ⟨hfirst, hrest⟩ := List.cons_subset.mp hd
      exact List.cons_subset.mpr ⟨hfirst, List.cons_subset.mpr ⟨by decide, hrest⟩⟩

theorem finiteText?_subset {style : Style} {spec : Float.Model.Format} {u : Float.Model.UnpackedFloat} {t : List Char}
    (h : style.finiteText? spec u = some t) : t ⊆ numberChars := by
  have hsign : ∀ s, Style.signText s ⊆ numberChars := by
    intro s
    cases s <;> decide
  cases u with
  | infinity s => cases h
  | notANumber => cases h
  | zero s =>
    obtain rfl := Option.some.inj h
    refine List.append_subset.mpr ⟨hsign s, List.cons_subset.mpr ⟨by decide, ?_⟩⟩
    split <;> decide
  | finite s m e hm =>
    obtain rfl := Option.some.inj h
    exact List.append_subset.mpr ⟨hsign s, decimalText_subset _ _⟩

/-- A number is never written `null`. -/
theorem finiteText?_ne_null {style : Style} {spec : Float.Model.Format} {u : Float.Model.UnpackedFloat} :
    style.finiteText? spec u ≠ some ['n', 'u', 'l', 'l'] := by
  intro h
  obtain ⟨s, body, htext, ⟨c, rest, rfl, hc⟩, -⟩ := finiteText?_cases h
  cases s
  · exact absurd (List.cons.inj htext).1 (by decide)
  · obtain rfl := (List.cons.inj htext).1
    cases hc

theorem orNull_inj {style : Style} {spec : Float.Model.Format} {u v : Float.Model.UnpackedFloat}
    (h : orNull (style.finiteText? spec u) = orNull (style.finiteText? spec v)) :
    style.finiteText? spec u = style.finiteText? spec v := by
  cases hu : style.finiteText? spec u with
  | none =>
    cases hv : style.finiteText? spec v with
    | none => rfl
    | some t =>
      rw [hu, hv] at h
      exact absurd (hv.trans (congrArg some h.symm)) finiteText?_ne_null
  | some t =>
    cases hv : style.finiteText? spec v with
    | none =>
      rw [hu, hv] at h
      exact absurd (hu.trans (congrArg some h)) finiteText?_ne_null
    | some t' =>
      rw [hu, hv] at h
      exact congrArg some h

theorem plain_orNull_finiteText? (style : Style) (spec : Float.Model.Format) (u : Float.Model.UnpackedFloat) :
    Plain (orNull (style.finiteText? spec u)) := by
  cases h : style.finiteText? spec u with
  | none => simp [orNull, Plain]
  | some t => exact plain_of_subset (finiteText?_subset h)

/-- A float is told by its text if it is finite. -/
theorem kernel_float32 : Kernel Value.float32 Alike :=
  kernel_of_plain (fun x => by rw [Value.render]; exact plain_orNull_finiteText? _ _ _) fun x y => by
    rw [Value.render, Value.render, ← documentText32?_eq_iff]
    exact ⟨orNull_inj, congrArg orNull⟩

/-- A number that may be missing, as documents write it. -/
theorem render_optional (x : Option Float32) :
    ((x.map Value.float32).getD .null).render = orNull (x.bind documentText32?) := by
  cases x <;> rfl

theorem bind_documentText32?_eq (x : Option Float32) :
    ∃ u, x.bind documentText32? = Style.document32.finiteText? .binary32 u := by
  cases x with
  | none => exact ⟨.notANumber, rfl⟩
  | some a => exact ⟨_, rfl⟩

/-- A number that may be missing is told by its text if it is there and finite. -/
theorem kernel_optional : Kernel (fun x : Option Float32 => (x.map Value.float32).getD .null) OptionalAlike := by
  refine kernel_of_plain (fun x => ?_) fun x y => ?_
  · obtain ⟨u, hu⟩ := bind_documentText32?_eq x
    rw [render_optional, hu]
    exact plain_orNull_finiteText? _ _ _
  · obtain ⟨u, hu⟩ := bind_documentText32?_eq x
    obtain ⟨w, hw⟩ := bind_documentText32?_eq y
    rw [render_optional, render_optional, ← bind_documentText32?_eq_iff, hu, hw]
    exact ⟨orNull_inj, congrArg orNull⟩

/-! ### Texts -/

/-- The number that a hexadecimal digit stands for. -/
def hexNumber (c : Char) : ℕ := (Text.hexValue? c.toNat.toUInt8).getD 0

/-- The character that an escaped text starts with. -/
def unescape : List Char → Option Char
  | '\\' :: 'b' :: _ => some '\x08'
  | '\\' :: 't' :: _ => some '\t'
  | '\\' :: 'n' :: _ => some '\n'
  | '\\' :: 'f' :: _ => some '\x0c'
  | '\\' :: 'r' :: _ => some '\r'
  | '\\' :: 'u' :: _ :: _ :: high :: low :: _ => some (Char.ofNat (16 * hexNumber high + hexNumber low))
  | '\\' :: c :: _ => some c
  | c :: _ => some c
  | [] => none

theorem hexNumber_control :
    ∀ n < 32, 16 * hexNumber (Text.hexDigit (n / 16)) + hexNumber (Text.hexDigit (n % 16)) = n := by
  decide

theorem unescape_of_ne {c : Char} (h : c ≠ '\\') (cs : List Char) : unescape (c :: cs) = some c := by
  unfold unescape
  split <;> simp_all

theorem unescape_escapedChar (c : Char) (s : List Char) : unescape (escapedChar c ++ s) = some c := by
  unfold escapedChar
  split_ifs with h₁ h₂ h₃ h₄ h₅ h₆ h₇ hcontrol
  · subst h₁; rfl
  · subst h₂; rfl
  · subst h₃; rfl
  · subst h₄; rfl
  · subst h₅; rfl
  · subst h₆; rfl
  · subst h₇; rfl
  · have hread : ∀ high low, unescape (['\\', 'u', '0', '0', high, low] ++ s) =
        some (Char.ofNat (16 * hexNumber high + hexNumber low)) := fun _ _ => rfl
    rw [hread, hexNumber_control _ hcontrol, Char.ofNat_toNat]
  · exact unescape_of_ne h₂ s

theorem escapedChar_ne_quote (c : Char) (s t : List Char) : escapedChar c ++ s ≠ '"' :: t := by
  intro h
  unfold escapedChar at h
  split_ifs at h with h₁ <;> simp_all

/-- An escaped text is told, and so is what follows its closing quote. -/
theorem escaped_inj {cs ds s t : List Char}
    (h : cs.flatMap escapedChar ++ '"' :: s = ds.flatMap escapedChar ++ '"' :: t) : cs = ds ∧ s = t := by
  induction cs generalizing ds with
  | nil =>
    cases ds with
    | nil => exact ⟨rfl, (List.cons.inj h).2⟩
    | cons d ds =>
      rw [List.flatMap_cons, List.append_assoc] at h
      exact absurd h.symm (escapedChar_ne_quote _ _ _)
  | cons c cs ih =>
    cases ds with
    | nil =>
      rw [List.flatMap_cons, List.append_assoc] at h
      exact absurd h (escapedChar_ne_quote _ _ _)
    | cons d ds =>
      rw [List.flatMap_cons, List.flatMap_cons, List.append_assoc, List.append_assoc] at h
      have hread := congrArg unescape h
      rw [unescape_escapedChar, unescape_escapedChar, Option.some.injEq] at hread
      subst hread
      obtain ⟨rfl, rfl⟩ := ih (List.append_cancel_left h)
      exact ⟨rfl, rfl⟩

theorem textText_inj {x y : String} {s t : List Char} (h : textText x ++ s = textText y ++ t) : x = y ∧ s = t := by
  simp only [textText, List.cons_append, List.append_assoc, List.nil_append, List.cons.injEq, true_and] at h
  obtain ⟨heq, hrest⟩ := escaped_inj h
  exact ⟨String.toList_inj.mp heq, hrest⟩

/-- A text is told by its text. -/
theorem kernel_text : Kernel Value.text Eq where
  congr h := by rw [h]
  inj _ _ h := by
    rw [Value.render, Value.render] at h
    exact textText_inj h

/-! ### Lists -/

/-- The characters that documents start with. -/
def valueStarts : List Char := ['n', 't', 'f', '"', '[', '\x7b'] ++ numberChars

/-- What a document starts with. -/
theorem render_head (v : Value) : ∃ c cs, v.render = c :: cs ∧ c ∈ valueStarts := by
  have hnumber : ∀ t : List Char, t ≠ [] → t ⊆ numberChars → ∃ c cs, t = c :: cs ∧ c ∈ valueStarts := by
    intro t hne hsub
    obtain ⟨c, cs, rfl⟩ := List.exists_cons_of_ne_nil hne
    exact ⟨c, cs, rfl, List.mem_append_right _ (hsub List.mem_cons_self)⟩
  have hfloat : ∀ style spec u, ∃ c cs, orNull (Style.finiteText? style spec u) = c :: cs ∧ c ∈ valueStarts := by
    intro style spec u
    cases h : style.finiteText? spec u with
    | none => exact ⟨'n', _, rfl, by decide⟩
    | some t =>
      refine hnumber t ?_ (finiteText?_subset h)
      obtain ⟨s, body, rfl, ⟨c, rest, rfl, -⟩, -⟩ := finiteText?_cases h
      exact List.append_ne_nil_of_right_ne_nil _ (List.cons_ne_nil _ _)
  cases v with
  | null => exact ⟨'n', _, by rw [Value.render], by decide⟩
  | boolean b => cases b <;> exact ⟨_, _, rfl, by decide⟩
  | integer n =>
    rw [Value.render]
    refine hnumber _ ?_ (intText_subset n)
    cases n with
    | ofNat n => exact Nat.toDigits_ne_nil
    | negSucc n => exact List.cons_ne_nil _ _
  | float32 x => rw [Value.render]; exact hfloat _ _ _
  | float64 x => rw [Value.render]; exact hfloat _ _ _
  | text s => rw [Value.render]; exact ⟨'"', _, rfl, by decide⟩
  | list items =>
    cases items <;> rw [Value.render] <;> exact ⟨'[', _, rfl, by decide⟩
  | object members =>
    cases members <;> rw [Value.render] <;> exact ⟨'\x7b', _, rfl, by decide⟩

theorem delimited_renderItems (xs : List Value) (s : List Char) : Delimited (Value.renderItems xs ++ s) := by
  cases xs <;> rw [Value.renderItems] <;> exact delimited_cons _ (by decide)

theorem Kernel.items_inj (h : Kernel f R) {xs ys : List α} {s t : List Char}
    (heq : Value.renderItems (xs.map f) ++ s = Value.renderItems (ys.map f) ++ t) :
    List.Forall₂ R xs ys ∧ s = t := by
  induction xs generalizing ys with
  | nil =>
    cases ys with
    | nil => exact ⟨.nil, (List.cons.inj heq).2⟩
    | cons y ys =>
      simp only [List.map_nil, List.map_cons, Value.renderItems] at heq
      exact absurd (List.cons.inj heq).1 (by decide)
  | cons x xs ih =>
    cases ys with
    | nil =>
      simp only [List.map_nil, List.map_cons, Value.renderItems] at heq
      exact absurd (List.cons.inj heq).1 (by decide)
    | cons y ys =>
      simp only [List.map_cons, Value.renderItems, List.cons_append, List.append_assoc, List.cons.injEq,
        true_and] at heq
      obtain ⟨hR, hrest⟩ := h.inj (delimited_renderItems _ _) (delimited_renderItems _ _) heq
      obtain ⟨hall, rfl⟩ := ih hrest
      exact ⟨.cons hR hall, rfl⟩

theorem Kernel.items_congr (h : Kernel f R) {xs ys : List α} (hall : List.Forall₂ R xs ys) :
    Value.renderItems (xs.map f) = Value.renderItems (ys.map f) := by
  induction hall with
  | nil => rfl
  | cons hR _ ih => simp only [List.map_cons, Value.renderItems, h.congr hR, ih]

/-- A list is told item by item. -/
theorem Kernel.list (h : Kernel f R) : Kernel (fun xs => Value.list (xs.map f)) (List.Forall₂ R) where
  congr hall := by
    cases hall with
    | nil => rfl
    | cons hR hall => simp only [List.map_cons, Value.render, h.congr hR, h.items_congr hall]
  inj {xs ys s t} _ _ heq := by
    have hclash : ∀ (v : Value) (s t : List Char), v.render ++ s ≠ ']' :: t := by
      intro v s t hv
      obtain ⟨c, cs, hc, hstart⟩ := render_head v
      rw [hc] at hv
      obtain ⟨rfl, -⟩ := List.cons.inj hv
      exact absurd hstart (by decide)
    cases xs with
    | nil =>
      cases ys with
      | nil => exact ⟨.nil, List.append_cancel_left heq⟩
      | cons y ys =>
        simp only [List.map_nil, List.map_cons, Value.render, List.cons_append, List.append_assoc, List.nil_append,
          List.cons.injEq, true_and] at heq
        exact absurd heq.symm (hclash _ _ _)
    | cons x xs =>
      cases ys with
      | nil =>
        simp only [List.map_nil, List.map_cons, Value.render, List.cons_append, List.append_assoc, List.nil_append,
          List.cons.injEq, true_and] at heq
        exact absurd heq (hclash _ _ _)
      | cons y ys =>
        simp only [List.map_cons, Value.render] at heq
        -- but for the opening bracket, these are items behind others
        have hitems : Value.renderItems ((x :: xs).map f) ++ s = Value.renderItems ((y :: ys).map f) ++ t := by
          simp only [List.map_cons, Value.renderItems]
          exact congrArg (',' :: ·) (List.cons.inj heq).2
        exact h.items_inj hitems

/-! ### Objects -/

/-- The text of the members `g a` tells `a` up to `R`. -/
structure MemberKernel (g : α → List (String × Value)) (R : α → α → Prop) : Prop where
  congr : ∀ {a b}, R a b → Value.renderMembers (g a) = Value.renderMembers (g b)
  inj : ∀ {a b s t}, Value.renderMembers (g a) ++ s = Value.renderMembers (g b) ++ t → R a b ∧ s = t

variable {g : α → List (String × Value)} {S : α → α → Prop}

theorem delimited_renderMembers (members : List (String × Value)) (s : List Char) :
    Delimited (Value.renderMembers members ++ s) := by
  cases members <;> rw [Value.renderMembers] <;> exact delimited_cons _ (by decide)

/-- A member ahead of others. -/
theorem MemberKernel.cons (name : String) (hf : Kernel f R) (hg : MemberKernel g S) :
    MemberKernel (fun a => (name, f a) :: g a) fun a b => R a b ∧ S a b where
  congr h := by simp only [Value.renderMembers, hf.congr h.1, hg.congr h.2]
  inj h := by
    simp only [Value.renderMembers, List.cons_append, List.append_assoc, List.cons.injEq, true_and,
      List.append_cancel_left_eq] at h
    obtain ⟨hR, hrest⟩ := hf.inj (delimited_renderMembers _ _) (delimited_renderMembers _ _) h
    obtain ⟨hS, rfl⟩ := hg.inj hrest
    exact ⟨⟨hR, hS⟩, rfl⟩

/-- The last member. -/
theorem MemberKernel.last (name : String) (hf : Kernel f R) : MemberKernel (fun a => [(name, f a)]) R where
  congr h := by simp only [Value.renderMembers, hf.congr h]
  inj h := by
    simp only [Value.renderMembers, List.cons_append, List.append_assoc, List.cons.injEq, true_and,
      List.append_cancel_left_eq, List.nil_append] at h
    obtain ⟨hR, hrest⟩ := hf.inj (delimited_cons _ (by decide)) (delimited_cons _ (by decide)) h
    exact ⟨hR, (List.cons.inj hrest).2⟩

/-- But for its opening brace, an object is written like members behind others. -/
theorem render_object {members : List (String × Value)} (h : members ≠ []) :
    ∃ rest, (Value.object members).render = '\x7b' :: rest ∧ Value.renderMembers members = ',' :: rest := by
  cases members with
  | nil => exact absurd rfl h
  | cons member members => exact ⟨_, by rw [Value.render], by rw [Value.renderMembers]⟩

/-- An object is told as its members are. -/
theorem MemberKernel.object (hg : MemberKernel g S) (hne : ∀ a, g a ≠ []) :
    Kernel (fun a => Value.object (g a)) S where
  congr {a b} h := by
    obtain ⟨x, hx, hx'⟩ := render_object (hne a)
    obtain ⟨y, hy, hy'⟩ := render_object (hne b)
    have := hg.congr h
    rw [hx', hy'] at this
    rw [hx, hy, (List.cons.inj this).2]
  inj {a b s t} _ _ h := by
    obtain ⟨x, hx, hx'⟩ := render_object (hne a)
    obtain ⟨y, hy, hy'⟩ := render_object (hne b)
    rw [hx, hy] at h
    refine hg.inj ?_
    rw [hx', hy']
    exact congrArg (',' :: ·) (List.cons.inj h).2

/-! ### Bytes -/

/-- Bytes tell the text. -/
theorem utf8_inj {cs ds : List Char} (h : Text.utf8 cs = Text.utf8 ds) : cs = ds := by
  have hbytes : cs.utf8Encode = ds.utf8Encode := congrArg List.toByteArray h
  have hread := congrArg ByteArray.utf8Decode? hbytes
  rw [List.utf8Decode?_utf8Encode, List.utf8Decode?_utf8Encode, Option.some.injEq] at hread
  exact congrArg Array.toList hread

end SurveyGateway.Json
