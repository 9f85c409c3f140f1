import Mathlib.Data.List.Basic
import SurveyGateway.Json.Record
import SurveyGateway.Proofs.Document.Kernel
import SurveyGateway.Proofs.Text.Utf8

/-!
# What readers pass over

A reader takes what it reads from the start of the bytes ahead and leaves the others. `Passes reader ahead x rest` says so
for any place: on the bytes `ahead` the reader gives `x`, and `rest` is left. Readers that follow one another pass over
what each of them passes over (`Passes.bind`), so that what a reader does is put together from what its steps do.

A value may stand at the end of a document or ahead of a delimiter. `Reads reader v x` says that the reader gives `x` on
the text of the document `v` wherever that stands.

## What is proved

* `reads_text` — a text is read from its escaped form, whatever characters it has.
-/

namespace SurveyGateway.Json

open Reader

/-! ### Passing over bytes -/

/-- From any place, `reader` gives `x` on the bytes `ahead` and leaves `rest`. -/
def Passes {α : Type} (reader : Reader α) (ahead : List UInt8) (x : α) (rest : List UInt8) : Prop :=
  ∀ place, ∃ place', reader ⟨ahead, place⟩ = .ok (x, ⟨rest, place'⟩)

variable {α β : Type} {ahead middle rest : List UInt8}

/-- What a reader does behind another one. -/
theorem bind_apply (reader : Reader α) (f : α → Reader β) (c : Cursor) :
    (reader >>= f) c = reader c >>= fun r => f r.1 r.2 := rfl

theorem passes_pure (x : α) (ahead : List UInt8) : Passes (pure x) ahead x ahead := fun place => ⟨place, rfl⟩

theorem Passes.bind {reader : Reader α} {f : α → Reader β} {x : α} {y : β} (h : Passes reader ahead x middle)
    (hf : Passes (f x) middle y rest) : Passes (reader >>= f) ahead y rest := by
  intro place
  obtain ⟨place₁, h₁⟩ := h place
  obtain ⟨place₂, h₂⟩ := hf place₁
  exact ⟨place₂, by rw [bind_apply, h₁]; exact h₂⟩

/-- A reader that looks at the cursor. -/
theorem Passes.cursor {f : Cursor → Reader β} {y : β} (h : ∀ place, Passes (f ⟨ahead, place⟩) ahead y rest) :
    Passes (cursor >>= f) ahead y rest := fun place => h place place

theorem passes_advance (b : UInt8) (bs : List UInt8) : Passes advance (b :: bs) () bs :=
  fun place => ⟨place.after b, rfl⟩

/-- A reader that passes over one byte first. -/
theorem Passes.advance {f : Unit → Reader β} {b : UInt8} {y : β} (h : Passes (f ()) ahead y rest) :
    Passes (advance >>= f) (b :: ahead) y rest := (passes_advance b ahead).bind h

theorem afterBlanks_cons {b : UInt8} (hb : Cursor.isSpace b = false) (bs : List UInt8) (place : Place) :
    Cursor.afterBlanks ⟨b :: bs, place⟩ = ⟨b :: bs, place⟩ := by
  rw [Cursor.afterBlanks, Cursor.afterBlanks.go, hb, if_neg Bool.false_ne_true]

theorem passes_peekToken {b : UInt8} (hb : Cursor.isSpace b = false) (bs : List UInt8) :
    Passes peekToken (b :: bs) (some b) (b :: bs) := by
  intro place
  refine ⟨place, ?_⟩
  rw [peekToken, afterBlanks_cons hb]
  rfl

theorem passes_valueStart {b : UInt8} (hb : Cursor.isSpace b = false) (bs : List UInt8) :
    Passes valueStart (b :: bs) b (b :: bs) := (passes_peekToken hb bs).bind (passes_pure b _)

/-! ### Values -/

/-- What may follow a value: nothing, or a delimiter. -/
def EndsValue (rest : List UInt8) : Prop := ∀ b ∈ rest.head?, b = 44 ∨ b = 93 ∨ b = 125

theorem endsValue_nil : EndsValue [] := fun _ h => by cases h

theorem endsValue_cons {b : UInt8} (bs : List UInt8) (h : b = 44 ∨ b = 93 ∨ b = 125) : EndsValue (b :: bs) := by
  intro b' hb'
  obtain rfl := Option.some.inj hb'
  exact h

/-- `reader` gives `x` on the text of `v`, at the end of a document and ahead of a delimiter. -/
def Reads (reader : Reader α) (v : Value) (x : α) : Prop :=
  ∀ rest, EndsValue rest → Passes reader (v.bytes ++ rest) x rest

/-- A document of one value. -/
theorem Reads.document {reader : Reader α} {v : Value} {x : α} (h : Reads reader v x) :
    Json.document reader v.bytes = .ok x := by
  obtain ⟨place, hread⟩ := h [] endsValue_nil ⟨1, 0⟩
  rw [List.append_nil] at hread
  rw [Json.document, Cursor.start, hread]
  rfl

/-- What is made of a value that is read. -/
theorem Reads.map {reader : Reader α} {v : Value} {x : α} (h : Reads reader v x) (f : α → β) :
    Reads (do return f (← reader)) v (f x) := fun rest hrest => (h rest hrest).bind (passes_pure _ _)

/-! ### Bytes of documents -/

/-- The byte that a document starts with: no blank, and no delimiter. -/
theorem bytes_head (v : Value) : ∃ b bs, v.bytes = b :: bs ∧ Cursor.isSpace b = false ∧ b ≠ 44 ∧ b ≠ 93 ∧ b ≠ 125 := by
  have hstarts : ∀ c ∈ valueStarts, ∃ b, String.utf8EncodeChar c = [b] ∧ Cursor.isSpace b = false ∧
      b ≠ 44 ∧ b ≠ 93 ∧ b ≠ 125 := by
    simp only [valueStarts, numberChars, List.cons_append, List.nil_append, List.forall_mem_cons]
    refine ⟨?_, ?_, ?_, ?_, ?_, ?_, ?_, ?_, ?_, ?_, ?_, ?_, ?_, ?_, ?_, ?_, ?_, ?_, ?_, ?_, List.forall_mem_nil _⟩ <;>
      exact ⟨_, rfl, by decide⟩
  obtain ⟨c, cs, hrender, hc⟩ := render_head v
  obtain ⟨b, hb, hfacts⟩ := hstarts c hc
  refine ⟨b, Text.utf8 cs, ?_, hfacts⟩
  rw [Value.bytes, hrender, Text.utf8_cons, hb, List.singleton_append]

/-! ### Texts -/

/-- Bytes that a text has unescaped. -/
def isPlainByte (b : UInt8) : Bool := b != 34 && b != 92 && decide (32 ≤ b)

theorem textBytes_cons {s : TextState} {b : UInt8} (s' : TextState) (added : List UInt8)
    (hquote : ¬(s = .plain ∧ b = 34)) (hstep : s.step b = .ok (s', added)) (read bs : List UInt8) (place : Place) :
    textBytes s read (b :: bs) place = textBytes s' (added.reverse ++ read) bs (place.after b) := by
  rw [textBytes, if_neg hquote, hstep]

/-- Bytes that stand for themselves. -/
theorem textBytes_plain {bytes : List UInt8} (h : ∀ b ∈ bytes, isPlainByte b = true) (read bs : List UInt8)
    (place : Place) :
    ∃ place', textBytes .plain read (bytes ++ bs) place = textBytes .plain (bytes.reverse ++ read) bs place' := by
  induction bytes generalizing read place with
  | nil => exact ⟨place, rfl⟩
  | cons b bytes ih =>
    obtain ⟨hb, hrest⟩ := List.forall_mem_cons.mp h
    simp only [isPlainByte, Bool.and_eq_true, bne_iff_ne, ne_eq, decide_eq_true_eq] at hb
    obtain ⟨⟨hquote, hslash⟩, hcontrol⟩ := hb
    have hstep : TextState.plain.step b = .ok (.plain, [b]) := by
      rw [TextState.step, if_neg hslash, if_neg (UInt8.not_lt.mpr hcontrol)]
    obtain ⟨place', hih⟩ := ih hrest (b :: read) (place.after b)
    refine ⟨place', ?_⟩
    rw [List.cons_append, textBytes_cons .plain [b] (fun h => hquote h.2) hstep]
    simpa using hih

theorem isPlainByte_ofNat {n : ℕ} (hn : n < 256) (hcontrol : 32 ≤ n) (hquote : n ≠ 34) (hslash : n ≠ 92) :
    isPlainByte (UInt8.ofNat n) = true := by
  have hbyte := Text.toNat_byte hn
  simp only [isPlainByte, Bool.and_eq_true, bne_iff_ne, ne_eq, decide_eq_true_eq, ← UInt8.toNat_inj,
    UInt8.le_iff_toNat_le, hbyte]
  exact ⟨⟨hquote, hslash⟩, hcontrol⟩

/-- What is not escaped has no quote, no backslash and no control character among its bytes. -/
theorem isPlainByte_of_mem {c : Char} (hquote : c ≠ '"') (hslash : c ≠ '\\') (hcontrol : 32 ≤ c.toNat) :
    ∀ b ∈ String.utf8EncodeChar c, isPlainByte b = true := by
  have hlong : ∀ n < 256, 128 ≤ n → isPlainByte (UInt8.ofNat n) = true := fun n hn hlow =>
    isPlainByte_ofNat hn (by omega) (by omega) (by omega)
  have hv : c.val.toNat ≠ 34 ∧ c.val.toNat ≠ 92 :=
    ⟨fun h => hquote (Char.toNat_inj.mp h), fun h => hslash (Char.toNat_inj.mp h)⟩
  have hcontrol : 32 ≤ c.val.toNat := hcontrol
  unfold String.utf8EncodeChar
  generalize c.val.toNat = v at hv hcontrol
  simp only
  split_ifs
  · intro b hb
    rw [List.mem_singleton.mp hb]
    exact isPlainByte_ofNat (by omega) hcontrol hv.1 hv.2
  all_goals
    simp only [List.forall_mem_cons, List.not_mem_nil, false_implies, implies_true, and_true]
  · exact ⟨hlong _ (by omega) (by omega), hlong _ (by omega) (by omega)⟩
  · exact ⟨hlong _ (by omega) (by omega), hlong _ (by omega) (by omega), hlong _ (by omega) (by omega)⟩
  · exact ⟨hlong _ (by omega) (by omega), hlong _ (by omega) (by omega), hlong _ (by omega) (by omega),
      hlong _ (by omega) (by omega)⟩

/-- An escape by letter. -/
theorem textBytes_letter {b : UInt8} (hb : b ≠ 117) {e : UInt8} (h : escapedByte? b = some e) (read bs : List UInt8)
    (place : Place) :
    ∃ place', textBytes .plain read (92 :: b :: bs) place = textBytes .plain (e :: read) bs place' := by
  have hstep : TextState.escape.step b = .ok (.plain, [e]) := by
    rw [TextState.step, if_neg hb, h]
  refine ⟨(place.after 92).after b, ?_⟩
  rw [textBytes_cons .escape [] (by decide) (by decide),
    textBytes_cons .plain [e] (fun h => TextState.noConfusion h.1) hstep]
  rfl

/-- An escape by number. -/
theorem textBytes_numbered {d₁ d₂ d₃ d₄ : UInt8} {n : ℕ} (h : fourDigits? [d₁, d₂, d₃, d₄] = some n) (hn : n < 32)
    (read bs : List UInt8) (place : Place) :
    ∃ place', textBytes .plain read (92 :: 117 :: d₁ :: d₂ :: d₃ :: d₄ :: bs) place =
      textBytes .plain ((codePointBytes n).reverse ++ read) bs place' := by
  have hlast : (TextState.digits [d₁, d₂, d₃] none).step d₄ = .ok (.plain, codePointBytes n) := by
    have hfour : fourDigits? ([d₁, d₂, d₃] ++ [d₄]) = some n := h
    have hfull : ¬ [d₁, d₂, d₃].length < 3 := Nat.lt_irrefl 3
    rw [TextState.step, if_neg hfull, hfour]
    simp only [numbered]
    rw [if_neg (by omega), if_neg (by omega)]
  refine ⟨[92, 117, d₁, d₂, d₃, d₄].foldl Place.after place, ?_⟩
  rw [textBytes_cons .escape [] (by decide) (by decide),
    textBytes_cons (.digits [] none) [] (fun h => TextState.noConfusion h.1) (by decide),
    textBytes_cons (.digits [d₁] none) [] (fun h => TextState.noConfusion h.1) rfl,
    textBytes_cons (.digits [d₁, d₂] none) [] (fun h => TextState.noConfusion h.1) rfl,
    textBytes_cons (.digits [d₁, d₂, d₃] none) [] (fun h => TextState.noConfusion h.1) rfl,
    textBytes_cons .plain (codePointBytes n) (fun h => TextState.noConfusion h.1) hlast]
  rfl

/-- A character of a text, escaped or not. -/
theorem textBytes_escapedChar (c : Char) (read bs : List UInt8) (place : Place) :
    ∃ place', textBytes .plain read (Text.utf8 (escapedChar c) ++ bs) place =
      textBytes .plain ((String.utf8EncodeChar c).reverse ++ read) bs place' := by
  unfold escapedChar
  split_ifs with h₁ h₂ h₃ h₄ h₅ h₆ h₇ hcontrol
  · subst h₁; exact textBytes_letter (b := 34) (by decide) (by decide) read bs place
  · subst h₂; exact textBytes_letter (b := 92) (by decide) (by decide) read bs place
  · subst h₃; exact textBytes_letter (b := 98) (by decide) (by decide) read bs place
  · subst h₄; exact textBytes_letter (b := 116) (by decide) (by decide) read bs place
  · subst h₅; exact textBytes_letter (b := 110) (by decide) (by decide) read bs place
  · subst h₆; exact textBytes_letter (b := 102) (by decide) (by decide) read bs place
  · subst h₇; exact textBytes_letter (b := 114) (by decide) (by decide) read bs place
  · have hdigits : ∀ n < 32, fourDigits? (Text.utf8 ['0', '0', Text.hexDigit (n / 16), Text.hexDigit (n % 16)]) = some n ∧
        (String.utf8EncodeChar (Text.hexDigit (n / 16))).length = 1 ∧
        (String.utf8EncodeChar (Text.hexDigit (n % 16))).length = 1 := by decide
    obtain ⟨hread, hhigh, hlow⟩ := hdigits _ hcontrol
    obtain ⟨high, hhigh⟩ := List.length_eq_one_iff.mp hhigh
    obtain ⟨low, hlow⟩ := List.length_eq_one_iff.mp hlow
    rw [Text.utf8_cons, Text.utf8_cons, Text.utf8_cons, Text.utf8_cons, hhigh, hlow] at hread
    rw [Text.utf8_cons, Text.utf8_cons, Text.utf8_cons, Text.utf8_cons, Text.utf8_cons, Text.utf8_cons, hhigh, hlow]
    have hchar : codePointBytes c.toNat = String.utf8EncodeChar c := by rw [codePointBytes, Char.ofNat_toNat]
    rw [← hchar]
    exact textBytes_numbered hread hcontrol read bs place
  · have hbytes : Text.utf8 [c] = String.utf8EncodeChar c := by
      rw [Text.utf8_cons]
      exact List.append_nil _
    rw [hbytes]
    exact textBytes_plain (isPlainByte_of_mem h₁ h₂ (by omega)) read bs place

/-- A text up to its closing quote. -/
theorem textBytes_escaped (cs : List Char) (read bs : List UInt8) (place : Place) :
    ∃ place', textBytes .plain read (Text.utf8 (cs.flatMap escapedChar) ++ 34 :: bs) place =
      .ok (read.reverse ++ Text.utf8 cs, ⟨bs, place'⟩) := by
  induction cs generalizing read place with
  | nil => exact ⟨place.after 34, by rw [List.flatMap_nil]; simp [Text.utf8, textBytes]⟩
  | cons c cs ih =>
    obtain ⟨place₁, h₁⟩ := textBytes_escapedChar c read (Text.utf8 (cs.flatMap escapedChar) ++ 34 :: bs) place
    obtain ⟨place₂, h₂⟩ := ih ((String.utf8EncodeChar c).reverse ++ read) place₁
    refine ⟨place₂, ?_⟩
    rw [List.flatMap_cons, Text.utf8_append, List.append_assoc, h₁, h₂, List.reverse_append, List.reverse_reverse,
      List.append_assoc, Text.utf8_cons]

/-- The bytes of a text are UTF-8. -/
theorem fromUTF8?_utf8 (s : String) : String.fromUTF8? ⟨(Text.utf8 s.toList).toArray⟩ = some s := by
  have hbytes : (⟨(Text.utf8 s.toList).toArray⟩ : ByteArray) = s.toByteArray := by
    rw [← String.utf8Encode_toList]
    exact ByteArray.ext List.data_toByteArray.symm
  rw [hbytes]
  exact dif_pos s.isValidUTF8

/-- A text from behind its opening quote. -/
theorem passes_textBody (s : String) (bs : List UInt8) :
    Passes textBody (Text.utf8 (s.toList.flatMap escapedChar) ++ 34 :: bs) s bs := by
  intro place
  obtain ⟨place', hread⟩ := textBytes_escaped s.toList [] bs place
  refine ⟨place', ?_⟩
  simp only [textBody, hread, bind, Except.bind, List.reverse_nil, List.nil_append, fromUTF8?_utf8]

theorem utf8_textText (s : String) :
    Text.utf8 (textText s) = 34 :: (Text.utf8 (s.toList.flatMap escapedChar) ++ [34]) := by
  rw [textText, Text.utf8_cons, Text.utf8_append]
  rfl

/-- A text is read. -/
theorem reads_text (s : String) : Reads text (.text s) s := by
  intro rest _
  rw [Value.bytes, Value.render, utf8_textText, List.cons_append, List.append_assoc]
  exact (passes_valueStart (by decide) _).bind (passes_textBody s rest).advance

end SurveyGateway.Json
