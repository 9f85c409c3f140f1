import Mathlib.Data.List.Basic
import SurveyGateway.Http.Query
import SurveyGateway.Proofs.Text.Find
import SurveyGateway.Proofs.Text.Utf8

/-!
# Documents in queries

A caller that sends no body puts its document into the query of the target, with everything escaped that could mean
something there. What is read from the query is then the document, byte for byte, whatever it holds: no separator is
left in it, and no plus, which would be read as a blank. So a request means the same in a query as in a body, and what
is wrong with it is told in the same words.

## The model

`Escaped bytes written` is the written form of some bytes: letters, digits and four marks stand for themselves, every
other byte is a percent sign and two hexadecimal digits of either case. `escape` is one such form.

## What is proved

* `decode_of_escaped` — the written form is read back.
* `read_target` — a target with a path and a document in its query.
* `same_in_query_and_body` — both ways to make a request agree, on success and on failure.
-/

namespace SurveyGateway

namespace Http.Form

/-! ### Written forms -/

/-- The bytes that stand for themselves: letters, digits, `-`, `.`, `_` and `~`. -/
def isUnreserved (b : UInt8) : Bool :=
  (65 ≤ b && b ≤ 90) || (97 ≤ b && b ≤ 122) || (48 ≤ b && b ≤ 57) || b == 45 || b == 46 || b == 95 || b == 126

/-- The written form of some bytes. -/
inductive Escaped : List UInt8 → List UInt8 → Prop where
  | nil : Escaped [] []
  /-- A byte that stands for itself. -/
  | plain {b : UInt8} {bytes written : List UInt8} (h : isUnreserved b = true) (hrest : Escaped bytes written) :
    Escaped (b :: bytes) (b :: written)
  /-- Any other byte, by its number. -/
  | code {b high low : UInt8} {bytes written : List UInt8} (h : isUnreserved b = false)
    (hhigh : Text.hexValue? high = some (b.toNat / 16)) (hlow : Text.hexValue? low = some (b.toNat % 16))
    (hrest : Escaped bytes written) : Escaped (b :: bytes) (37 :: high :: low :: written)

/-- The uppercase digit of a number below sixteen. -/
def escapeDigit (n : ℕ) : UInt8 := if n < 10 then UInt8.ofNat (48 + n) else UInt8.ofNat (55 + n)

/-- The written form with uppercase digits. -/
def escape (bytes : List UInt8) : List UInt8 :=
  bytes.flatMap fun b => if isUnreserved b then [b] else [37, escapeDigit (b.toNat / 16), escapeDigit (b.toNat % 16)]

theorem hexValue?_escapeDigit : ∀ n < 16, Text.hexValue? (escapeDigit n) = some n := by decide

theorem escaped_escape (bytes : List UInt8) : Escaped bytes (escape bytes) := by
  induction bytes with
  | nil => exact .nil
  | cons b bytes ih =>
    have hb := b.toNat_lt
    cases h : isUnreserved b with
    | true =>
      have hescape : escape (b :: bytes) = b :: escape bytes := by simp [escape, h]
      exact hescape ▸ .plain h ih
    | false =>
      have hescape : escape (b :: bytes) =
          37 :: escapeDigit (b.toNat / 16) :: escapeDigit (b.toNat % 16) :: escape bytes := by simp [escape, h]
      rw [hescape]
      exact .code h (hexValue?_escapeDigit _ (by omega)) (hexValue?_escapeDigit _ (by omega)) ih

variable {bytes written : List UInt8}

theorem decode_cons_of_ne {b : UInt8} (hplus : b ≠ 43) (hpercent : b ≠ 37) (bs : List UInt8) :
    decode (b :: bs) = b :: decode bs := by
  rw [decode]
  · exact hplus
  · exact fun _ _ _ heq _ => hpercent heq

theorem decode_code {high low : UInt8} {h l : ℕ} (hhigh : Text.hexValue? high = some h)
    (hlow : Text.hexValue? low = some l) (bs : List UInt8) :
    decode (37 :: high :: low :: bs) = (16 * h + l).toUInt8 :: decode bs := by
  rw [decode, hhigh, hlow]

/-- The written form of some bytes is read back. -/
theorem decode_of_escaped (h : Escaped bytes written) : decode written = bytes := by
  induction h with
  | nil => rfl
  | plain hb hrest ih =>
    rw [decode_cons_of_ne ?_ ?_, ih]
    · rintro rfl
      cases hb
    · rintro rfl
      cases hb
  | @code b high low _ _ hb hhigh hlow hrest ih =>
    have hnumber : 16 * (b.toNat / 16) + b.toNat % 16 = b.toNat := by omega
    rw [decode_code hhigh hlow, hnumber, ih]
    exact congrArg (· :: _) (UInt8.ofNat_toNat)

theorem isUnreserved_of_hexValue? {b : UInt8} {n : ℕ} (h : Text.hexValue? b = some n) : isUnreserved b = true := by
  unfold Text.hexValue? at h
  unfold isUnreserved
  split_ifs at h with h₁ h₂ h₃
  · simp [h₁]
  · have hle : b ≤ 90 := UInt8.le_trans h₂.2 (by decide)
    simp [h₂.1, hle]
  · have hle : b ≤ 122 := UInt8.le_trans h₃.2 (by decide)
    simp [h₃.1, hle]

/-- Nothing is left in the written form but bytes that stand for themselves, and percent signs. -/
theorem mem_of_escaped (h : Escaped bytes written) : ∀ w ∈ written, isUnreserved w = true ∨ w = 37 := by
  induction h with
  | nil => exact List.forall_mem_nil _
  | plain hb hrest ih => exact List.forall_mem_cons.mpr ⟨Or.inl hb, ih⟩
  | code hb hhigh hlow hrest ih =>
    exact List.forall_mem_cons.mpr ⟨Or.inr rfl, List.forall_mem_cons.mpr ⟨Or.inl (isUnreserved_of_hexValue? hhigh),
      List.forall_mem_cons.mpr ⟨Or.inl (isUnreserved_of_hexValue? hlow), ih⟩⟩⟩

/-- So there is no byte in it that means something in a target. -/
theorem notMem_of_escaped (h : Escaped bytes written) {b : UInt8} (hb : isUnreserved b = false) (hne : b ≠ 37) :
    b ∉ written := by
  intro hmem
  rcases mem_of_escaped h b hmem with hplain | heq
  · rw [hplain] at hb
    cases hb
  · exact hne heq

theorem escaped_self (h : ∀ b ∈ bytes, isUnreserved b = true) : Escaped bytes bytes := by
  induction bytes with
  | nil => exact .nil
  | cons b bytes ih =>
    obtain ⟨hb, hrest⟩ := List.forall_mem_cons.mp h
    exact .plain hb (ih hrest)

theorem decodeText_of_escaped {text : List Char} (h : Escaped (Text.utf8 text) written) :
    decodeText written = String.ofList text := by
  rw [decodeText, decode_of_escaped h, Text.lossyText_utf8]

/-- A form of one field whose name and value are written out. -/
theorem values_of_escaped {name text : List Char} {writtenName : List UInt8} (hname : Escaped (Text.utf8 name) writtenName)
    (h : Escaped (Text.utf8 text) written) :
    values (String.ofList name) (writtenName ++ 61 :: written) = [String.ofList text] := by
  have hamp : (38 : UInt8) ∉ writtenName ++ 61 :: written := by
    intro hmem
    rcases List.mem_append.mp hmem with hmem | hmem
    · exact notMem_of_escaped hname (by decide) (by decide) hmem
    · rcases List.mem_cons.mp hmem with heq | hmem
      · cases heq
      · exact notMem_of_escaped h (by decide) (by decide) hmem
  have hfield : readField (writtenName ++ 61 :: written) = (String.ofList name, String.ofList text) := by
    rw [readField, Text.cut_append (notMem_of_escaped hname (by decide) (by decide))]
    exact Prod.ext (decodeText_of_escaped hname) (decodeText_of_escaped h)
  have hfields : fields (writtenName ++ 61 :: written) = [(String.ofList name, String.ofList text)] := by
    rw [fields, Text.split_of_notMem hamp, List.filter_cons_of_pos (by simp), List.filter_nil, List.map_cons, hfield,
      List.map_nil]
  rw [values, hfields]
  simp

end Http.Form

/-! ### Targets -/

namespace Http.Target

/-- The name of the field with the document, as it is written. -/
def documentField : List UInt8 := Text.utf8 "query".toList

/-- The written target of a path and a document. -/
def carrying (path written : List UInt8) : List UInt8 := path ++ questionMark :: (documentField ++ 61 :: written)

/-- A path as it is written: it starts with a slash, and ends ahead of a query or a fragment. -/
structure IsPath (path : List UInt8) : Prop where
  start : path.head? = some slash
  noQuery : questionMark ∉ path
  noFragment : numberSign ∉ path

variable {path bytes written : List UInt8}

theorem escaped_documentField : Form.Escaped documentField documentField :=
  Form.escaped_self (List.all_eq_true.mp (by decide))

/-- A target with a path and a document is taken apart again. -/
theorem read_carrying (hpath : IsPath path) (h : Form.Escaped bytes written) :
    read (carrying path written) = ⟨path, some (documentField ++ 61 :: written)⟩ := by
  have hne : path ≠ [] := by
    rintro rfl
    cases hpath.start
  have hstart : (carrying path written).head? = some slash := by
    rw [carrying, List.head?_append, hpath.start]
    rfl
  have hfragment : numberSign ∉ carrying path written := by
    intro hmem
    rcases List.mem_append.mp hmem with hmem | hmem
    · exact hpath.noFragment hmem
    · rcases List.mem_cons.mp hmem with heq | hmem
      · cases heq
      · rcases List.mem_append.mp hmem with hmem | hmem
        · exact Form.notMem_of_escaped escaped_documentField (by decide) (by decide) hmem
        · rcases List.mem_cons.mp hmem with heq | hmem
          · cases heq
          · exact Form.notMem_of_escaped h (by decide) (by decide) hmem
  rw [read, if_pos (Or.inl hstart), ofPathAndQuery, Text.cut_of_notMem hfragment, carrying,
    Text.cut_append hpath.noQuery]
  simp [hne]

end Http.Target

/-! ### Requests -/

namespace Request

open Http (Target)

/-- The request of a target that carries a document. -/
theorem ofTarget_carrying (kind : Kind) {document : String} {path written : List UInt8} (hpath : Target.IsPath path)
    (hwritten : Http.Form.Escaped (Text.utf8 document.toList) written) :
    ofTarget kind (Target.read (Target.carrying path written)) =
      (read kind (Text.utf8 document.toList)).mapError fun c => (Refusal.unreadableQuery c).toFailure := by
  have hvalues := Http.Form.values_of_escaped Target.escaped_documentField hwritten
  rw [String.ofList_toList, String.ofList_toList] at hvalues
  rw [ofTarget, Target.read_carrying hpath hwritten, Option.getD_some, hvalues]

/-- What is said ahead of a complaint about the document in a query. -/
def queryPreamble : String :=
  "Please ensure that the supplied query is valid and conforms to the expected request schema: "

/-- **Queries and bodies mean the same.** For every kind of request, every document and every path, let a target carry
the document behind the path, written out in any way that escapes it. Then the target makes a request if and only if
the document as a body does, and both make the same one. When neither does, both failures blame the caller, and what is
said of the query is what is said of the body behind a fixed preamble. -/
theorem same_in_query_and_body (kind : Kind) (document : String) (path written : List UInt8)
    (hpath : Target.IsPath path) (hwritten : Http.Form.Escaped (Text.utf8 document.toList) written) :
    let target := Target.read (Target.carrying path written)
    let body := Text.utf8 document.toList
    (∀ r, ofTarget kind target = .ok r ↔ ofBody kind body = .ok r) ∧
      ∀ f, ofTarget kind target = .error f ↔
        ∃ f', ofBody kind body = .error f' ∧ f'.blame = .caller ∧ f = ⟨.caller, queryPreamble ++ f'.message⟩ := by
  intro target body
  rw [ofTarget_carrying kind hpath hwritten, ofBody]
  cases read kind body with
  | ok r =>
    refine ⟨fun _ => Iff.rfl, fun f => ⟨?_, ?_⟩⟩
    · rintro ⟨⟩
    · rintro ⟨f', ⟨⟩, -⟩
  | error c =>
    have hsaid : (Refusal.unreadableQuery c).toFailure =
        ⟨.caller, queryPreamble ++ (Refusal.unreadable c).toFailure.message⟩ := rfl
    refine ⟨fun r => ⟨?_, ?_⟩, fun f => ⟨fun h => ?_, ?_⟩⟩
    · rintro ⟨⟩
    · rintro ⟨⟩
    · exact ⟨(Refusal.unreadable c).toFailure, rfl, rfl, (Except.error.inj h).symm.trans hsaid⟩
    · rintro ⟨f', hbody, -, rfl⟩
      rw [← Except.error.inj hbody]
      exact congrArg Except.error hsaid

/-- A document with separators, a plus, a percent sign and a letter of two bytes, in lowercase and uppercase digits. -/
theorem same_in_query_and_body_sample :
    let document := "\x7b\"vds\":\"a&b=é\",\"sas\":\"?s=1+2%20\"\x7d"
    let path := Text.utf8 "/metadata".toList
    let written := Http.Form.escape (Text.utf8 document.toList)
    let r : Request := ⟨"a&b=é", some "?s=1+2%20", .metadata⟩
    Target.IsPath path ∧ Http.Form.Escaped (Text.utf8 document.toList) written ∧
      ofBody .metadata (Text.utf8 document.toList) = .ok r ∧
      ofTarget .metadata (Target.read (Target.carrying path written)) = .ok r := by
  intro document path written r
  have hpath : Target.IsPath path := ⟨by decide, by decide, by decide⟩
  have hwritten : Http.Form.Escaped (Text.utf8 document.toList) written := Http.Form.escaped_escape _
  have hbody : ofBody .metadata (Text.utf8 document.toList) = .ok r := by
    decide +kernel
  exact ⟨hpath, hwritten, hbody, ((same_in_query_and_body .metadata document path written hpath hwritten).1 r).mpr hbody⟩

end Request

end SurveyGateway
