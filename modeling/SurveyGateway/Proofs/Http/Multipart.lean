import SurveyGateway.Proofs.Text.Blank
import SurveyGateway.Proofs.Text.Find
import SurveyGateway.Service.Delivery

/-!
# Reading what has been written

A body of several parts is written around a boundary and taken apart again at the delimiter, which is the boundary
behind a line break and two dashes. Contents are arbitrary bytes, so a reader that looks for the first delimiter could
find it in the wrong place: across the end of the headers and the start of the content, inside the content, or across
the end of the content and the real delimiter.

## The model

`Free boundary content` says that there is no delimiter in the content, not even one that begins with the line break
ahead of it. `closing boundary parts` is what is written behind a boundary: the remaining parts, or the two dashes that
end the body.

## What is proved

* `find?_delimiter` — behind headers and a free content the first delimiter is the real one, since a line break starts
  a delimiter and does not come again in it.
* `readParts_closing` — the parts are read one by one, each up to its own delimiter.
* `free_of_readParts` — what reading gives is always free, whatever the body.
* `read_write_iff` — so a product comes back as it was written exactly if all of its contents are free.
-/

namespace SurveyGateway.Http.Multipart

/-! ### Boundaries and delimiters -/

/-- A boundary as responses have it: thirty-two lowercase hexadecimal digits. -/
def IsBoundary (boundary : String) : Prop :=
  boundary.toList.length = 32 ∧ ∀ c ∈ boundary.toList, ∃ n < 16, c = Text.hexDigit n

/-- Two dashes and the boundary. -/
def mark (boundary : String) : List UInt8 := dashes ++ Text.utf8 boundary.toList

/-- The mark behind a line break. -/
def delimiter (boundary : String) : List UInt8 := lineBreak ++ mark boundary

/-- A content without a delimiter, the line break ahead of it included. -/
def Free (boundary : String) (content : List UInt8) : Prop := ¬ delimiter boundary <:+: lineBreak ++ content

instance (boundary : String) (content : List UInt8) : Decidable (Free boundary content) :=
  inferInstanceAs (Decidable (¬ _))

theorem delimiter_eq (boundary : String) : delimiter boundary = 13 :: 10 :: mark boundary := rfl

namespace IsBoundary

variable {boundary : String}

/-- No digit is a blank, a semicolon or written with the byte that starts a line break. -/
theorem plain (h : IsBoundary boundary) : ∀ c ∈ boundary.toList,
    Text.isBlank c = false ∧ c ≠ ';' ∧ (13 : UInt8) ∉ String.utf8EncodeChar c := by
  have hdigits : ∀ n < 16, Text.isBlank (Text.hexDigit n) = false ∧ Text.hexDigit n ≠ ';' ∧
      (13 : UInt8) ∉ String.utf8EncodeChar (Text.hexDigit n) := by decide
  intro c hc
  obtain ⟨n, hn, rfl⟩ := h.2 c hc
  exact hdigits n hn

/-- The start of a line break does not come again in a delimiter. -/
theorem return_notMem (h : IsBoundary boundary) : (13 : UInt8) ∉ 10 :: mark boundary := by
  intro hmem
  simp only [mark, dashes, Text.utf8, List.cons_append, List.nil_append, List.mem_cons, List.mem_flatMap] at hmem
  rcases hmem with hmem | hmem | hmem | ⟨c, hc, hmem⟩
  · cases hmem
  · cases hmem
  · cases hmem
  · exact (h.plain c hc).2.2 hmem

/-- The boundary is told by the type of the body. -/
theorem boundary?_contentType (h : IsBoundary boundary) :
    boundary? (contentType boundary) = some boundary.toList := by
  have hopening : "multipart/mixed; boundary=".toList = "multipart/mixed".toList ++ ';' :: " boundary=".toList := by
    decide
  have htype : (contentType boundary).toList =
      "multipart/mixed".toList ++ ';' :: (" boundary=".toList ++ boundary.toList) := by
    refine String.toList_append.trans ?_
    rw [hopening, List.append_assoc, List.cons_append]
  have hsemicolon : ';' ∉ " boundary=".toList ++ boundary.toList := by
    intro hmem
    rcases List.mem_append.mp hmem with hmem | hmem
    · revert hmem
      decide
    · exact (h.plain _ hmem).2.1 rfl
  have htrimmed : Text.trimmed (" boundary=".toList ++ boundary.toList) = "boundary=".toList ++ boundary.toList := by
    have hahead : ∀ c ∈ [' '], Text.isBlank c = true := List.forall_mem_singleton.mpr (by decide)
    have hbehind : ∀ c ∈ [], Text.isBlank c = true := List.forall_mem_nil _
    have hpad := Text.trimmed_pad hahead hbehind ("boundary=".toList ++ boundary.toList)
    rw [List.append_nil] at hpad
    refine hpad.trans (Text.trimmed_eq_self ?_ ?_)
    · intro c hc
      obtain rfl := Option.mem_some.mp hc
      decide
    · intro c hc
      rw [List.getLast?_append] at hc
      cases hlast : boundary.toList.getLast? with
      | none =>
        have hlength := h.1
        rw [List.getLast?_eq_none_iff.mp hlast] at hlength
        cases hlength
      | some d =>
        rw [hlast] at hc
        obtain rfl := Option.mem_some.mp hc
        exact (h.plain _ (List.mem_of_getLast? hlast)).1
  rw [boundary?, htype, Text.split_append (by decide), Text.split_of_notMem hsemicolon, List.findSome?_cons_of_isNone (by decide),
    List.findSome?_cons, htrimmed, Text.behind?_append]

end IsBoundary

/-! ### One part -/

/-- The header of a part. -/
def header (type : String) : List UInt8 := Text.utf8 ("Content-Type: " ++ type).toList

/-- A part without its boundary: header, an empty line and content. -/
def inner (p : Part) : List UInt8 := header p.contentType ++ (lineBreak ++ lineBreak ++ p.content)

/-- A type whose header has no line break and tells it. -/
def Legible (type : String) : Prop := (13 : UInt8) ∉ header type ∧ readPart (inner ⟨type, []⟩) = .ok ⟨type, []⟩

theorem legible_document : Legible "application/json" := by
  constructor <;> decide

theorem legible_block : Legible "application/octet-stream" := by
  constructor <;> decide

theorem find?_headerEnd {type : String} (h : (13 : UInt8) ∉ header type) (content : List UInt8) :
    Text.find? (lineBreak ++ lineBreak) (inner ⟨type, content⟩) = some (header type).length :=
  Text.find?_append_of_notMem h content

/-- The content of a part is what follows its headers, whatever it is. -/
theorem readPart_inner {p : Part} (h : Legible p.contentType) : readPart (inner p) = .ok p := by
  obtain ⟨type, content⟩ := p
  obtain ⟨hreturn, hempty⟩ := h
  have hcontent : readPart (inner ⟨type, content⟩) =
      (readPart (inner ⟨type, []⟩)).map fun q => { q with content } := by
    simp only [readPart, find?_headerEnd hreturn]
    have htake : ∀ content, (inner ⟨type, content⟩).take (header type).length = header type := fun content =>
      List.take_left
    have hdrop : ∀ content, (inner ⟨type, content⟩).drop ((header type).length + 4) = content := fun content => by
      rw [inner, ← List.append_assoc]
      exact List.drop_left' (by simp [lineBreak])
    rw [htake, htake, hdrop]
    cases headerText (header type) with
    | error fault => rfl
    | ok headers =>
      dsimp only [bind, Except.bind]
      cases (lines headers).findSome? typeOfLine? <;> rfl
  rw [hcontent, hempty]
  rfl

/-! ### All parts -/

/-- What is written behind a boundary: the parts that are left, or the end of the body. -/
def closing (boundary : String) : List Part → List UInt8
  | [] => dashes ++ lineBreak
  | p :: parts => lineBreak ++ (inner p ++ (delimiter boundary ++ closing boundary parts))

theorem write_eq (boundary : String) (parts : List Part) :
    write boundary parts = mark boundary ++ closing boundary parts := by
  induction parts with
  | nil => simp [write, closing, mark]
  | cons p parts ih =>
    have hcons : write boundary (p :: parts) = writePart boundary p ++ write boundary parts := by
      simp [write, List.append_assoc]
    rw [hcons, ih]
    simp [writePart, closing, mark, delimiter, inner, header, List.append_assoc]

variable {boundary : String}

/-- No delimiter begins in the headers, across them and the content, or in the content. -/
theorem Free.not_infix_inner {p : Part} (hfree : Free boundary p.content) (hp : Legible p.contentType) :
    ¬ delimiter boundary <:+: inner p := by
  rw [inner, delimiter_eq, Text.infix_append_of_notMem hp.1, lineBreak]
  intro hin
  rcases List.infix_cons_iff.mp hin with hin | hin
  · -- the line break that ends the headers is followed by another one, and not by dashes
    have hsecond := (List.cons_prefix_cons.mp (List.cons_prefix_cons.mp hin).2).2
    cases (List.cons_prefix_cons.mp hsecond).1
  · rcases List.infix_cons_iff.mp hin with hin | hin
    · cases (List.cons_prefix_cons.mp hin).1
    · exact hfree hin

/-- The first delimiter behind a part is the one that ends it. -/
theorem find?_delimiter (hb : IsBoundary boundary) {p : Part} (hp : Legible p.contentType)
    (hfree : Free boundary p.content) (rest : List UInt8) :
    Text.find? (delimiter boundary) (inner p ++ (delimiter boundary ++ rest)) = some (inner p).length :=
  Text.find?_append_of_not_infix hb.return_notMem (hfree.not_infix_inner hp) rest

theorem drop_delimiter (boundary : String) (p : Part) (rest : List UInt8) :
    (inner p ++ (delimiter boundary ++ rest)).drop ((inner p).length + (delimiter boundary).length) = rest := by
  rw [← List.append_assoc]
  exact List.drop_left' List.length_append

/-- A part with another one behind it. -/
theorem readParts_next (hb : IsBoundary boundary) {p : Part} (hp : Legible p.contentType)
    (hfree : Free boundary p.content) (rest : List UInt8) :
    readParts (delimiter boundary) (inner p ++ (delimiter boundary ++ (lineBreak ++ rest))) =
      (readParts (delimiter boundary) rest).map (p :: ·) := by
  have hdrop := drop_delimiter boundary p (lineBreak ++ rest)
  rw [readParts, find?_delimiter hb hp hfree]
  simp only [List.take_left, readPart_inner hp]
  split
  · next h =>
    rw [hdrop] at h
    cases h
  · next h =>
    rw [hdrop] at h
    cases h
    rfl
  · next h => exact absurd hdrop (h rest)

/-- The last part. -/
theorem readParts_last (hb : IsBoundary boundary) {p : Part} (hp : Legible p.contentType)
    (hfree : Free boundary p.content) (rest : List UInt8) :
    readParts (delimiter boundary) (inner p ++ (delimiter boundary ++ (dashes ++ rest))) = .ok [p] := by
  have hdrop := drop_delimiter boundary p (dashes ++ rest)
  rw [readParts, find?_delimiter hb hp hfree]
  simp only [List.take_left, readPart_inner hp]
  split
  · rfl
  · next h =>
    rw [hdrop] at h
    cases h
  · next h _ => exact absurd hdrop (h rest)

/-- All parts behind a first boundary. -/
theorem readParts_closing (hb : IsBoundary boundary) {p : Part} {parts : List Part}
    (hlegible : ∀ q ∈ p :: parts, Legible q.contentType) (hfree : ∀ q ∈ p :: parts, Free boundary q.content) :
    readParts (delimiter boundary) (inner p ++ (delimiter boundary ++ closing boundary parts)) = .ok (p :: parts) := by
  induction parts generalizing p with
  | nil => exact readParts_last hb (hlegible p List.mem_cons_self) (hfree p List.mem_cons_self) lineBreak
  | cons q parts ih =>
    have hrest := ih (fun x hx => hlegible x (List.mem_cons_of_mem p hx)) fun x hx => hfree x (List.mem_cons_of_mem p hx)
    rw [closing, readParts_next hb (hlegible p List.mem_cons_self) (hfree p List.mem_cons_self), hrest]
    rfl

/-- Reading finds the first boundary and starts with the first part. -/
theorem read_write_cons (hb : IsBoundary boundary) (p : Part) (parts : List Part) :
    read (contentType boundary) (write boundary (p :: parts)) =
      readParts (delimiter boundary) (inner p ++ (delimiter boundary ++ closing boundary parts)) := by
  have hopening : write boundary (p :: parts) =
      (mark boundary ++ lineBreak) ++ (inner p ++ (delimiter boundary ++ closing boundary parts)) := by
    rw [write_eq, closing, List.append_assoc]
  rw [read, hb.boundary?_contentType, hopening]
  simp only [mark, Text.behind?_append]
  rfl

/-! ### What reading gives -/

/-- A content that has been read does not hold the delimiter that ended it. -/
theorem free_of_readPart {bytes : List UInt8} {p : Part} (h : readPart bytes = .ok p)
    (hnone : ¬ delimiter boundary <:+: bytes) : Free boundary p.content := by
  unfold readPart at h
  cases hn : Text.find? (lineBreak ++ lineBreak) bytes with
  | none => rw [hn] at h; cases h
  | some n =>
    rw [hn] at h
    have hcontent : p.content = bytes.drop (n + 4) := by
      cases hheaders : headerText (bytes.take n) with
      | error fault => simp [hheaders, bind, Except.bind] at h
      | ok headers =>
        simp only [hheaders, bind, Except.bind] at h
        split at h
        · cases h; rfl
        · cases h
    intro hin
    -- the line break ahead of the content is the second one of the two behind the headers
    obtain ⟨tail, htail⟩ := (Text.find?_eq_some hn).1
    have htail' : tail = bytes.drop (n + 4) := by
      rw [← List.drop_drop, ← htail]
      rfl
    have hsecond : lineBreak ++ p.content = bytes.drop (n + 2) := by
      rw [hcontent, ← htail', ← List.drop_drop, ← htail]
      rfl
    rw [hsecond] at hin
    exact hnone (hin.trans (List.drop_suffix _ _).isInfix)

theorem free_of_readParts {bytes : List UInt8} {parts : List Part}
    (h : readParts (delimiter boundary) bytes = .ok parts) : ∀ p ∈ parts, Free boundary p.content := by
  have hfirst : ∀ {bytes n p}, Text.find? (delimiter boundary) bytes = some n → readPart (bytes.take n) = .ok p →
      Free boundary p.content := fun hn hp =>
    free_of_readPart hp ((Text.find?_eq_some hn).2 (List.cons_ne_nil _ _))
  fun_induction readParts (delimiter boundary) bytes generalizing parts with
  | case1 | case2 | case5 => cases h
  | case3 bytes n hn p hp =>
    cases h
    intro q hq
    rw [List.mem_singleton.mp hq]
    exact hfirst hn hp
  | case4 bytes n hn p hp rest hdrop ih =>
    cases hrest : readParts (delimiter boundary) rest with
    | error fault =>
      rw [hrest] at h
      cases h
    | ok others =>
      rw [hrest] at h
      cases h
      intro q hq
      rcases List.mem_cons.mp hq with rfl | hq
      · exact hfirst hn hp
      · exact ih hrest q hq

/-- Parts come back as they were written exactly if their contents are free. -/
theorem read_write_iff (hb : IsBoundary boundary) {p : Part} {parts : List Part}
    (hlegible : ∀ q ∈ p :: parts, Legible q.contentType) :
    read (contentType boundary) (write boundary (p :: parts)) = .ok (p :: parts) ↔
      ∀ q ∈ p :: parts, Free boundary q.content := by
  rw [read_write_cons hb]
  exact ⟨free_of_readParts, readParts_closing hb hlegible⟩

/-- **A product that is delivered in parts comes back as it was written.**

For every boundary, and whatever bytes the metadata and the blocks are made of: the body is taken apart into the
metadata as a document and every block in order, byte for byte, exactly if neither the metadata nor a block holds the
delimiter, the line break ahead of it included. -/
theorem delivered_read_back (hb : IsBoundary boundary) (s : Served) :
    read (contentType boundary) (write boundary s.parts) =
        .ok (⟨"application/json", s.product.metadata⟩ ::
          s.product.blocks.map fun block => ⟨"application/octet-stream", block⟩) ↔
      ∀ content ∈ s.product.metadata :: s.product.blocks, Free boundary content := by
  have hlegible : ∀ q ∈ s.parts, Legible q.contentType := by
    intro q hq
    rcases List.mem_cons.mp hq with rfl | hq
    · exact legible_document
    · obtain ⟨block, -, rfl⟩ := List.mem_map.mp hq
      exact legible_block
  refine (read_write_iff hb hlegible).trans ?_
  simp only [List.forall_mem_cons, List.forall_mem_map]

/-- A boundary of all digits. -/
def Sample.digits : String := "0123456789abcdef0123456789abcdef"

/-- An empty block, one that starts and ends like a delimiter, and one of two dashes. -/
def Sample.framed : Served := ⟨⟨[123, 125], [[], [13, 10, 45, 45, 48, 13, 10, 13, 10, 45, 45], [45, 45]]⟩, false⟩

theorem delivered_read_back_sample : IsBoundary Sample.digits ∧
    (∀ content ∈ Sample.framed.product.metadata :: Sample.framed.product.blocks, Free Sample.digits content) ∧
    read (contentType Sample.digits) (write Sample.digits Sample.framed.parts) =
      .ok [⟨"application/json", [123, 125]⟩, ⟨"application/octet-stream", []⟩,
        ⟨"application/octet-stream", [13, 10, 45, 45, 48, 13, 10, 13, 10, 45, 45]⟩,
        ⟨"application/octet-stream", [45, 45]⟩] := by
  have hb : IsBoundary Sample.digits := by
    have hdigits : Sample.digits.toList = (List.range 32).map fun n => Text.hexDigit (n % 16) := by decide
    refine ⟨by decide, fun c hc => ?_⟩
    rw [hdigits] at hc
    obtain ⟨n, -, rfl⟩ := List.mem_map.mp hc
    exact ⟨n % 16, Nat.mod_lt _ (by decide), rfl⟩
  have hfree : ∀ content ∈ Sample.framed.product.metadata :: Sample.framed.product.blocks,
      Free Sample.digits content := by
    decide
  exact ⟨hb, hfree, (delivered_read_back hb Sample.framed).mpr hfree⟩

end SurveyGateway.Http.Multipart
