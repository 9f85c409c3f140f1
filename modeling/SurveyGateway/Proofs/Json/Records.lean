import SurveyGateway.Proofs.Json.Passing

/-!
# Lists and records inside documents

A list is read as its items are, one behind the other. So is a record: `Gathers members draft ms draft'` says that the
members `ms` of an object, read in order, take the draft `draft` to `draft'`. Each of them is known by its name, has not
been read before, and is read by the reader of that name.

## What is proved

* `reads_list`, `reads_optional` — lists, and values that may be `null`.
* `reads_record` — a record is read from an object whose members gather a complete draft.
-/

namespace SurveyGateway.Json

open Reader

variable {α β δ : Type} {rest : List UInt8}

/-! ### Lists -/

theorem passes_nextItem_end (first : Bool) (bs : List UInt8) : Passes (nextItem first) (93 :: bs) false (93 :: bs) :=
  (passes_peekToken (by decide) bs).bind (passes_pure _ _)

theorem passes_nextItem_first {b : UInt8} (hspace : Cursor.isSpace b = false) (hb : b ≠ 93) (bs : List UInt8) :
    Passes (nextItem true) (b :: bs) true (b :: bs) := by
  refine (passes_peekToken hspace bs).bind ?_
  split
  · next heq => cases heq
  · next heq => exact absurd (Option.some.inj heq) hb
  · exact passes_pure _ _

/-- Another item behind a comma. -/
theorem passes_nextItem_comma {b : UInt8} (hspace : Cursor.isSpace b = false) (hb : b ≠ 93) (bs : List UInt8) :
    Passes (nextItem false) (44 :: b :: bs) true (b :: bs) := by
  refine (passes_peekToken (by decide) _).bind (Passes.advance ((passes_peekToken hspace bs).bind ?_))
  split
  · next heq => cases heq
  · next heq => exact absurd (Option.some.inj heq) hb
  · exact passes_pure _ _

theorem utf8_renderItems_cons (v : Value) (vs : List Value) :
    Text.utf8 (Value.renderItems (v :: vs)) = 44 :: (v.bytes ++ Text.utf8 (Value.renderItems vs)) := by
  rw [Value.renderItems, Text.utf8_cons, Text.utf8_append]
  rfl

theorem length_lt_renderItems (vs : List Value) : vs.length < (Text.utf8 (Value.renderItems vs)).length := by
  induction vs with
  | nil => rw [Value.renderItems]; decide
  | cons v vs ih =>
    rw [utf8_renderItems_cons, List.length_cons, List.length_cons, List.length_append]
    omega

theorem endsValue_renderItems (vs : List Value) (rest : List UInt8) :
    EndsValue (Text.utf8 (Value.renderItems vs) ++ rest) := by
  cases vs with
  | nil => rw [Value.renderItems]; exact endsValue_cons _ (by decide)
  | cons v vs => rw [utf8_renderItems_cons]; exact endsValue_cons _ (by decide)

/-- The items behind those already read. -/
theorem passes_items {item : Reader α} {vs : List Value} {xs : List α} (h : List.Forall₂ (Reads item) vs xs)
    (fuel : List UInt8) (hfuel : vs.length < fuel.length) (x : α) (read : List α) (rest : List UInt8) :
    Passes (items item fuel (x :: read)) (Text.utf8 (Value.renderItems vs) ++ rest) ((x :: read).reverse ++ xs)
      (93 :: rest) := by
  induction h generalizing fuel x read with
  | nil =>
    obtain ⟨f, fuel, rfl⟩ := List.exists_cons_of_length_pos (by omega : 0 < fuel.length)
    rw [items, List.append_nil, Value.renderItems]
    exact (passes_nextItem_end _ _).bind (passes_pure _ _)
  | @cons v y vs ys hv hvs ih =>
    obtain ⟨f, fuel, rfl⟩ := List.exists_cons_of_length_pos (by omega : 0 < fuel.length)
    obtain ⟨b, bs, hbytes, hspace, -, hb, -⟩ := bytes_head v
    have hitem := hv _ (endsValue_renderItems vs rest)
    have hitems := ih fuel (by simpa using hfuel) y (x :: read)
    rw [items, utf8_renderItems_cons, List.cons_append, List.append_assoc]
    rw [hbytes, List.cons_append] at hitem ⊢
    refine (passes_nextItem_comma hspace hb _).bind (hitem.bind ?_)
    simpa using hitems

/-- A list from behind its opening bracket. -/
theorem passes_list {item : Reader α} {ahead : List UInt8} {xs : List α}
    (h : Passes (items item ahead []) ahead xs (93 :: rest)) : Passes (list item) (91 :: ahead) xs rest :=
  (passes_valueStart (by decide) _).bind
    (Passes.advance (Passes.cursor fun _ => h.bind (Passes.advance (passes_pure xs rest))))

/-- A list is read as its items are. -/
theorem reads_list {item : Reader α} {vs : List Value} {xs : List α} (h : List.Forall₂ (Reads item) vs xs) :
    Reads (list item) (.list vs) xs := by
  intro rest hrest
  cases h with
  | nil =>
    have hbytes : (Value.list []).bytes = [91, 93] := by rw [Value.bytes, Value.render]; rfl
    rw [hbytes, List.cons_append, List.singleton_append]
    refine passes_list ?_
    rw [items]
    exact (passes_nextItem_end _ _).bind (passes_pure _ _)
  | @cons v x vs xs hv hvs =>
    have hbytes : (Value.list (v :: vs)).bytes = 91 :: (v.bytes ++ Text.utf8 (Value.renderItems vs)) := by
      rw [Value.bytes, Value.render, Text.utf8_cons, Text.utf8_append]
      rfl
    obtain ⟨b, bs, hhead, hspace, -, hb, -⟩ := bytes_head v
    have hitem := hv _ (endsValue_renderItems vs rest)
    have hitems := passes_items hvs (bs ++ (Text.utf8 (Value.renderItems vs) ++ rest)) (by
      have hlength := length_lt_renderItems vs
      simp only [List.length_append]
      omega) x [] rest
    rw [hbytes, List.cons_append, List.append_assoc]
    rw [hhead, List.cons_append] at hitem ⊢
    refine passes_list ?_
    rw [items]
    exact (passes_nextItem_first hspace hb _).bind (hitem.bind hitems)

/-! ### Values that may be missing -/

/-- A value that is not `null`. -/
theorem reads_optional {value : Reader α} {v : Value} {x : α} (hv : ∃ b bs, v.bytes = b :: bs ∧ b ≠ 110)
    (h : Reads value v x) : Reads (optional value) v (some x) := by
  intro rest hrest
  obtain ⟨b, bs, hbytes, hb⟩ := hv
  obtain ⟨b', bs', hbytes', hspace, -⟩ := bytes_head v
  obtain ⟨rfl, rfl⟩ := List.cons.inj (hbytes.symm.trans hbytes')
  have hvalue := h rest hrest
  rw [hbytes, List.cons_append] at hvalue ⊢
  refine (passes_peekToken hspace _).bind ?_
  rw [if_neg fun heq => hb (Option.some.inj heq)]
  exact hvalue.bind (passes_pure _ _)

/-! ### Members of an object -/

theorem passes_nextMember_end (first : Bool) (bs : List UInt8) :
    Passes (nextMember first) (125 :: bs) false (125 :: bs) :=
  (passes_peekToken (by decide) bs).bind (passes_pure _ _)

theorem passes_nextMember_first (bs : List UInt8) : Passes (nextMember true) (34 :: bs) true (34 :: bs) :=
  (passes_peekToken (by decide) bs).bind (passes_pure _ _)

/-- Another member behind a comma. -/
theorem passes_nextMember_comma (bs : List UInt8) : Passes (nextMember false) (44 :: 34 :: bs) true (34 :: bs) :=
  (passes_peekToken (by decide) _).bind (Passes.advance ((passes_peekToken (by decide) bs).bind (passes_pure _ _)))

/-- The text of a member. -/
def memberBytes (name : String) (v : Value) : List UInt8 := Text.utf8 (textText name) ++ 58 :: v.bytes

theorem memberBytes_eq (name : String) (v : Value) : ∃ bs, memberBytes name v = 34 :: bs :=
  ⟨_, by rw [memberBytes, utf8_textText, List.cons_append]⟩

theorem utf8_renderMembers_cons (name : String) (v : Value) (ms : List (String × Value)) :
    Text.utf8 (Value.renderMembers ((name, v) :: ms)) =
      44 :: (memberBytes name v ++ Text.utf8 (Value.renderMembers ms)) := by
  rw [Value.renderMembers, Text.utf8_cons, Text.utf8_append, Text.utf8_cons, Text.utf8_append, memberBytes, List.append_assoc]
  rfl

theorem length_lt_renderMembers (ms : List (String × Value)) :
    ms.length < (Text.utf8 (Value.renderMembers ms)).length := by
  induction ms with
  | nil => rw [Value.renderMembers]; decide
  | cons m ms ih =>
    rw [utf8_renderMembers_cons, List.length_cons, List.length_cons, List.length_append]
    omega

theorem endsValue_renderMembers (ms : List (String × Value)) (rest : List UInt8) :
    EndsValue (Text.utf8 (Value.renderMembers ms) ++ rest) := by
  cases ms with
  | nil => rw [Value.renderMembers]; exact endsValue_cons _ (by decide)
  | cons m ms => rw [utf8_renderMembers_cons]; exact endsValue_cons _ (by decide)

/-- Reading the members `ms` in order takes the one draft to the other. -/
inductive Gathers (members : List (Member δ)) : δ → List (String × Value) → δ → Prop where
  | nil (draft : δ) : Gathers members draft [] draft
  | cons {name : String} {v : Value} {ms : List (String × Value)} {draft draft' draft'' : δ} {member : Member δ}
    (hfind : members.find? (·.name == name) = some member) (habsent : member.isPresent draft = false)
    (hread : Reads (member.read draft) v draft') (hrest : Gathers members draft' ms draft'') :
    Gathers members draft ((name, v) :: ms) draft''

/-- A member whose value is stored in the draft. -/
theorem Gathers.store {members : List (Member δ)} {name : String} {v : Value} {x : α} {ms : List (String × Value)}
    {draft draft' : δ} {reader : Reader α} {set : δ → α → δ} {isPresent : δ → Bool} {isOptional : Bool}
    (hfind : members.find? (·.name == name) = some ⟨name, fun d => return set d (← reader), isPresent, isOptional⟩)
    (habsent : isPresent draft = false) (hread : Reads reader v x) (hrest : Gathers members (set draft x) ms draft') :
    Gathers members draft ((name, v) :: ms) draft' :=
  .cons hfind habsent (hread.map (set draft)) hrest

/-- Some members behind others. -/
theorem Gathers.append {members : List (Member δ)} {ms ms' : List (String × Value)} {draft draft' draft'' : δ}
    (h : Gathers members draft ms draft') (h' : Gathers members draft' ms' draft'') :
    Gathers members draft (ms ++ ms') draft'' := by
  induction h with
  | nil => exact h'
  | cons hfind habsent hread _ ih => exact .cons hfind habsent hread (ih h')

/-- One member, and those behind it. -/
theorem passes_member {members : List (Member δ)} {member : Member δ} {name : String} {v : Value} {draft draft' draft'' : δ}
    {first : Bool} {before behind fuel : List UInt8} (f : UInt8)
    (hnext : Passes (nextMember first) before true (memberBytes name v ++ behind))
    (hfind : members.find? (·.name == name) = some member) (habsent : member.isPresent draft = false)
    (hread : Reads (member.read draft) v draft') (hbehind : EndsValue behind)
    (hrest : Passes (objectMembers members fuel false draft') behind draft'' rest) :
    Passes (objectMembers members (f :: fuel) first draft) before draft'' rest := by
  rw [objectMembers]
  refine hnext.bind ?_
  rw [memberBytes, utf8_textText, List.cons_append, List.cons_append, List.append_assoc, List.append_assoc]
  refine Passes.advance ((passes_textBody name _).bind ?_)
  rw [hfind]
  simp only [habsent]
  have hcolon : Passes colon (58 :: (v.bytes ++ behind)) () (v.bytes ++ behind) :=
    (passes_peekToken (by decide) _).bind (passes_advance _ _)
  exact hcolon.bind ((hread behind hbehind).bind hrest)

/-- The members behind the first one. -/
theorem passes_members {members : List (Member δ)} {ms : List (String × Value)} {draft draft' : δ}
    (h : Gathers members draft ms draft') (fuel : List UInt8) (hfuel : ms.length < fuel.length) (rest : List UInt8) :
    Passes (objectMembers members fuel false draft) (Text.utf8 (Value.renderMembers ms) ++ rest) draft' (125 :: rest) := by
  induction h generalizing fuel with
  | nil =>
    obtain ⟨f, fuel, rfl⟩ := List.exists_cons_of_length_pos (by omega : 0 < fuel.length)
    rw [objectMembers, Value.renderMembers]
    exact (passes_nextMember_end _ _).bind (passes_pure _ _)
  | @cons name v ms draft _ _ _ hfind habsent hread hms ih =>
    obtain ⟨f, fuel, rfl⟩ := List.exists_cons_of_length_pos (by omega : 0 < fuel.length)
    rw [utf8_renderMembers_cons, List.cons_append, List.append_assoc]
    refine passes_member f ?_ hfind habsent hread (endsValue_renderMembers ms rest) (ih fuel (by simpa using hfuel))
    obtain ⟨bs, hbs⟩ := memberBytes_eq name v
    rw [hbs, List.cons_append]
    exact passes_nextMember_comma _

/-- A record is read from an object whose members gather a complete draft. -/
theorem reads_record {r : Record α δ} {ms : List (String × Value)} {draft : δ} {x : α} (hne : ms ≠ [])
    (h : Gathers r.members r.empty ms draft) (hx : r.value? draft = some x) : Reads (record r) (.object ms) x := by
  intro rest hrest
  cases h with
  | nil => exact absurd rfl hne
  | @cons name v ms _ draft' _ _ hfind habsent hread hms =>
    have hbytes : (Value.object ((name, v) :: ms)).bytes =
        123 :: (memberBytes name v ++ Text.utf8 (Value.renderMembers ms)) := by
      rw [Value.bytes, Value.render, Text.utf8_cons, Text.utf8_append, Text.utf8_cons, Text.utf8_append, memberBytes, List.append_assoc]
      rfl
    obtain ⟨bs, hbs⟩ := memberBytes_eq name v
    have hmembers := passes_members hms (bs ++ (Text.utf8 (Value.renderMembers ms) ++ rest)) (by
      have hlength := length_lt_renderMembers ms
      simp only [List.length_append]
      omega) rest
    have hgather : Passes (objectMembers r.members (34 :: (bs ++ (Text.utf8 (Value.renderMembers ms) ++ rest))) true r.empty)
        (34 :: (bs ++ (Text.utf8 (Value.renderMembers ms) ++ rest))) draft (125 :: rest) := by
      refine passes_member 34 ?_ hfind habsent hread (endsValue_renderMembers ms rest) hmembers
      rw [hbs]
      exact passes_nextMember_first _
    have hfinish : r.finish draft = pure x := by
      rw [Record.finish, hx]
    rw [hbytes, List.cons_append, List.append_assoc, hbs, List.cons_append]
    refine (passes_valueStart (by decide) _).bind (Passes.advance (Passes.cursor fun _ => hgather.bind (Passes.advance ?_)))
    rw [hfinish]
    exact passes_pure x rest

end SurveyGateway.Json
