import SurveyGateway.Number.Style
import SurveyGateway.Number.Unsigned

/-!
# Addresses to listen on

A host is named by four octets in decimal, or between brackets by eight groups in hexadecimal, the last two of
which may be written as octets. One run of zero groups may be left out. Addresses are shown in their shortest
form.
-/

namespace SurveyGateway.Service

open Number (readDigits ofDigits natText)

/-- The address of a host. -/
inductive Host where
  | octets (bytes : List Nat)
  | groups (words : List Nat) (scope : Nat)
  deriving DecidableEq, Repr

/-- A reader of the start of a text. -/
abbrev Start (α : Type) := List Char → Option (α × List Char)

namespace Host

/-! ### Reading -/

/-- Up to three decimal digits that spell an octet, without a needless zero in front. -/
def readOctet : Start Nat := fun cs =>
  let (digits, rest) := readDigits 10 cs
  let n := ofDigits 10 digits
  if digits.isEmpty ∨ 3 < digits.length ∨ (digits.head? = some 0 ∧ 1 < digits.length) ∨ 255 < n then none
  else some (n, rest)

/-- Up to four hexadecimal digits. -/
def readGroup : Start Nat := fun cs =>
  let (digits, rest) := readDigits 16 cs
  if digits.isEmpty ∨ 4 < digits.length then none else some (ofDigits 16 digits, rest)

/-- Something behind a separator. -/
def behind {α : Type} (separator : Char) (item : Start α) : Start α
  | c :: cs => if c = separator then item cs else none
  | [] => none

/-- Four octets between dots. -/
def readOctets : Start (List Nat) := fun cs => do
  let (a, cs) ← readOctet cs
  let (b, cs) ← behind '.' readOctet cs
  let (c, cs) ← behind '.' readOctet cs
  let (d, cs) ← behind '.' readOctet cs
  return ([a, b, c, d], cs)

/-- The groups that octets make two by two. -/
def pairOctets : List Nat → List Nat
  | a :: b :: rest => (256 * a + b) :: pairOctets rest
  | _ => []

/-- At most `room` groups between colons, and whether the last two were written as octets. -/
def readGroups (first : Bool) : Nat → List Char → (List Nat × Bool) × List Char
  | 0, cs => (([], false), cs)
  | room + 1, cs =>
    let item {α : Type} (reader : Start α) : Option (α × List Char) :=
      if first then reader cs else behind ':' reader cs
    match if room = 0 then none else item readOctets with
    | some (bytes, rest) => ((pairOctets bytes, true), rest)
    | none =>
      match item readGroup with
      | none => (([], false), cs)
      | some (word, rest) =>
        let ((words, paired), rest) := readGroups false room rest
        ((word :: words, paired), rest)

/-- Eight groups, with two colons in place of a run of zeros if there are fewer. -/
def readWords : Start (List Nat) := fun cs =>
  let ((ahead, paired), rest) := readGroups true 8 cs
  if ahead.length = 8 then some (ahead, rest)
  else if paired then none
  else
    match rest with
    | ':' :: ':' :: rest =>
      let ((last, _), rest) := readGroups true (7 - ahead.length) rest
      some (ahead ++ List.replicate (8 - ahead.length - last.length) 0 ++ last, rest)
    | _ => none

/-- A scope behind a percent sign. -/
def readScope : Start Nat := behind '%' fun cs =>
  let (digits, rest) := readDigits 10 cs
  let n := ofDigits 10 digits
  if digits.isEmpty ∨ 1 <<< 32 ≤ n then none else some (n, rest)

/-- The host that a text names. -/
def read? (s : String) : Option Host :=
  match s.toList with
  | '[' :: cs => do
    let (words, cs) ← readWords cs
    let (scope, cs) := (readScope cs).getD (0, cs)
    if cs = [']'] then some (.groups words scope) else none
  | cs => do
    let (bytes, cs) ← readOctets cs
    if cs.isEmpty then some (.octets bytes) else none

/-! ### Writing -/

/-- Numbers between separators. -/
def between (separator : Char) (texts : List (List Char)) : List Char :=
  List.intercalate [separator] texts

/-- How many zeros the groups begin with. -/
def zeros (words : List Nat) : Nat := (words.takeWhile (· == 0)).length

/-- Where the longest run of zeros begins, the first of several, and how long it is. -/
def longestZeros (words : List Nat) : Nat × Nat :=
  (List.range words.length).foldl (fun best start =>
    let run := zeros (words.drop start)
    if best.2 < run then (start, run) else best) (0, 0)

/-- Eight groups. The longest run of several zeros is left out; octets are shown where they stand for
themselves. -/
def wordsText (words : List Nat) : List Char :=
  match words with
  | [0, 0, 0, 0, 0, 0xffff, a, b] =>
    "::ffff:".toList ++ between '.' ([a / 256, a % 256, b / 256, b % 256].map natText)
  | _ =>
    let hex := words.map Text.hexNatText
    let (start, run) := longestZeros words
    if run ≤ 1 then between ':' hex
    else between ':' (hex.take start) ++ [':', ':'] ++ between ':' (hex.drop (start + run))

/-- The text of a host. -/
def text : Host → List Char
  | .octets bytes => between '.' (bytes.map natText)
  | .groups words scope =>
    '[' :: wordsText words ++ (if scope = 0 then [] else '%' :: natText scope) ++ [']']

end Host

/-- A host and a port. -/
structure Address where
  host : Host
  port : Nat
  deriving DecidableEq, Repr

/-- The text of an address. -/
def Address.text (a : Address) : String := String.ofList (a.host.text ++ ':' :: natText a.port)

end SurveyGateway.Service
