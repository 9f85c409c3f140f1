import SurveyGateway.Failure
import SurveyGateway.Text.Blank
import SurveyGateway.Text.Lowercase

/-!
# Vocabularies

The closed sets of tokens that requests are made of. A token is looked up without regard to letter case and
to blanks around it; an unknown token is refused with the list of those that are known.
-/

namespace SurveyGateway

/-- The canonical spelling of a token. -/
def canonicalToken (token : String) : String := Text.lowercase (Text.trim token)

/-- A vocabulary: how a complaint about it opens, and its tokens in canonical spelling. -/
structure Vocabulary (α : Type) where
  heading : String
  entries : List (String × α)

/-- The meaning of a token. -/
def Vocabulary.parse {α : Type} (v : Vocabulary α) (token : String) : Except Refusal α :=
  match v.entries.find? fun entry => entry.1 == canonicalToken token with
  | some entry => .ok entry.2
  | none => .error (.unknownToken v.heading token (v.entries.map (·.1)))

/-! ### Directions -/

/-- The dimensions of a volume. -/
inductive Dimension where
  | inline
  | crossline
  | sample
  deriving DecidableEq, Repr

/-- The place of a dimension among the three. -/
def Dimension.index : Dimension → Nat
  | .inline => 0
  | .crossline => 1
  | .sample => 2

/-- The axis along which lines are numbered, either by index or by annotation. -/
inductive Direction where
  | i
  | j
  | k
  | inline
  | crossline
  | depth
  | time
  | sample
  deriving DecidableEq, Repr

namespace Direction

/-- The tokens for directions. -/
def vocabulary : Vocabulary Direction where
  heading := "invalid direction"
  entries := [("i", i), ("j", j), ("k", k), ("inline", inline), ("crossline", crossline), ("depth", depth),
    ("time", time), ("sample", sample)]

/-- The direction a token stands for. -/
def parse (token : String) : Except Refusal Direction := vocabulary.parse token

/-- The dimension lines are numbered along. -/
def dimension : Direction → Dimension
  | i | inline => .inline
  | j | crossline => .crossline
  | k | depth | time | sample => .sample

/-- Whether lines go by index. -/
def isIndex : Direction → Bool
  | i | j | k => true
  | _ => false

end Direction

/-! ### Coordinate systems -/

/-- The system that coordinates of a fence are given in. -/
inductive CoordinateSystem where
  /-- Indices of the grid. -/
  | ij
  /-- Inline and crossline annotation. -/
  | ilxl
  /-- World coordinates. -/
  | cdp
  deriving DecidableEq, Repr

namespace CoordinateSystem

/-- The tokens for coordinate systems. -/
def vocabulary : Vocabulary CoordinateSystem where
  heading := "coordinate system not recognized:"
  entries := [("ij", ij), ("ilxl", ilxl), ("cdp", cdp)]

/-- The coordinate system a token stands for. -/
def parse (token : String) : Except Refusal CoordinateSystem := vocabulary.parse token

end CoordinateSystem

/-! ### Interpolation -/

/-- How a trace between grid points is made up. -/
inductive Interpolation where
  | nearest
  | linear
  | cubic
  | angular
  | triangular
  deriving DecidableEq, Repr

namespace Interpolation

/-- The token of the method that is used where none is asked for. -/
def defaultToken : String := "nearest"

/-- The tokens for interpolation methods. -/
def vocabulary : Vocabulary Interpolation where
  heading := "invalid interpolation method"
  entries := [(defaultToken, nearest), ("linear", linear), ("cubic", cubic), ("angular", angular),
    ("triangular", triangular)]

/-- The method a token stands for; a blank one stands for the default. -/
def parse (token : String) : Except Refusal Interpolation :=
  if Text.isBlankText token then .ok nearest else vocabulary.parse token

end Interpolation

/-- The canonical spelling of an interpolation token: a blank one is spelled out. -/
def canonicalInterpolation (token : String) : String :=
  let token := canonicalToken token
  if token.isEmpty then Interpolation.defaultToken else token

/-! ### Attributes -/

/-- A statistic over the window at a surface point. -/
inductive Attribute where
  /-- The value at the surface itself. -/
  | sampleValue
  | min
  | max
  | maxAbs
  | mean
  | meanAbs
  | meanPos
  | meanNeg
  | median
  | rms
  /-- The variance of the window as a whole population. -/
  | var
  /-- The standard deviation of the window as a whole population. -/
  | sd
  | sumPos
  | sumNeg
  deriving DecidableEq, Repr

namespace Attribute

/-- The tokens for attributes. -/
def vocabulary : Vocabulary Attribute where
  heading := "invalid attribute"
  entries := [("samplevalue", sampleValue), ("min", min), ("max", max), ("maxabs", maxAbs), ("mean", mean),
    ("meanabs", meanAbs), ("meanpos", meanPos), ("meanneg", meanNeg), ("median", median), ("rms", rms),
    ("var", var), ("sd", sd), ("sumpos", sumPos), ("sumneg", sumNeg)]

/-- The attribute a token stands for. -/
def parse (token : String) : Except Refusal Attribute := vocabulary.parse token

/-- The attributes that tokens stand for, in order; there has to be one. -/
def parseAll (tokens : List String) : Except Refusal (List Attribute) :=
  if tokens.isEmpty then .error .noAttributes else tokens.mapM parse

end Attribute

end SurveyGateway
