import GatewayConfig.Text.Decomposition
import GatewayConfig.Text.Mark

/-!
# Normal texts

Many characters with marks can be spelled in several ways. The normal spelling (form C of the
Unicode standard) is reached in three steps: all composites are taken apart, the marks behind each
character are put in the order of their combining classes, and what can be composed is composed
again from the left.
-/

namespace GatewayConfig.Text

/-- The list with each run of elements whose rank is not zero in the order of their ranks. Elements
of one rank keep their order, and elements of rank zero keep their place. -/
def sortRuns (rank : Char → Nat) (l : List Char) : List Char :=
  match l with
  | [] => []
  | c :: rest =>
    if rank c = 0 then c :: sortRuns rank rest
    else
      (c :: rest.takeWhile (rank · != 0)).mergeSort (fun d e => rank d ≤ rank e) ++
        sortRuns rank (rest.dropWhile (rank · != 0))
termination_by l.length
decreasing_by
  · simp
  · have := (List.dropWhile_sublist (l := rest) (rank · != 0)).length_le
    simp only [List.length_cons]
    omega

/-- The text with the marks behind each character in the order of their classes. -/
def orderMarks (l : List Char) : List Char := sortRuns combiningClass l

/-- A text while it is composed. -/
structure Composing where
  /-- What is finished, in reverse. -/
  finished : List Char := []
  /-- The character that marks may still change. -/
  base : Option Char := none
  /-- The marks behind it that do not compose with it, in reverse. -/
  marks : List Char := []

namespace Composing

/-- Everything so far, in reverse. -/
def all (p : Composing) : List Char := p.marks ++ p.base.toList ++ p.finished

/-- Whether a character stands next to the base, so that it may compose with it: no mark of its
class or of a higher one stands between. -/
def reaches (p : Composing) (c : Char) : Bool :=
  match p.marks with
  | [] => true
  | mark :: _ => combiningClass mark < combiningClass c

/-- The composite of the base and a character that stands next to it. -/
def merged? (p : Composing) (c : Char) : Option Char := do
  let base ← p.base
  if p.reaches c then composite? base c else none

/-- Take one more character. -/
def step (p : Composing) (c : Char) : Composing :=
  match p.merged? c with
  | some composite => { p with base := some composite }
  | none =>
    if combiningClass c = 0 then { finished := p.all, base := some c }
    else { p with marks := c :: p.marks }

end Composing

/-- The normal spelling of a text. -/
def normal (l : List Char) : List Char :=
  ((orderMarks (l.flatMap decomposition)).foldl Composing.step {}).all.reverse

end GatewayConfig.Text
