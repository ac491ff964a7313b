import PageSketch.Text.Blank
import PageSketch.Text.Cluster
import PageSketch.Text.LetterCase

/-! Names in kebab case and in pascal case, and texts made fit for the fragment of a link. -/
namespace PageSketch.Text

def isLowerCluster (cluster : Text) : Bool :=
  upper cluster != lower cluster && cluster == lower cluster

def isUpperCluster (cluster : Text) : Bool :=
  upper cluster != lower cluster && cluster == upper cluster

def isDigitCluster (cluster : Text) : Bool := cluster.all Char.isDigit

/-- A cluster that separates words and belongs to none. -/
def isSeparator (cluster : Text) : Bool :=
  cluster == ['_'] || cluster == ['-'] || cluster == [' ']

/-- Whether a word ends between `left` and `right`: where lower case turns into upper, where digits
begin or end, and before the last capital of a run of capitals that lower case follows. -/
def splitsBetween (left right : Text) (next : Option Text) : Bool :=
  (isLowerCluster left && isUpperCluster right) ||
    ((isLowerCluster left || isUpperCluster left) && isDigitCluster right) ||
    (isDigitCluster left && (isLowerCluster right || isUpperCluster right)) ||
    (isUpperCluster left && isUpperCluster right && next.any isLowerCluster)

/-- The words of the clusters after `left`, empty ones included; the first may continue a word. -/
def wordsAfter (left : Option Text) : List Text → List Text
  | [] => [[]]
  | cluster :: rest =>
    match isSeparator cluster, wordsAfter (some cluster) rest with
    | true, words => [] :: words
    | false, [] => [cluster]
    | false, word :: words =>
      if left.any (splitsBetween · cluster rest.head?) then [] :: (cluster ++ word) :: words
      else (cluster ++ word) :: words

/-- The words that make up a name. -/
def nameWords (name : Text) : List Text :=
  (wordsAfter none (clusters name)).filter (!·.isEmpty)

/-- The words of a name in lower case, joined by hyphens. -/
def kebabCase (name : Text) : Text := joined ['-'] ((nameWords name).map lower)

/-- A word whose first character is in upper case and whose rest is in lower case. -/
def capitalize : Text → Text
  | [] => []
  | first :: rest => upperChar first ++ lower rest

/-- The capitalized words of a name, one after the other. -/
def pascalCase (name : Text) : Text := (nameWords name).flatMap capitalize

/-- The text with its first character in upper case. -/
def upperFirst : Text → Text
  | [] => []
  | first :: rest => upperChar first ++ rest

/-- The text in lower case, with each run of blanks inside it replaced by one hyphen. -/
def slug (text : Text) : Text := lower (hyphenate (trim text))

/-- The link to the part of the page that is named by `text`. -/
def anchor (text : Text) : Text := '#' :: slug text

end PageSketch.Text
