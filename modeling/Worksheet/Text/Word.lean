import Worksheet.Text.Character

namespace Worksheet.Text

def trimStart (text : List Char) : List Char := text.dropWhile isBlank

def trimEnd (text : List Char) : List Char := (trimStart text.reverse).reverse

def trim (text : List Char) : List Char := trimEnd (trimStart text)

def withoutBlanks (text : List Char) : List Char := text.filter fun c => ! isBlank c

def words (text : List Char) : List (List Char) :=
  (text.splitOnP isBlank).filter fun word => ! word.isEmpty

def splitWord (text : List Char) : List Char × List Char :=
  let start := trimStart text
  (start.takeWhile fun c => ! isBlank c, trimStart (start.dropWhile fun c => ! isBlank c))

/-- A line break at the very end leaves one more, empty line. -/
def lines (text : List Char) : List (List Char) := text.splitOn '\n'

end Worksheet.Text
