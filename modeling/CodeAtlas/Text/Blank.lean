/-!
Blank characters: the twenty-five code points with the White_Space property, and the trimming and
word splitting that rest on them.
-/
namespace CodeAtlas

abbrev Line := List Char

namespace Text

def isBlank (c : Char) : Bool :=
  let n := c.toNat
  (9 ≤ n && n ≤ 13) || n == 32 || n == 0x85 || n == 0xA0 || n == 0x1680 ||
    (0x2000 ≤ n && n ≤ 0x200A) || n == 0x2028 || n == 0x2029 || n == 0x202F ||
    n == 0x205F || n == 0x3000

def dropEndWhile (p : Char → Bool) (s : Line) : Line := (s.reverse.dropWhile p).reverse

def trimStart (s : Line) : Line := s.dropWhile isBlank

def trimEnd (s : Line) : Line := dropEndWhile isBlank s

def trim (s : Line) : Line := trimEnd (trimStart s)

def allBlank (s : Line) : Bool := s.all isBlank

/-- Maximal runs of characters that are not blank, in order. -/
def words (s : Line) : List Line :=
  (s.foldr step ([], [])) |> fun (word, done) => if word.isEmpty then done else word :: done
where
  step (c : Char) : Line × List Line → Line × List Line
    | (word, done) =>
      if isBlank c then ([], if word.isEmpty then done else word :: done) else (c :: word, done)

end Text
end CodeAtlas
