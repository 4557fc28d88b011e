import CodeAtlas.Text.Lines

/-!
Text measured and cut in octets of its UTF-8 form.
-/
namespace CodeAtlas.Text

def octets : Line → Nat
  | [] => 0
  | c :: rest => c.utf8Size + octets rest

/-- What is left after the first `n` octets; a character that is only begun is dropped. -/
def dropOctets (n : Nat) : Line → Line
  | [] => []
  | c :: rest => if n = 0 then c :: rest else dropOctets (n - c.utf8Size) rest

def takeOctets (n : Nat) : Line → Line
  | [] => []
  | c :: rest => if c.utf8Size ≤ n then c :: takeOctets (n - c.utf8Size) rest else []

def slice (first last : Nat) (s : Line) : Line := takeOctets (last - first) (dropOctets first s)

def rowAt (offset : Nat) (s : Line) : Nat := (takeOctets offset s).count '\n'

end CodeAtlas.Text
