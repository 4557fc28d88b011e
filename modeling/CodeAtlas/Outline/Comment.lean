import CodeAtlas.Outline.Block

/-!
Comments without their markers.
-/
namespace CodeAtlas.Outline

def commentMarks : List Line := [['/', '*', '*'], ['/', '*'], ['/', '/'], ['#']]

def cleanLine (line : Line) : Line :=
  let line := Text.trim line
  let line := (commentMarks.findSome? fun mark => Text.stripPrefix? mark line).getD line
  let line := Text.trim ((Text.stripSuffix? ['*', '/'] line).getD line)
  match line with
  | '*' :: rest => Text.trim rest
  | _ => line

def cleanComment (raw : Line) : Line :=
  Text.joinLines (((Text.lines raw).map cleanLine).filter fun l => !l.isEmpty)

def isCommentLine (line : Line) : Bool :=
  Text.startsWith ['/', '/'] line || Text.startsWith ['/', '*'] line || line.head? == some '*'

def nonempty? (text : Line) : Option String :=
  if text.isEmpty then none else some (String.ofList text)

/-- The text of the comment directly above a line; on demand only of a documentation comment. -/
def commentAbove (lines : List Line) (start : Nat) (docOnly : Bool) : Option String :=
  let first := runAbove lines start isCommentLine
  if first = start then none
  else
    let block := Text.joinLines ((lines.take start).drop first)
    if docOnly && !Text.startsWith ['/', '*', '*'] (Text.trimStart block) then none
    else nonempty? (cleanComment block)

end CodeAtlas.Outline
