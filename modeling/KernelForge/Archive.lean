import KernelForge.Text.Blank

/-!
Several texts in one: a comment, then for each member a line `-- NAME --` and its text. Every part ends with a
newline, which is added where it is missing. Reading goes by the lines, so that a member whose text has such a
line itself is not read back as it was written.
-/

namespace KernelForge

/-- A named text in an archive. -/
structure Archive.Member where
  name : String
  text : String
  deriving DecidableEq, Repr

/-- An archive. -/
structure Archive where
  comment : String
  members : List Archive.Member
  deriving DecidableEq, Repr

namespace Archive

/-- A text with a newline at its end, unless it is empty. -/
def closed (text : String) : String :=
  if text.isEmpty || text.toList.getLast? = some '\n' then text else text ++ "\n"

/-- The line in front of a member. -/
def marker (name : String) : String :=
  s!"-- {name} --\n"

/-- A member as text. -/
def Member.render (member : Member) : String :=
  marker member.name ++ closed member.text

/-- An archive as text. -/
def render (archive : Archive) : String :=
  closed archive.comment ++ String.join (archive.members.map Member.render)

/-- The lines of a text, each with its newline; the last one may have none. -/
def lines : List Char → List (List Char)
  | [] => []
  | '\n' :: rest => ['\n'] :: lines rest
  | character :: rest =>
    match lines rest with
    | [] => [[character]]
    | line :: later =>
      (character :: line) :: later

/-- The name in a line that stands in front of a member. -/
def markerName? (line : List Char) : Option String :=
  let body := if line.getLast? = some '\n' then line.dropLast else line
  match body with
  | '-' :: '-' :: ' ' :: rest =>
    if 3 ≤ rest.length && rest.drop (rest.length - 3) == [' ', '-', '-'] then
      let name := Text.trim (String.ofList (rest.take (rest.length - 3)))
      if name.isEmpty then none else some name
    else none
  | _ => none

/-- The lines up to the first marker, and the members after it. -/
def split : List (List Char) → List (List Char) × List (String × List (List Char))
  | [] => ([], [])
  | line :: rest =>
    let (front, members) := split rest
    match markerName? line with
    | some name => ([], (name, front) :: members)
    | none => (line :: front, members)

/-- Reads an archive. -/
def parse (text : String) : Archive :=
  let (comment, members) := split (lines text.toList)
  ⟨closed (String.ofList comment.flatten),
    members.map fun (name, content) => ⟨name, closed (String.ofList content.flatten)⟩⟩

end Archive

end KernelForge
