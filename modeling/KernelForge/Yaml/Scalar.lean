import KernelForge.Text.Literal
import KernelForge.Yaml.Cursor

/-!
Scalars as they are written: plain, between single or double quotes, and as blocks of lines. In the first three a
single end of a line stands for a blank, and of several all but the first count; blanks around them do not.
-/

namespace KernelForge.Yaml

/-- A scalar and the place after it. -/
abbrev ScalarText := List Char × Cursor

/-- What blanks and ends of lines between words stand for. -/
def folded (gap : List Char) : List Char :=
  match breaksOf gap with
  | [] => gap
  | first :: others =>
    if first == '\n' then if others.isEmpty then [' '] else others
    else first :: others

/-- The longest run of characters that belong to a plain scalar. -/
def plainWord (inFlow : Bool) : List Char → List Char
  | [] => []
  | character :: rest =>
    if isGap character || (character == ':' && endsWord rest) ||
        (inFlow && (isFlowMark character || character == '?')) then []
    else character :: plainWord inFlow rest

/-- The words of a plain scalar from a place on, with the place after the blanks behind it, and whether a line ended
    there. Lines that continue it in block context are indented at least to `indent`. The fuel bounds the number of
    words. -/
def plainWords (inFlow : Bool) (indent : Int) : Nat → Cursor → (before : List Char) →
    Option (List Char × Cursor × Bool)
  | 0, _, _ => none
  | fuel + 1, cursor, before => do
    cursor.require 4
    if cursor.atDocumentMarker || cursor.isAt '#' then some ([], cursor, !(breaksOf before).isEmpty)
    else
      let word := plainWord inFlow cursor.rest
      let after := cursor.advance word.length
      after.require 2
      let text := if word.isEmpty then [] else folded before ++ word
      if !(after.rest.head?.any isGap) then
        some (text, after, word.isEmpty && !(breaksOf before).isEmpty)
      else if after.hasTabBefore indent after.gap.length false then none
      else
        let next := after.afterGap
        next.require 1
        if !inFlow && (next.column : Int) < indent then some (text, next, !(breaksOf after.gap).isEmpty)
        else
          let (tail, final, ended) ← plainWords inFlow indent fuel next after.gap
          some (text ++ tail, final, ended)

/-- A plain scalar, with the place after the blanks behind it, and whether a line ended there. -/
def plainScalar (inFlow : Bool) (indent : Int) (cursor : Cursor) : Option (List Char × Cursor × Bool) :=
  plainWords inFlow indent (cursor.bound + 1) cursor []

/-- The inside of single quotes; a quote stands there twice. The fuel bounds the number of characters. -/
def singleQuoted : Nat → Cursor → Option ScalarText
  | 0, _ => none
  | fuel + 1, cursor => do
    cursor.require 4
    if cursor.atDocumentMarker then none
    else
      match cursor.rest with
      | [] => none
      | '\'' :: '\'' :: _ =>
        let (tail, final) ← singleQuoted fuel (cursor.advance 2)
        return ('\'' :: tail, final)
      | '\'' :: _ => return ([], cursor.step)
      | character :: _ =>
        if isGap character then
          let (tail, final) ← singleQuoted fuel cursor.afterGap
          return (folded cursor.gap ++ tail, final)
        else
          let (tail, final) ← singleQuoted fuel cursor.step
          return (character :: tail, final)

/-- The character that a letter after a backslash stands for. -/
def escape? (letter : Char) : Option Char :=
  match letter with
  | '0' => some '\x00'
  | 'a' => some '\x07'
  | 'b' => some '\x08'
  | 't' => some '\t'
  | '\t' => some '\t'
  | 'n' => some '\n'
  | 'v' => some '\x0b'
  | 'f' => some '\x0c'
  | 'r' => some '\r'
  | 'e' => some '\x1b'
  | ' ' => some ' '
  | '"' => some '"'
  | '\'' => some '\''
  | '\\' => some '\\'
  | 'N' => some '\u0085'
  | '_' => some '\u00a0'
  | 'L' => some '\u2028'
  | 'P' => some '\u2029'
  | _ => none

/-- How many hexadecimal digits follow a letter after a backslash. -/
def escapeWidth? (letter : Char) : Option Nat :=
  match letter with
  | 'x' => some 2
  | 'u' => some 4
  | 'U' => some 8
  | _ => none

/-- The character that is escaped at a place, by its letter or by its code, and the place after it. -/
def escaped (cursor : Cursor) : Option (Char × Cursor) := do
  let letter ← (cursor.rest.drop 1).head?
  match escape? letter with
  | some character => return (character, cursor.advance 2)
  | none =>
    let width ← escapeWidth? letter
    let digits := (cursor.rest.drop 2).take width
    let code ← Text.hexValue? digits
    if digits.length = width && code.isValidChar then return (Char.ofNat code, cursor.advance (2 + width))
    else none

/-- The inside of double quotes. Behind a backslash the end of a line stands for nothing. The fuel bounds the number of
    characters. -/
def doubleQuoted : Nat → Cursor → Option ScalarText
  | 0, _ => none
  | fuel + 1, cursor => do
    cursor.require 4
    if cursor.atDocumentMarker then none
    else
      match cursor.rest with
      | [] => none
      | '"' :: _ => return ([], cursor.step)
      | '\\' :: rest =>
        if rest.head?.any isBreak then
          let line := cursor.step.nextLine
          let (tail, final) ← doubleQuoted fuel line.afterGap
          return (breaksOf line.gap ++ tail, final)
        else
          let (character, after) ← escaped cursor
          let (tail, final) ← doubleQuoted fuel after
          return (character :: tail, final)
      | character :: _ =>
        if isGap character then
          let (tail, final) ← doubleQuoted fuel cursor.afterGap
          return (folded cursor.gap ++ tail, final)
        else
          let (tail, final) ← doubleQuoted fuel cursor.step
          return (character :: tail, final)

/-- A scalar between quotes. -/
def quotedScalar (single : Bool) (cursor : Cursor) : Option ScalarText :=
  if single then singleQuoted (cursor.bound + 1) cursor.step
  else doubleQuoted (cursor.bound + 1) cursor.step

/-- What becomes of the ends of lines at the end of a block: all but the first are dropped, all are dropped, or all are
    kept. -/
inductive Chomping
  | clip
  | strip
  | keep
  deriving DecidableEq, Repr

/-- The chomping that a character asks for. -/
def Chomping.ofChar? : Char → Option Chomping
  | '+' => some .keep
  | '-' => some .strip
  | _ => none

/-- A digit from one to nine. -/
def depthDigit? (character : Char) : Option Nat :=
  if '1' ≤ character && character ≤ '9' then some (character.toNat - '0'.toNat) else none

/-- What stands behind the mark of a block: the chomping and the depth of its lines, in any order. -/
def blockHeader (cursor : Cursor) : Chomping × Option Nat × Cursor :=
  match cursor.rest with
  | [] => (.clip, none, cursor)
  | first :: rest =>
    match Chomping.ofChar? first, depthDigit? first with
    | some chomping, _ =>
      match rest.head?.bind depthDigit? with
      | some depth => (chomping, some depth, cursor.advance 2)
      | none => (chomping, none, cursor.step)
    | none, some depth =>
      match rest.head?.bind Chomping.ofChar? with
      | some chomping => (chomping, some depth, cursor.advance 2)
      | none => (.clip, some depth, cursor.step)
    | none, none => (.clip, none, cursor)

/-- Empty lines, up to the first character of a line that is not empty or not indented to `indent`; without one,
    every blank counts as indentation. Gives the ends of the lines, the deepest indentation and the place. The fuel
    bounds the number of lines. -/
def blockGap (indent : Option Nat) : (fuel : Nat) → (deepest : Nat) → Cursor → Option (List Char × Nat × Cursor)
  | 0, _, _ => none
  | fuel + 1, deepest, cursor => do
    let blanks := (cursor.rest.takeWhile (· == ' ')).length
    let cursor := cursor.advance (match indent with
      | some column => min blanks (column - cursor.column)
      | none => blanks)
    cursor.require 2
    let deepest := max deepest cursor.column
    match cursor.rest with
    | [] => return ([], deepest, cursor)
    | character :: _ =>
      if character == '\t' && indent.all (cursor.column < ·) then none
      else if isBreak character then
        let (breaks, deepest, final) ← blockGap indent fuel deepest cursor.nextLine
        return (breaksOf (cursor.rest.take 1) ++ breaks, deepest, final)
      else return ([], deepest, cursor)

/-- The lines of a block that are indented to a column. `breaks` are the ends of the lines in front of a line: the one
    of the last line that has text, if there is one, and those of the empty lines. In a folded block the first of them
    stands for a blank between two lines that do not start with blanks. The fuel bounds the number of lines. -/
def blockLines (literal : Bool) (chomping : Chomping) (column : Nat) :
    (fuel : Nat) → (wasBlank : Bool) → (lead trail : List Char) → Cursor → Option ScalarText
  | 0, _, _, _, _ => none
  | fuel + 1, wasBlank, lead, trail, cursor => do
    cursor.require 1
    if cursor.column ≠ column || cursor.rest.isEmpty then
      return ((if chomping = .strip then [] else lead) ++ (if chomping = .keep then trail else []), cursor)
    else
      let blank := cursor.rest.head?.any isBlank
      let joint :=
        if !literal && !wasBlank && !blank && lead == ['\n'] then if trail.isEmpty then [' '] else []
        else lead
      let line := cursor.rest.takeWhile (!isBreak ·)
      let after := cursor.advance line.length
      after.require 2
      let next := after.nextLine
      let (breaks, _, start) ← blockGap (some column) (next.bound + 1) 0 next
      let (tail, final) ← blockLines literal chomping column fuel blank (breaksOf (after.rest.take 1)) breaks start
      return (joint ++ trail ++ line ++ tail, final)

/-- A block of lines after its mark, inside of something indented to `parent`. -/
def blockScalar (literal : Bool) (parent : Int) (cursor : Cursor) : Option ScalarText := do
  let (chomping, depth?, header) := blockHeader cursor.step
  let header := header.past isBlank
  let header := if header.isAt '#' then header.past (!isBreak ·) else header
  header.require 2
  if !endsLine header.rest then none
  else
    let first := header.nextLine
    let indent? := depth?.map fun depth => if parent < 0 then depth else parent.toNat + depth
    let (breaks, deepest, start) ← blockGap indent? (first.bound + 1) 0 first
    let column := indent?.getD (max (max deepest (parent + 1).toNat) 1)
    blockLines literal chomping column (start.bound + 1) false [] breaks start

end KernelForge.Yaml
